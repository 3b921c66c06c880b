import Pulsar.RulesEngine.Load
import Pulsar.RulesEngine.ParseRules

/-!
# The Pulsar engine

`PulsarEngine::new` loads and parses the rules, compiles one validatron ruleset per payload
discriminant and keeps them in a map; `process` runs the ruleset of an event's discriminant
on every event that is not itself a threat, and reports each matching rule as a derived
threat. The loop of `new` meets the groups in the order the `HashMap` yields them, which Rust
leaves unspecified: `PulsarEngine.newIn` takes that order as a parameter, and
`PulsarEngine.new` is its instance at the map's entry order.
-/

namespace Pulsar.RulesEngine

variable {T P D C R : Type} [DecidableEq D] (deps : Collaborators T P D C R)

/-- `PulsarEngine`, by its rulesets. The sender it also holds receives the calls that
`process` returns. -/
structure PulsarEngine (D R : Type) [DecidableEq D] where
  rulesets : HashMap D R

/-- The loop of `PulsarEngine::new`: compile each group into a ruleset and insert it,
panicking if its discriminant was already there. -/
def insertRulesets :
    List (Σ _ : D, List (Rule C)) → HashMap D R → Outcome PulsarEngineError (HashMap D R)
  | [], rulesets => .ok rulesets
  | ⟨discriminant, rules⟩ :: rest, rulesets =>
    match deps.fromRules rules with
    | .error error => .err (.ruleCompile error)
    | .ok ruleset =>
      let previous := rulesets.lookup discriminant
      if previous.isSome then .panic "hashmap rules -> ruleset is a 1:1 map"
      else insertRulesets rest (rulesets.insert discriminant ruleset)

/-- `PulsarEngine::new`, its loop visiting the parsed groups in the order `order` lists them.
Rust's `HashMap` leaves that order unspecified; it lists every group once, so `order m` is a
permutation of `m.entries`. -/
def PulsarEngine.newIn (order : HashMap D (List (Rule C)) → List (Σ _ : D, List (Rule C)))
    (source : RuleSource) (rulesPath : String) : Outcome PulsarEngineError (PulsarEngine D R) :=
  match loadUserRulesFromDir source rulesPath >>= parseRules deps with
  | .error error => .err error
  | .ok rules =>
    match insertRulesets deps (order rules) ∅ with
    | .ok rulesets => .ok { rulesets }
    | .err error => .err error
    | .panic message => .panic message

/-- `PulsarEngine::new`, visiting the groups in the map's entry order. -/
def PulsarEngine.new (source : RuleSource) (rulesPath : String) :
    Outcome PulsarEngineError (PulsarEngine D R) :=
  PulsarEngine.newIn deps (·.entries) source rulesPath

def PulsarEngine.process {V : Type} (engine : PulsarEngine D R) (event : Event T P) :
    List (ThreatDerived T P V) :=
  if event.header.threat.isNone then
    match engine.rulesets.lookup (deps.payloadDiscriminant event.payload) with
    | some ruleset =>
      (deps.rulesetMatches ruleset event).map fun rule => ⟨event, rule.name, none⟩
    | none => []
  else []

/-- The rule of the engine's test. -/
def netcatRule : UserRule := ⟨"Open netcat", "Exec", "payload.filename == /usr/bin/nc"⟩

def shadowRule : UserRule := ⟨"Read shadow", "Open", "payload.filename == /etc/shadow"⟩

/-- A deployment over two types: `netcatRule` twice, another `Exec` rule that holds on netcat,
one of another type, and an `Exec` rule that does not hold on netcat. -/
def deploymentRules : List UserRule :=
  [netcatRule, shadowRule, netcatRule,
    ⟨"Netcat listener", "Exec", "payload.filename == /usr/bin/nc"⟩,
    ⟨"List files", "Exec", "payload.filename == /bin/ls"⟩]

/-- One rule file holding `rules`. -/
def ruleFileSource (rules : List UserRule) : RuleSource where
  glob _ := .ok [.ok "rules/netcat.yaml"]
  readToString _ := .ok "netcat rule file"
  fromStr _ := .ok rules

/-- A rules directory the walk cannot enter. -/
def privateRulesDir : RuleSource where
  glob _ := .ok [.error ⟨"rules/private"⟩]
  readToString _ := .ok ""
  fromStr _ := .ok []

/-- A condition, kept as its text, holds on a payload `(type, filename)` that it names. -/
def filenameHolds (condition : String) (event : Event Unit (String × String)) : Bool :=
  condition == "payload.filename == " ++ event.payload.2

/-- Collaborators for `Exec` and `Open` payloads `(type, filename)` that keep conditions as
text. -/
def execDeps : Collaborators Unit (String × String) String String (List (Rule String)) where
  fromStr type := if type = "Exec" ∨ type = "Open" then some type else none
  payloadDiscriminant payload := payload.1
  parse _ condition := .ok condition
  fromRules rules := .ok rules
  rulesetMatches ruleset event := ruleset.filter fun rule => filenameHolds rule.condition event

/-- `execDeps` with a validatron that rejects every group, naming its first rule. -/
def rejectingDeps : Collaborators Unit (String × String) String String (List (Rule String)) :=
  { execDeps with fromRules := fun rules => .error ⟨(rules.map (·.name)).headD ""⟩ }

variable {deps}

section InsertRulesets

variable {d : D} {rules : List (Rule C)} {rest : List (Σ _ : D, List (Rule C))}
  {acc out : HashMap D R}

theorem insertRulesets_cons_ok :
    insertRulesets deps (⟨d, rules⟩ :: rest) acc = .ok out ↔
      ∃ ruleset, deps.fromRules rules = .ok ruleset ∧ d ∉ acc ∧
        insertRulesets deps rest (acc.insert d ruleset) = .ok out := by
  cases h : deps.fromRules rules <;> by_cases hd : d ∈ acc <;>
    simp [insertRulesets, h, hd, AList.lookup_isSome]

theorem insertRulesets_cons_panic (message : String) :
    insertRulesets deps (⟨d, rules⟩ :: rest) acc = .panic message ↔
      ∃ ruleset, deps.fromRules rules = .ok ruleset ∧
        (d ∈ acc ∧ message = "hashmap rules -> ruleset is a 1:1 map" ∨
          d ∉ acc ∧ insertRulesets deps rest (acc.insert d ruleset) = .panic message) := by
  cases h : deps.fromRules rules <;> by_cases hd : d ∈ acc <;>
    simp [insertRulesets, h, hd, AList.lookup_isSome, eq_comm (b := message)]

theorem insertRulesets_cons_err (x : PulsarEngineError) :
    insertRulesets deps (⟨d, rules⟩ :: rest) acc = .err x ↔
      (∃ error, deps.fromRules rules = .error error ∧ x = .ruleCompile error) ∨
      ∃ ruleset, deps.fromRules rules = .ok ruleset ∧ d ∉ acc ∧
        insertRulesets deps rest (acc.insert d ruleset) = .err x := by
  cases h : deps.fromRules rules <;> by_cases hd : d ∈ acc <;>
    simp [insertRulesets, h, hd, AList.lookup_isSome, eq_comm (b := x)]

theorem fresh_insert (hd : d ∉ rest.keys)
    (hfresh : ∀ k ∈ (⟨d, rules⟩ :: rest : List (Σ _ : D, List (Rule C))).keys, k ∉ acc)
    (ruleset : R) : ∀ k ∈ rest.keys, k ∉ acc.insert d ruleset := fun k hk => by
  have hkd : k ≠ d := fun h => hd (h ▸ hk)
  simpa [AList.mem_insert, hkd] using hfresh k (by simp [hk])

theorem insertRulesets_ne_panic (l : List (Σ _ : D, List (Rule C))) (hl : l.NodupKeys)
    (acc : HashMap D R) (hfresh : ∀ k ∈ l.keys, k ∉ acc) (message : String) :
    insertRulesets deps l acc ≠ .panic message := by
  induction l generalizing acc with
  | nil => simp [insertRulesets]
  | cons e rest ih =>
    obtain ⟨d, rules⟩ := e
    rw [List.nodupKeys_cons] at hl
    rw [Ne, insertRulesets_cons_panic]
    rintro ⟨ruleset, -, ⟨hd, -⟩ | ⟨-, hrest⟩⟩
    · exact hfresh d (by simp) hd
    · exact ih hl.2 _ (fresh_insert hl.1 hfresh ruleset) hrest

theorem insertRulesets_err_iff_mapM {l : List (Σ _ : D, List (Rule C))} (hl : l.NodupKeys)
    (hfresh : ∀ k ∈ l.keys, k ∉ acc) (x : PulsarEngineError) :
    insertRulesets deps l acc = .err x ↔
      ∃ error, l.mapM (fun group => deps.fromRules group.2) = .error error ∧
        x = .ruleCompile error := by
  induction l generalizing acc with
  | nil => rw [List.mapM_nil]; simp [insertRulesets, pure, Except.pure]
  | cons e rest ih =>
    obtain ⟨d, rules⟩ := e
    rw [List.nodupKeys_cons] at hl
    simp only [insertRulesets_cons_err, List.mapM_cons, except_bind_error, pure, Except.pure,
      reduceCtorEq, and_false, exists_false, or_false]
    cases h : deps.fromRules rules with
    | error e => simp
    | ok ruleset => simp [hfresh d (by simp), ih hl.2 (fresh_insert hl.1 hfresh ruleset)]

theorem insertRulesets_err_iff {l : List (Σ _ : D, List (Rule C))} (hl : l.NodupKeys)
    (hfresh : ∀ k ∈ l.keys, k ∉ acc) (x : PulsarEngineError) :
    insertRulesets deps l acc = .err x ↔
      ∃ pre k rules post error, l = pre ++ ⟨k, rules⟩ :: post ∧
        (∀ group ∈ pre, ∃ ruleset, deps.fromRules group.2 = .ok ruleset) ∧
        deps.fromRules rules = .error error ∧ x = .ruleCompile error := by
  rw [insertRulesets_err_iff_mapM hl hfresh]
  constructor
  · rintro ⟨error, h, rfl⟩
    obtain ⟨pre, ⟨k, rules⟩, post, rfl, hpre, hfail⟩ := (mapM_error_iff _ _ _).1 h
    exact ⟨pre, k, rules, post, error, rfl, hpre, hfail, rfl⟩
  · rintro ⟨pre, k, rules, post, error, rfl, hpre, hfail, rfl⟩
    exact ⟨error, (mapM_error_iff _ _ _).2 ⟨pre, ⟨k, rules⟩, post, rfl, hpre, hfail⟩, rfl⟩

theorem insertRulesets_ok_compiles {l : List (Σ _ : D, List (Rule C))}
    (h : insertRulesets deps l acc = .ok out) (e) (he : e ∈ l) :
    ∃ ruleset, deps.fromRules e.2 = .ok ruleset := by
  induction l generalizing acc with
  | nil => simp at he
  | cons e' rest ih =>
    obtain ⟨d, rules⟩ := e'
    obtain ⟨ruleset, hr, -, hrest⟩ := insertRulesets_cons_ok.1 h
    rcases List.mem_cons.1 he with rfl | he
    · exact ⟨ruleset, hr⟩
    · exact ih hrest he

theorem lookup_insertRulesets {l : List (Σ _ : D, List (Rule C))} (hl : l.NodupKeys)
    (h : insertRulesets deps l acc = .ok out) (k : D) :
    out.lookup k = match l.dlookup k with
      | some rules => (deps.fromRules rules).toOption
      | none => acc.lookup k := by
  induction l generalizing acc with
  | nil => cases h; rfl
  | cons e rest ih =>
    obtain ⟨d, rules⟩ := e
    rw [List.nodupKeys_cons] at hl
    obtain ⟨ruleset, hr, -, hrest⟩ := insertRulesets_cons_ok.1 h
    rw [ih hl.2 hrest]
    by_cases hk : k = d
    · subst hk
      simp [List.dlookup_eq_none.2 hl.1, hr, AList.lookup_insert, Except.toOption]
    · simp [List.dlookup_cons_ne (β := fun _ => List (Rule C)) rest ⟨d, rules⟩ hk,
        AList.lookup_insert_ne hk]

theorem insertRulesets_ok_of_compiles (l : List (Σ _ : D, List (Rule C))) (hl : l.NodupKeys)
    (acc : HashMap D R) (hfresh : ∀ k ∈ l.keys, k ∉ acc)
    (hcompiles : ∀ e ∈ l, ∃ ruleset, deps.fromRules e.2 = .ok ruleset) :
    ∃ out, insertRulesets deps l acc = .ok out := by
  induction l generalizing acc with
  | nil => exact ⟨acc, rfl⟩
  | cons e rest ih =>
    obtain ⟨d, rules⟩ := e
    rw [List.nodupKeys_cons] at hl
    obtain ⟨ruleset, hr⟩ := hcompiles _ (List.mem_cons_self _ _)
    obtain ⟨out, hout⟩ := ih hl.2 _ (fresh_insert hl.1 hfresh ruleset) fun e he =>
      hcompiles e (List.mem_cons_of_mem _ he)
    exact ⟨out, insertRulesets_cons_ok.2 ⟨ruleset, hr, hfresh d (by simp), hout⟩⟩

/-- The order in which `PulsarEngine::new` meets the groups, which a `HashMap` leaves
unspecified, does not matter: in every order the loop never panics, succeeds exactly when
every group compiles, and then builds the same rulesets. -/
theorem insertRulesets_any_order (groups : HashMap D (List (Rule C)))
    {l : List (Σ _ : D, List (Rule C))} (hperm : l.Perm groups.entries) :
    (∀ message, insertRulesets deps l ∅ ≠ .panic message) ∧
    ((∃ out, insertRulesets deps l ∅ = .ok out) ↔
      ∀ e ∈ groups.entries, ∃ ruleset, deps.fromRules e.2 = .ok ruleset) ∧
    ∀ out, insertRulesets deps l ∅ = .ok out →
      ∀ k, out.lookup k = (groups.lookup k).bind fun rules => (deps.fromRules rules).toOption := by
  have hl : l.NodupKeys := (hperm.map Sigma.fst).nodup_iff.2 groups.nodupKeys
  refine ⟨insertRulesets_ne_panic l hl ∅ (by simp), ⟨fun ⟨_, h⟩ e he =>
    insertRulesets_ok_compiles h e (hperm.mem_iff.2 he), fun h =>
      insertRulesets_ok_of_compiles l hl ∅ (by simp) fun e he => h e (hperm.mem_iff.1 he)⟩,
    fun out h k => ?_⟩
  change _ = (groups.entries.dlookup k).bind _
  rw [lookup_insertRulesets hl h, List.perm_dlookup k hl groups.nodupKeys hperm]
  cases groups.entries.dlookup k <;> simp [AList.lookup_empty]

theorem insertRulesets_reversed_groups :
    (∃ out, insertRulesets execDeps
        (groupRules [("Exec", ⟨"Open netcat", "payload.filename == /usr/bin/nc"⟩),
          ("Bind", ⟨"Bind any", "true"⟩)]).entries.reverse ∅ = .ok out) ↔
      ∀ e ∈ (groupRules [("Exec", ⟨"Open netcat", "payload.filename == /usr/bin/nc"⟩),
          ("Bind", ⟨"Bind any", "true"⟩)]).entries,
        ∃ ruleset, execDeps.fromRules e.2 = .ok ruleset :=
  (insertRulesets_any_order _ (List.reverse_perm _)).2.1

end InsertRulesets

section New

variable {source : RuleSource} {rulesPath : String}
  {order : HashMap D (List (Rule C)) → List (Σ _ : D, List (Rule C))}

omit [DecidableEq D] in
theorem nodupKeys_of_perm {groups : HashMap D (List (Rule C))} {l : List (Σ _ : D, List (Rule C))}
    (h : l.Perm groups.entries) : l.NodupKeys :=
  (h.map Sigma.fst).nodup_iff.2 groups.nodupKeys

theorem newIn_ne_panic (horder : ∀ groups, (order groups).Perm groups.entries)
    (message : String) : PulsarEngine.newIn deps order source rulesPath ≠ .panic message := by
  unfold PulsarEngine.newIn
  split
  · simp
  · rename_i groups _
    have h : insertRulesets deps (order groups) ∅ ≠ .panic message :=
      insertRulesets_ne_panic _ (nodupKeys_of_perm (horder groups)) ∅ (by simp) message
    split <;> simp_all

theorem new_ne_panic (message : String) :
    PulsarEngine.new deps source rulesPath ≠ .panic message :=
  newIn_ne_panic (fun groups => .refl groups.entries) message

theorem newIn_of_load {rs : List UserRule}
    (hload : loadUserRulesFromDir source rulesPath = .ok rs) :
    PulsarEngine.newIn deps order source rulesPath =
      match parseRules deps rs with
      | .error error => .err error
      | .ok groups =>
        match insertRulesets deps (order groups) ∅ with
        | .ok rulesets => .ok { rulesets }
        | .err error => .err error
        | .panic message => .panic message := by
  simp only [PulsarEngine.newIn, hload, bind, Except.bind]

theorem new_of_load {rs : List UserRule} (hload : loadUserRulesFromDir source rulesPath = .ok rs) :
    PulsarEngine.new deps source rulesPath =
      match parseRules deps rs with
      | .error error => .err error
      | .ok groups =>
        match insertRulesets deps groups.entries ∅ with
        | .ok rulesets => .ok { rulesets }
        | .err error => .err error
        | .panic message => .panic message :=
  newIn_of_load hload

theorem new_ok {engine : PulsarEngine D R} (h : PulsarEngine.new deps source rulesPath = .ok engine) :
    ∃ rs groups, loadUserRulesFromDir source rulesPath = .ok rs ∧ parseRules deps rs = .ok groups ∧
      insertRulesets deps groups.entries ∅ = .ok engine.rulesets := by
  unfold PulsarEngine.new PulsarEngine.newIn at h
  split at h
  · cases h
  · rename_i groups hgroups
    obtain ⟨rs, hload, hparse⟩ := (except_bind_ok _ _ _).1 hgroups
    refine ⟨rs, groups, hload, hparse, ?_⟩
    split at h <;> cases h
    assumption

theorem new_err_of_fromRules {rs : List UserRule} {groups : HashMap D (List (Rule C))} {k : D}
    {rules : List (Rule C)} {error : ValidatronError}
    (hload : loadUserRulesFromDir source rulesPath = .ok rs)
    (hparse : parseRules deps rs = .ok groups) (hk : groups.lookup k = some rules)
    (hfail : deps.fromRules rules = .error error) :
    ∃ x, PulsarEngine.new deps source rulesPath = .err x := by
  have hmem : (⟨k, rules⟩ : Σ _ : D, List (Rule C)) ∈ groups.entries :=
    AList.mem_lookup_iff.1 hk
  have hpanic : ∀ message, insertRulesets deps groups.entries ∅ ≠ .panic message :=
    insertRulesets_ne_panic groups.entries groups.nodupKeys ∅ (by simp)
  simp only [new_of_load hload, hparse]
  split
  · rename_i h
    obtain ⟨_, hok⟩ := insertRulesets_ok_compiles h _ hmem
    simp [hfail] at hok
  · exact ⟨_, rfl⟩
  · rename_i message h
    exact absurd h (hpanic message)

theorem new_ok_lookup {engine : PulsarEngine D R}
    (h : PulsarEngine.new deps source rulesPath = .ok engine) :
    ∃ rs rules, loadUserRulesFromDir source rulesPath = .ok rs ∧
      rs.mapM (parseRule deps) = .ok rules ∧ ∀ k,
        (rulesOfType rules k = [] → engine.rulesets.lookup k = none) ∧
        (rulesOfType rules k ≠ [] → ∃ ruleset,
          deps.fromRules (rulesOfType rules k) = .ok ruleset ∧
            engine.rulesets.lookup k = some ruleset) := by
  obtain ⟨rs, groups, hload, hparse, hinsert⟩ := new_ok h
  obtain ⟨rules, hrules, rfl⟩ := (parseRules_ok rs groups).1 hparse
  refine ⟨rs, rules, hload, hrules, fun k => ?_⟩
  have hk := lookup_insertRulesets (groupRules rules).nodupKeys hinsert k
  have hgroup : (groupRules rules).entries.dlookup k = (groupRules rules).lookup k := rfl
  rw [hgroup, lookup_groupRules] at hk
  constructor
  · intro hnil
    simpa [hnil, AList.lookup_empty] using hk
  · intro hne
    have hmem : (⟨k, rulesOfType rules k⟩ : Σ _ : D, List (Rule C)) ∈ (groupRules rules).entries := by
      rw [← AList.mem_lookup_iff, lookup_groupRules]
      simp [hne]
    obtain ⟨ruleset, hr⟩ := insertRulesets_ok_compiles hinsert _ hmem
    refine ⟨ruleset, hr, ?_⟩
    simpa [hne, hr, Except.toOption] using hk

end New

variable (deps) in
theorem new_builds_one_ruleset_per_type (source : RuleSource) (rulesPath : String) :
    (∀ message, PulsarEngine.new deps source rulesPath ≠ .panic message) ∧
    ∀ engine, PulsarEngine.new deps source rulesPath = .ok engine →
      ∃ rs rules groups, loadUserRulesFromDir source rulesPath = .ok rs ∧
        rs.mapM (parseRule deps) = .ok rules ∧ parseRules deps rs = .ok groups ∧
        (groups.entries.flatMap (·.2)).Perm (rules.map (·.2)) ∧
        ∀ k, (k ∈ engine.rulesets ↔ ∃ userRule ∈ rs, deps.fromStr userRule.type = some k) ∧
          (∀ group, groups.lookup k = some group ↔ group = rulesOfType rules k ∧ group ≠ []) ∧
          ∀ ruleset, engine.rulesets.lookup k = some ruleset →
            deps.fromRules (rulesOfType rules k) = .ok ruleset := by
  refine ⟨new_ne_panic, fun engine h => ?_⟩
  obtain ⟨rs, rules, hload, hrules, hk⟩ := new_ok_lookup h
  refine ⟨rs, rules, groupRules rules, hload, hrules, (parseRules_ok rs _).2 ⟨rules, hrules, rfl⟩,
    groupRules_perm rules, fun k => ?_⟩
  rw [← rulesOfType_ne_nil_iff ((mapM_ok_iff _ _ _).1 hrules) k, ← AList.lookup_isSome,
    lookup_groupRules]
  by_cases hnil : rulesOfType rules k = []
  · simp [hnil, (hk k).1 hnil]
  · obtain ⟨ruleset, hr, hlookup⟩ := (hk k).2 hnil
    simp only [hnil, hlookup, hr, Option.isSome_some, Option.some.injEq, List.isEmpty_eq_true,
      if_false, true_iff, Except.ok.injEq, forall_eq', and_true]
    exact ⟨hnil, fun group => ⟨fun h => ⟨h.symm, h ▸ hnil⟩, fun h => h.1.symm⟩⟩

theorem new_builds_deployment_rulesets :
    ∃ engine : PulsarEngine String (List (Rule String)),
      PulsarEngine.new execDeps (ruleFileSource deploymentRules) "rules" = .ok engine ∧
      ∃ rs rules groups, loadUserRulesFromDir (ruleFileSource deploymentRules) "rules" = .ok rs ∧
        rs.mapM (parseRule execDeps) = .ok rules ∧ parseRules execDeps rs = .ok groups ∧
        (groups.entries.flatMap (·.2)).Perm (rules.map (·.2)) ∧
        ∀ k, (k ∈ engine.rulesets ↔ ∃ userRule ∈ rs, execDeps.fromStr userRule.type = some k) ∧
          (∀ group, groups.lookup k = some group ↔ group = rulesOfType rules k ∧ group ≠ []) ∧
          ∀ ruleset, engine.rulesets.lookup k = some ruleset →
            execDeps.fromRules (rulesOfType rules k) = .ok ruleset :=
  ⟨_, rfl, (new_builds_one_ruleset_per_type execDeps (ruleFileSource deploymentRules)
    "rules").2 _ rfl⟩

variable (deps) in
theorem parseRules_fails_at_first_bad_rule (userRules : List UserRule) (x : PulsarEngineError) :
    (parseRules deps userRules = .error x ↔
      ∃ pre userRule post, userRules = pre ++ userRule :: post ∧
        (∀ v ∈ pre, ∃ parsed, parseRule deps v = .ok parsed) ∧
        parseRule deps userRule = .error x ∧
        (deps.fromStr userRule.type = none → x = .payloadTypeNotFound userRule.type) ∧
        (∀ d, deps.fromStr userRule.type = some d →
          ∃ message, x = .dslError userRule.condition message)) ∧
    ∀ source rulesPath, loadUserRulesFromDir source rulesPath = .ok userRules →
      (parseRules deps userRules = .error x → PulsarEngine.new deps source rulesPath = .err x) ∧
      ∀ groups k rules error, parseRules deps userRules = .ok groups →
        groups.lookup k = some rules → deps.fromRules rules = .error error →
        ∃ y, PulsarEngine.new deps source rulesPath = .err y := by
  refine ⟨?_, fun source rulesPath hload => ⟨fun h => ?_, fun _ _ _ _ => new_err_of_fromRules hload⟩⟩
  · rw [parseRules_error, mapM_error_iff]
    refine exists₃_congr fun pre userRule post => and_congr_right fun _ =>
      and_congr_right fun _ => ⟨fun h => ⟨h, ?_, ?_⟩, fun h => h.1⟩
    · intro hnone
      simpa [hnone] using (parseRule_error userRule x).1 h
    · intro d hd
      have hx := (parseRule_error userRule x).1 h
      simp only [hd, reduceCtorEq, false_and, Option.some.injEq, exists_and_left,
        exists_eq_left', false_or] at hx
      obtain ⟨message, -, hx⟩ := hx
      exact ⟨message, hx⟩
  · simp only [new_of_load hload, h]

theorem new_rejects_bad_rules :
    (parseRules execDeps [netcatRule, ⟨"Typo", "Exce", "true"⟩] =
        .error (.payloadTypeNotFound "Exce") ∧
      PulsarEngine.new execDeps (ruleFileSource [netcatRule, ⟨"Typo", "Exce", "true"⟩]) "rules" =
        .err (.payloadTypeNotFound "Exce")) ∧
    ∃ y, PulsarEngine.new rejectingDeps (ruleFileSource [netcatRule]) "rules" = .err y :=
  ⟨⟨rfl, ((parseRules_fails_at_first_bad_rule execDeps [netcatRule, ⟨"Typo", "Exce", "true"⟩]
    _).2 (ruleFileSource [netcatRule, ⟨"Typo", "Exce", "true"⟩]) "rules" rfl).1 rfl⟩,
    ((parseRules_fails_at_first_bad_rule rejectingDeps [netcatRule]
      (.ruleCompile ⟨"Open netcat"⟩)).2 (ruleFileSource [netcatRule]) "rules" rfl).2
      _ "Exec" _ _ rfl rfl rfl⟩

variable (deps) in
/-- `PulsarEngine::new` fails with the loader's error, with `parse_rules`' error, or else with the
compile error of the first group that validatron rejects, first in whichever order the
`HashMap` yields the groups. -/
theorem newIn_err_iff (order : HashMap D (List (Rule C)) → List (Σ _ : D, List (Rule C)))
    (horder : ∀ groups, (order groups).Perm groups.entries) (source : RuleSource)
    (rulesPath : String) (x : PulsarEngineError) :
    PulsarEngine.newIn deps order source rulesPath = .err x ↔
      loadUserRulesFromDir source rulesPath = .error x ∨
      ∃ rs, loadUserRulesFromDir source rulesPath = .ok rs ∧
        (parseRules deps rs = .error x ∨
          ∃ groups, parseRules deps rs = .ok groups ∧
            ∃ pre k rules post error, order groups = pre ++ ⟨k, rules⟩ :: post ∧
              (∀ group ∈ pre, ∃ ruleset, deps.fromRules group.2 = .ok ruleset) ∧
              deps.fromRules rules = .error error ∧ x = .ruleCompile error) := by
  cases hload : loadUserRulesFromDir source rulesPath with
  | error e =>
    simp only [PulsarEngine.newIn, hload, bind, Except.bind, Outcome.err.injEq,
      Except.error.injEq, reduceCtorEq, false_and, exists_false, or_false]
  | ok rs =>
    rw [newIn_of_load hload]
    cases hparse : parseRules deps rs with
    | error e =>
      simp only [hparse, Outcome.err.injEq, Except.error.injEq, Except.ok.injEq, reduceCtorEq,
        false_or, false_and, exists_false, or_false, exists_eq_left']
    | ok groups =>
      have key : insertRulesets deps (order groups) ∅ = .err x ↔ _ :=
        insertRulesets_err_iff (nodupKeys_of_perm (horder groups))
          (fun k _ => AList.not_mem_empty k) x
      simp only [hparse, reduceCtorEq, false_or, Except.ok.injEq, exists_eq_left', ← key]
      cases insertRulesets deps (order groups) ∅ <;> simp

theorem newIn_err_depends_on_order :
    PulsarEngine.new rejectingDeps (ruleFileSource [netcatRule, shadowRule]) "rules" =
        .err (.ruleCompile ⟨"Read shadow"⟩) ∧
      (∀ groups : HashMap String (List (Rule String)), groups.entries.reverse.Perm groups.entries) ∧
      PulsarEngine.newIn rejectingDeps (fun groups => groups.entries.reverse)
          (ruleFileSource [netcatRule, shadowRule]) "rules" =
        .err (.ruleCompile ⟨"Open netcat"⟩) :=
  ⟨rfl, fun groups => List.reverse_perm _,
    (newIn_err_iff rejectingDeps _ (fun groups => List.reverse_perm _) _ _ _).2
      (.inr ⟨_, rfl, .inr ⟨_, rfl, [], "Exec", _, _, _, rfl, by simp, rfl, rfl⟩⟩)⟩

variable (deps) in
/-- A rules directory whose walk lists no readable entry, only errors or nothing at all, still
builds an engine, with no ruleset, that reports no threat for any event: `entries.flatten()`
turns the unreadable directory into an empty rule set instead of an error. -/
theorem new_of_glob_without_paths (source : RuleSource) (rulesPath : String)
    (entries : List (Except GlobError String))
    (hglob : source.glob (rulesPath ++ "/**/*." ++ ruleExtension) = .ok entries)
    (herrors : ∀ entry ∈ entries, entry.toOption = none) :
    ∃ engine : PulsarEngine D R, PulsarEngine.new deps source rulesPath = .ok engine ∧
      engine.rulesets = ∅ ∧
      ∀ (V : Type) (event : Event T P),
        (engine.process deps event : List (ThreatDerived T P V)) = [] := by
  have hpaths : flattenEntries entries = [] := List.filterMap_eq_nil_iff.2 herrors
  have hload : loadUserRulesFromDir source rulesPath = .ok [] := by
    simp only [loadUserRulesFromDir, hglob, Except.mapError, bind, Except.bind, hpaths]
    rfl
  refine ⟨⟨∅⟩, by rw [new_of_load hload]; rfl, rfl, fun V event => ?_⟩
  unfold PulsarEngine.process
  split <;> simp [AList.lookup_empty]

theorem new_of_private_rules_dir :
    ∃ engine : PulsarEngine String (List (Rule String)),
      PulsarEngine.new execDeps privateRulesDir "rules" = .ok engine ∧ engine.rulesets = ∅ ∧
      ∀ (V : Type) (event : Event Unit (String × String)),
        (engine.process execDeps event : List (ThreatDerived Unit (String × String) V)) = [] :=
  new_of_glob_without_paths execDeps privateRulesDir "rules" _ rfl
    (by simp [Except.toOption])

section Process

variable (deps) in
/-- Whether a user rule's condition, as the DSL parses it, holds on an event. -/
def compiledConditionHolds (holds : C → Event T P → Bool) (userRule : UserRule)
    (event : Event T P) : Bool :=
  match deps.parse userRule.type userRule.condition with
  | .ok condition => holds condition event
  | .error _ => false

theorem rulesOfType_filter_names (holds : C → Event T P → Bool) (event : Event T P) (k : D)
    {userRules : List UserRule} {rules : List (D × Rule C)}
    (h : List.Forall₂ (fun userRule rule => parseRule deps userRule = .ok rule) userRules rules) :
    ((rulesOfType rules k).filter fun rule => holds rule.condition event).map (·.name) =
      (userRules.filter fun userRule => deps.fromStr userRule.type = some k &&
        compiledConditionHolds deps holds userRule event).map (·.name) := by
  induction h with
  | nil => rfl
  | @cons userRule rule userRules rules hparse _ ih =>
    obtain ⟨d, rule⟩ := rule
    obtain ⟨hd, hc, hn⟩ := (parseRule_ok userRule d rule).1 hparse
    rw [rulesOfType_cons]
    by_cases hk : d = k <;> by_cases hh : holds rule.condition event <;>
      simp [hk, hh, hd, hc, hn, ih, compiledConditionHolds, List.filter_cons]

theorem process_reports_each_matching_rule_once {V : Type} (holds : C → Event T P → Bool)
    (hmatch : deps.MatchesHolding holds) {source : RuleSource} {rulesPath : String}
    {rs : List UserRule} {engine : PulsarEngine D R}
    (hload : loadUserRulesFromDir source rulesPath = .ok rs)
    (hnew : PulsarEngine.new deps source rulesPath = .ok engine) (event : Event T P) :
    (event.header.threat.isSome →
      (engine.process deps event : List (ThreatDerived T P V)) = []) ∧
    (event.header.threat = none →
      (∀ call ∈ (engine.process deps event : List (ThreatDerived T P V)),
        call.event = event ∧ call.extra = none) ∧
      ((engine.process deps event : List (ThreatDerived T P V)).map (·.ruleName)).Perm
        ((rs.filter fun userRule =>
          deps.fromStr userRule.type = some (deps.payloadDiscriminant event.payload) &&
            compiledConditionHolds deps holds userRule event).map (·.name))) := by
  obtain ⟨rs', rules, hload', hrules, hk⟩ := new_ok_lookup hnew
  obtain rfl : rs' = rs := Except.ok.inj (hload'.symm.trans hload)
  refine ⟨fun hthreat => ?_, fun hnone => ?_⟩
  · simp [PulsarEngine.process, Option.isNone_iff_eq_none, Option.isSome_iff_ne_none.1 hthreat]
  · have hnames := rulesOfType_filter_names holds event (deps.payloadDiscriminant event.payload)
      ((mapM_ok_iff _ _ _).1 hrules)
    by_cases hnil : rulesOfType rules (deps.payloadDiscriminant event.payload) = []
    · rw [← hnames, hnil]
      simp [PulsarEngine.process, hnone, (hk _).1 hnil]
    · obtain ⟨ruleset, hr, hlookup⟩ := (hk _).2 hnil
      simp only [PulsarEngine.process, hnone, Option.isNone_none, if_true, hlookup]
      refine ⟨by simp, ?_⟩
      rw [← hnames, List.map_map]
      exact (hmatch _ _ hr event).map _

end Process

theorem process_reports_netcat :
    ∃ engine : PulsarEngine String (List (Rule String)),
      PulsarEngine.new execDeps (ruleFileSource deploymentRules) "rules" = .ok engine ∧
      ((engine.process execDeps ⟨⟨none⟩, ("Exec", "/usr/bin/nc")⟩ :
        List (ThreatDerived Unit (String × String) Unit)).map (·.ruleName)).Perm
        ["Open netcat", "Open netcat", "Netcat listener"] := by
  obtain ⟨engine, hnew⟩ : ∃ engine : PulsarEngine String (List (Rule String)),
      PulsarEngine.new execDeps (ruleFileSource deploymentRules) "rules" = .ok engine :=
    ⟨_, rfl⟩
  exact ⟨engine, hnew, ((process_reports_each_matching_rule_once filenameHolds
    (fun rules _ h _ => by cases h; exact .refl _)
    (show loadUserRulesFromDir (ruleFileSource deploymentRules) "rules" = .ok deploymentRules
      from rfl) hnew ⟨⟨none⟩, ("Exec", "/usr/bin/nc")⟩).2 rfl).2⟩

end Pulsar.RulesEngine
