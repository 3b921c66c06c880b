import Pulsar.RulesEngine.Rule

/-!
# Parsing and grouping rules

`parse_rule` resolves a rule's event type to its payload discriminant and parses its
condition; `parse_rules` parses every rule, stopping at the first failure, and groups the
parsed rules by discriminant in a `HashMap`, each group in list order.
-/

namespace Pulsar.RulesEngine

variable {T P D C R : Type} (deps : Collaborators T P D C R)

def parseRule (userRule : UserRule) : Except PulsarEngineError (D × Rule C) := do
  let payloadDiscriminant ← match deps.fromStr userRule.type with
    | some discriminant => pure discriminant
    | none => throw (.payloadTypeNotFound userRule.type)
  let condition ← (deps.parse userRule.type userRule.condition).mapError
    (.dslError userRule.condition)
  pure (payloadDiscriminant, { name := userRule.name, condition })

variable {deps}

theorem parseRule_ok (userRule : UserRule) (d : D) (rule : Rule C) :
    parseRule deps userRule = .ok (d, rule) ↔
      deps.fromStr userRule.type = some d ∧
        deps.parse userRule.type userRule.condition = .ok rule.condition ∧
        rule.name = userRule.name := by
  cases rule
  cases hd : deps.fromStr userRule.type <;> cases hc : deps.parse userRule.type userRule.condition <;>
    simp [parseRule, hd, hc, bind, Except.bind, pure, Except.pure, throw, throwThe,
      MonadExceptOf.throw, Except.mapError, eq_comm, and_comm]

theorem parseRule_error (userRule : UserRule) (x : PulsarEngineError) :
    parseRule deps userRule = .error x ↔
      deps.fromStr userRule.type = none ∧ x = .payloadTypeNotFound userRule.type ∨
        ∃ d message, deps.fromStr userRule.type = some d ∧
          deps.parse userRule.type userRule.condition = .error message ∧
          x = .dslError userRule.condition message := by
  cases hd : deps.fromStr userRule.type <;> cases hc : deps.parse userRule.type userRule.condition <;>
    simp [parseRule, hd, hc, bind, Except.bind, pure, Except.pure, throw, throwThe,
      MonadExceptOf.throw, Except.mapError, eq_comm]

variable [DecidableEq D]

/-- `m.entry(k).or_insert_with(Vec::new).push(v)` -/
def pushEntry (m : HashMap D (List (Rule C))) (k : D) (v : Rule C) : HashMap D (List (Rule C)) :=
  m.insert k ((m.lookup k).getD [] ++ [v])

/-- The loop of `parse_rules` that groups the parsed rules by discriminant. -/
def groupRules (rules : List (D × Rule C)) : HashMap D (List (Rule C)) :=
  rules.foldl (fun m rule => pushEntry m rule.1 rule.2) ∅

variable (deps) in
def parseRules (userRules : List UserRule) :
    Except PulsarEngineError (HashMap D (List (Rule C))) := do
  let rules ← userRules.mapM (parseRule deps)
  pure (groupRules rules)

/-- The parsed rules of discriminant `k`, in list order. -/
def rulesOfType (rules : List (D × Rule C)) (k : D) : List (Rule C) :=
  rules.filterMap fun rule => if rule.1 = k then some rule.2 else none

@[simp] theorem rulesOfType_nil (k : D) : rulesOfType ([] : List (D × Rule C)) k = [] := rfl

theorem rulesOfType_cons (d : D) (rule : Rule C) (rules : List (D × Rule C)) (k : D) :
    rulesOfType ((d, rule) :: rules) k =
      if d = k then rule :: rulesOfType rules k else rulesOfType rules k := by
  by_cases h : d = k <;> simp [rulesOfType, h]

theorem lookup_pushEntry (m : HashMap D (List (Rule C))) (d k : D) (rule : Rule C) :
    (pushEntry m d rule).lookup k =
      if d = k then some ((m.lookup k).getD [] ++ [rule]) else m.lookup k := by
  by_cases h : d = k
  · subst h; simp [pushEntry, AList.lookup_insert]
  · simp [pushEntry, AList.lookup_insert_ne (Ne.symm h), h]

theorem rulesOfType_eq_nil_iff (rules : List (D × Rule C)) (k : D) :
    rulesOfType rules k = [] ↔ ∀ rule ∈ rules, rule.1 ≠ k := by
  simp [rulesOfType]

theorem rulesOfType_ne_nil_iff {userRules : List UserRule} {rules : List (D × Rule C)}
    (h : List.Forall₂ (fun userRule rule => parseRule deps userRule = .ok rule) userRules rules)
    (k : D) :
    rulesOfType rules k ≠ [] ↔ ∃ userRule ∈ userRules, deps.fromStr userRule.type = some k := by
  rw [Ne, rulesOfType_eq_nil_iff]
  push_neg
  induction h with
  | nil => simp
  | @cons userRule rule userRules rules hparse _ ih =>
    obtain ⟨d, rule⟩ := rule
    have hd := ((parseRule_ok userRule d rule).1 hparse).1
    simp [ih, hd]

theorem lookup_foldl_pushEntry (rules : List (D × Rule C)) (m : HashMap D (List (Rule C)))
    (k : D) :
    (rules.foldl (fun m rule => pushEntry m rule.1 rule.2) m).lookup k =
      if (rulesOfType rules k).isEmpty then m.lookup k
      else some ((m.lookup k).getD [] ++ rulesOfType rules k) := by
  induction rules generalizing m with
  | nil => simp
  | cons rule rules ih =>
    obtain ⟨d, rule⟩ := rule
    rw [List.foldl_cons, ih, rulesOfType_cons, lookup_pushEntry]
    by_cases h : d = k <;> cases hr : rulesOfType rules k <;> simp [h, hr]

theorem lookup_groupRules (rules : List (D × Rule C)) (k : D) :
    (groupRules rules).lookup k =
      if (rulesOfType rules k).isEmpty then none else some (rulesOfType rules k) := by
  simp [groupRules, lookup_foldl_pushEntry, AList.lookup_empty]

theorem pushEntry_perm (m : HashMap D (List (Rule C))) (d : D) (rule : Rule C) :
    ((pushEntry m d rule).entries.flatMap (·.2)).Perm (m.entries.flatMap (·.2) ++ [rule]) := by
  rw [pushEntry, AList.insert_entries, List.flatMap_cons]
  by_cases hd : d ∈ m.keys
  · obtain ⟨b, l₁, l₂, -, he, hk⟩ := List.exists_of_kerase hd
    have hb : m.lookup d = some b := by
      rw [← Option.mem_def, AList.mem_lookup_iff, he]
      simp
    rw [hk, hb, he]
    simp only [Option.getD_some, List.flatMap_append, List.flatMap_cons]
    classical
    exact List.perm_iff_count.2 fun x => by simp only [List.count_append]; omega
  · rw [List.kerase_of_not_mem_keys hd, AList.lookup_eq_none.2 (AList.mem_keys.not.2 hd)]
    exact List.perm_append_comm

theorem groupRules_perm (rules : List (D × Rule C)) :
    ((groupRules rules).entries.flatMap (·.2)).Perm (rules.map (·.2)) := by
  suffices ∀ m : HashMap D (List (Rule C)),
      ((rules.foldl (fun m rule => pushEntry m rule.1 rule.2) m).entries.flatMap (·.2)).Perm
        (m.entries.flatMap (·.2) ++ rules.map (·.2)) by
    simpa [groupRules, AList.empty_entries] using this ∅
  induction rules with
  | nil => simp
  | cons rule rules ih =>
    intro m
    rw [List.foldl_cons, List.map_cons, ← List.singleton_append, ← List.append_assoc]
    exact (ih _).trans ((pushEntry_perm m rule.1 rule.2).append_right _)

theorem parseRules_ok (userRules : List UserRule) (m : HashMap D (List (Rule C))) :
    parseRules deps userRules = .ok m ↔
      ∃ rules, userRules.mapM (parseRule deps) = .ok rules ∧ groupRules rules = m := by
  simp [parseRules, except_bind_ok, pure, Except.pure]

theorem parseRules_error (userRules : List UserRule) (x : PulsarEngineError) :
    parseRules deps userRules = .error x ↔ userRules.mapM (parseRule deps) = .error x := by
  simp [parseRules, except_bind_error, pure, Except.pure]

end Pulsar.RulesEngine
