import Pulsar.RulesEngine.Rule

/-!
# Loading rule files

`load_user_rules_from_dir` globs the rules directory for YAML files, reads every file the glob
lists (`RuleFile::from`), parses each body as a list of `UserRule` and concatenates the lists
in glob order.
-/

namespace Pulsar.RulesEngine

/-- `RULE_EXTENSION` -/
def ruleExtension : String := "yaml"

/-- The calls the loader makes outside the engine: `glob`, `fs::read_to_string` and
`serde_yaml::from_str::<Vec<UserRule>>`. A path is known by its display text. -/
structure RuleSource where
  glob : String → Except PatternError (List (Except GlobError String))
  readToString : String → Except IoError String
  fromStr : String → Except YamlError (List UserRule)

/-- `RuleFile`: a rule file's path and contents. -/
structure RuleFile where
  path : String
  body : String

variable (source : RuleSource)

/-- `RuleFile::from` -/
def RuleFile.from (path : String) : Except PulsarEngineError RuleFile := do
  let body ← (source.readToString path).mapError fun error => .ruleLoading path error
  pure { path, body }

/-- `entries.flatten()`: the paths the glob yields, its error entries dropped. -/
def flattenEntries (entries : List (Except GlobError String)) : List String :=
  entries.filterMap Except.toOption

/-- The YAML parse of one rule file, `RuleParsing` naming the file on failure. -/
def parseRuleFile (ruleFile : RuleFile) : Except PulsarEngineError (List UserRule) :=
  (source.fromStr ruleFile.body).mapError fun error => .ruleParsing ruleFile.path error

def loadUserRulesFromDir (rulesPath : String) : Except PulsarEngineError (List UserRule) := do
  let entries ← (source.glob (rulesPath ++ "/**/*." ++ ruleExtension)).mapError .ruleListing
  let ruleFiles ← (flattenEntries entries).mapM (RuleFile.from source)
  let rules ← ruleFiles.mapM (parseRuleFile source)
  pure rules.flatten

variable {source}

@[simp] theorem ruleFile_from_ok (path : String) (ruleFile : RuleFile) :
    RuleFile.from source path = .ok ruleFile ↔
      source.readToString path = .ok ruleFile.body ∧ ruleFile.path = path := by
  cases h : source.readToString path <;> cases ruleFile <;>
    simp [RuleFile.from, h, Except.mapError, bind, Except.bind, pure, Except.pure, eq_comm, and_comm]

@[simp] theorem parseRuleFile_ok (ruleFile : RuleFile) (rules : List UserRule) :
    parseRuleFile source ruleFile = .ok rules ↔ source.fromStr ruleFile.body = .ok rules := by
  cases h : source.fromStr ruleFile.body <;> simp [parseRuleFile, h, Except.mapError]

/-- The loader succeeds exactly when the pattern is valid and every path the glob yields reads
and parses; the rules are then the files' lists concatenated in glob order. -/
theorem loadUserRulesFromDir_ok_iff (rulesPath : String) (rs : List UserRule) :
    loadUserRulesFromDir source rulesPath = .ok rs ↔
      ∃ entries lists, source.glob (rulesPath ++ "/**/*." ++ ruleExtension) = .ok entries ∧
        List.Forall₂ (fun path rules => ∃ body, source.readToString path = .ok body ∧
          source.fromStr body = .ok rules) (flattenEntries entries) lists ∧
        rs = lists.flatten := by
  simp only [loadUserRulesFromDir, except_bind_ok, mapM_ok_iff, except_mapError_ok,
    ruleFile_from_ok, parseRuleFile_ok, pure, Except.pure, Except.ok.injEq]
  constructor
  · rintro ⟨entries, hglob, files, hfiles, lists, hlists, rfl⟩
    refine ⟨entries, lists, hglob, ?_, rfl⟩
    exact ((forall₂_comp_iff _ _ _ _).1 ⟨files, hfiles, hlists⟩).imp
      fun _ _ ⟨file, ⟨hread, _⟩, hparse⟩ => ⟨file.body, hread, hparse⟩
  · rintro ⟨entries, lists, hglob, h, rfl⟩
    have hcomp : List.Forall₂ (fun path rules => ∃ file : RuleFile,
        (source.readToString path = .ok file.body ∧ file.path = path) ∧
          source.fromStr file.body = .ok rules) (flattenEntries entries) lists :=
      h.imp fun path _ ⟨body, hread, hparse⟩ => ⟨⟨path, body⟩, ⟨hread, rfl⟩, hparse⟩
    obtain ⟨files, hfiles, hlists⟩ := (forall₂_comp_iff _ _ _ _).2 hcomp
    exact ⟨entries, hglob, files, hfiles, lists, hlists, rfl⟩

@[simp] theorem ruleFile_from_error (path : String) (x : PulsarEngineError) :
    RuleFile.from source path = .error x ↔
      ∃ error, source.readToString path = .error error ∧ x = .ruleLoading path error := by
  cases h : source.readToString path <;>
    simp [RuleFile.from, h, Except.mapError, bind, Except.bind, pure, Except.pure, eq_comm]

@[simp] theorem parseRuleFile_error (ruleFile : RuleFile) (x : PulsarEngineError) :
    parseRuleFile source ruleFile = .error x ↔
      ∃ error, source.fromStr ruleFile.body = .error error ∧
        x = .ruleParsing ruleFile.path error := by
  simp [parseRuleFile]

theorem ruleFile_from_isOk (path : String) :
    (∃ ruleFile, RuleFile.from source path = .ok ruleFile) ↔
      ∃ body, source.readToString path = .ok body :=
  ⟨fun ⟨ruleFile, h⟩ => ⟨ruleFile.body, ((ruleFile_from_ok path ruleFile).1 h).1⟩,
    fun ⟨body, h⟩ => ⟨⟨path, body⟩, (ruleFile_from_ok path _).2 ⟨h, rfl⟩⟩⟩

theorem mapM_ruleFile_from_ok (paths : List String) (ruleFiles : List RuleFile) :
    paths.mapM (RuleFile.from source) = .ok ruleFiles ↔
      ruleFiles.map (·.path) = paths ∧
        ∀ ruleFile ∈ ruleFiles, source.readToString ruleFile.path = .ok ruleFile.body := by
  rw [mapM_ok_iff]
  induction ruleFiles generalizing paths with
  | nil => cases paths <;> simp
  | cons ruleFile ruleFiles ih =>
    cases paths with
    | nil => simp
    | cons path paths =>
      rw [List.forall₂_cons, ih, ruleFile_from_ok, List.map_cons, List.cons.injEq,
        List.forall_mem_cons]
      constructor
      · rintro ⟨⟨hread, rfl⟩, hpaths, hrest⟩
        exact ⟨⟨rfl, hpaths⟩, hread, hrest⟩
      · rintro ⟨⟨rfl, hpaths⟩, hread, hrest⟩
        exact ⟨⟨hread, rfl⟩, hpaths, hrest⟩

theorem mapM_ruleFile_from_error (paths : List String) (x : PulsarEngineError) :
    paths.mapM (RuleFile.from source) = .error x ↔
      ∃ pre path post error, paths = pre ++ path :: post ∧
        (∀ p ∈ pre, ∃ body, source.readToString p = .ok body) ∧
        source.readToString path = .error error ∧ x = .ruleLoading path error := by
  simp only [mapM_error_iff, ruleFile_from_isOk, ruleFile_from_error]
  constructor
  · rintro ⟨pre, path, post, hpaths, hpre, error, hread, rfl⟩
    exact ⟨pre, path, post, error, hpaths, hpre, hread, rfl⟩
  · rintro ⟨pre, path, post, error, hpaths, hpre, hread, rfl⟩
    exact ⟨pre, path, post, hpaths, hpre, error, hread, rfl⟩

theorem mapM_parseRuleFile_error (paths : List String) (x : PulsarEngineError) :
    (∃ ruleFiles, paths.mapM (RuleFile.from source) = .ok ruleFiles ∧
        ruleFiles.mapM (parseRuleFile source) = .error x) ↔
      (∀ p ∈ paths, ∃ body, source.readToString p = .ok body) ∧
      ∃ pre path post body error, paths = pre ++ path :: post ∧
        (∀ p ∈ pre, ∃ body rules, source.readToString p = .ok body ∧
          source.fromStr body = .ok rules) ∧
        source.readToString path = .ok body ∧ source.fromStr body = .error error ∧
        x = .ruleParsing path error := by
  constructor
  · rintro ⟨ruleFiles, hfiles, hparse⟩
    obtain ⟨rfl, hread⟩ := (mapM_ruleFile_from_ok _ _).1 hfiles
    obtain ⟨pre, ruleFile, post, rfl, hpre, hfail⟩ := (mapM_error_iff _ _ _).1 hparse
    obtain ⟨error, herror, rfl⟩ := (parseRuleFile_error _ _).1 hfail
    refine ⟨fun p hp => ?_, pre.map (·.path), ruleFile.path, post.map (·.path), ruleFile.body,
      error, by simp, fun p hp => ?_, hread ruleFile (by simp), herror, rfl⟩
    · obtain ⟨file, hfile, rfl⟩ := List.mem_map.1 hp
      exact ⟨file.body, hread file hfile⟩
    · obtain ⟨file, hfile, rfl⟩ := List.mem_map.1 hp
      obtain ⟨rules, hrules⟩ := hpre file hfile
      exact ⟨file.body, rules, hread file (by simp [hfile]), (parseRuleFile_ok _ _).1 hrules⟩
  · rintro ⟨hall, pre, path, post, body, error, rfl, hpre, hread, herror, rfl⟩
    obtain ⟨ruleFiles, hfiles⟩ :=
      mapM_ok_of_forall _ _ fun p hp => (ruleFile_from_isOk p).2 (hall p hp)
    obtain ⟨hpaths, hbodies⟩ := (mapM_ruleFile_from_ok _ _).1 hfiles
    obtain ⟨preFiles, rest, rfl, rfl, hrest⟩ := List.map_eq_append_iff.1 hpaths
    obtain ⟨ruleFile, postFiles, rfl, rfl, rfl⟩ := List.map_eq_cons_iff.1 hrest
    have hbody : ruleFile.body = body :=
      Except.ok.inj ((hbodies ruleFile (by simp)).symm.trans hread)
    refine ⟨_, hfiles, (mapM_error_iff _ _ _).2 ⟨preFiles, ruleFile, postFiles, rfl,
      fun file hfile => ?_, (parseRuleFile_error _ _).2 ⟨error, hbody ▸ herror, rfl⟩⟩⟩
    obtain ⟨body', rules, hread', hrules⟩ := hpre file.path (List.mem_map_of_mem _ hfile)
    have hbody' : file.body = body' :=
      Except.ok.inj ((hbodies file (by simp [hfile])).symm.trans hread')
    exact ⟨rules, (parseRuleFile_ok _ _).2 (hbody' ▸ hrules)⟩

/-- The loader's failures: a bad pattern fails with `RuleListing`; otherwise the first listed
path that does not read fails with `RuleLoading`; and only once every path has been read does
the first file that does not parse fail with `RuleParsing`. -/
theorem loadUserRulesFromDir_error_iff (rulesPath : String) (x : PulsarEngineError) :
    loadUserRulesFromDir source rulesPath = .error x ↔
      (∃ error, source.glob (rulesPath ++ "/**/*." ++ ruleExtension) = .error error ∧
        x = .ruleListing error) ∨
      ∃ entries, source.glob (rulesPath ++ "/**/*." ++ ruleExtension) = .ok entries ∧
        ((∃ pre path post error, flattenEntries entries = pre ++ path :: post ∧
            (∀ p ∈ pre, ∃ body, source.readToString p = .ok body) ∧
            source.readToString path = .error error ∧ x = .ruleLoading path error) ∨
          (∀ p ∈ flattenEntries entries, ∃ body, source.readToString p = .ok body) ∧
          ∃ pre path post body error, flattenEntries entries = pre ++ path :: post ∧
            (∀ p ∈ pre, ∃ body rules, source.readToString p = .ok body ∧
              source.fromStr body = .ok rules) ∧
            source.readToString path = .ok body ∧ source.fromStr body = .error error ∧
            x = .ruleParsing path error) := by
  simp only [loadUserRulesFromDir, except_bind_error, except_mapError_error, except_mapError_ok,
    mapM_ruleFile_from_error, pure, Except.pure, reduceCtorEq, and_false, exists_false, or_false,
    mapM_parseRuleFile_error]

/-- `entries.flatten()` skips the entries the directory walk could not read: the loader
behaves as on a glob that yields the paths alone. -/
theorem loadUserRulesFromDir_skips_glob_errors (rulesPath : String) :
    loadUserRulesFromDir source rulesPath =
      loadUserRulesFromDir { source with
        glob := fun pattern => (source.glob pattern).map fun entries =>
          (flattenEntries entries).map .ok } rulesPath := by
  have hpaths (entries : List (Except GlobError String)) :
      flattenEntries ((flattenEntries entries).map .ok) = flattenEntries entries := by
    simp [flattenEntries, List.filterMap_map, Function.comp_def, Except.toOption]
  unfold loadUserRulesFromDir
  cases h : source.glob (rulesPath ++ "/**/*." ++ ruleExtension) with
  | error e => simp only [h, Except.map]; rfl
  | ok entries =>
    simp only [h, Except.map, Except.mapError, bind, Except.bind, hpaths]
    rfl

theorem loadUserRulesFromDir_ignores_unreadable_entry :
    loadUserRulesFromDir
      { glob := fun _ => .ok [.error ⟨"rules/private"⟩, .ok "rules/netcat.yaml"]
        readToString := fun _ => .ok "netcat rule file"
        fromStr := fun _ => .ok [⟨"Open netcat", "Exec", "payload.filename == \"/usr/bin/nc\""⟩] }
      "rules" = .ok [⟨"Open netcat", "Exec", "payload.filename == \"/usr/bin/nc\""⟩] := rfl

end Pulsar.RulesEngine
