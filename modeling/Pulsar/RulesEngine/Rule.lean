import Mathlib.Data.List.AList
import Pulsar.Result

/-!
# Rules, events and the engine's collaborators

The records of `engine.rs` and the calls it makes into crates that are not part of it.
Those crates enter as parameters: the payload discriminant of pulsar_core, the rule DSL's
condition parser and validatron's rule compiler and matcher.
-/

namespace Pulsar.RulesEngine

/-- `UserRule`, one record of a rule file. -/
structure UserRule where
  name : String
  type : String
  condition : String
deriving DecidableEq

/-- validatron's `Rule`: a rule name and its parsed condition. -/
structure Rule (C : Type) where
  name : String
  condition : C
deriving DecidableEq

/-- `glob::PatternError`, known by its message. -/
structure PatternError where
  msg : String
deriving DecidableEq

/-- `glob::GlobError`, an entry the directory walk could not read. -/
structure GlobError where
  path : String
deriving DecidableEq

/-- `std::io::Error`, known by its message. -/
structure IoError where
  msg : String
deriving DecidableEq

/-- `serde_yaml::Error`, known by its message. -/
structure YamlError where
  msg : String
deriving DecidableEq

/-- `ValidatronError`, known by its message. -/
structure ValidatronError where
  msg : String
deriving DecidableEq

inductive PulsarEngineError where
  | ruleListing (error : PatternError)
  | ruleLoading (name : String) (error : IoError)
  | ruleParsing (filename : String) (error : YamlError)
  | dslError (condition : String) (message : String)
  | ruleCompile (error : ValidatronError)
  | payloadTypeNotFound (type : String)
deriving DecidableEq

/-- `std::collections::HashMap`, by its entries: an association list, whose keys are distinct
by construction. The entry order stands for the map's unspecified iteration order. -/
abbrev HashMap (K V : Type) := AList fun _ : K => V

/-- The header field the engine reads: the marker of a derived threat event. -/
structure Header (T : Type) where
  threat : Option T

/-- pulsar_core's `Event`, as far as the engine reads it. -/
structure Event (T P : Type) where
  header : Header T
  payload : P

/-- One call `sender.send_threat_derived(event, rule_name, extra)`. -/
structure ThreatDerived (T P V : Type) where
  event : Event T P
  ruleName : String
  extra : Option V

/-- What `engine.rs` calls outside itself, over threat markers `T`, payloads `P`,
discriminants `D`, parsed conditions `C` and compiled rulesets `R`. -/
structure Collaborators (T P D C R : Type) where
  /-- `PayloadDiscriminant::from_str` -/
  fromStr : String → Option D
  /-- `PayloadDiscriminant::from(event.payload())` -/
  payloadDiscriminant : P → D
  /-- `ConditionParser::parse(type, condition)`, failing with the text of its error -/
  parse : String → String → Except String C
  /-- `Ruleset::from_rules` -/
  fromRules : List (Rule C) → Except ValidatronError R
  /-- `Ruleset::matches` -/
  rulesetMatches : R → Event T P → List (Rule C)

variable {T P D C R : Type}

/-- validatron's matcher as the engine relies on it, for conditions that hold on events as
`holds` says: a ruleset built from `rules` matches an event with the rules whose condition
holds on it, each once, in some order. -/
def Collaborators.MatchesHolding (deps : Collaborators T P D C R)
    (holds : C → Event T P → Bool) : Prop :=
  ∀ rules ruleset, deps.fromRules rules = .ok ruleset → ∀ event,
    (deps.rulesetMatches ruleset event).Perm (rules.filter fun rule => holds rule.condition event)

end Pulsar.RulesEngine
