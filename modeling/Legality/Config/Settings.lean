import Legality.Prerequisite.Evaluation

/-!
House rules of a table: how strictly prerequisites are enforced, how many skills a level grants, and how ability
increases are distributed.
-/
namespace Legality

inductive IncreaseMethod
  | standard
  | flexible
  deriving DecidableEq, Repr, Inhabited

namespace IncreaseMethod

def label : IncreaseMethod → String
  | standard => "standard"
  | flexible => "flexible"

end IncreaseMethod

structure HouseRules where
  strictEnforcement : Bool
  skillPointsPerLevel : UInt32
  increaseMethod : IncreaseMethod
  deriving DecidableEq, Repr

structure HouseRulesSettings where
  strictEnforcement : Option Bool
  skillPointsPerLevel : Option UInt32
  increaseMethod : Option IncreaseMethod
  deriving DecidableEq, Repr

namespace HouseRulesSettings

def empty : HouseRulesSettings := ⟨none, none, none⟩

instance : Inhabited HouseRulesSettings := ⟨empty⟩

/-- Fills up what a table leaves open: no strict enforcement, four skills a level, the standard method. -/
def resolve (settings : HouseRulesSettings) : HouseRules where
  strictEnforcement := settings.strictEnforcement.getD false
  skillPointsPerLevel := settings.skillPointsPerLevel.getD 4
  increaseMethod := settings.increaseMethod.getD .standard

end HouseRulesSettings

instance : Inhabited HouseRules := ⟨HouseRulesSettings.empty.resolve⟩

/-!
Settings as far as somebody makes them, and the checks on them. Whatever is left open has a default.
-/

structure EvaluationSettings where
  maxDepth : Option Nat
  legacyDiagnostics : Option Bool
  deriving DecidableEq, Repr

def EvaluationSettings.evaluator (settings : EvaluationSettings) : Evaluator where
  maxDepth := settings.maxDepth.getD Evaluator.standard.maxDepth
  legacyDiagnostics := settings.legacyDiagnostics.getD Evaluator.standard.legacyDiagnostics

structure GovernanceSettings where
  requireReason : Option Bool
  deriving DecidableEq, Repr

def GovernanceSettings.reasonRequired (settings : GovernanceSettings) : Bool := settings.requireReason.getD true

structure PolicySettings where
  decisionCacheCapacity : Option Nat
  deriving DecidableEq, Repr

def PolicySettings.capacity (settings : PolicySettings) : Nat := settings.decisionCacheCapacity.getD 256

/-- All settings. -/
structure Settings where
  houseRules : HouseRulesSettings
  evaluation : EvaluationSettings
  governance : GovernanceSettings
  policy : PolicySettings
  deriving DecidableEq, Repr

inductive ConfigError
  | fileNotFound (path : String)
  | parse (path detail : String)
  | invalid (field reason : String)
  deriving DecidableEq, Repr

namespace ConfigError

def message : ConfigError → String
  | fileNotFound path => "Config file not found: " ++ path
  | parse path detail => "Config parse error in " ++ path ++ ": " ++ detail
  | invalid field reason => "Config validation failed for " ++ field ++ ": " ++ reason

def code (_ : ConfigError) : String := "CONFIG_ERROR"

end ConfigError

namespace Settings

def empty : Settings := ⟨.empty, ⟨none, none⟩, ⟨none⟩, ⟨none⟩⟩

instance : Inhabited Settings := ⟨empty⟩

def brokenUserFile : String := "invalid TOML in user config"

def fault? (settings : Settings) : Option ConfigError :=
  if settings.houseRules.skillPointsPerLevel = some 0 then
    some (.invalid "house_rules.skill_points_per_level" "must be greater than 0")
  else if settings.evaluation.maxDepth.any fun depth => depth < 1 || 256 < depth then
    some (.invalid "evaluation.max_expression_depth" "must be between 1 and 256")
  else if settings.policy.decisionCacheCapacity = some 0 then
    some (.invalid "policy.decision_cache_capacity" "must be greater than 0")
  else none

def checked (settings : Settings) : Except ConfigError Settings :=
  match settings.fault? with
  | some fault => .error fault
  | none => .ok settings

end Settings

end Legality
