import Legality.Config.Settings
import Legality.Data.Value
import Legality.Toml.Reader

/-!
Settings as data. Every setting may be left out; a section that is left out sets nothing.
-/
namespace Legality

def Value.orNull {α : Type} (toValue : α → Value) : Option α → Value
  | some content => toValue content
  | none => .null

namespace IncreaseMethod

def ofLabel? (name : String) : Option IncreaseMethod := Value.labelled? [standard, flexible] label name

def toValue (method : IncreaseMethod) : Value := .text method.label

def ofValue? (dialect : Dialect) (value : Value) : Option IncreaseMethod := value.oneOf? dialect ofLabel?

end IncreaseMethod

namespace HouseRules

def toValue (rules : HouseRules) : Value :=
  .record
    [ ("strict_enforcement", .bool rules.strictEnforcement),
      ("skill_points_per_level", .nat rules.skillPointsPerLevel.toNat),
      ("ability_increase_method", rules.increaseMethod.toValue) ]

def ofValue? (dialect : Dialect) (value : Value) : Option HouseRules := do
  let fields ← Fields.ofValue? dialect 3 value
  let strictEnforcement ← fields.required 0 "strict_enforcement" Value.bool?
  let skillPointsPerLevel ← fields.required 1 "skill_points_per_level" Value.uint32?
  let increaseMethod ← fields.required 2 "ability_increase_method" (IncreaseMethod.ofValue? dialect)
  some ⟨strictEnforcement, skillPointsPerLevel, increaseMethod⟩

end HouseRules

namespace HouseRulesSettings

def toValue (settings : HouseRulesSettings) : Value :=
  .record
    [ ("strict_enforcement", .orNull .bool settings.strictEnforcement),
      ("skill_points_per_level", .orNull (fun n => .nat n.toNat) settings.skillPointsPerLevel),
      ("ability_increase_method", .orNull IncreaseMethod.toValue settings.increaseMethod) ]

def ofValue? (dialect : Dialect) (value : Value) : Option HouseRulesSettings := do
  let fields ← Fields.ofValue? dialect 3 value
  let strictEnforcement ← fields.optional 0 "strict_enforcement" Value.bool?
  let skillPointsPerLevel ← fields.optional 1 "skill_points_per_level" Value.uint32?
  let increaseMethod ← fields.optional 2 "ability_increase_method" (IncreaseMethod.ofValue? dialect)
  some ⟨strictEnforcement, skillPointsPerLevel, increaseMethod⟩

end HouseRulesSettings

namespace EvaluationSettings

def toValue (settings : EvaluationSettings) : Value :=
  .record
    [ ("max_expression_depth", .orNull .nat settings.maxDepth),
      ("legacy_diagnostics", .orNull .bool settings.legacyDiagnostics) ]

def ofValue? (dialect : Dialect) (value : Value) : Option EvaluationSettings := do
  let fields ← Fields.ofValue? dialect 2 value
  let maxDepth ← fields.optional 0 "max_expression_depth" Value.count?
  let legacyDiagnostics ← fields.optional 1 "legacy_diagnostics" Value.bool?
  some ⟨maxDepth, legacyDiagnostics⟩

end EvaluationSettings

namespace GovernanceSettings

def toValue (settings : GovernanceSettings) : Value :=
  .record [("require_reason", .orNull .bool settings.requireReason)]

def ofValue? (dialect : Dialect) (value : Value) : Option GovernanceSettings := do
  let fields ← Fields.ofValue? dialect 1 value
  let requireReason ← fields.optional 0 "require_reason" Value.bool?
  some ⟨requireReason⟩

end GovernanceSettings

namespace PolicySettings

def toValue (settings : PolicySettings) : Value :=
  .record [("decision_cache_capacity", .orNull .nat settings.decisionCacheCapacity)]

def ofValue? (dialect : Dialect) (value : Value) : Option PolicySettings := do
  let fields ← Fields.ofValue? dialect 1 value
  let decisionCacheCapacity ← fields.optional 0 "decision_cache_capacity" Value.count?
  some ⟨decisionCacheCapacity⟩

end PolicySettings

namespace Settings

def toValue (settings : Settings) : Value :=
  .record
    [ ("house_rules", settings.houseRules.toValue),
      ("evaluation", settings.evaluation.toValue),
      ("governance", settings.governance.toValue),
      ("policy", settings.policy.toValue) ]

def ofValue? (dialect : Dialect) (value : Value) : Option Settings := do
  let fields ← Fields.ofValue? dialect 4 value
  let houseRules ← fields.orElse 0 "house_rules" empty.houseRules (HouseRulesSettings.ofValue? dialect)
  let evaluation ← fields.orElse 1 "evaluation" empty.evaluation (EvaluationSettings.ofValue? dialect)
  let governance ← fields.orElse 2 "governance" empty.governance (GovernanceSettings.ofValue? dialect)
  let policy ← fields.orElse 3 "policy" empty.policy (PolicySettings.ofValue? dialect)
  some ⟨houseRules, evaluation, governance, policy⟩

end Settings

end Legality

/-!
Settings as a configuration document. Every section has a header; a setting that is left open has no line.
-/
namespace Legality.Settings

def textPlace : String := "<string>"

def writingPlace : String := "<serialization>"

def ofDocument? (document : String) : Option Settings :=
  (Toml.read? document).bind (ofValue? .toml)

def ofDocument (document : String) : Except ConfigError Settings :=
  match ofDocument? document with
  | none => .error (.parse textPlace "not a configuration document")
  | some settings => settings.checked

/-- The line of a setting. Numbers have to fit in 64 bits with a sign. -/
def line? (name : String) : Value → Option String
  | .null => some ""
  | .bool flag => some (name ++ " = " ++ (if flag then "true" else "false") ++ "\n")
  | .int number => if number ≤ Int64.maxValue.toInt then some (name ++ " = " ++ toString number ++ "\n") else none
  | .text content => some (name ++ " = \"" ++ content ++ "\"\n")
  | _ => none

def section? (name : String) : Value → Option String
  | .record fields => do
    let lines ← fields.mapM fun field => line? field.1 field.2
    some ("[" ++ name ++ "]\n" ++ String.join lines)
  | _ => none

def toDocument (settings : Settings) : Except ConfigError String :=
  let written := do
    let houseRules ← section? "house_rules" settings.houseRules.toValue
    let evaluation ← section? "evaluation" settings.evaluation.toValue
    let governance ← section? "governance" settings.governance.toValue
    let policy ← section? "policy" settings.policy.toValue
    some ("\n".intercalate [houseRules, evaluation, governance, policy])
  match written with
  | some document => .ok document
  | none => .error (.parse writingPlace "number out of range")

end Legality.Settings

/-!
Files as far as the library has to know them: what stands at a path, and nothing of how it is found out.
-/
namespace Legality

/-- What stands at a path. A file that is no text is unreadable, and so is a directory. -/
inductive FileState
  | absent
  | unreadable
  | content (text : String)
  deriving DecidableEq, Repr

end Legality
