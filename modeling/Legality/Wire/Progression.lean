import Legality.Enforcement.Gate
import Legality.Progression.Delta
import Legality.Progression.Intent
import Legality.Wire.Governance

/-!
Intents and deltas as data.
-/
namespace Legality

namespace Intent

def kinds : List String := ["chooseTalent", "chooseFeat", "chooseSkill", "levelUp"]

def toValue (intent : Intent) : Value :=
  .record [("type", .text intent.kind), (intent.subjectField, .text intent.subject)]

def ofFields? (kind : String) (fields : Fields) : Option Intent :=
  if kind = "chooseTalent" then (fields.required 0 "talentId" Value.text?).map chooseTalent
  else if kind = "chooseFeat" then (fields.required 0 "featId" Value.text?).map chooseFeat
  else if kind = "chooseSkill" then (fields.required 0 "skillId" Value.text?).map chooseSkill
  else if kind = "levelUp" then (fields.required 0 "classId" Value.text?).map levelUp
  else none

/-- Reads an intent as it is written, without trimming its id. -/
def ofValue? (dialect : Dialect) (value : Value) : Option Intent := do
  let tagged ← Tagged.ofValue? "type" value
  let kind ← tagged.alternative? dialect kinds
  if tagged.fits 1 then ofFields? kind tagged.fields else none

end Intent

namespace Delta

def toValue (delta : Delta) : Value :=
  .record
    [ ("set", .record delta.set.entries),
      ("add", .record (delta.add.entries.map fun entry => (entry.1, .texts entry.2))) ]

def ofValue? (dialect : Dialect) (value : Value) : Option Delta := do
  let fields ← Fields.ofValue? dialect 2 value
  let set ← fields.orElse 0 "set" SortedMap.empty (Value.map? some some)
  let add ← fields.orElse 1 "add" SortedMap.empty (Value.map? some (Value.list? Value.text?))
  some ⟨set, add⟩

end Delta

/-!
Results of evaluation and decisions as data.
-/

namespace EvaluationResult

/-- A result as data; diagnostics are left out when there are none. -/
def toValue (result : EvaluationResult) : Value :=
  .recordOf
    [ ("satisfied", some (.bool result.satisfied)),
      ("unmet", some (.texts result.unmet)),
      ("permanently_blocked", some (.bool result.permanentlyBlocked)),
      ("diagnostics", if result.diagnostics.isEmpty then none else some (.texts result.diagnostics)) ]

def ofValue? (dialect : Dialect) (value : Value) : Option EvaluationResult := do
  let fields ← Fields.ofValue? dialect 4 value
  let satisfied ← fields.required 0 "satisfied" Value.bool?
  let unmet ← fields.required 1 "unmet" (Value.list? Value.text?)
  let permanentlyBlocked ← fields.required 2 "permanently_blocked" Value.bool?
  let diagnostics ← fields.orElse 3 "diagnostics" [] (Value.list? Value.text?)
  some ⟨satisfied, unmet, permanentlyBlocked, diagnostics⟩

end EvaluationResult

namespace Severity

def ofLabel? (name : String) : Option Severity := Value.labelled? all label name

def toValue (severity : Severity) : Value := .text severity.label

def ofValue? (dialect : Dialect) (value : Value) : Option Severity := value.oneOf? dialect ofLabel?

end Severity

namespace Verdict

def toValue (verdict : Verdict) : Value := .text verdict.label

def ofValue? (dialect : Dialect) (value : Value) : Option Verdict :=
  value.oneOf? dialect (Value.labelled? all label)

end Verdict

def Decision.toValue (decision : Decision) : Value :=
  .record
    [ ("outcome", decision.verdict.toValue),
      ("reason", .text decision.reason),
      ("policy", .record [("mode", decision.facts.mode.toValue), ("strict", .bool decision.facts.strict)]),
      ("summary", .record
        [("severity", decision.facts.severity.toValue), ("count", .nat decision.facts.count)]) ]

def GateReport.toValue (report : GateReport) : Value :=
  .record
    [ ("target", .text report.target),
      ("evaluation", report.evaluation.toValue),
      ("severity", report.severity.toValue),
      ("decision", report.decision.toValue) ]

end Legality
