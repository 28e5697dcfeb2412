import Legality.Integrity.Tracker
import Legality.Wire.Progression

/-!
Violations, runs and reports as data. A run can be kept elsewhere in this form and be restored from it.
-/
namespace Legality

namespace Violation

def toValue (violation : Violation) : Value :=
  .record
    [ ("abilityId", .text violation.abilityId),
      ("abilityName", .text violation.abilityName),
      ("abilityKind", violation.abilityKind.toValue),
      ("missingConditions", .texts violation.missingConditions),
      ("permanentlyBlocked", .bool violation.permanentlyBlocked),
      ("severity", violation.severity.toValue) ]

def ofValue? (dialect : Dialect) (value : Value) : Option Violation := do
  let fields ← Fields.ofValue? dialect 6 value
  let abilityId ← fields.required 0 "abilityId" Value.text?
  let abilityName ← fields.required 1 "abilityName" Value.text?
  let abilityKind ← fields.required 2 "abilityKind" (AbilityKind.ofValue? dialect)
  let missingConditions ← fields.required 3 "missingConditions" (Value.list? Value.text?)
  let permanentlyBlocked ← fields.required 4 "permanentlyBlocked" Value.bool?
  let severity ← fields.required 5 "severity" (Severity.ofValue? dialect)
  some ⟨abilityId, abilityName, abilityKind, missingConditions, permanentlyBlocked, severity⟩

end Violation

namespace ViolationSummary

def countsValue {κ : Type} [OrderedKey κ] (label : κ → String) (counts : SortedMap κ Nat) : Value :=
  .record (counts.entries.map fun entry => (label entry.1, .nat entry.2))

def toValue (summary : ViolationSummary) : Value :=
  .record
    [ ("total", .nat summary.total),
      ("bySeverity", countsValue Severity.label summary.bySeverity),
      ("byKind", countsValue AbilityKind.label summary.byKind) ]

def ofValue? (dialect : Dialect) (value : Value) : Option ViolationSummary := do
  let fields ← Fields.ofValue? dialect 3 value
  let total ← fields.required 0 "total" Value.count?
  let bySeverity ← fields.required 1 "bySeverity" (Value.map? Severity.ofLabel? Value.count?)
  let byKind ← fields.required 2 "byKind" (Value.map? AbilityKind.ofLabel? Value.count?)
  some ⟨total, bySeverity, byKind⟩

end ViolationSummary

namespace IntegritySnapshot

def toValue (run : IntegritySnapshot) : Value :=
  .record
    [ ("characterId", .text run.characterId),
      ("evaluatedAt", run.evaluatedAt.toValue),
      ("violations", .record (run.violations.entries.map fun entry => (entry.1, entry.2.toValue))),
      ("summary", run.summary.toValue) ]

def ofValue? (dialect : Dialect) (value : Value) : Option IntegritySnapshot := do
  let fields ← Fields.ofValue? dialect 4 value
  let characterId ← fields.required 0 "characterId" Value.text?
  let evaluatedAt ← fields.required 1 "evaluatedAt" Instant.ofValue?
  let violations ← fields.required 2 "violations" (Value.map? some (Violation.ofValue? dialect))
  let summary ← fields.required 3 "summary" (ViolationSummary.ofValue? dialect)
  some ⟨characterId, evaluatedAt, violations, summary⟩

end IntegritySnapshot

def ViolationDiff.toValue (diff : ViolationDiff) : Value :=
  .record
    [ ("new", .texts diff.new),
      ("resolved", .texts diff.resolved),
      ("changed", .texts diff.changed),
      ("unchanged", .texts diff.unchanged) ]

def IntegrityReport.toValue (report : IntegrityReport) : Value :=
  .record
    [ ("characterId", .text report.characterId),
      ("violations", .list (report.violations.map Violation.toValue)),
      ("diff", report.diff.toValue),
      ("summary", report.summary.toValue),
      ("overall", report.overall.toValue),
      ("evaluatedAt", report.evaluatedAt.toValue),
      ("degraded", .bool report.degraded) ]

end Legality
