import Legality.Character.Validity
import Legality.Integrity.Store
import Legality.Integrity.Violation

/-!
Integrity tracking: every owned ability of a character is evaluated again, and the violations are compared with
those of the run before. A run that cannot be made is reported as degraded and leaves what is stored alone.
-/
namespace Legality

/-- The report of one run. -/
structure IntegrityReport where
  characterId : String
  violations : List Violation
  diff : ViolationDiff
  summary : ViolationSummary
  overall : Severity
  evaluatedAt : Instant
  degraded : Bool

namespace IntegrityReport

def failed (characterId : String) (evaluatedAt : Instant) : IntegrityReport :=
  ⟨characterId, [], .empty, .empty, .none, evaluatedAt, true⟩

def ofRun (previous : Option IntegritySnapshot) (run : IntegritySnapshot) : IntegrityReport where
  characterId := run.characterId
  violations := run.violations.values
  diff := .between previous run
  summary := run.summary
  overall := .overall (run.violations.values.map Violation.severity)
  evaluatedAt := run.evaluatedAt
  degraded := false

end IntegrityReport

namespace Evaluator

/-- The violation of one owned ability. An ability counts neither for its own requirement, nor as a violation
if its requirement cannot be evaluated. -/
def violation? (evaluator : Evaluator) (snapshot : Snapshot) (owned : OwnedAbility) : Option Violation :=
  match owned.prerequisite with
  | none => none
  | some prerequisite =>
    match evaluator.evaluatePrerequisite snapshot prerequisite (some owned.id) with
    | .error _ => none
    | .ok result =>
      if result.satisfied then none
      else some ⟨owned.id, owned.name, owned.kind, result.unmet, result.permanentlyBlocked,
        result.severityFor owned.kind⟩

def violations (evaluator : Evaluator) (snapshot : Snapshot) : List Violation :=
  snapshot.owned.filterMap (evaluator.violation? snapshot)

inductive RunFault
  | invalid (fault : StructureError)
  | foreign (characterId : String)
  deriving DecidableEq, Repr

def runFault? (characterId : String) (snapshot : Snapshot) : Option RunFault :=
  match snapshot.fault? with
  | some fault => some (.invalid fault)
  | none => if snapshot.characterId = characterId then none else some (.foreign snapshot.characterId)

def reevaluate (evaluator : Evaluator) (store : IntegrityStore) (characterId : String) (snapshot : Snapshot)
    (now : Instant) : IntegrityReport × IntegrityStore :=
  match runFault? characterId snapshot with
  | some _ => (.failed characterId now, store)
  | none =>
    let run := IntegritySnapshot.ofList characterId now (evaluator.violations snapshot)
    let (previous, store) := store.commit characterId run
    (.ofRun previous run, store)

def reevaluateFrom (evaluator : Evaluator) (store : IntegrityStore) (repository : Repository)
    (characterId : String) (now : Instant) : IntegrityReport × IntegrityStore :=
  match repository.load characterId with
  | .error _ => (.failed characterId now, store)
  | .ok snapshot => evaluator.reevaluate store characterId snapshot now

end Evaluator

end Legality
