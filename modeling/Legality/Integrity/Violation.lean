import Legality.Enforcement.Severity
import Legality.Time.Timestamp

/-!
Violations of a character: the owned abilities whose prerequisites it no longer meets, and their numbers by
severity and by kind.
-/
namespace Legality

/-- One owned ability whose prerequisite is not met. -/
structure Violation where
  abilityId : String
  abilityName : String
  abilityKind : AbilityKind
  missingConditions : List String
  permanentlyBlocked : Bool
  severity : Severity
  deriving DecidableEq, Repr, Inhabited

structure ViolationSummary where
  total : Nat
  bySeverity : SortedMap Severity Nat
  byKind : SortedMap AbilityKind Nat
  deriving DecidableEq

namespace ViolationSummary

def empty : ViolationSummary := ⟨0, SortedMap.empty, SortedMap.empty⟩

instance : Inhabited ViolationSummary := ⟨empty⟩

def countUp {κ : Type} [OrderedKey κ] (counts : SortedMap κ Nat) (key : κ) : SortedMap κ Nat :=
  counts.insert key ((counts.get? key).getD 0 + 1)

def count (summary : ViolationSummary) (violation : Violation) : ViolationSummary where
  total := summary.total + 1
  bySeverity := countUp summary.bySeverity violation.severity
  byKind := countUp summary.byKind violation.abilityKind

def ofList (violations : List Violation) : ViolationSummary := violations.foldl count empty

def ofSeverity (summary : ViolationSummary) (severity : Severity) : Nat :=
  (summary.bySeverity.get? severity).getD 0

end ViolationSummary

/-- The violations of a character at one time. It is replaced as a whole by the next one. -/
structure IntegritySnapshot where
  characterId : String
  evaluatedAt : Instant
  violations : SortedMap String Violation
  summary : ViolationSummary
  deriving DecidableEq

namespace IntegritySnapshot

def ofList (characterId : String) (evaluatedAt : Instant) (violations : List Violation) :
    IntegritySnapshot where
  characterId := characterId
  evaluatedAt := evaluatedAt
  violations := SortedMap.ofList (violations.map fun violation => (violation.abilityId, violation))
  summary := ViolationSummary.ofList violations

end IntegritySnapshot

/-!
What changed between two runs over one character. Missing conditions are compared as sets; their order and
repetition mean nothing.
-/

/-- The abilities that started to violate, stopped, changed what they miss, or did not. Each list is in ascending
order. -/
structure ViolationDiff where
  new : List String
  resolved : List String
  changed : List String
  unchanged : List String
  deriving DecidableEq, Repr

namespace ViolationDiff

def empty : ViolationDiff := ⟨[], [], [], []⟩

instance : Inhabited ViolationDiff := ⟨empty⟩

def isEmpty (diff : ViolationDiff) : Bool :=
  diff.new.isEmpty && diff.resolved.isEmpty && diff.changed.isEmpty

def sameConditions (a b : Violation) : Bool :=
  a.missingConditions.all b.missingConditions.contains && b.missingConditions.all a.missingConditions.contains

def idsWhere (run : SortedMap String Violation) (test : String → Violation → Bool) : List String :=
  (run.entries.filter fun entry => test entry.1 entry.2).map Prod.fst

/-- What changed since the run before. Where there was none, every violation is new. -/
def between (previous : Option IntegritySnapshot) (current : IntegritySnapshot) : ViolationDiff :=
  match previous with
  | none => { empty with new := current.violations.keys }
  | some previous =>
    { new := idsWhere current.violations fun id _ => !previous.violations.contains id
      resolved := idsWhere previous.violations fun id _ => !current.violations.contains id
      changed := idsWhere current.violations fun id violation =>
        (previous.violations.get? id).any fun before => !sameConditions before violation
      unchanged := idsWhere current.violations fun id violation =>
        (previous.violations.get? id).any fun before => sameConditions before violation }

end ViolationDiff

end Legality
