import Legality.Prerequisite.Evaluation

/-!
Severity of violations. It follows from how much is missing and whether it can be made up for; for classes
nothing below an error is reported.
-/
namespace Legality

inductive Severity
  | none
  | warning
  | error
  | structural
  deriving DecidableEq, Repr, Inhabited

namespace Severity

def all : List Severity := [none, warning, error, structural]

def label : Severity → String
  | none => "none"
  | warning => "warning"
  | error => "error"
  | structural => "structural"

def rank : Severity → Nat
  | none => 0
  | warning => 1
  | error => 2
  | structural => 3

theorem rank_injective {a b : Severity} (same : a.rank = b.rank) : a = b := by
  cases a <;> cases b <;> simp_all [rank]

instance : OrderedKey Severity where
  lt a b := a.rank < b.rank
  decidableLT a b := Nat.decLt a.rank b.rank
  decidableEq := inferInstance
  irrefl a := Nat.lt_irrefl a.rank
  trans := Nat.lt_trans
  connected notBelow different :=
    Nat.lt_of_le_of_ne (Nat.not_lt.mp notBelow) fun same => different (rank_injective same.symm)

def max (a b : Severity) : Severity := if a.rank ≤ b.rank then b else a

def overall (severities : List Severity) : Severity := severities.foldl max none

end Severity

namespace EvaluationResult

/-- The number of unmet requirements from which on a violation is an error. -/
def errorThreshold : Nat := 3

def severity (result : EvaluationResult) : Severity :=
  if result.permanentlyBlocked then .structural
  else if result.satisfied then .none
  else if errorThreshold ≤ result.unmetCount then .error
  else .warning

/-- Severity of a violation on an ability of a kind. A class level taken without qualifying is an error
however little is missing. -/
def severityFor (result : EvaluationResult) (kind : AbilityKind) : Severity :=
  if kind = .characterClass ∧ result.severity = .warning then .error else result.severity

end EvaluationResult

end Legality
