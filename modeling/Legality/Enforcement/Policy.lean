import Legality.Enforcement.Severity
import Legality.Governance.State

/-!
Enforcement: what becomes of an action, given the governance mode, the strictness of the table, and the
severity and number of violations. A blocked action is an answer and no error.
-/
namespace Legality

inductive Verdict
  | allow
  | warn
  | block
  deriving DecidableEq, Repr, Inhabited

namespace Verdict

def all : List Verdict := [allow, warn, block]

def label : Verdict → String
  | allow => "allow"
  | warn => "warn"
  | block => "block"

def permits : Verdict → Bool
  | block => false
  | _ => true

end Verdict

structure Case where
  mode : Mode
  strict : Bool
  severity : Severity
  count : Nat
  deriving DecidableEq, Repr

structure Decision where
  verdict : Verdict
  reason : String
  facts : Case
  deriving DecidableEq, Repr

/-- The verdict of a case and its reason. Modes other than the normal one allow everything. -/
def Case.judge (facts : Case) : Verdict × String :=
  let violations := toString facts.count ++ " violation(s)"
  match facts.mode, facts.severity with
  | .override, _ => (.allow, "GM Override active: " ++ violations ++ " allowed.")
  | .freeBuild, _ => (.allow, "Free Build mode: " ++ violations ++ " allowed.")
  | .normal, .none => (.allow, "No prerequisite violations.")
  | .normal, .warning =>
    if facts.strict then (.block, "Strict enforcement: " ++ violations ++ " must be resolved.")
    else (.warn, violations ++ " detected; proceeding with warning.")
  | .normal, .error => (.block, violations ++ " must be resolved before continuing.")
  | .normal, .structural =>
    (.block, violations ++ " include a structural incompatibility that cannot be resolved.")

def Case.decide (facts : Case) : Decision :=
  ⟨facts.judge.1, facts.judge.2, facts⟩

/-- Decisions made so far, each under its case, up to a capacity. A decision depends on nothing but its case,
so a remembered one never goes stale. -/
structure DecisionCache where
  capacity : Nat
  entries : List (Case × Decision)

namespace DecisionCache

def withCapacity (capacity : Nat) : DecisionCache := ⟨capacity, []⟩

def remembered? (cache : DecisionCache) (facts : Case) : Option Decision :=
  (cache.entries.find? fun entry => entry.1 == facts).map Prod.snd

def remember (cache : DecisionCache) (facts : Case) (decision : Decision) : DecisionCache :=
  if cache.entries.length < cache.capacity then { cache with entries := (facts, decision) :: cache.entries }
  else cache

def decide (cache : DecisionCache) (facts : Case) : Decision × DecisionCache :=
  match cache.remembered? facts with
  | some decision => (decision, cache)
  | none => (facts.decide, cache.remember facts facts.decide)

def size (cache : DecisionCache) : Nat := cache.entries.length

end DecisionCache

end Legality
