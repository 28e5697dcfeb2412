import Legality.Data.SortedMap
import Legality.Governance.State

/-!
Where governance is kept: the state of every character, and the log of its changes of mode. A state is
replaced only by whoever knows the present one, so no change overwrites another unseen.
-/
namespace Legality

inductive GovernanceError
  | unauthorized (actor role : String)
  | illegalTransition (source target : String)
  | missingReason
  | conflict (characterId : String)
  | store (reason : String)
  deriving DecidableEq, Repr

namespace GovernanceError

def message : GovernanceError → String
  | unauthorized actor role => "Actor " ++ actor ++ " (" ++ role ++ ") may not change governance settings"
  | illegalTransition source target => "Illegal governance transition: " ++ source ++ " -> " ++ target
  | missingReason => "A reason is required to change governance mode"
  | conflict characterId => "Governance state for " ++ characterId ++ " changed concurrently"
  | store reason => "Governance store error: " ++ reason

def code : GovernanceError → String
  | unauthorized .. => "UNAUTHORIZED"
  | illegalTransition .. => "ILLEGAL_TRANSITION"
  | _ => "GOVERNANCE_ERROR"

end GovernanceError

/-- The four things that can be asked of a store of governance. Each is one step that nothing else interrupts. -/
structure GovernanceStore (σ : Type) where
  state : σ → String → Except GovernanceError GovernanceState
  compareAndSet : σ → String → GovernanceState → GovernanceState → Except GovernanceError Bool × σ
  append : σ → TransitionRecord → Except GovernanceError Unit × σ
  transitions : σ → String → Except GovernanceError (List TransitionRecord)

/-- States and logs by character. -/
structure Ledger where
  states : SortedMap String GovernanceState
  log : SortedMap String (List TransitionRecord)

namespace Ledger

def empty : Ledger := ⟨SortedMap.empty, SortedMap.empty⟩

instance : Inhabited Ledger := ⟨empty⟩

/-- The state of a character; the normal one until it is changed. -/
def state (ledger : Ledger) (characterId : String) : GovernanceState :=
  (ledger.states.get? characterId).getD default

def transitions (ledger : Ledger) (characterId : String) : List TransitionRecord :=
  (ledger.log.get? characterId).getD []

def write (ledger : Ledger) (characterId : String) (next : GovernanceState) : Ledger :=
  { ledger with states := ledger.states.insert characterId next }

def compareAndSet (ledger : Ledger) (characterId : String) (expected next : GovernanceState) :
    Bool × Ledger :=
  if ledger.state characterId = expected then (true, ledger.write characterId next) else (false, ledger)

def append (ledger : Ledger) (record : TransitionRecord) : Ledger :=
  { ledger with
    log := ledger.log.insert record.characterId (ledger.transitions record.characterId ++ [record]) }

def store : GovernanceStore Ledger where
  state ledger characterId := .ok (ledger.state characterId)
  compareAndSet ledger characterId expected next :=
    let (done, ledger) := ledger.compareAndSet characterId expected next
    (.ok done, ledger)
  append ledger record := (.ok (), ledger.append record)
  transitions ledger characterId := .ok (ledger.transitions characterId)

end Ledger

/-!
A ledger behind which things go wrong: one of its steps fails, a replacement is lost, or somebody else writes
just before one.
-/

inductive Failure
  | none
  | state
  | compareAndSet
  | append
  | transitions
  | lostWrite
  deriving DecidableEq, Repr, Inhabited

/-- A ledger with a failure, and a state that somebody else is about to write. -/
structure DisturbedLedger where
  ledger : Ledger
  failure : Failure
  intruder : Option GovernanceState

namespace DisturbedLedger

def unavailable (step : String) : GovernanceError := .store (step ++ " unavailable")

def afterIntruder (disturbed : DisturbedLedger) (characterId : String) : DisturbedLedger :=
  match disturbed.intruder with
  | some next => { disturbed with ledger := disturbed.ledger.write characterId next, intruder := none }
  | none => disturbed

def store : GovernanceStore DisturbedLedger where
  state disturbed characterId :=
    if disturbed.failure = .state then .error (unavailable "state")
    else .ok (disturbed.ledger.state characterId)
  compareAndSet disturbed characterId expected next :=
    let disturbed := disturbed.afterIntruder characterId
    if disturbed.failure = .compareAndSet then (.error (unavailable "compare_and_set"), disturbed)
    else if disturbed.failure = .lostWrite then (.ok false, disturbed)
    else
      let (done, ledger) := disturbed.ledger.compareAndSet characterId expected next
      (.ok done, { disturbed with ledger := ledger })
  append disturbed record :=
    if disturbed.failure = .append then (.error (unavailable "append_transition"), disturbed)
    else (.ok (), { disturbed with ledger := disturbed.ledger.append record })
  transitions disturbed characterId :=
    if disturbed.failure = .transitions then .error (unavailable "transitions")
    else .ok (disturbed.ledger.transitions characterId)

end DisturbedLedger

end Legality
