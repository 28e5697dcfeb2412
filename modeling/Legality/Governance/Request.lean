import Legality.Governance.Ledger
import Legality.Text.Basic

/-!
Requests to change governance. A request takes three steps on a store, between which others may take theirs: it
reads the present state and plans with it, it replaces that state if it still stands, and it records what it did.
A request that nobody may make is refused before anything is read.
-/
namespace Legality

def Actor.refusal? (actor : Actor) : Option GovernanceError :=
  if actor.role.isPrivileged then none else some (.unauthorized actor.id actor.role.label)

inductive Wish
  | mode (target : Mode) (reason : String)
  | visibility (target : Visibility)
  deriving DecidableEq, Repr

def Wish.refusal? (wish : Wish) (requireReason : Bool) : Option GovernanceError :=
  match wish with
  | mode _ reason => if requireReason && (Text.trim reason).isEmpty then some .missingReason else none
  | visibility _ => none

structure GovernanceRequest where
  characterId : String
  actor : Actor
  wish : Wish
  deriving DecidableEq, Repr

namespace GovernanceRequest

def refusal? (request : GovernanceRequest) (requireReason : Bool) : Option GovernanceError :=
  match request.actor.refusal? with
  | some error => some error
  | none => request.wish.refusal? requireReason

/-- What a request comes to: the state that it started from, the state that it leads to, and the record that it
leaves, if it leaves one. -/
structure Plan where
  current : GovernanceState
  next : GovernanceState
  record : Option TransitionRecord
  deriving DecidableEq, Repr

/-- The state after a change of mode. The visibility stays; the audit is that of the change. -/
def changedMode (request : GovernanceRequest) (current : GovernanceState) (target : Mode) (reason : String)
    (now : Instant) : GovernanceState where
  mode := target
  visibility := current.visibility
  approvedBy := some request.actor.id
  reason := if (Text.trim reason).isEmpty then none else some (Text.trim reason)
  changedAt := some now

def recordOf (request : GovernanceRequest) (current : GovernanceState) (target : Mode) (reason : String)
    (now : Instant) : TransitionRecord where
  characterId := request.characterId
  oldMode := current.mode
  newMode := target
  reason := Text.trim reason
  approvedBy := request.actor.id
  timestamp := now

/-- Plans a request with the present state. A change of visibility leaves all else as it is, and no record. -/
def plan (request : GovernanceRequest) (now : Instant) (current : GovernanceState) :
    Except GovernanceError Plan :=
  match request.wish with
  | .visibility target => .ok ⟨current, { current with visibility := target }, none⟩
  | .mode target reason =>
    if current.mode.canBecome target then
      .ok ⟨current, request.changedMode current target reason now,
        some (request.recordOf current target reason now)⟩
    else .error (.illegalTransition current.mode.label target.label)

variable {σ : Type}

/-- The first step: reads the present state and plans with it. The store stays as it is. -/
def read (request : GovernanceRequest) (store : GovernanceStore σ) (requireReason : Bool) (now : Instant)
    (before : σ) : Except GovernanceError Plan :=
  match request.refusal? requireReason with
  | some error => .error error
  | none =>
    match store.state before request.characterId with
    | .error error => .error error
    | .ok current => request.plan now current

/-- The second step: replaces the state that the plan started from, if it still stands. -/
def replace (request : GovernanceRequest) (store : GovernanceStore σ) (plan : Plan) (before : σ) :
    Except GovernanceError Unit × σ :=
  match store.compareAndSet before request.characterId plan.current plan.next with
  | (.error error, after) => (.error error, after)
  | (.ok false, after) => (.error (.conflict request.characterId), after)
  | (.ok true, after) => (.ok (), after)

/-- The third step: records what was done. -/
def Plan.log (plan : Plan) (store : GovernanceStore σ) (before : σ) : Except GovernanceError Unit × σ :=
  match plan.record with
  | none => (.ok (), before)
  | some record => store.append before record

/-- Takes the three steps one right after another. -/
def run (request : GovernanceRequest) (store : GovernanceStore σ) (requireReason : Bool) (now : Instant)
    (before : σ) : Except GovernanceError GovernanceState × σ :=
  match request.read store requireReason now before with
  | .error error => (.error error, before)
  | .ok plan =>
    match request.replace store plan before with
    | (.error error, after) => (.error error, after)
    | (.ok (), replaced) =>
      match plan.log store replaced with
      | (.error error, after) => (.error error, after)
      | (.ok (), after) => (.ok plan.next, after)

end GovernanceRequest

end Legality
