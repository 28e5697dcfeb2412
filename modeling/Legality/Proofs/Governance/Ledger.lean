import Legality.Governance.Request
import Legality.Proofs.Data.SortedMap

/-!
What the steps of a request do to a ledger. A replacement changes the state of one character and no log, a record
changes the log of one character and no state, and a request that is run whole does both or nothing.
-/
namespace Legality

namespace Ledger

variable (ledger : Ledger) (characterId other : String)

theorem state_write (next : GovernanceState) :
    (ledger.write characterId next).state other = if other = characterId then next else ledger.state other := by
  rw [state, write, SortedMap.get?_insert]
  split
  · rfl
  · rfl

@[simp] theorem transitions_write (next : GovernanceState) :
    (ledger.write characterId next).transitions other = ledger.transitions other := rfl

def file : Option TransitionRecord → Ledger
  | none => ledger
  | some record => ledger.append record

def recordsOf (characterId : String) (records : List TransitionRecord) : List TransitionRecord :=
  records.filter fun record => record.characterId = characterId

theorem recordsOf_append (earlier later : List TransitionRecord) :
    recordsOf characterId (earlier ++ later) = recordsOf characterId earlier ++ recordsOf characterId later :=
  List.filter_append earlier later

@[simp] theorem state_file (record : Option TransitionRecord) : (ledger.file record).state other = ledger.state other := by
  cases record with
  | none => rfl
  | some record => rfl

theorem transitions_file (record : Option TransitionRecord) :
    (ledger.file record).transitions other = ledger.transitions other ++ recordsOf other record.toList := by
  cases record with
  | none => exact (List.append_nil _).symm
  | some record =>
    rw [file, transitions, append, SortedMap.get?_insert]
    by_cases same : other = record.characterId
    · simp [recordsOf, same]
    · simp [recordsOf, Ne.symm same, if_neg same, transitions]

def carryOut (plan : GovernanceRequest.Plan) : Ledger := (ledger.write characterId plan.next).file plan.record

theorem state_carryOut (plan : GovernanceRequest.Plan) :
    (ledger.carryOut characterId plan).state other = if other = characterId then plan.next else ledger.state other := by
  rw [carryOut, state_file, state_write]

theorem transitions_carryOut (plan : GovernanceRequest.Plan) :
    (ledger.carryOut characterId plan).transitions other =
      ledger.transitions other ++ recordsOf other plan.record.toList := by
  rw [carryOut, transitions_file, transitions_write]

end Ledger

theorem Mode.ne_of_canBecome {source target : Mode} (legal : source.canBecome target = true) : target ≠ source := by
  cases source <;> cases target <;> first | contradiction | decide

namespace GovernanceRequest

variable {request : GovernanceRequest} {requireReason : Bool} {now : Instant} {ledger : Ledger}
  {current : GovernanceState} {plan : Plan} {error : GovernanceError}

/-- What can be planned: a change of visibility, which leaves no record, or a legal change of mode. -/
theorem plan_cases (planned : request.plan now current = .ok plan) :
    (∃ target, request.wish = .visibility target ∧ plan = ⟨current, { current with visibility := target }, none⟩) ∨
      ∃ target reason, request.wish = .mode target reason ∧ current.mode.canBecome target = true ∧
        plan = ⟨current, request.changedMode current target reason now,
          some (request.recordOf current target reason now)⟩ := by
  rw [GovernanceRequest.plan] at planned
  cases wish : request.wish with
  | visibility target =>
    simp only [wish, Except.ok.injEq] at planned
    exact Or.inl ⟨target, rfl, planned.symm⟩
  | mode target reason =>
    by_cases legal : current.mode.canBecome target = true
    · simp only [wish, legal, if_true, Except.ok.injEq] at planned
      exact Or.inr ⟨target, reason, rfl, legal, planned.symm⟩
    · simp [wish, legal] at planned

theorem plan_current (planned : request.plan now current = .ok plan) : plan.current = current := by
  obtain ⟨target, wish, rfl⟩ | ⟨target, reason, wish, legal, rfl⟩ := plan_cases planned
  · rfl
  · rfl

theorem plan_record {record : TransitionRecord} (planned : request.plan now current = .ok plan)
    (leaves : plan.record = some record) :
    record.characterId = request.characterId ∧ plan.next.mode ≠ current.mode := by
  obtain ⟨target, wish, rfl⟩ | ⟨target, reason, wish, legal, rfl⟩ := plan_cases planned
  · contradiction
  · obtain rfl := Option.some.inj leaves
    exact ⟨rfl, Mode.ne_of_canBecome legal⟩

theorem recordsOf_plan (planned : request.plan now current = .ok plan) (characterId : String) :
    Ledger.recordsOf characterId plan.record.toList =
      if request.characterId = characterId then plan.record.toList else [] := by
  cases leaves : plan.record with
  | none => simp [Ledger.recordsOf]
  | some record => simp [Ledger.recordsOf, List.filter_cons, (plan_record planned leaves).1]

section Steps

variable {σ : Type} {store : GovernanceStore σ} {before : σ}

/-- A request is planned when it is not refused and its plan suits the state that the store tells. -/
theorem read_ok : request.read store requireReason now before = .ok plan ↔
    request.refusal? requireReason = none ∧
      ∃ current, store.state before request.characterId = .ok current ∧ request.plan now current = .ok plan := by
  rw [read]
  cases request.refusal? requireReason with
  | some error => simp
  | none =>
    cases store.state before request.characterId with
    | error error => simp
    | ok current => simp

end Steps

theorem read_ledger_ok : request.read Ledger.store requireReason now ledger = .ok plan ↔
    request.refusal? requireReason = none ∧ request.plan now (ledger.state request.characterId) = .ok plan := by
  rw [read_ok]
  simp [Ledger.store]

theorem refusal_ne_conflict (refused : request.refusal? requireReason = some error) (characterId : String) :
    error ≠ .conflict characterId := by
  rintro rfl
  rw [refusal?, Actor.refusal?] at refused
  by_cases privileged : request.actor.role.isPrivileged = true
  · simp only [privileged, if_true] at refused
    cases wish : request.wish with
    | visibility target => simp [wish, Wish.refusal?] at refused
    | mode target reason => simp [wish, Wish.refusal?] at refused
  · simp [privileged] at refused

theorem privileged_of_admitted (admitted : request.refusal? requireReason = none) :
    request.actor.role = .gameMaster ∨ request.actor.role = .admin := by
  rw [refusal?, Actor.refusal?] at admitted
  cases role : request.actor.role with
  | player => simp [role, Role.isPrivileged] at admitted
  | gameMaster => exact Or.inl rfl
  | admin => exact Or.inr rfl

theorem reasoned_of_admitted {target : Mode} {reason : String} (admitted : request.refusal? requireReason = none)
    (wish : request.wish = .mode target reason) (required : requireReason = true) : Text.trim reason ≠ "" := by
  intro blank
  rw [refusal?] at admitted
  cases refused : request.actor.refusal? with
  | some error => simp [refused] at admitted
  | none => simp [refused, wish, Wish.refusal?, required, blank] at admitted

theorem plan_ne_conflict (failed : request.plan now current = .error error) (characterId : String) :
    error ≠ .conflict characterId := by
  rintro rfl
  rw [GovernanceRequest.plan] at failed
  cases wish : request.wish with
  | visibility target => simp [wish] at failed
  | mode target reason =>
    by_cases legal : current.mode.canBecome target = true
    · simp [wish, legal] at failed
    · simp [wish, legal] at failed

theorem read_ledger_ne_conflict (failed : request.read Ledger.store requireReason now ledger = .error error)
    (characterId : String) : error ≠ .conflict characterId := by
  rw [read] at failed
  cases refused : request.refusal? requireReason with
  | some refusal =>
    rw [refused] at failed
    obtain rfl := Except.error.inj failed
    exact refusal_ne_conflict refused characterId
  | none =>
    rw [refused] at failed
    exact plan_ne_conflict failed characterId

theorem replace_ledger : request.replace Ledger.store plan ledger =
    if ledger.state request.characterId = plan.current then
      (.ok (), ledger.write request.characterId plan.next)
    else (.error (.conflict request.characterId), ledger) := by
  rw [replace]
  by_cases stands : ledger.state request.characterId = plan.current
  · simp [Ledger.store, Ledger.compareAndSet, stands]
  · simp [Ledger.store, Ledger.compareAndSet, stands]

theorem log_ledger : plan.log Ledger.store ledger = (.ok (), ledger.file plan.record) := by
  cases plan with
  | mk current next record =>
    cases record with
    | none => rfl
    | some record => rfl

/-- A request that is run whole on a ledger carries out what it plans, and otherwise leaves the ledger alone. -/
theorem run_ledger : request.run Ledger.store requireReason now ledger =
    match request.read Ledger.store requireReason now ledger with
    | .error error => (.error error, ledger)
    | .ok plan => (.ok plan.next, ledger.carryOut request.characterId plan) := by
  rw [run]
  cases read : request.read Ledger.store requireReason now ledger with
  | error error => rfl
  | ok plan =>
    have stands : ledger.state request.characterId = plan.current := (plan_current (read_ledger_ok.mp read).2).symm
    simp only [replace_ledger, if_pos stands, log_ledger]
    rfl

end GovernanceRequest

end Legality
