import Legality.Governance.Ledger
import Legality.Proofs.Governance.Ledger

/-!
Requests on a store whose steps may fail. Every step fails closed, but a request takes several: when the record cannot
be added, the state has already been replaced.
-/
namespace Legality

namespace GovernanceStore

variable {σ : Type}

/-- How a step of a store may come out, given what the ledger that is kept in it answers to the same step and what
becomes of it. -/
inductive Follows {α : Type} (view : σ → Ledger) (sound : σ → Prop) (before : σ) (due : α × Ledger) :
    Except GovernanceError α × σ → Prop
  | failed {error : GovernanceError} {after : σ} (good : sound after) (same : view after = view before) :
      Follows view sound before due (.error error, after)
  | done {after : σ} (good : sound after) (changed : view after = due.2) :
      Follows view sound before due (.ok due.1, after)

/-- Whether a store keeps a ledger: each step fails and changes nothing, or does what the ledger does. -/
structure Keeps (store : GovernanceStore σ) (view : σ → Ledger) (sound : σ → Prop) : Prop where
  state : ∀ before, sound before → ∀ characterId current, store.state before characterId = .ok current →
    current = (view before).state characterId
  compareAndSet : ∀ before, sound before → ∀ characterId expected next,
    Follows view sound before ((view before).compareAndSet characterId expected next)
      (store.compareAndSet before characterId expected next)
  append : ∀ before, sound before → ∀ record,
    Follows view sound before ((), (view before).append record) (store.append before record)
  transitions : ∀ before, sound before → ∀ characterId log, store.transitions before characterId = .ok log →
    log = (view before).transitions characterId

namespace Follows

variable {α : Type} {view : σ → Ledger} {sound : σ → Prop} {before after : σ} {due : α × Ledger}

theorem view_of_error {error : GovernanceError} (follows : Follows view sound before due (.error error, after)) :
    view after = view before := by
  cases follows with
  | failed good same => exact same

theorem view_of_ok {result : α} (follows : Follows view sound before due (.ok result, after)) :
    sound after ∧ view after = due.2 := by
  cases follows with
  | done good changed => exact ⟨good, changed⟩

end Follows

end GovernanceStore

namespace GovernanceRequest

variable {σ : Type} {store : GovernanceStore σ} {view : σ → Ledger} {sound : σ → Prop} {request : GovernanceRequest}
  {requireReason : Bool} {now : Instant} {before after : σ} {plan : Plan} {error : GovernanceError}

/-- The ways in which a request can fail, one for each of its steps. -/
inductive Fails (request : GovernanceRequest) (store : GovernanceStore σ) (requireReason : Bool) (now : Instant)
    (before : σ) : GovernanceError → σ → Prop
  | reading {error : GovernanceError} (read : request.read store requireReason now before = .error error) :
      Fails request store requireReason now before error before
  | replacing {plan : Plan} {error : GovernanceError} {after : σ}
      (read : request.read store requireReason now before = .ok plan)
      (replace : request.replace store plan before = (.error error, after)) :
      Fails request store requireReason now before error after
  | recording {plan : Plan} {replaced : σ} {error : GovernanceError} {after : σ}
      (read : request.read store requireReason now before = .ok plan)
      (replace : request.replace store plan before = (.ok (), replaced))
      (log : plan.log store replaced = (.error error, after)) :
      Fails request store requireReason now before error after

theorem run_error_cases (failed : request.run store requireReason now before = (.error error, after)) :
    request.Fails store requireReason now before error after := by
  rw [run] at failed
  split at failed
  next refusal read =>
    obtain ⟨⟨⟩, rfl⟩ := Prod.mk.inj failed
    exact .reading read
  next plan read =>
    split at failed
    next obstacle state replace =>
      obtain ⟨⟨⟩, rfl⟩ := Prod.mk.inj failed
      exact .replacing read replace
    next replaced replace =>
      split at failed
      next obstacle state log =>
        obtain ⟨⟨⟩, rfl⟩ := Prod.mk.inj failed
        exact .recording read replace log
      next => simp at failed

def Unrecorded (request : GovernanceRequest) (store : GovernanceStore σ) (requireReason : Bool) (now : Instant)
    (before : σ) (plan : Plan) : Prop :=
  request.read store requireReason now before = .ok plan ∧
    ∃ replaced error after, request.replace store plan before = (.ok (), replaced) ∧
      plan.log store replaced = (.error error, after)

theorem record_of_log_error (failed : plan.log store before = (.error error, after)) :
    ∃ record, plan.record = some record := by
  cases leaves : plan.record with
  | none => simp [Plan.log, leaves] at failed
  | some record => exact ⟨record, rfl⟩

section Keeps

variable (keeps : store.Keeps view sound) (good : sound before)
include keeps good

theorem plan_of_read (read : request.read store requireReason now before = .ok plan) :
    request.plan now ((view before).state request.characterId) = .ok plan := by
  obtain ⟨-, current, told, planned⟩ := read_ok.mp read
  exact keeps.state before good request.characterId current told ▸ planned

theorem follows_replace (stands : (view before).state request.characterId = plan.current) :
    GovernanceStore.Follows view sound before ((), (view before).write request.characterId plan.next)
      (request.replace store plan before) := by
  have follows := keeps.compareAndSet before good request.characterId plan.current plan.next
  -- Nobody came in between, so a replacement that does not fail is not refused either.
  rw [Ledger.compareAndSet, if_pos stands] at follows
  rw [replace]
  generalize store.compareAndSet before request.characterId plan.current plan.next = outcome at follows ⊢
  cases follows with
  | failed good same => exact .failed good same
  | done good changed => exact .done good changed

theorem follows_log :
    GovernanceStore.Follows view sound before ((), (view before).file plan.record) (plan.log store before) := by
  cases plan with
  | mk current next record =>
    cases record with
    | none => exact .done good rfl
    | some record => exact keeps.append before good record

theorem view_of_replace_error (read : request.read store requireReason now before = .ok plan)
    (replace : request.replace store plan before = (.error error, after)) : view after = view before := by
  have follows := follows_replace keeps good (plan_current (plan_of_read keeps good read)).symm
  rw [replace] at follows
  exact follows.view_of_error

/-- A failure to record a replacement leaves the replacement, which is a change of mode. -/
theorem view_of_log_error {replaced : σ} (read : request.read store requireReason now before = .ok plan)
    (replace : request.replace store plan before = (.ok (), replaced))
    (log : plan.log store replaced = (.error error, after)) :
    view after = (view before).write request.characterId plan.next ∧
      plan.next.mode ≠ ((view before).state request.characterId).mode := by
  have planned := plan_of_read keeps good read
  have replacing := follows_replace keeps good (plan_current planned).symm
  rw [replace] at replacing
  obtain ⟨replacedGood, written⟩ := replacing.view_of_ok
  have recording : GovernanceStore.Follows view sound replaced _ (plan.log store replaced) :=
    follows_log keeps replacedGood
  rw [log] at recording
  obtain ⟨record, leaves⟩ := record_of_log_error log
  exact ⟨recording.view_of_error.trans written, (plan_record planned leaves).2⟩

end Keeps

/-- A request that fails leaves all logs as they were. It leaves the states as they were too, unless a state was
replaced and that could not be recorded: then the state that was asked for stands, in another mode than before. -/
theorem run_failed (keeps : store.Keeps view sound) (good : sound before)
    (failed : request.run store requireReason now before = (.error error, after)) :
    (∀ characterId, (view after).transitions characterId = (view before).transitions characterId) ∧
      ((∀ plan, ¬ request.Unrecorded store requireReason now before plan) → view after = view before) ∧
      ∀ plan, request.Unrecorded store requireReason now before plan →
        view after = (view before).write request.characterId plan.next ∧
          plan.next.mode ≠ ((view before).state request.characterId).mode := by
  cases run_error_cases failed with
  | reading read =>
    refine ⟨fun _ => rfl, fun _ => rfl, ?_⟩
    rintro plan ⟨planned, -⟩
    rw [read] at planned
    contradiction
  | @replacing plan _ _ read replace =>
    have same : view after = view before := view_of_replace_error keeps good read replace
    refine ⟨fun _ => congrArg (Ledger.transitions · _) same, fun _ => same, ?_⟩
    rintro other ⟨otherRead, replaced, -, -, otherReplace, -⟩
    obtain rfl := Except.ok.inj (read.symm.trans otherRead)
    rw [replace] at otherReplace
    simp at otherReplace
  | @recording plan replaced _ _ read replace log =>
    have left := view_of_log_error keeps good read replace log
    refine ⟨?_, ?_, ?_⟩
    · intro characterId
      rw [left.1, Ledger.transitions_write]
    · intro recorded
      exact absurd ⟨read, replaced, _, _, replace, log⟩ (recorded plan)
    · rintro other ⟨otherRead, -⟩
      obtain rfl := Except.ok.inj (read.symm.trans otherRead)
      exact left

end GovernanceRequest

namespace DisturbedLedger

open GovernanceRequest (Unrecorded run_failed)

def Sound (disturbed : DisturbedLedger) : Prop := disturbed.failure ≠ .lostWrite ∧ disturbed.intruder = none

instance : DecidablePred Sound := fun _ => inferInstanceAs (Decidable (_ ∧ _))

theorem keeps : store.Keeps ledger Sound where
  state := by
    intro before good characterId current told
    simp only [store] at told
    split at told
    · contradiction
    · exact (Except.ok.inj told).symm
  compareAndSet := by
    intro before good characterId expected next
    have alone : before.afterIntruder characterId = before := by rw [afterIntruder, good.2]
    simp only [store, alone, if_neg good.1]
    split
    · exact .failed good rfl
    · exact .done good rfl
  append := by
    intro before good record
    simp only [store]
    split
    · exact .failed good rfl
    · exact .done good rfl
  transitions := by
    intro before good characterId log told
    simp only [store] at told
    split at told
    · contradiction
    · exact (Except.ok.inj told).symm

def waiver : GovernanceRequest := ⟨"pc-1", ⟨"gm-1", "Game Master", .gameMaster⟩, .mode .override "Story reward"⟩

theorem run_failed_waiver :
    let outcome := waiver.run store true ⟨1714586400, 0⟩ ⟨.empty, .compareAndSet, none⟩
    outcome.1 = .error (unavailable "compare_and_set") ∧ outcome.2.ledger = .empty := by
  intro outcome
  have failed : outcome.1 = .error (unavailable "compare_and_set") := rfl
  have good : Sound ⟨.empty, .compareAndSet, none⟩ := by decide
  have recorded : ∀ plan, ¬ waiver.Unrecorded store true ⟨1714586400, 0⟩ ⟨.empty, .compareAndSet, none⟩ plan := by
    rintro plan ⟨-, replaced, -, -, replace, -⟩
    simp [GovernanceRequest.replace, store, afterIntruder] at replace
  exact ⟨failed, (run_failed keeps good (Prod.ext failed rfl)).2.1 recorded⟩

/-- Where records cannot be added, a waiver fails and yet takes effect. -/
theorem run_unrecorded_waiver :
    let before : DisturbedLedger := ⟨.empty, .append, none⟩
    let outcome := waiver.run store true ⟨1714586400, 0⟩ before
    store.Keeps ledger Sound ∧ before.Sound ∧ outcome.1 = .error (unavailable "append_transition") ∧
      outcome.2.ledger.state "pc-1" ≠ before.ledger.state "pc-1" := by
  intro before outcome
  have replaced : outcome.2.ledger.state "pc-1" ≠ before.ledger.state "pc-1" := by decide
  exact ⟨keeps, by decide, rfl, replaced⟩

end DisturbedLedger

end Legality
