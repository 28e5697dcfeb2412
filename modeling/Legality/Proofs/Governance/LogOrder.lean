import Legality.Proofs.Governance.Interleaving
import Mathlib.Data.Fin.VecNotation
import Mathlib.Data.List.Perm.Basic

/-!
The order of the audit log where calls are under way at the same time. A log lists its records in the order in which
they were added. Once all calls have returned these are the records of the changes that took effect, but one change
may overtake another on its way into the log.
-/
namespace Legality.Traffic

open GovernanceRequest (Plan)

variable {ι : Type}

def recordsIn (entries : List (ι × Plan)) : List TransitionRecord := entries.filterMap fun entry => entry.2.record

def concerns (characterId : String) (plan : Plan) : Bool :=
  plan.record.any fun record => record.characterId = characterId

def concerning (characterId : String) (entries : List (ι × Plan)) : List (ι × Plan) :=
  entries.filter fun entry => concerns characterId entry.2

theorem recordsIn_snoc (entries : List (ι × Plan)) (i : ι) (plan : Plan) :
    recordsIn (entries ++ [(i, plan)]) = recordsIn entries ++ plan.record.toList := by
  rw [recordsIn, List.filterMap_append]
  cases record : plan.record with
  | none => simp [recordsIn, record]
  | some record => simp [recordsIn, record]

theorem concerning_snoc (characterId : String) (entries : List (ι × Plan)) (i : ι) (plan : Plan) :
    concerning characterId (entries ++ [(i, plan)]) =
      concerning characterId entries ++ if concerns characterId plan = true then [(i, plan)] else [] := by
  simp only [concerning, List.filter_append, List.filter_cons, List.filter_nil]

theorem recordsIn_concerning (characterId : String) (entries : List (ι × Plan)) :
    recordsIn (concerning characterId entries) = Ledger.recordsOf characterId (recordsIn entries) := by
  rw [recordsIn, concerning, Ledger.recordsOf, recordsIn, List.filterMap_filter, List.filter_filterMap]
  apply List.filterMap_congr
  rintro ⟨i, plan⟩ _
  cases record : plan.record with
  | none => simp [concerns, record]
  | some record => simp [concerns, record, Option.filter]

variable {calls : ι → GovernanceCall} {traffic reached : Traffic ι} {i : ι} {plan : Plan} {characterId : String}

namespace Accounted

theorem pending (accounted : Accounted calls traffic) (replaced : (i, plan) ∈ traffic.replaced)
    (unrecorded : (i, plan) ∉ traffic.recorded) : traffic.phase i = .replaced plan := by
  have effective := (accounted.replaced.mem_iff i plan).mp replaced
  rw [Function.comp_apply] at effective
  cases phase : traffic.phase i with
  | waiting | planned _ | failed _ => simp [phase, Phase.effective?] at effective
  | replaced carriedOut =>
    rw [phase] at effective
    rw [Option.some.inj effective]
  | recorded carriedOut =>
    rw [phase] at effective
    obtain rfl := Option.some.inj effective
    exact absurd ((accounted.recorded.mem_iff i carriedOut).mpr (congrArg Phase.recorded? phase)) unrecorded

/-- Once all calls have returned, what was recorded is what was replaced. -/
theorem recorded_perm (accounted : Accounted calls traffic)
    (settled : ∀ i, (traffic.phase i).answer?.isSome = true) : traffic.recorded.Perm traffic.replaced := by
  refine (List.perm_ext_iff_of_nodup accounted.recorded.nodup.of_map accounted.replaced.nodup.of_map).mpr ?_
  rintro ⟨i, plan⟩
  rw [accounted.recorded.mem_iff, accounted.replaced.mem_iff, Function.comp_apply, Function.comp_apply]
  have returned := settled i
  cases phase : traffic.phase i with
  | waiting | planned _ | replaced _ => simp [phase, Phase.answer?] at returned
  | recorded carriedOut => exact Iff.rfl
  | failed error => exact Iff.rfl

/-- The only call that has yet to record for a character is the first whose record is missing. -/
theorem record_inOrder (accounted : Accounted calls traffic)
    (inOrder : concerning characterId traffic.recorded <+: concerning characterId traffic.replaced)
    (phase : traffic.phase i = .replaced plan) (concerned : concerns characterId plan = true)
    (alone : ∀ j other, traffic.phase j = .replaced other → concerns characterId other = true → i = j) :
    concerning characterId traffic.recorded ++ [(i, plan)] <+: concerning characterId traffic.replaced := by
  have once : (concerning characterId traffic.replaced).Nodup := accounted.replaced.nodup.of_map.filter _
  have listed : (i, plan) ∈ concerning characterId traffic.replaced :=
    List.mem_filter.mpr ⟨(accounted.replaced.mem_iff i plan).mpr (congrArg Phase.effective? phase), concerned⟩
  obtain ⟨missing, whole⟩ := inOrder
  -- Whoever comes first among those whose record is missing has replaced a state, so it is the call itself.
  cases missing with
  | nil =>
    rw [← whole, List.append_nil] at listed
    have recorded := (accounted.recorded.mem_iff i plan).mp (List.mem_of_mem_filter listed)
    rw [Function.comp_apply, phase] at recorded
    contradiction
  | cons first rest =>
    obtain ⟨j, other⟩ := first
    have missed : (j, other) ∈ concerning characterId traffic.replaced := by
      rw [← whole]
      exact List.mem_append_right _ List.mem_cons_self
    obtain ⟨otherReplaced, otherConcerned⟩ := List.mem_filter.mp missed
    have otherUnrecorded : (j, other) ∉ traffic.recorded := by
      intro recorded
      rw [← whole] at once
      have twice : (j, other) ∈ concerning characterId traffic.recorded :=
        List.mem_filter.mpr ⟨recorded, otherConcerned⟩
      exact (List.nodup_append.mp once).2.2 _ twice _ List.mem_cons_self rfl
    have otherPhase := accounted.pending otherReplaced otherUnrecorded
    obtain rfl := alone j other otherPhase otherConcerned
    obtain rfl := Phase.replaced.inj (phase.symm.trans otherPhase)
    rw [← whole]
    exact ⟨rest, List.append_assoc _ _ _⟩

end Accounted

variable [DecidableEq ι]

/-- Whether the log of every character lists what was recorded, and the log of the calls that are run whole what was
replaced. -/
structure Logged (calls : ι → GovernanceCall) (traffic : Traffic ι) : Prop where
  log : ∀ characterId, traffic.ledger.transitions characterId =
    Ledger.recordsOf characterId (recordsIn traffic.recorded)
  whole : ∀ characterId, (traffic.whole calls).ledger.transitions characterId =
    Ledger.recordsOf characterId (recordsIn traffic.replaced)

theorem Logged.step (logged : Logged calls traffic) (accounted : Accounted calls traffic)
    (serial : Serial calls traffic) (taken : Step calls traffic i reached) : Logged calls reached := by
  cases taken with
  | refused phase read => exact ⟨logged.log, logged.whole⟩
  | planned phase read => exact ⟨logged.log, logged.whole⟩
  | late phase changed => exact ⟨logged.log, logged.whole⟩
  | @replaced plan phase stands =>
    have extended := whole_replaced accounted phase ((serial.state _).symm.trans stands)
    refine ⟨logged.log, ?_⟩
    intro characterId
    rw [Traffic.whole, order, extended, Ledger.transitions_carryOut, logged.whole, recordsIn_snoc,
      Ledger.recordsOf_append]
  | @recorded plan phase =>
    refine ⟨?_, logged.whole⟩
    intro characterId
    rw [Ledger.transitions_file, logged.log, recordsIn_snoc, Ledger.recordsOf_append]
  | idle answer => exact logged

theorem Logged.after (calls : ι → GovernanceCall) (schedule : List ι) :
    Logged calls (Traffic.after calls schedule) := by
  induction schedule using List.reverseRecOn with
  | nil => exact ⟨fun _ => rfl, fun _ => rfl⟩
  | append_singleton earlier i ih =>
    rw [after_snoc]
    exact ih.step (Accounted.after calls earlier) (Serial.after calls earlier) (step_cases calls _ i)

/-- Whether at no moment of a schedule two calls have changed the mode of a character and have yet to record that. -/
def Exclusive (calls : ι → GovernanceCall) (schedule : List ι) (characterId : String) : Prop :=
  ∀ earlier, earlier <+: schedule → ∀ i j plan other,
    (after calls earlier).phase i = .replaced plan → concerns characterId plan = true →
      (after calls earlier).phase j = .replaced other → concerns characterId other = true → i = j

theorem Exclusive.inOrder {schedule : List ι} (exclusive : Exclusive calls schedule characterId) :
    concerning characterId (after calls schedule).recorded <+:
      concerning characterId (after calls schedule).replaced := by
  induction schedule using List.reverseRecOn with
  | nil => exact List.prefix_rfl
  | append_singleton earlier i ih =>
    have inOrder := ih fun before isBefore => exclusive before (isBefore.trans (List.prefix_append earlier [i]))
    have taken := step_cases calls (after calls earlier) i
    rw [after_snoc]
    generalize (after calls earlier).step calls i = reached at taken ⊢
    cases taken with
    | refused phase read => exact inOrder
    | planned phase read => exact inOrder
    | late phase changed => exact inOrder
    | replaced phase stands =>
      rw [concerning_snoc]
      exact inOrder.trans (List.prefix_append _ _)
    | @recorded plan phase =>
      rw [concerning_snoc]
      by_cases concerned : concerns characterId plan = true
      · rw [if_pos concerned]
        refine (Accounted.after calls earlier).record_inOrder inOrder phase concerned ?_
        intro j other otherPhase otherConcerned
        exact exclusive earlier (List.prefix_append earlier [i]) i j plan other phase concerned otherPhase
          otherConcerned
      · rw [if_neg concerned, List.append_nil]
        exact inOrder
    | idle answer => exact inOrder

/-- Once all calls have returned, the log of a character is a rearrangement of the log of the calls whose
replacements succeeded, run whole in the order of the replacements. If the records of the character were added in
that order, it is the same log, and it leads from normal enforcement to the present mode. They are added in that
order if no two of them are missing at a time. -/
theorem log_order (calls : ι → GovernanceCall) (schedule : List ι)
    (settled : ∀ i, ((after calls schedule).phase i).answer?.isSome = true) (characterId : String) :
    let traffic := after calls schedule
    let whole := Proceedings.ofCalls (traffic.order.map calls)
    (traffic.ledger.transitions characterId).Perm (whole.ledger.transitions characterId) ∧
      (concerning characterId traffic.recorded = concerning characterId traffic.replaced →
        traffic.ledger.transitions characterId = whole.ledger.transitions characterId ∧
          Mode.normal.Leads (traffic.ledger.transitions characterId) (traffic.ledger.state characterId).mode) ∧
      (Exclusive calls schedule characterId →
        concerning characterId traffic.recorded = concerning characterId traffic.replaced) := by
  intro traffic whole
  have accounted : Accounted calls traffic := Accounted.after calls schedule
  have serial : Serial calls traffic := Serial.after calls schedule
  have logged : Logged calls traffic := Logged.after calls schedule
  have sequential : whole.ledger.transitions characterId = _ := logged.whole characterId
  have rearranged := accounted.recorded_perm settled
  refine ⟨?_, ?_, ?_⟩
  · rw [logged.log, sequential]
    exact (rearranged.filterMap _).filter _
  · intro inOrder
    have same : traffic.ledger.transitions characterId = whole.ledger.transitions characterId := by
      rw [logged.log, sequential, ← recordsIn_concerning, inOrder, recordsIn_concerning]
    refine ⟨same, ?_⟩
    rw [same, serial.state]
    exact (Proceedings.explained_ofCalls _ characterId).leads
  · intro exclusive
    exact exclusive.inOrder.eq_of_length (rearranged.filter _).length_eq

def waiver : GovernanceCall :=
  ⟨⟨"pc-1", ⟨"gm-1", "Game Master", .gameMaster⟩, .mode .override "Story reward"⟩, true, ⟨1714586400, 0⟩⟩

def restoration : GovernanceCall :=
  ⟨⟨"pc-1", ⟨"gm-2", "Second", .gameMaster⟩, .mode .normal "Scene over"⟩, true, ⟨1714586460, 0⟩⟩

theorem log_order_rivals :
    let calls : Fin 3 → GovernanceCall := ![waiver, waiver, restoration]
    let traffic := after calls [0, 1, 0, 1, 0, 2, 2, 2]
    traffic.ledger.transitions "pc-1" = (Proceedings.ofCalls (traffic.order.map calls)).ledger.transitions "pc-1" := by
  intro calls traffic
  have settled : ∀ i, (traffic.phase i).answer?.isSome = true := by decide
  have inOrder : concerning "pc-1" traffic.recorded = concerning "pc-1" traffic.replaced := by decide
  exact ((log_order calls [0, 1, 0, 1, 0, 2, 2, 2] settled "pc-1").2.1 inOrder).1

/-- A return to normal between a waiver and its record is recorded first. Then the newest record stands first in the
log, which leads nowhere. -/
theorem log_overtaken :
    let traffic := after ![waiver, restoration] [0, 0, 1, 1, 1, 0]
    (∀ i, (traffic.phase i).answer?.isSome = true) ∧ traffic.order = [0, 1] ∧
      (traffic.ledger.transitions "pc-1").map TransitionRecord.timestamp = [restoration.now, waiver.now] ∧
      ¬ Mode.normal.Leads (traffic.ledger.transitions "pc-1") (traffic.ledger.state "pc-1").mode := by
  decide

end Legality.Traffic
