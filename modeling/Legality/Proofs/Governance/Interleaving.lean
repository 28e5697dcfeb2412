import Legality.Proofs.Governance.Audit
import Mathlib.Data.List.Nodup
import Mathlib.Logic.Function.Basic

/-!
Calls that are under way at the same time. Each call takes its three steps when its turn comes, and any call may be
next. Since a replacement succeeds only where the state still is the one that was planned with, the states are those
of the successful calls run whole, in the order of their replacements.
-/
namespace Legality

open GovernanceRequest (Plan)

/-- How far a call has come. -/
inductive Phase
  | waiting
  | planned (plan : Plan)
  | replaced (plan : Plan)
  | recorded (plan : Plan)
  | failed (error : GovernanceError)

namespace Phase

def effective? : Phase → Option Plan
  | replaced plan => some plan
  | recorded plan => some plan
  | _ => none

def recorded? : Phase → Option Plan
  | recorded plan => some plan
  | _ => none

def answer? : Phase → Option (Except GovernanceError GovernanceState)
  | recorded plan => some (.ok plan.next)
  | failed error => some (.error error)
  | _ => none

end Phase

/-- Calls under way on one ledger. The plans that have replaced a state and the plans that were recorded are listed
with their calls, in the order in which it happened. -/
structure Traffic (ι : Type) where
  ledger : Ledger
  phase : ι → Phase
  replaced : List (ι × Plan)
  recorded : List (ι × Plan)

namespace GovernanceCall

variable {call : GovernanceCall} {ledger : Ledger} {plan : Plan}

def Plans (call : GovernanceCall) (plan : Plan) : Prop :=
  call.request.refusal? call.requireReason = none ∧ call.request.plan call.now plan.current = .ok plan

theorem read_ok : call.read ledger = .ok plan ↔
    call.Plans plan ∧ ledger.state call.request.characterId = plan.current := by
  rw [GovernanceCall.read, GovernanceRequest.read_ledger_ok, Plans]
  constructor
  · rintro ⟨admitted, planned⟩
    have current := GovernanceRequest.plan_current planned
    exact ⟨⟨admitted, current ▸ planned⟩, current.symm⟩
  · rintro ⟨⟨admitted, planned⟩, current⟩
    exact ⟨admitted, current ▸ planned⟩

end GovernanceCall

namespace Traffic

variable {ι : Type}

def opening : Traffic ι := ⟨.empty, fun _ => .waiting, [], []⟩

def order (traffic : Traffic ι) : List ι := traffic.replaced.map Prod.fst

/-- What comes of the calls that have replaced a state if they are run whole in the order of their replacements. -/
def whole (calls : ι → GovernanceCall) (traffic : Traffic ι) : Proceedings :=
  .ofCalls (traffic.order.map calls)

structure Lists (entries : List (ι × Plan)) (plans : ι → Option Plan) : Prop where
  nodup : (entries.map Prod.fst).Nodup
  mem_iff : ∀ i plan, (i, plan) ∈ entries ↔ plans i = some plan

/-- How the phases of the calls and the two lists hang together: a plan is the one that its call makes with the
state that it starts from, and a call is listed once it has replaced a state, and again once it has recorded that. -/
structure Accounted (calls : ι → GovernanceCall) (traffic : Traffic ι) : Prop where
  planned : ∀ i plan, traffic.phase i = .planned plan → (calls i).Plans plan
  replaced : Lists traffic.replaced (Phase.effective? ∘ traffic.phase)
  recorded : Lists traffic.recorded (Phase.recorded? ∘ traffic.phase)

theorem Accounted.opening (calls : ι → GovernanceCall) : Accounted calls opening where
  planned _ _ phase := by contradiction
  replaced := ⟨List.nodup_nil, by simp [Traffic.opening, Phase.effective?]⟩
  recorded := ⟨List.nodup_nil, by simp [Traffic.opening, Phase.recorded?]⟩

variable [DecidableEq ι]

def enter (traffic : Traffic ι) (i : ι) (phase : Phase) : Traffic ι :=
  { traffic with phase := Function.update traffic.phase i phase }

def step (calls : ι → GovernanceCall) (traffic : Traffic ι) (i : ι) : Traffic ι :=
  match traffic.phase i with
  | .waiting =>
    match (calls i).read traffic.ledger with
    | .error error => traffic.enter i (.failed error)
    | .ok plan => traffic.enter i (.planned plan)
  | .planned plan =>
    match (calls i).request.replace Ledger.store plan traffic.ledger with
    | (.error error, ledger) => { traffic.enter i (.failed error) with ledger := ledger }
    | (.ok (), ledger) =>
      { traffic.enter i (.replaced plan) with ledger := ledger, replaced := traffic.replaced ++ [(i, plan)] }
  | .replaced plan =>
    match plan.log Ledger.store traffic.ledger with
    | (.error error, ledger) => { traffic.enter i (.failed error) with ledger := ledger }
    | (.ok (), ledger) =>
      { traffic.enter i (.recorded plan) with ledger := ledger, recorded := traffic.recorded ++ [(i, plan)] }
  | .recorded _ => traffic
  | .failed _ => traffic

/-- The traffic after the steps of a schedule, which names the call whose turn it is. -/
def after (calls : ι → GovernanceCall) (schedule : List ι) : Traffic ι := schedule.foldl (step calls) opening

/-- What one step of a call can do. -/
inductive Step (calls : ι → GovernanceCall) (traffic : Traffic ι) (i : ι) : Traffic ι → Prop
  | refused {error : GovernanceError} (phase : traffic.phase i = .waiting)
      (read : (calls i).read traffic.ledger = .error error) :
      Step calls traffic i (traffic.enter i (.failed error))
  | planned {plan : Plan} (phase : traffic.phase i = .waiting) (read : (calls i).read traffic.ledger = .ok plan) :
      Step calls traffic i (traffic.enter i (.planned plan))
  | late {plan : Plan} (phase : traffic.phase i = .planned plan)
      (changed : traffic.ledger.state (calls i).request.characterId ≠ plan.current) :
      Step calls traffic i (traffic.enter i (.failed (.conflict (calls i).request.characterId)))
  | replaced {plan : Plan} (phase : traffic.phase i = .planned plan)
      (stands : traffic.ledger.state (calls i).request.characterId = plan.current) :
      Step calls traffic i
        { traffic.enter i (.replaced plan) with
          ledger := traffic.ledger.write (calls i).request.characterId plan.next
          replaced := traffic.replaced ++ [(i, plan)] }
  | recorded {plan : Plan} (phase : traffic.phase i = .replaced plan) :
      Step calls traffic i
        { traffic.enter i (.recorded plan) with
          ledger := traffic.ledger.file plan.record
          recorded := traffic.recorded ++ [(i, plan)] }
  | idle {outcome : Except GovernanceError GovernanceState} (answer : (traffic.phase i).answer? = some outcome) :
      Step calls traffic i traffic

variable {calls : ι → GovernanceCall} {traffic reached : Traffic ι} {i : ι}

theorem step_cases (calls : ι → GovernanceCall) (traffic : Traffic ι) (i : ι) :
    Step calls traffic i (traffic.step calls i) := by
  cases phase : traffic.phase i with
  | waiting =>
    cases read : (calls i).read traffic.ledger with
    | error error =>
      simp only [step, phase, read]
      exact .refused phase read
    | ok plan =>
      simp only [step, phase, read]
      exact .planned phase read
  | planned plan =>
    by_cases stands : traffic.ledger.state (calls i).request.characterId = plan.current
    · simp only [step, phase, GovernanceRequest.replace_ledger, if_pos stands]
      exact .replaced phase stands
    · simp only [step, phase, GovernanceRequest.replace_ledger, if_neg stands]
      exact .late phase stands
  | replaced plan =>
    simp only [step, phase, GovernanceRequest.log_ledger]
    exact .recorded phase
  | recorded plan =>
    simp only [step, phase]
    exact .idle (congrArg Phase.answer? phase)
  | failed error =>
    simp only [step, phase]
    exact .idle (congrArg Phase.answer? phase)

theorem step_uninterrupted (waiting : traffic.phase i = .waiting) :
    let alone := ((traffic.step calls i).step calls i).step calls i
    (alone.phase i).answer? = some ((calls i).run traffic.ledger).1 ∧
      alone.ledger = ((calls i).run traffic.ledger).2 := by
  cases read : (calls i).read traffic.ledger with
  | error error =>
    rw [GovernanceCall.run_of_read_error read]
    simp [step, waiting, read, enter, Phase.answer?]
  | ok plan =>
    have stands := (GovernanceCall.read_ok.mp read).2
    rw [GovernanceCall.run_of_read_ok read]
    simp [step, waiting, read, enter, Phase.answer?, GovernanceRequest.replace_ledger, stands,
      GovernanceRequest.log_ledger, Ledger.carryOut]

theorem after_snoc (calls : ι → GovernanceCall) (schedule : List ι) (i : ι) :
    after calls (schedule ++ [i]) = (after calls schedule).step calls i := by
  rw [after, List.foldl_append]
  rfl

namespace Lists

variable {entries : List (ι × Plan)} {plans : ι → Option Plan} {plan : Plan}

theorem keep {same : Option Plan} (listed : Lists entries plans) (unchanged : plans i = same) :
    Lists entries (Function.update plans i same) := by
  rw [← unchanged, Function.update_eq_self]
  exact listed

theorem snoc (listed : Lists entries plans) (fresh : plans i = none) (plan : Plan) :
    Lists (entries ++ [(i, plan)]) (Function.update plans i (some plan)) where
  nodup := by
    have absent : i ∉ entries.map Prod.fst := by
      intro member
      obtain ⟨⟨j, earlier⟩, listedThere, rfl⟩ := List.mem_map.mp member
      rw [(listed.mem_iff j earlier).mp listedThere] at fresh
      contradiction
    rw [List.map_append]
    exact listed.nodup.append (List.nodup_singleton i) (List.disjoint_singleton.mpr absent)
  mem_iff := by
    intro j other
    rw [List.mem_append, List.mem_singleton, Prod.mk.injEq, listed.mem_iff, Function.update_apply]
    split
    next same => simp [same, fresh, eq_comm]
    next different => simp [different]

end Lists

namespace Accounted

theorem planned_enter (accounted : Accounted calls traffic) {phase : Phase}
    (plans : ∀ plan, phase = .planned plan → (calls i).Plans plan) :
    ∀ j plan, (traffic.enter i phase).phase j = .planned plan → (calls j).Plans plan := by
  intro j plan reached
  simp only [Traffic.enter, Function.update_apply] at reached
  split at reached
  next same => exact same ▸ plans plan reached
  next different => exact accounted.planned j plan reached

theorem enter (accounted : Accounted calls traffic) {phase : Phase}
    (plans : ∀ plan, phase = .planned plan → (calls i).Plans plan)
    (effective : (traffic.phase i).effective? = phase.effective?)
    (recorded : (traffic.phase i).recorded? = phase.recorded?) : Accounted calls (traffic.enter i phase) where
  planned := accounted.planned_enter plans
  replaced := by
    rw [Traffic.enter, Function.comp_update]
    exact accounted.replaced.keep effective
  recorded := by
    rw [Traffic.enter, Function.comp_update]
    exact accounted.recorded.keep recorded

theorem step (accounted : Accounted calls traffic) (taken : Step calls traffic i reached) :
    Accounted calls reached := by
  cases taken with
  | refused phase read => exact accounted.enter (by simp) (by rw [phase]; rfl) (by rw [phase]; rfl)
  | planned phase read =>
    refine accounted.enter ?_ (by rw [phase]; rfl) (by rw [phase]; rfl)
    intro plan entered
    obtain rfl := Phase.planned.inj entered
    exact (GovernanceCall.read_ok.mp read).1
  | late phase changed => exact accounted.enter (by simp) (by rw [phase]; rfl) (by rw [phase]; rfl)
  | @replaced plan phase stands =>
    constructor
    case planned => exact accounted.planned_enter (by simp)
    case replaced =>
      rw [Traffic.enter, Function.comp_update]
      exact accounted.replaced.snoc (by rw [Function.comp_apply, phase]; rfl) plan
    case recorded =>
      rw [Traffic.enter, Function.comp_update]
      exact accounted.recorded.keep (by rw [Function.comp_apply, phase]; rfl)
  | @recorded plan phase =>
    constructor
    case planned => exact accounted.planned_enter (by simp)
    case replaced =>
      rw [Traffic.enter, Function.comp_update]
      exact accounted.replaced.keep (by rw [Function.comp_apply, phase]; rfl)
    case recorded =>
      rw [Traffic.enter, Function.comp_update]
      exact accounted.recorded.snoc (by rw [Function.comp_apply, phase]; rfl) plan
  | idle answer => exact accounted

theorem after (calls : ι → GovernanceCall) (schedule : List ι) : Accounted calls (Traffic.after calls schedule) := by
  induction schedule using List.reverseRecOn with
  | nil => exact opening calls
  | append_singleton earlier i ih =>
    rw [after_snoc]
    exact ih.step (step_cases calls _ i)

end Accounted

omit [DecidableEq ι] in
/-- A replacement that succeeds adds its call to those that are run whole, and there it plans the same, since the
state that it finds is the one that it planned with. -/
theorem whole_replaced (accounted : Accounted calls traffic) {plan : Plan} (phase : traffic.phase i = .planned plan)
    (stands : (traffic.whole calls).ledger.state (calls i).request.characterId = plan.current) :
    Proceedings.ofCalls (((traffic.replaced ++ [(i, plan)]).map Prod.fst).map calls) =
      ⟨(traffic.whole calls).ledger.carryOut (calls i).request.characterId plan,
        (traffic.whole calls).answers ++ [⟨calls i, .ok plan.next⟩]⟩ := by
  -- A plan depends on nothing but the state, so it is the same even if that was another one in the meantime.
  have read : (calls i).read (traffic.whole calls).ledger = .ok plan :=
    GovernanceCall.read_ok.mpr ⟨accounted.planned i plan phase, stands⟩
  rw [List.map_append, List.map_append, List.map_singleton, List.map_singleton, Proceedings.ofCalls_snoc]
  exact Proceedings.take_of_read_ok read

/-- Whether the states and the answers are those of the calls that have replaced a state, run whole in that order. -/
structure Serial (calls : ι → GovernanceCall) (traffic : Traffic ι) : Prop where
  state : ∀ characterId, traffic.ledger.state characterId = (traffic.whole calls).ledger.state characterId
  answers : (traffic.whole calls).answers = traffic.replaced.map fun entry => ⟨calls entry.1, .ok entry.2.next⟩

theorem Serial.step (serial : Serial calls traffic) (accounted : Accounted calls traffic)
    (taken : Step calls traffic i reached) : Serial calls reached := by
  cases taken with
  | refused phase read => exact ⟨serial.state, serial.answers⟩
  | planned phase read => exact ⟨serial.state, serial.answers⟩
  | late phase changed => exact ⟨serial.state, serial.answers⟩
  | @replaced plan phase stands =>
    have extended := whole_replaced accounted phase ((serial.state _).symm.trans stands)
    constructor
    case state =>
      intro characterId
      rw [whole, order, extended, Ledger.state_carryOut, Ledger.state_write, serial.state]
    case answers =>
      rw [whole, order, extended, serial.answers, List.map_append]
      rfl
  | recorded phase =>
    constructor
    case state =>
      intro characterId
      rw [Ledger.state_file]
      exact serial.state characterId
    case answers => exact serial.answers
  | idle answer => exact serial

theorem Serial.after (calls : ι → GovernanceCall) (schedule : List ι) :
    Serial calls (Traffic.after calls schedule) := by
  induction schedule using List.reverseRecOn with
  | nil => exact ⟨fun _ => rfl, rfl⟩
  | append_singleton earlier i ih =>
    rw [after_snoc]
    exact ih.step (Accounted.after calls earlier) (step_cases calls _ i)

def Succeeds (calls : ι → GovernanceCall) (traffic : Traffic ι) (i : ι) : Prop :=
  ∃ plan, traffic.phase i = .planned plan ∧
    (traffic.ledger.compareAndSet (calls i).request.characterId plan.current plan.next).1 = true

/-- A step changes states, and the order of the calls that did so, just where a replacement succeeds. -/
theorem step_effect (calls : ι → GovernanceCall) (traffic : Traffic ι) (i : ι) :
    (Succeeds calls traffic i ∧ (traffic.step calls i).order = traffic.order ++ [i]) ∨
      (¬ Succeeds calls traffic i ∧ (traffic.step calls i).order = traffic.order ∧
        ∀ characterId, (traffic.step calls i).ledger.state characterId = traffic.ledger.state characterId) := by
  have taken := step_cases calls traffic i
  generalize traffic.step calls i = reached at taken ⊢
  cases taken with
  | refused phase read => exact Or.inr ⟨by simp [Succeeds, phase], rfl, fun _ => rfl⟩
  | planned phase read => exact Or.inr ⟨by simp [Succeeds, phase], rfl, fun _ => rfl⟩
  | late phase changed => exact Or.inr ⟨by simp [Succeeds, phase, Ledger.compareAndSet, changed], rfl, fun _ => rfl⟩
  | replaced phase stands =>
    refine Or.inl ⟨⟨_, phase, by simp [Ledger.compareAndSet, stands]⟩, ?_⟩
    rw [order, List.map_append]
    rfl
  | recorded phase => exact Or.inr ⟨by simp [Succeeds, phase], rfl, fun _ => Ledger.state_file _ _ _⟩
  | idle answer =>
    refine Or.inr ⟨?_, rfl, fun _ => rfl⟩
    rintro ⟨plan, phase, stands⟩
    rw [phase] at answer
    contradiction

/-- A call that has replaced a state returns the state that it planned, in its next step at the latest. -/
theorem answer_of_effective {plan : Plan} (effective : (traffic.phase i).effective? = some plan) :
    ((traffic.step calls i).phase i).answer? = some (.ok plan.next) := by
  cases phase : traffic.phase i with
  | waiting | planned _ | failed _ =>
    rw [phase] at effective
    contradiction
  | replaced carriedOut =>
    rw [phase] at effective
    obtain rfl := Option.some.inj effective
    simp [step, phase, GovernanceRequest.log_ledger, enter, Phase.answer?]
  | recorded carriedOut =>
    rw [phase] at effective
    obtain rfl := Option.some.inj effective
    simp [step, phase, Phase.answer?]

/-- No change of governance is lost. At every moment of every interleaving the states are those that the calls whose
replacements succeeded lead to when they are run whole, in the order of the replacements, and each of these calls
returns what it returns there. No other call returns a state, and no step but such a replacement changes one. -/
theorem no_update_lost (calls : ι → GovernanceCall) (schedule : List ι) :
    let traffic := after calls schedule
    let whole := Proceedings.ofCalls (traffic.order.map calls)
    traffic.order.Nodup ∧
      (∀ characterId, traffic.ledger.state characterId = whole.ledger.state characterId) ∧
      List.Forall₂ (fun i answered => answered.call = calls i ∧ (∃ next, answered.outcome = .ok next) ∧
        ((traffic.step calls i).phase i).answer? = some answered.outcome) traffic.order whole.answers ∧
      (∀ i next, (traffic.phase i).answer? = some (.ok next) → i ∈ traffic.order) ∧
      ∀ i, (Succeeds calls traffic i ∧ (traffic.step calls i).order = traffic.order ++ [i]) ∨
        (¬ Succeeds calls traffic i ∧ (traffic.step calls i).order = traffic.order ∧
          ∀ characterId, (traffic.step calls i).ledger.state characterId = traffic.ledger.state characterId) := by
  intro traffic whole
  have accounted : Accounted calls traffic := Accounted.after calls schedule
  have serial : Serial calls traffic := Serial.after calls schedule
  refine ⟨accounted.replaced.nodup, serial.state, ?_, ?_, step_effect calls traffic⟩
  · have answers : whole.answers = _ := serial.answers
    rw [answers, order, List.forall₂_map_left_iff, List.forall₂_map_right_iff, List.forall₂_same]
    rintro ⟨i, plan⟩ member
    exact ⟨rfl, ⟨plan.next, rfl⟩, answer_of_effective ((accounted.replaced.mem_iff i plan).mp member)⟩
  · intro i next answer
    cases phase : traffic.phase i with
    | waiting | planned _ | replaced _ | failed _ => simp [phase, Phase.answer?] at answer
    | recorded plan =>
      have listed : (i, plan) ∈ traffic.replaced :=
        (accounted.replaced.mem_iff i plan).mpr (congrArg Phase.effective? phase)
      exact List.mem_map_of_mem listed

end Traffic

end Legality
