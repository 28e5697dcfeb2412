import Legality.Integrity.Tracker
import Legality.Proofs.Integrity.Slots
import Mathlib.Data.Fin.VecNotation
import Mathlib.Data.Finset.Card
import Mathlib.Data.List.Induction
import Mathlib.Logic.Function.Basic

/-!
Calls on a store that are under way at the same time. Each call takes hold of the slot of its character, does its work
through the hold and lets go, one step at a time, and any call may be next. A slot counts those who hold it, and
none is dropped while somebody does; so whoever holds a slot holds the one that the character has, and a run that is
stored through a hold is found until something else is put in its place.
-/
namespace Legality

/-- A call on a store. -/
inductive StoreCall
  | reevaluate (evaluator : Evaluator) (characterId : String) (snapshot : Snapshot) (now : Instant)
  | put (run : IntegritySnapshot)
  | get (characterId : String)
  | remove (characterId : String)

inductive StoreAnswer
  | report (report : IntegrityReport)
  | stored
  | run (run? : Option IntegritySnapshot)

namespace StoreCall

def characterId : StoreCall → String
  | reevaluate _ characterId _ _ => characterId
  | put run => run.characterId
  | get characterId => characterId
  | remove characterId => characterId

def make (store : IntegrityStore) : StoreCall → StoreAnswer × IntegrityStore
  | reevaluate evaluator characterId snapshot now =>
    let (report, store) := evaluator.reevaluate store characterId snapshot now
    (.report report, store)
  | put run => (.stored, store.put run)
  | get characterId => (.run (store.current? characterId), store)
  | remove characterId =>
    let (taken, store) := store.forget characterId
    (.run taken, store)

/-- Takes hold of the slot of the character, or returns what a call returns that has no use for a slot. -/
def take (store : IntegrityStore) : StoreCall → Except StoreAnswer Hold × IntegrityStore
  | reevaluate _ characterId snapshot now =>
    match Evaluator.runFault? characterId snapshot with
    | some _ => (.error (.report (.failed characterId now)), store)
    | none => (.ok (store.obtain characterId).1, (store.obtain characterId).2)
  | put run => (.ok (store.obtain run.characterId).1, (store.obtain run.characterId).2)
  | get characterId | remove characterId =>
    match store.find characterId with
    | (some held, store) => (.ok held, store)
    | (none, store) => (.error (.run none), store)

def puts? : StoreCall → Option (Option IntegritySnapshot)
  | reevaluate evaluator characterId snapshot now =>
    some (some (.ofList characterId now (evaluator.violations snapshot)))
  | put run => some (some run)
  | get _ => none
  | remove _ => some none

def answer (seen : Option IntegritySnapshot) : StoreCall → StoreAnswer
  | reevaluate evaluator characterId snapshot now =>
    .report (.ofRun seen (.ofList characterId now (evaluator.violations snapshot)))
  | put _ => .stored
  | get _ => .run seen
  | remove _ => .run seen

def access (call : StoreCall) (held : Hold) (store : IntegrityStore) : StoreAnswer × IntegrityStore :=
  match call.puts? with
  | some content => (call.answer (store.exchange held content).1, (store.exchange held content).2)
  | none => (call.answer (store.contentOf held), store)

def removes : StoreCall → Bool
  | remove _ => true
  | _ => false

/-- A call that is made whole takes its steps one after the other. -/
theorem make_eq (call : StoreCall) (store : IntegrityStore) :
    call.make store =
      match call.take store with
      | (.error answer, store) => (answer, store)
      | (.ok held, store) =>
        let (answer, store) := call.access held store
        (answer, if call.removes then (store.release held).dropIdle call.characterId else store.release held) := by
  cases call with
  | reevaluate evaluator characterId snapshot now =>
    rw [make, Evaluator.reevaluate, take]
    cases Evaluator.runFault? characterId snapshot <;> rfl
  | put run => rfl
  | get characterId =>
    rw [make, IntegrityStore.current?, take, IntegrityStore.find]
    cases store.assigned.get? characterId with
    | none => rfl
    | some number =>
      have untouched := store.release_hold ⟨characterId, number⟩
      exact congrArg (Prod.mk _) untouched.symm
  | remove characterId =>
    rw [make, IntegrityStore.forget, take, IntegrityStore.find]
    cases store.assigned.get? characterId <;> rfl

theorem take_cases {store : IntegrityStore} (sound : store.Sound) (call : StoreCall) :
    (∃ answer, call.take store = (.error answer, store)) ∨
      call.take store = (.ok (store.obtain call.characterId).1, (store.obtain call.characterId).2) := by
  cases call with
  | reevaluate evaluator characterId snapshot now =>
    rw [take]
    split
    next => exact .inl ⟨_, rfl⟩
    next => exact .inr rfl
  | put run => exact .inr rfl
  | get characterId | remove characterId =>
    cases found : store.slot? characterId with
    | none => exact .inl ⟨.run none, by rw [take, IntegrityStore.find_of_none sound found]⟩
    | some slot =>
      rw [take, IntegrityStore.find_of_some found]
      exact .inr rfl

/-- A call sees the latest run through its hold, and puts in its place what it puts there. -/
theorem becomes_access {store : IntegrityStore} {held : Hold} (sound : store.Sound) (attached : store.Attached held)
    (call : StoreCall) :
    (call.access held store).1 = call.answer (store.current? held.characterId) ∧
      store.Becomes held.characterId
        (some ⟨call.puts?.getD (store.current? held.characterId), store.holders held.characterId⟩)
        (call.access held store).2 := by
  rw [access]
  cases call.puts? with
  | none =>
    have unchanged := IntegrityStore.Becomes.refl sound held.characterId
    rw [attached.slot? sound] at unchanged
    exact ⟨congrArg call.answer attached.contentOf, unchanged⟩
  | some content =>
    obtain ⟨seen, becomes⟩ := IntegrityStore.becomes_exchange sound attached content
    exact ⟨congrArg call.answer seen, becomes⟩

end StoreCall

inductive StorePhase
  | waiting
  | holding (held : Hold)
  | accessed (held : Hold) (answer : StoreAnswer)
  | released (answer : StoreAnswer)
  | finished (answer : StoreAnswer)

def StorePhase.held? : StorePhase → Option Hold
  | holding held => some held
  | accessed held _ => some held
  | _ => none

def StorePhase.heldId? (phase : StorePhase) : Option String := phase.held?.map Hold.characterId

/-- Calls under way on one store. -/
structure StoreTraffic (ι : Type) where
  store : IntegrityStore
  phase : ι → StorePhase

namespace StoreTraffic

variable {ι : Type}

def opening : StoreTraffic ι := ⟨.empty, fun _ => .waiting⟩

def writes? (calls : ι → StoreCall) (traffic : StoreTraffic ι) (i : ι) : Option (Option IntegritySnapshot) :=
  match traffic.phase i with
  | .holding _ => (calls i).puts?
  | _ => none

variable [DecidableEq ι]

def turn (traffic : StoreTraffic ι) (i : ι) (store : IntegrityStore) (phase : StorePhase) : StoreTraffic ι :=
  ⟨store, Function.update traffic.phase i phase⟩

def step (calls : ι → StoreCall) (traffic : StoreTraffic ι) (i : ι) : StoreTraffic ι :=
  match traffic.phase i with
  | .waiting =>
    match (calls i).take traffic.store with
    | (.error answer, store) => traffic.turn i store (.finished answer)
    | (.ok held, store) => traffic.turn i store (.holding held)
  | .holding held =>
    let (answer, store) := (calls i).access held traffic.store
    traffic.turn i store (.accessed held answer)
  | .accessed held answer =>
    traffic.turn i (traffic.store.release held)
      (if (calls i).removes then .released answer else .finished answer)
  | .released answer => traffic.turn i (traffic.store.dropIdle (calls i).characterId) (.finished answer)
  | .finished _ => traffic

/-- The traffic after some more steps. A schedule names the call whose turn it is. -/
def run (calls : ι → StoreCall) (traffic : StoreTraffic ι) (schedule : List ι) : StoreTraffic ι :=
  schedule.foldl (step calls) traffic

/-- Whether none of some more steps puts anything into the slot of a character. -/
def Quiet (calls : ι → StoreCall) (characterId : String) : StoreTraffic ι → List ι → Prop
  | _, [] => True
  | traffic, i :: later =>
    ((calls i).characterId = characterId → traffic.writes? calls i = none) ∧
      Quiet calls characterId (traffic.step calls i) later

/-- How the holds of the calls and the slots hang together: each call holds the slot that its character has now, and
the slots count the calls that hold them. -/
structure Held (calls : ι → StoreCall) (traffic : StoreTraffic ι) : Prop where
  sound : traffic.store.Sound
  attached : ∀ i held, (traffic.phase i).held? = some held →
    held.characterId = (calls i).characterId ∧ traffic.store.Attached held
  counted : ∀ characterId, ∃ holders : Finset ι, holders.card = traffic.store.holders characterId ∧
    ∀ i, i ∈ holders ↔ (traffic.phase i).heldId? = some characterId

/-- What one step of a call can do. -/
inductive Step (calls : ι → StoreCall) (traffic : StoreTraffic ι) (i : ι) : StoreTraffic ι → Prop
  | declined {answer : StoreAnswer} (phase : traffic.phase i = .waiting) :
      Step calls traffic i (traffic.turn i traffic.store (.finished answer))
  | taken (phase : traffic.phase i = .waiting) :
      Step calls traffic i
        (traffic.turn i (traffic.store.obtain (calls i).characterId).2
          (.holding (traffic.store.obtain (calls i).characterId).1))
  | accessed {held : Hold} (phase : traffic.phase i = .holding held) :
      Step calls traffic i
        (traffic.turn i ((calls i).access held traffic.store).2
          (.accessed held ((calls i).access held traffic.store).1))
  | released {held : Hold} {answer : StoreAnswer} {next : StorePhase} (phase : traffic.phase i = .accessed held answer)
      (free : next.held? = none) : Step calls traffic i (traffic.turn i (traffic.store.release held) next)
  | dropped {answer : StoreAnswer} (phase : traffic.phase i = .released answer) :
      Step calls traffic i (traffic.turn i (traffic.store.dropIdle (calls i).characterId) (.finished answer))
  | idle {answer : StoreAnswer} (phase : traffic.phase i = .finished answer) : Step calls traffic i traffic

variable {calls : ι → StoreCall} {traffic reached : StoreTraffic ι} {i : ι} {characterId : String}

theorem step_cases (sound : traffic.store.Sound) (calls : ι → StoreCall) (i : ι) :
    Step calls traffic i (traffic.step calls i) := by
  cases phase : traffic.phase i with
  | waiting =>
    rcases StoreCall.take_cases sound (calls i) with ⟨answer, took⟩ | took
    · simp only [step, phase, took]
      exact .declined phase
    · simp only [step, phase, took]
      exact .taken phase
  | holding held =>
    simp only [step, phase]
    exact .accessed phase
  | accessed held answer =>
    simp only [step, phase]
    refine .released phase ?_
    split <;> rfl
  | released answer =>
    simp only [step, phase]
    exact .dropped phase
  | finished answer =>
    simp only [step, phase]
    exact .idle phase

namespace Held

omit [DecidableEq ι] in
theorem opening (calls : ι → StoreCall) : Held calls opening where
  sound := .empty
  attached _ _ held := by contradiction
  counted _ := ⟨∅, rfl, by simp [StoreTraffic.opening, StorePhase.heldId?, StorePhase.held?]⟩

omit [DecidableEq ι] in
theorem heldId?_ne (held : Held calls traffic) (other : characterId ≠ (calls i).characterId) :
    (traffic.phase i).heldId? ≠ some characterId := by
  intro holding
  obtain ⟨hold, has, rfl⟩ := Option.map_eq_some_iff.mp holding
  exact other (held.attached i hold has).1

omit [DecidableEq ι] in
theorem free (held : Held calls traffic) (none : traffic.store.holders characterId = 0) (i : ι) :
    (traffic.phase i).heldId? ≠ some characterId := by
  obtain ⟨holders, card, mem⟩ := held.counted characterId
  rw [none, Finset.card_eq_zero] at card
  rw [Ne, ← mem, card]
  exact Finset.notMem_empty i

omit [DecidableEq ι] in
theorem becomes_access (held : Held calls traffic) {hold : Hold} (phase : traffic.phase i = .holding hold) :
    let after := ((calls i).access hold traffic.store).2
    hold.characterId = (calls i).characterId ∧ after.Attached hold ∧
      traffic.store.Becomes (calls i).characterId
        (some ⟨(calls i).puts?.getD (traffic.store.current? (calls i).characterId),
          traffic.store.holders (calls i).characterId⟩) after := by
  obtain ⟨own, attached⟩ := held.attached i hold (by rw [phase, StorePhase.held?])
  obtain ⟨-, becomes⟩ := StoreCall.becomes_access held.sound attached (calls i)
  have still := becomes.attached_self attached
  rw [own] at becomes
  exact ⟨own, still, becomes⟩

omit [DecidableEq ι] in
theorem becomes_release (held : Held calls traffic) {hold : Hold} {answer : StoreAnswer}
    (phase : traffic.phase i = .accessed hold answer) :
    traffic.store.Becomes (calls i).characterId
      (some ⟨traffic.store.current? (calls i).characterId, traffic.store.holders (calls i).characterId - 1⟩)
      (traffic.store.release hold) := by
  obtain ⟨own, attached⟩ := held.attached i hold (by rw [phase, StorePhase.held?])
  have becomes := IntegrityStore.becomes_release held.sound attached
  rwa [own] at becomes

/-- A step keeps the holds and the slots together if it does so for the call and the slot that it is about. A slot
may be lost only if nobody holds it. -/
theorem become (held : Held calls traffic) {last : Option Slot} {after : IntegrityStore} {phase : StorePhase}
    (becomes : traffic.store.Becomes (calls i).characterId last after)
    (lost : last = none → traffic.store.holders (calls i).characterId = 0)
    (mine : ∀ hold, phase.held? = some hold → hold.characterId = (calls i).characterId ∧ after.Attached hold)
    (holders : Finset ι) (card : holders.card = after.holders (calls i).characterId)
    (self : i ∈ holders ↔ phase.heldId? = some (calls i).characterId)
    (others : ∀ j ≠ i, j ∈ holders ↔ (traffic.phase j).heldId? = some (calls i).characterId) :
    Held calls (traffic.turn i after phase) where
  sound := becomes.sound
  attached := by
    intro j hold has
    simp only [turn, Function.update_apply] at has
    split at has
    next same => exact same ▸ mine hold has
    next different =>
      obtain ⟨own, attached⟩ := held.attached j hold has
      refine ⟨own, becomes.attached hold attached ?_⟩
      rw [becomes.slot?]
      split
      next here =>
        cases left : last with
        | none =>
          -- The hold would be counted, and a slot with holders is not lost.
          have holding : (traffic.phase j).heldId? = some (calls i).characterId := by
            rw [StorePhase.heldId?, has, Option.map_some, here]
          exact absurd holding (held.free (lost left) j)
        | some slot => rfl
      next elsewhere =>
        rw [attached.slot? held.sound]
        rfl
  counted := by
    intro characterId
    by_cases here : characterId = (calls i).characterId
    · subst here
      refine ⟨holders, card, ?_⟩
      intro j
      simp only [turn, Function.update_apply]
      split
      next same => rw [same, self]
      next different => exact others j different
    · obtain ⟨holders, card, mem⟩ := held.counted characterId
      have kept : after.holders characterId = traffic.store.holders characterId := by
        rw [IntegrityStore.holders, becomes.slot?, if_neg here, IntegrityStore.holders]
      refine ⟨holders, card.trans kept.symm, ?_⟩
      intro j
      simp only [mem, turn, Function.update_apply]
      split
      next same =>
        subst same
        have before := held.heldId?_ne here
        have afterwards : phase.heldId? ≠ some characterId := by
          intro holding
          obtain ⟨hold, has, rfl⟩ := Option.map_eq_some_iff.mp holding
          exact here (mine hold has).1
        simp only [before, afterwards]
      next different => rfl

theorem step (held : Held calls traffic) (taken : Step calls traffic i reached) : Held calls reached := by
  obtain ⟨holders, card, mem⟩ := held.counted (calls i).characterId
  have others (j : ι) (_ : j ≠ i) : j ∈ holders ↔ (traffic.phase j).heldId? = some (calls i).characterId := mem j
  cases taken with
  | declined phase =>
    refine held.become (.refl held.sound _) ?_ ?_ holders card ?_ others
    · intro absent
      rw [IntegrityStore.holders, absent]
      rfl
    · intro hold has
      contradiction
    · rw [mem, phase]
      rfl
  | taken phase =>
    obtain ⟨becomes, own, attached⟩ := IntegrityStore.becomes_obtain held.sound (calls i).characterId
    have outside : i ∉ holders := by
      rw [mem, phase]
      intro holding
      contradiction
    refine held.become becomes ?_ ?_ (insert i holders) ?_ ?_ ?_
    · intro lost
      contradiction
    · intro hold has
      obtain rfl := Option.some.inj has
      exact ⟨own, attached⟩
    · rw [Finset.card_insert_of_notMem outside, card, IntegrityStore.holders_of_slot? becomes.here]
    · rw [StorePhase.heldId?, StorePhase.held?, Option.map_some, own]
      simp
    · intro j different
      rw [Finset.mem_insert, mem, or_iff_right different]
  | @accessed hold phase =>
    obtain ⟨own, attached, becomes⟩ := held.becomes_access phase
    refine held.become becomes ?_ ?_ holders ?_ ?_ others
    · intro lost
      contradiction
    · intro hold has
      obtain rfl := Option.some.inj has
      exact ⟨own, attached⟩
    · rw [card, IntegrityStore.holders_of_slot? becomes.here]
    · rw [mem, phase]
      rfl
  | @released hold answer next phase free =>
    have becomes := held.becomes_release phase
    have own := (held.attached i hold (by rw [phase, StorePhase.held?])).1
    have inside : i ∈ holders := by rw [mem, phase, StorePhase.heldId?, StorePhase.held?, Option.map_some, own]
    refine held.become becomes ?_ ?_ (holders.erase i) ?_ ?_ ?_
    · intro lost
      contradiction
    · intro other has
      rw [free] at has
      contradiction
    · rw [Finset.card_erase_of_mem inside, card, IntegrityStore.holders_of_slot? becomes.here]
    · rw [StorePhase.heldId?, free]
      simp
    · intro j different
      rw [Finset.mem_erase, mem, and_iff_right different]
  | dropped phase =>
    have becomes := IntegrityStore.becomes_dropIdle held.sound (calls i).characterId
    have kept := (IntegrityStore.filter_isIdle (traffic.store.slot? (calls i).characterId)).2
    refine held.become becomes ?_ ?_ holders ?_ ?_ others
    · intro lost
      rw [IntegrityStore.holders, ← kept, lost]
      rfl
    · intro hold has
      contradiction
    · rw [card, IntegrityStore.holders, ← kept, IntegrityStore.holders, becomes.here]
    · rw [mem, phase]
      rfl
  | idle phase => exact held

theorem run (held : Held calls traffic) (schedule : List ι) : Held calls (traffic.run calls schedule) := by
  induction schedule generalizing traffic with
  | nil => exact held
  | cons i later ih => exact ih (held.step (step_cases held.sound calls i))

end Held

/-- A step is a step on the slot of the character of its call, and what is in there is what the step puts there, or
what was there before. -/
theorem Step.becomes (held : Held calls traffic) (taken : Step calls traffic i reached) :
    ∃ last, traffic.store.Becomes (calls i).characterId last reached.store ∧
      last.bind Slot.content =
        (traffic.writes? calls i).getD (traffic.store.current? (calls i).characterId) := by
  have here := traffic.store.current?_eq (calls i).characterId
  cases taken with
  | declined phase | idle phase =>
    refine ⟨_, .refl held.sound _, ?_⟩
    rw [writes?, phase, here]
    rfl
  | taken phase =>
    refine ⟨_, (IntegrityStore.becomes_obtain held.sound _).1, ?_⟩
    rw [writes?, phase]
    rfl
  | accessed phase =>
    refine ⟨_, (held.becomes_access phase).2.2, ?_⟩
    rw [writes?, phase]
    rfl
  | released phase free =>
    refine ⟨_, held.becomes_release phase, ?_⟩
    rw [writes?, phase]
    rfl
  | dropped phase =>
    refine ⟨_, IntegrityStore.becomes_dropIdle held.sound _, ?_⟩
    rw [(IntegrityStore.filter_isIdle _).1, writes?, phase, here]
    rfl

theorem current?_step (held : Held calls traffic) (i : ι) (characterId : String) :
    (traffic.step calls i).store.current? characterId =
      if (calls i).characterId = characterId then
        (traffic.writes? calls i).getD (traffic.store.current? characterId)
      else traffic.store.current? characterId := by
  obtain ⟨last, becomes, content⟩ := (step_cases held.sound calls i).becomes held
  split
  next own =>
    subst own
    rw [becomes.current?_self, content]
  next other => exact becomes.current?_other (Ne.symm other)

/-- What is in the slot of a character stays there as long as nothing else is put there. -/
theorem current?_run (held : Held calls traffic) {later : List ι} (quiet : Quiet calls characterId traffic later) :
    (traffic.run calls later).store.current? characterId = traffic.store.current? characterId := by
  induction later generalizing traffic with
  | nil => rfl
  | cons i later ih =>
    obtain ⟨silent, rest⟩ := quiet
    have stays := ih (held.step (step_cases held.sound calls i)) rest
    rw [run, List.foldl_cons, ← run, stays, current?_step held]
    split
    next own => rw [silent own, Option.getD_none]
    next other => rfl

theorem run_uninterrupted (waiting : traffic.phase i = .waiting) :
    (traffic.run calls [i, i, i, i]).phase i = .finished ((calls i).make traffic.store).1 ∧
      (traffic.run calls [i, i, i, i]).store = ((calls i).make traffic.store).2 := by
  rw [StoreCall.make_eq]
  rcases took : (calls i).take traffic.store with ⟨answer | held, store⟩
  · simp [run, step, turn, waiting, took]
  · cases removes : (calls i).removes <;> simp [run, step, turn, waiting, took, removes]

theorem step_get (held : Held calls traffic) (get : calls i = .get characterId) {run : IntegritySnapshot}
    (stored : traffic.store.current? characterId = some run) :
    (traffic.phase i = .waiting → ∃ hold, (traffic.step calls i).phase i = .holding hold) ∧
      ∀ hold, traffic.phase i = .holding hold →
        (traffic.step calls i).phase i = .accessed hold (.run (some run)) := by
  constructor
  · intro waiting
    cases found : traffic.store.slot? characterId with
    | none =>
      rw [IntegrityStore.current?_eq, found] at stored
      contradiction
    | some slot =>
      refine ⟨(traffic.store.obtain characterId).1, ?_⟩
      simp [step, turn, waiting, get, StoreCall.take, IntegrityStore.find_of_some found]
  · intro hold holding
    obtain ⟨own, attached⟩ := held.attached i hold (by rw [holding]; rfl)
    rw [get, StoreCall.characterId] at own
    have seen := (StoreCall.becomes_access held.sound attached (.get characterId)).1
    rw [own, stored] at seen
    simp [step, turn, holding, get, seen, StoreCall.answer]

/-- No run is stored where nobody finds it. In every interleaving of calls, whoever holds a slot on behalf of a
character holds the slot that the character has at that moment. So a run that is stored through a hold is the run of
the character until something else is put into its slot, and until then every call that gets the run of the
character finds a slot and sees this run in it. -/
theorem handles_attached (calls : ι → StoreCall) (schedule : List ι) :
    let traffic := opening.run calls schedule
    (∀ i held, (traffic.phase i).held? = some held → held.characterId = (calls i).characterId ∧
        traffic.store.assigned.get? held.characterId = some held.number ∧
        ∃ slot, traffic.store.slots.get? held.number = some slot) ∧
      ∀ i run later, traffic.writes? calls i = some (some run) →
        Quiet calls (calls i).characterId (traffic.step calls i) later →
        let reached := (traffic.step calls i).run calls later
        reached.store.current? (calls i).characterId = some run ∧
          ∀ j, calls j = .get (calls i).characterId →
            (reached.phase j = .waiting → ∃ held, (reached.step calls j).phase j = .holding held) ∧
            ∀ held, reached.phase j = .holding held →
              (reached.step calls j).phase j = .accessed held (.run (some run)) := by
  intro traffic
  have held : Held calls traffic := (Held.opening calls).run schedule
  constructor
  · intro i hold has
    obtain ⟨own, attached⟩ := held.attached i hold has
    exact ⟨own, attached, held.sound.placed attached⟩
  · intro i run later writes quiet reached
    have heldNext := held.step (step_cases held.sound calls i)
    have stored : reached.store.current? (calls i).characterId = some run := by
      rw [current?_run heldNext quiet, current?_step held, if_pos rfl, writes, Option.getD_some]
    exact ⟨stored, fun j get => step_get (heldNext.run later) get stored⟩

/-- A run that is kept, one that is stored while the character is removed, the removal, and who asks for the run. -/
def race : Fin 4 → StoreCall :=
  ![.put (.ofList "pc" ⟨0, 0⟩ []), .put (.ofList "pc" ⟨1, 0⟩ []), .remove "pc", .get "pc"]

theorem handles_attached_race :
    let removed := opening.run race [0, 0, 0, 1, 2, 2, 2, 2]
    removed.store.current? "pc" = none ∧
      ∃ held, (removed.run race [1, 3, 3]).phase 3 = .accessed held (.run (some (.ofList "pc" ⟨1, 0⟩ []))) := by
  intro removed
  have stored := (handles_attached race [0, 0, 0, 1, 2, 2, 2, 2]).2 1 (.ofList "pc" ⟨1, 0⟩ [])
  have writes : removed.writes? race 1 = some (some (.ofList "pc" ⟨1, 0⟩ [])) := by decide
  have waiting : (removed.step race 1).phase 3 = .waiting := rfl
  obtain ⟨held, holding⟩ := ((stored [] writes trivial).2 3 rfl).1 waiting
  have silent : (removed.step race 1).writes? race 3 = none := by decide
  exact ⟨by decide, held, ((stored [3] writes ⟨fun _ => silent, trivial⟩).2 3 rfl).2 held holding⟩

end StoreTraffic

end Legality
