import Legality.Integrity.Store
import Legality.Proofs.Data.SortedMap

/-!
What the steps of a store do to the slots of the characters. Each step works on the slot of one character and leaves
those of all others as they are. A hold comes off the slot of its character only where that is dropped, and the number
of a slot that was dropped is never given out again.
-/
namespace Legality

namespace IntegrityStore

def slot? (store : IntegrityStore) (characterId : String) : Option Slot :=
  (store.assigned.get? characterId).bind store.slots.get?

def holders (store : IntegrityStore) (characterId : String) : Nat := ((store.slot? characterId).map Slot.holders).getD 0

/-- Whether a hold is on the slot that its character has now. -/
def Attached (store : IntegrityStore) (held : Hold) : Prop := store.assigned.get? held.characterId = some held.number

/-- Whether each number that is assigned was given out, to one character only, and is the number of a slot. -/
structure Sound (store : IntegrityStore) : Prop where
  placed : ∀ {characterId : String} {number : Nat}, store.assigned.get? characterId = some number →
    ∃ slot, store.slots.get? number = some slot
  apart : ∀ {one other : String} {number : Nat}, store.assigned.get? one = some number →
    store.assigned.get? other = some number → one = other
  given : ∀ {characterId : String} {number : Nat}, store.assigned.get? characterId = some number →
    number < store.nextNumber

/-- What a step on behalf of one character may do. The character has the given slot afterwards, the other slots are
as before, and no hold comes off a slot that is left. -/
structure Becomes (store : IntegrityStore) (characterId : String) (slot : Option Slot) (after : IntegrityStore) :
    Prop where
  sound : after.Sound
  slot? : ∀ other, after.slot? other = if other = characterId then slot else store.slot? other
  attached : ∀ held, store.Attached held → (after.slot? held.characterId).isSome → after.Attached held

variable {store middle after : IntegrityStore} {characterId : String} {slot : Slot} {held : Hold}

theorem Sound.empty : empty.Sound := ⟨nofun, nofun, nofun⟩

theorem slot?_of_assigned {number : Nat} (assigned : store.assigned.get? characterId = some number) :
    store.slot? characterId = store.slots.get? number := by
  rw [slot?, assigned, Option.bind_some]

theorem Sound.slot?_eq_none_iff (sound : store.Sound) :
    store.slot? characterId = none ↔ store.assigned.get? characterId = none := by
  cases assigned : store.assigned.get? characterId with
  | none => simp [slot?, assigned]
  | some number =>
    obtain ⟨slot, found⟩ := sound.placed assigned
    simp [slot?_of_assigned assigned, found]

theorem Sound.mem_keys_iff (sound : store.Sound) :
    characterId ∈ store.assigned.keys ↔ (store.slot? characterId).isSome = true := by
  rw [SortedMap.mem_keys_iff, ← Option.ne_none_iff_isSome, ← Option.ne_none_iff_isSome, Ne, Ne, sound.slot?_eq_none_iff]

theorem current?_eq (store : IntegrityStore) (characterId : String) :
    store.current? characterId = (store.slot? characterId).bind Slot.content := by
  rw [current?, find]
  cases assigned : store.assigned.get? characterId with
  | none => simp [slot?, assigned]
  | some number =>
    rw [slot?_of_assigned assigned]
    simp only [contentOf, hold, changeSlot]
    cases found : store.slots.get? number with
    | none => rw [found]
    | some slot => rw [SortedMap.get?_insert, if_pos rfl, Option.bind_some, Option.bind_some]

theorem current?_of_slot? (found : store.slot? characterId = some slot) : store.current? characterId = slot.content := by
  rw [current?_eq, found, Option.bind_some]

theorem holders_of_slot? (found : store.slot? characterId = some slot) : store.holders characterId = slot.holders := by
  rw [holders, found, Option.map_some, Option.getD_some]

theorem Attached.contentOf (attached : store.Attached held) :
    store.contentOf held = store.current? held.characterId := by
  rw [current?_eq, slot?_of_assigned attached, IntegrityStore.contentOf]

theorem Attached.slot? (attached : store.Attached held) (sound : store.Sound) :
    store.slot? held.characterId = some ⟨store.current? held.characterId, store.holders held.characterId⟩ := by
  obtain ⟨slot, found⟩ := sound.placed attached
  have here := (slot?_of_assigned attached).trans found
  rw [here, current?_of_slot? here, holders_of_slot? here]

namespace Becomes

theorem refl (sound : store.Sound) (characterId : String) :
    store.Becomes characterId (store.slot? characterId) store where
  sound := sound
  slot? := by
    intro other
    split
    next same => rw [same]
    next different => rfl
  attached _ attached _ := attached

theorem trans {last : Option Slot} (first : store.Becomes characterId (some slot) middle)
    (second : middle.Becomes characterId last after) : store.Becomes characterId last after where
  sound := second.sound
  slot? := by
    intro other
    rw [second.slot?, first.slot?]
    split <;> rfl
  attached := by
    intro held attached left
    refine second.attached held (first.attached held attached ?_) left
    rw [second.slot?] at left
    split at left
    next same =>
      rw [first.slot?, if_pos same]
      rfl
    next different => exact left

theorem here {last : Option Slot} (becomes : store.Becomes characterId last after) :
    after.slot? characterId = last := by
  rw [becomes.slot?, if_pos rfl]

/-- A hold that was taken before stays on a slot that is there before and after. -/
theorem attached_self (becomes : store.Becomes held.characterId (some slot) after) (attached : store.Attached held) :
    after.Attached held := by
  apply becomes.attached held attached
  rw [becomes.here]
  rfl

theorem current?_self {last : Option Slot} (becomes : store.Becomes characterId last after) :
    after.current? characterId = last.bind Slot.content := by
  rw [current?_eq, becomes.here]

theorem current?_other {last : Option Slot} (becomes : store.Becomes characterId last after) {other : String}
    (different : other ≠ characterId) : after.current? other = store.current? other := by
  rw [current?_eq, becomes.slot?, if_neg different, current?_eq]

end Becomes

theorem becomes_changeSlot (sound : store.Sound) (attached : store.Attached held) (change : Slot → Slot) :
    store.Becomes held.characterId ((store.slot? held.characterId).map change)
      (store.changeSlot held.number change) := by
  obtain ⟨slot, found⟩ := sound.placed attached
  have changed : store.changeSlot held.number change =
      { store with slots := store.slots.insert held.number (change slot) } := by
    rw [changeSlot, found]
  rw [slot?_of_assigned attached, found, changed]
  constructor
  case sound =>
    refine ⟨?_, sound.apart, sound.given⟩
    intro other number assigned
    rw [SortedMap.get?_insert]
    split
    next same => exact ⟨change slot, rfl⟩
    next different => exact sound.placed assigned
  case slot? =>
    intro other
    rw [IntegrityStore.slot?, IntegrityStore.slot?]
    cases assigned : store.assigned.get? other with
    | none =>
      have different : other ≠ held.characterId := by
        rintro rfl
        exact Option.some_ne_none _ (attached.symm.trans assigned)
      rw [if_neg different]
      rfl
    | some number =>
      have same : number = held.number ↔ other = held.characterId := by
        constructor
        · rintro rfl
          exact sound.apart assigned attached
        · rintro rfl
          exact Option.some.inj (assigned.symm.trans attached)
      simp only [Option.bind_some, SortedMap.get?_insert, same, Option.map_some]
  case attached => exact fun _ attached _ => attached

theorem becomes_new (sound : store.Sound) (unassigned : store.assigned.get? characterId = none) :
    store.Becomes characterId (some ⟨none, 1⟩)
      { assigned := store.assigned.insert characterId store.nextNumber
        slots := store.slots.insert store.nextNumber ⟨none, 1⟩
        nextNumber := store.nextNumber + 1 } := by
  have kept {other : String} {number : Nat} (assigned : store.assigned.get? other = some number) :
      (store.slots.insert store.nextNumber ⟨none, 1⟩).get? number = store.slots.get? number := by
    rw [SortedMap.get?_insert, if_neg (Nat.ne_of_lt (sound.given assigned))]
  have numbered {other : String} {number : Nat}
      (assigned : (store.assigned.insert characterId store.nextNumber).get? other = some number) :
      (other = characterId ∧ number = store.nextNumber) ∨ store.assigned.get? other = some number := by
    rw [SortedMap.get?_insert] at assigned
    split at assigned
    next same => exact .inl ⟨same, (Option.some.inj assigned).symm⟩
    next different => exact .inr assigned
  constructor
  case sound =>
    constructor
    case placed =>
      intro other number assigned
      rcases numbered assigned with ⟨-, rfl⟩ | known
      · exact ⟨⟨none, 1⟩, by rw [SortedMap.get?_insert, if_pos rfl]⟩
      · rw [kept known]
        exact sound.placed known
    case apart =>
      -- The next number was not given out before, so nobody else has it.
      intro one other number first second
      rcases numbered first with ⟨here, rfl⟩ | known
      · rcases numbered second with ⟨there, -⟩ | given
        · exact here.trans there.symm
        · exact absurd (sound.given given) (Nat.lt_irrefl _)
      · rcases numbered second with ⟨-, rfl⟩ | given
        · exact absurd (sound.given known) (Nat.lt_irrefl _)
        · exact sound.apart known given
    case given =>
      intro other number assigned
      rcases numbered assigned with ⟨-, rfl⟩ | known
      · exact Nat.lt_succ_self _
      · exact Nat.lt_succ_of_lt (sound.given known)
  case slot? =>
    intro other
    rw [IntegrityStore.slot?, SortedMap.get?_insert, IntegrityStore.slot?]
    split
    next same => rw [Option.bind_some, SortedMap.get?_insert, if_pos rfl]
    next different =>
      cases assigned : store.assigned.get? other with
      | none => rfl
      | some number => exact kept assigned
  case attached =>
    intro held attached _
    rw [Attached, SortedMap.get?_insert, if_neg]
    · exact attached
    · intro same
      rw [Attached, same, unassigned] at attached
      contradiction

theorem becomes_dropped (sound : store.Sound) {number : Nat} (assigned : store.assigned.get? characterId = some number) :
    store.Becomes characterId none
      { store with assigned := store.assigned.erase characterId, slots := store.slots.erase number } := by
  have others {other : String} {another : Nat} (left : (store.assigned.erase characterId).get? other = some another) :
      store.assigned.get? other = some another ∧ (store.slots.erase number).get? another = store.slots.get? another := by
    rw [SortedMap.get?_erase] at left
    split at left
    next same => contradiction
    next different =>
      refine ⟨left, ?_⟩
      rw [SortedMap.get?_erase, if_neg]
      rintro rfl
      exact different (sound.apart left assigned)
  constructor
  case sound =>
    constructor
    case placed =>
      intro other another left
      obtain ⟨known, kept⟩ := others left
      rw [kept]
      exact sound.placed known
    case apart => exact fun first second => sound.apart (others first).1 (others second).1
    case given => exact fun left => sound.given (others left).1
  case slot? =>
    intro other
    rw [IntegrityStore.slot?]
    split
    next same => rw [SortedMap.get?_erase, if_pos same, Option.bind_none]
    next different =>
      have left : (store.assigned.erase characterId).get? other = store.assigned.get? other := by
        rw [SortedMap.get?_erase, if_neg different]
      cases known : store.assigned.get? other with
      | none => rw [left, known, IntegrityStore.slot?, known, Option.bind_none, Option.bind_none]
      | some another =>
        rw [left, known, Option.bind_some, slot?_of_assigned known]
        exact (others (left.trans known)).2
  case attached =>
    intro held attached left
    rw [Attached, SortedMap.get?_erase, if_neg]
    · exact attached
    · rintro same
      rw [IntegrityStore.slot?, SortedMap.get?_erase, if_pos same] at left
      contradiction

theorem becomes_obtain (sound : store.Sound) (characterId : String) :
    store.Becomes characterId (some ⟨store.current? characterId, store.holders characterId + 1⟩)
        (store.obtain characterId).2 ∧
      (store.obtain characterId).1.characterId = characterId ∧
      (store.obtain characterId).2.Attached (store.obtain characterId).1 := by
  cases assigned : store.assigned.get? characterId with
  | some number =>
    have attached : store.Attached ⟨characterId, number⟩ := assigned
    have changed := becomes_changeSlot sound attached fun slot => { slot with holders := slot.holders + 1 }
    rw [attached.slot? sound] at changed
    have obtained : store.obtain characterId = (⟨characterId, number⟩, store.hold number) := by
      rw [obtain, assigned]
    rw [obtained]
    exact ⟨changed, rfl, changed.attached_self attached⟩
  | none =>
    have absent := sound.slot?_eq_none_iff.mpr assigned
    rw [current?_eq, holders, absent, obtain, assigned]
    refine ⟨becomes_new sound assigned, rfl, ?_⟩
    rw [Attached, SortedMap.get?_insert, if_pos rfl]

theorem find_of_none (sound : store.Sound) (absent : store.slot? characterId = none) :
    store.find characterId = (none, store) := by
  rw [find, sound.slot?_eq_none_iff.mp absent]

theorem find_of_some (found : store.slot? characterId = some slot) :
    store.find characterId = (some (store.obtain characterId).1, (store.obtain characterId).2) := by
  rw [find, obtain]
  cases assigned : store.assigned.get? characterId with
  | none =>
    rw [slot?, assigned] at found
    contradiction
  | some number => rfl

/-- Whoever lets go of a slot without having done anything to it leaves no trace. -/
theorem release_hold (store : IntegrityStore) (held : Hold) : (store.hold held.number).release held = store := by
  rw [release, hold, changeSlot, changeSlot]
  cases found : store.slots.get? held.number with
  | none => simp only [found]
  | some slot => simp only [SortedMap.get?_insert, if_true, Nat.add_sub_cancel, SortedMap.insert_insert_of_get? found]

theorem becomes_exchange (sound : store.Sound) (attached : store.Attached held) (content : Option IntegritySnapshot) :
    (store.exchange held content).1 = store.current? held.characterId ∧
      store.Becomes held.characterId (some ⟨content, store.holders held.characterId⟩)
        (store.exchange held content).2 := by
  have changed := becomes_changeSlot sound attached fun slot => { slot with content := content }
  rw [attached.slot? sound] at changed
  exact ⟨attached.contentOf, changed⟩

theorem becomes_release (sound : store.Sound) (attached : store.Attached held) :
    store.Becomes held.characterId
      (some ⟨store.current? held.characterId, store.holders held.characterId - 1⟩) (store.release held) := by
  have changed := becomes_changeSlot sound attached fun slot => { slot with holders := slot.holders - 1 }
  rw [attached.slot? sound] at changed
  exact changed

theorem becomes_dropIdle (sound : store.Sound) (characterId : String) :
    store.Becomes characterId ((store.slot? characterId).filter fun slot => !slot.isIdle)
      (store.dropIdle characterId) := by
  have unchanged := Becomes.refl sound characterId
  rw [dropIdle]
  cases assigned : store.assigned.get? characterId with
  | none =>
    rw [sound.slot?_eq_none_iff.mpr assigned] at unchanged ⊢
    exact unchanged
  | some number =>
    obtain ⟨slot, found⟩ := sound.placed assigned
    rw [slot?_of_assigned assigned, found] at unchanged ⊢
    simp only [found, Option.any_some, Option.filter_some]
    cases idle : slot.isIdle with
    | false => exact unchanged
    | true => exact becomes_dropped sound assigned

theorem filter_isIdle (slot? : Option Slot) :
    (slot?.filter fun slot => !slot.isIdle).bind Slot.content = slot?.bind Slot.content ∧
      ((slot?.filter fun slot => !slot.isIdle).map Slot.holders).getD 0 = (slot?.map Slot.holders).getD 0 := by
  cases slot? with
  | none => exact ⟨rfl, rfl⟩
  | some slot =>
    rw [Option.filter_some]
    cases idle : slot.isIdle with
    | false => exact ⟨rfl, rfl⟩
    | true =>
      rw [Slot.isIdle, Bool.and_eq_true, Option.isNone_iff_eq_none, beq_iff_eq] at idle
      exact ⟨idle.1.symm, idle.2.symm⟩

/-- What is put into the slot of a character replaces what was there, and in the end nobody more holds the slot. -/
theorem becomes_replace (sound : store.Sound) (characterId : String) (content : Option IntegritySnapshot) :
    let taken := store.obtain characterId
    let exchanged := taken.2.exchange taken.1 content
    exchanged.1 = store.current? characterId ∧
      store.Becomes characterId (some ⟨content, store.holders characterId⟩) (exchanged.2.release taken.1) := by
  obtain ⟨obtained, named, attached⟩ := becomes_obtain sound characterId
  generalize store.obtain characterId = taken at obtained named attached ⊢
  obtain ⟨held, middle⟩ := taken
  dsimp only at obtained named attached ⊢
  subst named
  obtain ⟨previous, exchanged⟩ := becomes_exchange obtained.sound attached content
  have released := becomes_release exchanged.sound (exchanged.attached_self attached)
  rw [current?_of_slot? exchanged.here, holders_of_slot? exchanged.here, holders_of_slot? obtained.here] at released
  refine ⟨?_, (obtained.trans exchanged).trans released⟩
  rw [previous, current?_of_slot? obtained.here]

theorem becomes_commit (sound : store.Sound) (characterId : String) (run : IntegritySnapshot) :
    (store.commit characterId run).1 = store.current? characterId ∧
      store.Becomes characterId (some ⟨some run, store.holders characterId⟩) (store.commit characterId run).2 :=
  becomes_replace sound characterId (some run)

theorem becomes_forget (sound : store.Sound) (characterId : String) :
    (store.forget characterId).1 = store.current? characterId ∧
      store.Becomes characterId
        (if store.holders characterId = 0 then none else some ⟨none, store.holders characterId⟩)
        (store.forget characterId).2 := by
  rw [forget]
  cases found : store.slot? characterId with
  | none =>
    have unchanged := Becomes.refl sound characterId
    rw [find_of_none sound found, current?_eq, holders, found]
    rw [found] at unchanged
    exact ⟨rfl, unchanged⟩
  | some slot =>
    rw [find_of_some found]
    obtain ⟨taken, replaced⟩ := becomes_replace sound characterId none
    have dropped := becomes_dropIdle replaced.sound characterId
    have left : (some ⟨none, store.holders characterId⟩ : Option Slot).filter (fun slot => !slot.isIdle) =
        if store.holders characterId = 0 then none else some ⟨none, store.holders characterId⟩ := by
      by_cases free : store.holders characterId = 0 <;> simp [Slot.isIdle, free]
    rw [replaced.here, left] at dropped
    exact ⟨taken, replaced.trans dropped⟩

end IntegrityStore

end Legality
