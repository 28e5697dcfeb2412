import Legality.Character.Validity
import Legality.Integrity.Violation

/-!
Where the latest run over each character is kept. A character has a slot, which is made empty when it is first
needed. Whoever works on a slot holds it; a slot is dropped only when it is empty and nobody holds it, so that
what is written through a hold stays visible. The operations are made of steps between which others may take
theirs.
-/
namespace Legality

/-- A slot: the latest run over a character, if there is one, and the number of those who hold it. -/
structure Slot where
  content : Option IntegritySnapshot
  holders : Nat
  deriving DecidableEq

def Slot.isIdle (slot : Slot) : Bool := slot.content.isNone && slot.holders == 0

/-- A hold on the slot of a number, which a character had when it was taken. -/
structure Hold where
  characterId : String
  number : Nat
  deriving DecidableEq, Repr

/-- Slots by number, and the number of the slot of each character. Numbers are given out once. -/
structure IntegrityStore where
  assigned : SortedMap String Nat
  slots : SortedMap Nat Slot
  nextNumber : Nat
  deriving DecidableEq

namespace IntegrityStore

def empty : IntegrityStore := ⟨SortedMap.empty, SortedMap.empty, 0⟩

instance : Inhabited IntegrityStore := ⟨empty⟩

def changeSlot (store : IntegrityStore) (number : Nat) (change : Slot → Slot) : IntegrityStore :=
  match store.slots.get? number with
  | some slot => { store with slots := store.slots.insert number (change slot) }
  | none => store

def hold (store : IntegrityStore) (number : Nat) : IntegrityStore :=
  store.changeSlot number fun slot => { slot with holders := slot.holders + 1 }

def find (store : IntegrityStore) (characterId : String) : Option Hold × IntegrityStore :=
  match store.assigned.get? characterId with
  | some number => (some ⟨characterId, number⟩, store.hold number)
  | none => (none, store)

def obtain (store : IntegrityStore) (characterId : String) : Hold × IntegrityStore :=
  match store.assigned.get? characterId with
  | some number => (⟨characterId, number⟩, store.hold number)
  | none =>
    (⟨characterId, store.nextNumber⟩,
      { assigned := store.assigned.insert characterId store.nextNumber
        slots := store.slots.insert store.nextNumber ⟨none, 1⟩
        nextNumber := store.nextNumber + 1 })

def contentOf (store : IntegrityStore) (held : Hold) : Option IntegritySnapshot :=
  (store.slots.get? held.number).bind Slot.content

def exchange (store : IntegrityStore) (held : Hold) (content : Option IntegritySnapshot) :
    Option IntegritySnapshot × IntegrityStore :=
  (store.contentOf held, store.changeSlot held.number fun slot => { slot with content := content })

def release (store : IntegrityStore) (held : Hold) : IntegrityStore :=
  store.changeSlot held.number fun slot => { slot with holders := slot.holders - 1 }

def dropIdle (store : IntegrityStore) (characterId : String) : IntegrityStore :=
  match store.assigned.get? characterId with
  | none => store
  | some number =>
    if (store.slots.get? number).any Slot.isIdle then
      { store with assigned := store.assigned.erase characterId, slots := store.slots.erase number }
    else store

def current? (store : IntegrityStore) (characterId : String) : Option IntegritySnapshot :=
  match store.find characterId with
  | (some held, store) => store.contentOf held
  | (none, _) => none

def commit (store : IntegrityStore) (characterId : String) (run : IntegritySnapshot) :
    Option IntegritySnapshot × IntegrityStore :=
  let (held, store) := store.obtain characterId
  let (previous, store) := store.exchange held (some run)
  (previous, store.release held)

def put (store : IntegrityStore) (run : IntegritySnapshot) : IntegrityStore :=
  (store.commit run.characterId run).2

def forget (store : IntegrityStore) (characterId : String) : Option IntegritySnapshot × IntegrityStore :=
  match store.find characterId with
  | (none, store) => (none, store)
  | (some held, store) =>
    let (taken, store) := store.exchange held none
    (taken, (store.release held).dropIdle characterId)

def size (store : IntegrityStore) : Nat := store.assigned.size

/-- Takes over a run that was kept elsewhere, under the character that it belongs to. -/
def restore (store : IntegrityStore) (characterId : String) (run : IntegritySnapshot) :
    Except StructureError IntegrityStore :=
  if run.characterId = characterId then .ok (store.put run)
  else .error (.invalidValue "characterId"
    ("integrity snapshot for " ++ run.characterId ++ " cannot be restored onto " ++ characterId))

end IntegrityStore

end Legality
