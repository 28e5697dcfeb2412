/-!
Finite maps held as entries in strictly ascending order of their keys. The order belongs to the type, so
two maps with the same entries are equal, and listing a map always gives the same answer.
-/
namespace Legality

/-- Keys with a decidable strict total order. -/
class OrderedKey (κ : Type) extends LT κ where
  decidableLT : DecidableLT κ
  decidableEq : DecidableEq κ
  irrefl : ∀ a : κ, ¬ a < a
  trans : ∀ {a b c : κ}, a < b → b < c → a < c
  connected : ∀ {a b : κ}, ¬ a < b → a ≠ b → b < a

instance OrderedKey.instDecidableLT {κ : Type} [OrderedKey κ] : DecidableLT κ := OrderedKey.decidableLT

instance OrderedKey.instDecidableEq {κ : Type} [OrderedKey κ] : DecidableEq κ := OrderedKey.decidableEq

instance : OrderedKey String where
  decidableLT := inferInstance
  decidableEq := inferInstance
  irrefl := String.lt_irrefl
  trans := String.lt_trans
  connected := by
    intro a b notBelow different
    by_cases above : b < a
    · exact above
    · exact absurd (String.le_antisymm (String.not_lt.mp above) (String.not_lt.mp notBelow)) different

instance : OrderedKey Nat where
  decidableLT := inferInstance
  decidableEq := inferInstance
  irrefl := Nat.lt_irrefl
  trans := Nat.lt_trans
  connected notBelow different := Nat.lt_of_le_of_ne (Nat.not_lt.mp notBelow) different.symm

namespace SortedMap

variable {κ α : Type} [OrderedKey κ]

def insertEntry (key : κ) (value : α) : List (κ × α) → List (κ × α)
  | [] => [(key, value)]
  | entry :: rest =>
    if key < entry.1 then (key, value) :: entry :: rest
    else if key = entry.1 then (key, value) :: rest
    else entry :: insertEntry key value rest

def find? (key : κ) : List (κ × α) → Option α
  | [] => none
  | entry :: rest => if key = entry.1 then some entry.2 else find? key rest

theorem mem_insertEntry {key : κ} {value : α} {entries : List (κ × α)} {other : κ × α}
    (member : other ∈ insertEntry key value entries) : other = (key, value) ∨ other ∈ entries := by
  induction entries with
  | nil => exact Or.inl (List.mem_singleton.mp member)
  | cons entry rest ih =>
    unfold insertEntry at member
    split at member
    · exact List.mem_cons.mp member
    · split at member
      · exact (List.mem_cons.mp member).imp_right (List.mem_cons_of_mem _)
      · cases List.mem_cons.mp member with
        | inl same => exact Or.inr (List.mem_cons.mpr (Or.inl same))
        | inr later => exact (ih later).imp_right (List.mem_cons_of_mem _)

theorem insertEntry_ascending (key : κ) (value : α) {entries : List (κ × α)}
    (ascending : entries.Pairwise fun a b => a.1 < b.1) :
    (insertEntry key value entries).Pairwise fun a b => a.1 < b.1 := by
  induction entries with
  | nil => exact List.pairwise_singleton _ _
  | cons entry rest ih =>
    obtain ⟨first, later⟩ := List.pairwise_cons.mp ascending
    unfold insertEntry
    split
    next below =>
      refine List.pairwise_cons.mpr ⟨?_, ascending⟩
      intro other member
      cases List.mem_cons.mp member with
      | inl same => exact same ▸ below
      | inr inside => exact OrderedKey.trans below (first other inside)
    next notBelow =>
      split
      next same =>
        exact List.pairwise_cons.mpr ⟨fun other inside => same ▸ first other inside, later⟩
      next different =>
        refine List.pairwise_cons.mpr ⟨?_, ih later⟩
        intro other member
        cases mem_insertEntry member with
        | inl same => exact same ▸ OrderedKey.connected notBelow different
        | inr inside => exact first other inside

end SortedMap

/-- A finite map whose entries stand in strictly ascending order of their keys. -/
structure SortedMap (κ α : Type) [OrderedKey κ] where
  entries : List (κ × α)
  ascending : entries.Pairwise fun a b => a.1 < b.1

namespace SortedMap

variable {κ α β : Type} [OrderedKey κ]

def empty : SortedMap κ α := ⟨[], List.Pairwise.nil⟩

instance : Inhabited (SortedMap κ α) := ⟨empty⟩

instance [DecidableEq α] : DecidableEq (SortedMap κ α) := fun a b =>
  if same : a.entries = b.entries then
    isTrue (by cases a; cases b; cases same; rfl)
  else isFalse fun equal => same (congrArg SortedMap.entries equal)

def get? (map : SortedMap κ α) (key : κ) : Option α := find? key map.entries

def contains (map : SortedMap κ α) (key : κ) : Bool := (map.get? key).isSome

def insert (map : SortedMap κ α) (key : κ) (value : α) : SortedMap κ α :=
  ⟨insertEntry key value map.entries, insertEntry_ascending key value map.ascending⟩

def erase (map : SortedMap κ α) (key : κ) : SortedMap κ α :=
  ⟨map.entries.filter fun entry => !decide (entry.1 = key), map.ascending.filter _⟩

def keys (map : SortedMap κ α) : List κ := map.entries.map Prod.fst

def values (map : SortedMap κ α) : List α := map.entries.map Prod.snd

def size (map : SortedMap κ α) : Nat := map.entries.length

def isEmpty (map : SortedMap κ α) : Bool := map.entries.isEmpty

/-- The map of a list of entries, in which a later entry replaces an earlier one. -/
def ofList (entries : List (κ × α)) : SortedMap κ α :=
  entries.foldl (fun map entry => map.insert entry.1 entry.2) empty

end SortedMap

abbrev SortedSet (κ : Type) [OrderedKey κ] := SortedMap κ Unit

namespace SortedSet

variable {κ : Type} [OrderedKey κ]

def add (set : SortedSet κ) (member : κ) : SortedSet κ := SortedMap.insert set member ()

def toList (set : SortedSet κ) : List κ := SortedMap.keys set

def ofList (members : List κ) : SortedSet κ := members.foldl add SortedMap.empty

end SortedSet

end Legality
