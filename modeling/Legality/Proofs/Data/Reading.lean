import Legality.Data.Value
import Legality.Proofs.Data.SortedMap

/-!
Readers that undo writers. A number, a list, a set or a map is read as what it was written from, if its parts are;
so a record is read back field by field.
-/
namespace Legality

namespace Value

variable {κ α β : Type} [OrderedKey κ]

theorem natBelow?_nat {bound n : Nat} (below : n < bound) : (nat n).natBelow? bound = some n := by
  rw [nat, natBelow?, if_pos ⟨Int.natCast_nonneg n, Int.ofNat_lt.mpr below⟩, Int.toNat_natCast]

@[simp] theorem uint8?_nat (n : UInt8) : (nat n.toNat).uint8? = some n := by
  rw [uint8?, natBelow?_nat n.toNat_lt, Option.map_some, UInt8.ofNat_toNat]

@[simp] theorem uint32?_nat (n : UInt32) : (nat n.toNat).uint32? = some n := by
  rw [uint32?, natBelow?_nat n.toNat_lt, Option.map_some, UInt32.ofNat_toNat]

@[simp] theorem int32?_int (n : Int32) : (int n.toInt).int32? = some n := by
  rw [int32?, if_pos ⟨n.le_toInt, n.toInt_le⟩, Int32.ofInt_toInt]

theorem mapM_map {write : α → β} {read : β → Option α} {items : List α}
    (undone : ∀ item ∈ items, read (write item) = some item) : (items.map write).mapM read = some items := by
  induction items with
  | nil => rfl
  | cons item rest ih =>
    obtain ⟨here, later⟩ := List.forall_mem_cons.mp undone
    rw [List.map_cons, List.mapM_cons, here, ih later]
    rfl

theorem list?_map {write : α → Value} {read : Value → Option α} {items : List α}
    (undone : ∀ item ∈ items, read (write item) = some item) : (list (items.map write)).list? read = some items :=
  mapM_map undone

@[simp] theorem list?_texts (items : List String) : (texts items).list? text? = some items :=
  list?_map fun _ _ => rfl

@[simp] theorem textSet?_texts (set : SortedSet String) : (texts (SortedSet.toList set)).textSet? = some set := by
  rw [textSet?, list?_texts, Option.map_some, SortedSet.ofList_toList]

/-- A record of the entries of a map is read as the map, if its labels and values are read as its keys and values. -/
theorem map?_record (label : κ → String) (write : α → Value) {readKey : String → Option κ}
    {read : Value → Option α} {map : SortedMap κ α} (named : ∀ key, readKey (label key) = some key)
    (undone : ∀ entry ∈ map.entries, read (write entry.2) = some entry.2) :
    (record (map.entries.map fun entry => (label entry.1, write entry.2))).map? readKey read = some map := by
  rw [map?, mapM_map, Option.map_some, SortedMap.ofList_entries]
  intro entry member
  simp [named, undone entry member]

theorem bind_text?_eq_some_iff {found : Option Value} {content : String} :
    found.bind text? = some content ↔ found = some (text content) := by
  cases found with
  | none => simp
  | some value => cases value <;> simp [text?]

theorem option?_of_ne_null {read : Value → Option α} {value : Value} (present : value ≠ null) :
    value.option? read = (read value).map some := by
  cases value with
  | null => contradiction
  | bool flag | int number | decimal digits | text content | list items | record fields => rfl

theorem depth_le_depthOfItems {item : Value} {items : List Value} (member : item ∈ items) :
    item.depth ≤ depthOfItems items := by
  induction items with
  | nil => contradiction
  | cons first rest ih =>
    rw [depthOfItems]
    rcases List.mem_cons.mp member with rfl | later
    · exact Nat.le_max_left _ _
    · exact Nat.le_trans (ih later) (Nat.le_max_right _ _)

end Value

namespace Fields

variable {α β : Type} {fields : List (String × Value)} {place : Nat} {name : String} {value : Value}
  {read : Value → Option α} {result : α} {next : α → Option β} {record : β}

theorem ofValue?_bind {dialect : Dialect} {arity : Nat} {next : Fields → Option β}
    (rest : next (named fields) = some record) : ofValue? dialect arity (.record fields) >>= next = some record :=
  rest

theorem required_named (fields : List (String × Value)) (place : Nat) (name : String) (read : Value → Option α) :
    (named fields).required place name read = (Value.field? fields name).bind read := by
  rw [required, get?]
  cases Value.field? fields name <;> rfl

theorem required_bind (found : Value.field? fields name = some value) (undone : read value = some result)
    (rest : next result = some record) : (named fields).required place name read >>= next = some record := by
  rw [required_named, found, Option.bind_some, undone]
  exact rest

theorem orElse_bind {missing : α} (found : Value.field? fields name = some value)
    (undone : read value = some result) (rest : next result = some record) :
    (named fields).orElse place name missing read >>= next = some record := by
  simp only [orElse, get?, found, undone]
  exact rest

end Fields

theorem Tagged.alternative?_text {names : List String} {name : String} (known : name ∈ names) (fields : Fields)
    (dialect : Dialect) : (Tagged.mk (.text name) fields).alternative? dialect names = some name :=
  if_pos (List.contains_iff_mem.mpr known)

end Legality
