import Legality.Data.SortedMap
import Mathlib.Algebra.Ring.Nat
import Mathlib.Data.List.Nodup
import Mathlib.Data.List.Sort

/-!
Keys and entries of sorted maps. An insertion adds its own key and no other, and it changes what is found under its
own key and no other; so a set made from a list has the members of the list. Up to their order, the entries after an
insertion are the inserted one and those that an erasure of its key leaves. A map is determined by what is found in
it, so insertions under different keys can be made in either order, and a map can be made again from its entries.
-/
namespace Legality

namespace SortedMap

variable {κ α : Type} [OrderedKey κ]

theorem mem_keys_insertEntry {key other : κ} {value : α} {entries : List (κ × α)} :
    other ∈ (insertEntry key value entries).map Prod.fst ↔ other = key ∨ other ∈ entries.map Prod.fst := by
  induction entries with
  | nil => simp [insertEntry]
  | cons entry rest ih =>
    rw [insertEntry]
    split
    next below => simp
    next notBelow =>
      split
      next same => simp [same]
      next different =>
        rw [List.map_cons, List.mem_cons, ih, List.map_cons, List.mem_cons]
        exact or_left_comm

theorem mem_keys_insert {map : SortedMap κ α} {key other : κ} {value : α} :
    other ∈ (map.insert key value).keys ↔ other = key ∨ other ∈ map.keys :=
  mem_keys_insertEntry

theorem mem_of_find? {key : κ} {value : α} {entries : List (κ × α)} (found : find? key entries = some value) :
    (key, value) ∈ entries := by
  induction entries with
  | nil => simp [find?] at found
  | cons entry rest ih =>
    rw [find?] at found
    split at found
    next same =>
      rw [same, ← Option.some.inj found]
      exact List.mem_cons_self
    next different => exact List.mem_cons_of_mem _ (ih found)

theorem find?_insertEntry {key other : κ} {value : α} {entries : List (κ × α)} :
    find? other (insertEntry key value entries) = if other = key then some value else find? other entries := by
  induction entries with
  | nil => rfl
  | cons entry rest ih =>
    rw [insertEntry]
    split
    next below => rfl
    next notBelow =>
      split
      next same =>
        by_cases found : other = key
        · simp only [find?, if_pos found]
        · simp only [find?, ← same, if_neg found]
      next different =>
        rw [find?, ih, find?]
        by_cases found : other = entry.1
        · have unequal : other ≠ key := fun equal => different (equal.symm.trans found)
          simp only [if_pos found, if_neg unequal]
        · simp only [if_neg found]

theorem find?_eq_none_iff {key : κ} {entries : List (κ × α)} :
    find? key entries = none ↔ ∀ entry ∈ entries, entry.1 ≠ key := by
  induction entries with
  | nil => simp [find?]
  | cons entry rest ih =>
    rw [find?, List.forall_mem_cons]
    by_cases same : key = entry.1
    · simp [same]
    · rw [if_neg same, ih]
      exact (and_iff_right fun equal => same equal.symm).symm

theorem filter_key_ne {key : κ} {entries : List (κ × α)} (absent : ∀ entry ∈ entries, entry.1 ≠ key) :
    entries.filter (fun entry => !decide (entry.1 = key)) = entries := by
  apply List.filter_eq_self.mpr
  intro entry member
  simp [absent entry member]

theorem keys_ne_of_ascending {key : κ} {entries : List (κ × α)} (above : ∀ entry ∈ entries, key < entry.1) :
    ∀ entry ∈ entries, entry.1 ≠ key := by
  intro entry member same
  have below := above entry member
  rw [same] at below
  exact OrderedKey.irrefl key below

theorem insertEntry_perm (key : κ) (value : α) {entries : List (κ × α)}
    (ascending : entries.Pairwise fun a b => a.1 < b.1) :
    (insertEntry key value entries).Perm
      ((key, value) :: entries.filter fun entry => !decide (entry.1 = key)) := by
  induction entries with
  | nil => exact .refl _
  | cons entry rest ih =>
    obtain ⟨first, later⟩ := List.pairwise_cons.mp ascending
    rw [insertEntry]
    split
    next below =>
      have above : ∀ other ∈ entry :: rest, key < other.1 :=
        List.forall_mem_cons.mpr ⟨below, fun other inside => OrderedKey.trans below (first other inside)⟩
      rw [filter_key_ne (keys_ne_of_ascending above)]
    next notBelow =>
      split
      next same =>
        rw [List.filter_cons_of_neg (by simp [same]), filter_key_ne]
        rw [same]
        exact keys_ne_of_ascending first
      next different =>
        rw [List.filter_cons_of_pos (by simp [Ne.symm different])]
        exact ((ih later).cons entry).trans (.swap _ _ _)

/-- An entry that is found stands once among the entries, before those that an erasure of its key leaves. -/
theorem perm_of_find? {key : κ} {value : α} {entries : List (κ × α)}
    (ascending : entries.Pairwise fun a b => a.1 < b.1) (found : find? key entries = some value) :
    entries.Perm ((key, value) :: entries.filter fun entry => !decide (entry.1 = key)) := by
  induction entries with
  | nil => contradiction
  | cons entry rest ih =>
    obtain ⟨first, later⟩ := List.pairwise_cons.mp ascending
    rw [find?] at found
    split at found
    next same =>
      have here : entry = (key, value) := Prod.ext same.symm (Option.some.inj found)
      rw [List.filter_cons_of_neg (by simp [same]), filter_key_ne, here]
      rw [same]
      exact keys_ne_of_ascending first
    next different =>
      rw [List.filter_cons_of_pos (by simp [Ne.symm different])]
      exact ((ih later found).cons entry).trans (.swap _ _ _)

theorem insert_perm_of_fresh {map : SortedMap κ α} {key : κ} (value : α) (fresh : map.get? key = none) :
    (map.insert key value).entries.Perm ((key, value) :: map.entries) := by
  have placed := insertEntry_perm key value map.ascending
  rw [filter_key_ne (find?_eq_none_iff.mp fresh)] at placed
  exact placed

/-- An insertion adds the weight of its value and takes away that of the value that it replaces. -/
theorem sum_insert (map : SortedMap κ α) (key : κ) (value : α) (weight : α → Nat) :
    ((map.insert key value).values.map weight).sum + ((map.get? key).map weight).getD 0 =
      (map.values.map weight).sum + weight value := by
  have placed := (insertEntry_perm key value map.ascending).map fun entry => weight entry.2
  have after : ((map.insert key value).values.map weight).sum =
      weight value + ((map.erase key).values.map weight).sum := by
    rw [values, List.map_map, values, List.map_map]
    exact placed.sum_nat
  cases found : map.get? key with
  | none =>
    have kept : (map.erase key).values = map.values :=
      congrArg (List.map Prod.snd) (filter_key_ne (find?_eq_none_iff.mp found))
    rw [after, kept, Option.map_none, Option.getD_none]
    omega
  | some earlier =>
    have before : (map.values.map weight).sum = weight earlier + ((map.erase key).values.map weight).sum := by
      rw [values, List.map_map, values, List.map_map]
      exact ((perm_of_find? map.ascending found).map fun entry => weight entry.2).sum_nat
    rw [after, before, Option.map_some, Option.getD_some]
    omega

theorem get?_insert (map : SortedMap κ α) (key other : κ) (value : α) :
    (map.insert key value).get? other = if other = key then some value else map.get? other :=
  find?_insertEntry

theorem find?_eq_some_iff {key : κ} {value : α} {entries : List (κ × α)}
    (ascending : entries.Pairwise fun a b => a.1 < b.1) : find? key entries = some value ↔ (key, value) ∈ entries := by
  constructor
  · exact mem_of_find?
  · intro member
    induction entries with
    | nil => contradiction
    | cons entry rest ih =>
      obtain ⟨first, later⟩ := List.pairwise_cons.mp ascending
      rw [find?]
      rcases List.mem_cons.mp member with here | inside
      · rw [if_pos (congrArg Prod.fst here), ← here]
      · rw [if_neg (keys_ne_of_ascending first _ inside)]
        exact ih later inside

theorem get?_eq_some_iff {map : SortedMap κ α} {key : κ} {value : α} :
    map.get? key = some value ↔ (key, value) ∈ map.entries :=
  find?_eq_some_iff map.ascending

theorem get?_erase (map : SortedMap κ α) (key other : κ) :
    (map.erase key).get? other = if other = key then none else map.get? other := by
  apply Option.ext
  intro value
  rw [get?_eq_some_iff, erase, List.mem_filter]
  split
  next same => simp [same]
  next different => simp [different, get?_eq_some_iff]

theorem mem_keys_iff {map : SortedMap κ α} {key : κ} : key ∈ map.keys ↔ (map.get? key).isSome = true := by
  rw [keys, List.mem_map, Option.isSome_iff_exists]
  constructor
  · rintro ⟨entry, member, rfl⟩
    exact ⟨entry.2, get?_eq_some_iff.mpr member⟩
  · rintro ⟨value, found⟩
    exact ⟨(key, value), get?_eq_some_iff.mp found, rfl⟩

theorem keys_nodup (map : SortedMap κ α) : map.keys.Nodup := by
  rw [keys, List.nodup_iff_pairwise_ne, List.pairwise_map]
  apply map.ascending.imp
  intro entry other below same
  rw [same] at below
  exact OrderedKey.irrefl other.1 below

theorem keys_ascending (map : SortedMap κ α) : map.keys.Pairwise (· < ·) :=
  List.pairwise_map.mpr map.ascending

theorem eq_of_ascending {β : Type} (key : β → κ) {first second : List β}
    (ascending : first.Pairwise fun a b => key a < key b) (alsoAscending : second.Pairwise fun a b => key a < key b)
    (same : ∀ member, member ∈ first ↔ member ∈ second) : first = second := by
  have : Std.Irrefl fun a b : β => key a < key b := ⟨fun a => OrderedKey.irrefl (key a)⟩
  have : Std.Antisymm fun a b : β => key a < key b :=
    ⟨fun a _ below above => absurd (OrderedKey.trans below above) (OrderedKey.irrefl (key a))⟩
  exact ascending.eq_of_mem_iff alsoAscending same

theorem ext_get? {map other : SortedMap κ α} (same : ∀ key, map.get? key = other.get? key) : map = other := by
  have equal : map.entries = other.entries := by
    apply eq_of_ascending Prod.fst map.ascending other.ascending
    rintro ⟨key, value⟩
    rw [← get?_eq_some_iff, ← get?_eq_some_iff, same]
  cases map
  cases other
  cases equal
  rfl

theorem insert_insert_of_get? {map : SortedMap κ α} {key : κ} {value : α} (found : map.get? key = some value)
    (other : α) : (map.insert key other).insert key value = map := by
  apply ext_get?
  intro wanted
  rw [get?_insert, get?_insert]
  split
  next same => rw [same, found]
  next different => rfl

theorem insert_comm (map : SortedMap κ α) {key other : κ} (different : key ≠ other) (value another : α) :
    (map.insert key value).insert other another = (map.insert other another).insert key value := by
  apply ext_get?
  intro wanted
  rw [get?_insert, get?_insert, get?_insert, get?_insert]
  by_cases first : wanted = key
  · rw [if_pos first, if_pos first, if_neg fun second => different (first.symm.trans second)]
  · rw [if_neg first, if_neg first]

theorem mem_foldl_insert {entries : List (κ × α)} {map : SortedMap κ α} {entry : κ × α}
    (member : entry ∈ (entries.foldl (fun map entry => map.insert entry.1 entry.2) map).entries) :
    entry ∈ map.entries ∨ entry ∈ entries := by
  induction entries generalizing map with
  | nil => exact .inl member
  | cons first rest ih =>
    rcases ih member with inserted | later
    · rcases mem_insertEntry inserted with here | earlier
      · exact .inr (here ▸ List.mem_cons_self)
      · exact .inl earlier
    · exact .inr (List.mem_cons_of_mem _ later)

theorem mem_ofList {entries : List (κ × α)} {entry : κ × α} (member : entry ∈ (ofList entries).entries) :
    entry ∈ entries :=
  (mem_foldl_insert member).resolve_left List.not_mem_nil

theorem get?_foldl_insert {entries : List (κ × α)} (ascending : entries.Pairwise fun a b => a.1 < b.1)
    (map : SortedMap κ α) (key : κ) :
    (entries.foldl (fun map entry => map.insert entry.1 entry.2) map).get? key =
      (find? key entries).or (map.get? key) := by
  induction entries generalizing map with
  | nil => rfl
  | cons entry rest ih =>
    obtain ⟨first, later⟩ := List.pairwise_cons.mp ascending
    rw [List.foldl_cons, ih later, get?_insert, find?]
    by_cases here : key = entry.1
    · have absent : find? key rest = none := by
        rw [here]
        exact find?_eq_none_iff.mpr (keys_ne_of_ascending first)
      rw [if_pos here, if_pos here, absent, Option.none_or, Option.some_or]
    · rw [if_neg here, if_neg here]

theorem ofList_entries (map : SortedMap κ α) : ofList map.entries = map := by
  apply ext_get?
  intro key
  rw [ofList, get?_foldl_insert map.ascending]
  exact Option.or_none

theorem foldl_insert_perm {entries : List (κ × α)} {map : SortedMap κ α}
    (distinct : ((map.entries ++ entries).map Prod.fst).Nodup) :
    (entries.foldl (fun map entry => map.insert entry.1 entry.2) map).entries.Perm (map.entries ++ entries) := by
  induction entries generalizing map with
  | nil => rw [List.append_nil, List.foldl_nil]
  | cons entry rest ih =>
    have front : (entry :: map.entries ++ rest).Perm (map.entries ++ entry :: rest) := List.perm_middle.symm
    have distinctFront : ((entry :: (map.entries ++ rest)).map Prod.fst).Nodup := (front.map Prod.fst).nodup_iff.mpr distinct
    have fresh : map.get? entry.1 = none := by
      apply find?_eq_none_iff.mpr
      intro other member same
      apply (List.nodup_cons.mp distinctFront).1
      exact List.mem_map.mpr ⟨other, List.mem_append_left _ member, same⟩
    have placed : ((map.insert entry.1 entry.2).entries ++ rest).Perm (map.entries ++ entry :: rest) :=
      ((insert_perm_of_fresh entry.2 fresh).append_right rest).trans front
    exact (ih ((placed.map Prod.fst).nodup_iff.mpr distinct)).trans placed

theorem ofList_perm {entries : List (κ × α)} (distinct : (entries.map Prod.fst).Nodup) :
    (ofList entries).entries.Perm entries :=
  foldl_insert_perm distinct

/-- Entries with different keys make the same map in every order. -/
theorem ofList_eq_of_perm {entries others : List (κ × α)} (distinct : (entries.map Prod.fst).Nodup)
    (same : entries.Perm others) : ofList entries = ofList others := by
  have filed := ofList_perm distinct
  have filedOthers := ofList_perm ((same.map Prod.fst).nodup_iff.mp distinct)
  apply ext_get?
  intro key
  apply Option.ext
  intro value
  rw [get?_eq_some_iff, get?_eq_some_iff, filed.mem_iff, filedOthers.mem_iff, same.mem_iff]

end SortedMap

namespace SortedSet

variable {κ : Type} [OrderedKey κ]

theorem add_comm (set : SortedSet κ) (member other : κ) : add (add set member) other = add (add set other) member := by
  by_cases same : member = other
  · rw [same]
  · exact SortedMap.insert_comm set same () ()

theorem mem_add {set : SortedSet κ} {member other : κ} :
    other ∈ toList (add set member) ↔ other = member ∨ other ∈ toList set :=
  SortedMap.mem_keys_insert

theorem toList_add_perm {set : SortedSet κ} {member : κ} (fresh : member ∉ toList set) :
    (toList (add set member)).Perm (member :: toList set) := by
  have absent : set.get? member = none := by
    apply SortedMap.find?_eq_none_iff.mpr
    intro entry present same
    exact fresh (List.mem_map.mpr ⟨entry, present, same⟩)
  exact (SortedMap.insert_perm_of_fresh () absent).map Prod.fst

theorem mem_foldl_add {members : List κ} {set : SortedSet κ} {other : κ} :
    other ∈ toList (members.foldl add set) ↔ other ∈ toList set ∨ other ∈ members := by
  induction members generalizing set with
  | nil => simp
  | cons member rest ih =>
    rw [List.foldl_cons, ih, mem_add, List.mem_cons]
    exact or_assoc.trans or_left_comm

theorem mem_ofList {members : List κ} {other : κ} : other ∈ toList (ofList members) ↔ other ∈ members := by
  rw [ofList, mem_foldl_add]
  exact or_iff_right List.not_mem_nil

theorem ext_mem {set other : SortedSet κ} (same : ∀ member, member ∈ toList set ↔ member ∈ toList other) :
    set = other := by
  apply SortedMap.ext_get?
  intro member
  have present := same member
  rw [toList, toList, SortedMap.mem_keys_iff, SortedMap.mem_keys_iff] at present
  cases here : set.get? member <;> cases there : other.get? member <;> simp [here, there] at present ⊢

theorem ofList_toList (set : SortedSet κ) : ofList (toList set) = set := by
  calc
    ofList (toList set) = SortedMap.ofList set.entries := List.foldl_map
    _ = set := SortedMap.ofList_entries set

end SortedSet

end Legality
