import Legality.Proofs.Data.SortedMap
import Legality.Rules.RuleTable
import Mathlib.Tactic.Common

/-!
Contents of catalogues. A catalogue lists the entries that it has under their ids; filing an entry with a new id adds that
entry to them, and neither hides nor removes another.
-/
namespace Legality

namespace Catalogue

variable {α : Type} {idOf : α → String} {catalogue : Catalogue α idOf}

theorem find?_file (entry : α) (id : String) :
    (catalogue.file entry).find? id = if id = idOf entry then some entry else catalogue.find? id :=
  SortedMap.get?_insert catalogue.entries (idOf entry) id entry

/-- Whether a catalogue has the entries with a property under their own ids, and no others. -/
def Lists (catalogue : Catalogue α idOf) (listed : α → Prop) : Prop :=
  ∀ id entry, catalogue.find? id = some entry ↔ idOf entry = id ∧ listed entry

namespace Lists

variable {listed others : α → Prop}

theorem congr (lists : catalogue.Lists listed) (same : ∀ entry, listed entry ↔ others entry) : catalogue.Lists others := by
  intro id entry
  rw [lists id entry, same entry]

theorem contains_iff (lists : catalogue.Lists listed) {id : String} :
    catalogue.contains id = true ↔ ∃ entry, idOf entry = id ∧ listed entry := by
  have found : catalogue.contains id = true ↔ ∃ entry, catalogue.find? id = some entry := Option.isSome_iff_exists
  rw [found]
  exact exists_congr fun entry => lists id entry

theorem found_iff {β : Type} {laid : β → Prop} {content : β → α}
    (lists : catalogue.Lists fun entry => ∃ source, laid source ∧ content source = entry) (id : String) (entry : α) :
    catalogue.find? id = some entry ↔ ∃ source, laid source ∧ idOf (content source) = id ∧ content source = entry := by
  rw [lists id entry]
  constructor
  · intro ⟨named, source, there, same⟩
    exact ⟨source, there, (congrArg idOf same).trans named, same⟩
  · intro ⟨source, there, named, same⟩
    exact ⟨same ▸ named, source, there, same⟩

theorem contains_content_iff {β : Type} {laid : β → Prop} {content : β → α}
    (lists : catalogue.Lists fun entry => ∃ source, laid source ∧ content source = entry) {id : String} :
    catalogue.contains id = true ↔ ∃ source, laid source ∧ idOf (content source) = id := by
  rw [lists.contains_iff]
  constructor
  · intro ⟨_, named, source, there, same⟩
    exact ⟨source, there, (congrArg idOf same).trans named⟩
  · intro ⟨source, there, named⟩
    exact ⟨_, named, source, there, rfl⟩

theorem file (lists : catalogue.Lists listed) {entry : α} (fresh : ¬ catalogue.contains (idOf entry) = true) :
    (catalogue.file entry).Lists fun other => listed other ∨ other = entry := by
  intro id other
  rw [find?_file]
  by_cases same : id = idOf entry
  · rw [if_pos same, Option.some.injEq]
    constructor
    · intro here
      exact ⟨(congrArg idOf here).symm.trans same.symm, .inr here.symm⟩
    · intro ⟨named, earlier⟩
      rcases earlier with earlier | here
      · exact absurd (lists.contains_iff.mpr ⟨other, named.trans same, earlier⟩) fresh
      · exact here.symm
  · rw [if_neg same, lists id other]
    constructor
    · intro ⟨named, earlier⟩
      exact ⟨named, .inl earlier⟩
    · intro ⟨named, earlier⟩
      refine ⟨named, earlier.resolve_right ?_⟩
      intro here
      exact same (named.symm.trans (congrArg idOf here))

theorem empty : (Catalogue.empty : Catalogue α idOf).Lists fun _ => False := by
  intro id entry
  simp [find?, Catalogue.empty, SortedMap.get?, SortedMap.empty, SortedMap.find?]

/-- Entries with different ids that are new are all listed. -/
theorem fileEach {entries : List α} (lists : catalogue.Lists listed) (distinct : (entries.map idOf).Nodup)
    (fresh : ∀ entry ∈ entries, ¬ catalogue.contains (idOf entry) = true) :
    (entries.foldl Catalogue.file catalogue).Lists fun other => listed other ∨ other ∈ entries := by
  induction entries generalizing catalogue listed with
  | nil => exact lists.congr fun entry => by simp
  | cons entry rest ih =>
    obtain ⟨first, later⟩ := List.nodup_cons.mp distinct
    obtain ⟨freshHere, freshLater⟩ := List.forall_mem_cons.mp fresh
    have filed := lists.file freshHere
    have freshStill : ∀ other ∈ rest, ¬ (catalogue.file entry).contains (idOf other) = true := by
      intro other member there
      obtain ⟨found, named, earlier⟩ := filed.contains_iff.mp there
      rcases earlier with earlier | here
      · exact freshLater other member (lists.contains_iff.mpr ⟨found, named, earlier⟩)
      · exact first (List.mem_map.mpr ⟨other, member, named.symm.trans (congrArg idOf here)⟩)
    exact (ih filed later freshStill).congr fun other => by simp [or_assoc]

end Lists

end Catalogue

end Legality
