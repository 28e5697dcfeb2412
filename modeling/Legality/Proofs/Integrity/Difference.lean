import Legality.Integrity.Violation
import Legality.Proofs.Data.SortedMap

/-!
Differences between runs. What becomes of an ability follows from what each run found of it, so a comparison sorts the
abilities that violate in either run into its four lists, each into one. Two runs that found the same differ in nothing,
and the ids of a run are those of the violations that it found.
-/
namespace Legality

namespace ViolationDiff

theorem idsWhere_of_all {run : SortedMap String Violation} {test : String → Violation → Bool}
    (passed : ∀ entry ∈ run.entries, test entry.1 entry.2 = true) : idsWhere run test = run.keys := by
  rw [idsWhere, List.filter_eq_self.mpr passed]
  rfl

theorem idsWhere_of_none {run : SortedMap String Violation} {test : String → Violation → Bool}
    (failed : ∀ entry ∈ run.entries, test entry.1 entry.2 = false) : idsWhere run test = [] := by
  have nothing : (run.entries.filter fun entry => test entry.1 entry.2) = [] := by
    apply List.filter_eq_nil_iff.mpr
    intro entry member
    rw [failed entry member]
    decide
  rw [idsWhere, nothing, List.map_nil]

theorem mem_idsWhere {run : SortedMap String Violation} {test : String → Violation → Bool} {id : String} :
    id ∈ idsWhere run test ↔ ∃ violation, run.get? id = some violation ∧ test id violation = true := by
  rw [idsWhere, List.mem_map]
  constructor
  · rintro ⟨entry, member, rfl⟩
    obtain ⟨inside, passed⟩ := List.mem_filter.mp member
    exact ⟨entry.2, SortedMap.get?_eq_some_iff.mpr inside, passed⟩
  · rintro ⟨violation, found, passed⟩
    exact ⟨(id, violation), List.mem_filter.mpr ⟨SortedMap.get?_eq_some_iff.mp found, passed⟩, rfl⟩

theorem mem_idsWhere_absent {run other : SortedMap String Violation} {id : String} :
    id ∈ idsWhere run (fun id _ => !other.contains id) ↔ id ∈ run.keys ∧ id ∉ other.keys := by
  rw [mem_idsWhere, SortedMap.mem_keys_iff, SortedMap.mem_keys_iff, Option.isSome_iff_exists, SortedMap.contains,
    Bool.not_eq_true', Bool.not_eq_true]
  exact exists_and_right

theorem idsWhere_ascending (run : SortedMap String Violation) (test : String → Violation → Bool) :
    (idsWhere run test).Pairwise (· < ·) :=
  List.pairwise_map.mpr (run.ascending.filter _)

theorem sameConditions_refl (violation : Violation) : sameConditions violation violation = true := by
  simp [sameConditions]

theorem sameConditions_iff {a b : Violation} :
    sameConditions a b = true ↔ ∀ condition, condition ∈ a.missingConditions ↔ condition ∈ b.missingConditions := by
  simp only [sameConditions, Bool.and_eq_true, List.all_eq_true, List.contains_iff_mem, iff_iff_implies_and_implies,
    forall_and]

theorem sameConditions_comm (a b : Violation) : sameConditions a b = sameConditions b a :=
  Bool.and_comm _ _

theorem between_of_same {previous current : IntegritySnapshot} (same : previous.violations = current.violations) :
    between (some previous) current = { empty with unchanged := current.violations.keys } := by
  have found {entry : String × Violation} (member : entry ∈ current.violations.entries) :
      current.violations.get? entry.1 = some entry.2 :=
    SortedMap.get?_eq_some_iff.mpr member
  rw [between, same]
  congr 1
  case e_new =>
    apply idsWhere_of_none
    intro entry member
    rw [SortedMap.contains, found member]
    rfl
  case e_resolved =>
    apply idsWhere_of_none
    intro entry member
    rw [SortedMap.contains, found member]
    rfl
  case e_changed =>
    apply idsWhere_of_none
    intro entry member
    rw [found member, Option.any_some, sameConditions_refl]
    rfl
  case e_unchanged =>
    apply idsWhere_of_all
    intro entry member
    rw [found member, Option.any_some, sameConditions_refl]

inductive Fate
  | new
  | resolved
  | changed
  | unchanged
  deriving DecidableEq

/-- What becomes of an ability, by what the run before and the current run found of it. -/
def fate? : Option Violation → Option Violation → Option Fate
  | none, none => none
  | none, some _ => some .new
  | some _, none => some .resolved
  | some before, some now => some (if sameConditions before now then .unchanged else .changed)

def listed (diff : ViolationDiff) : Fate → List String
  | .new => diff.new
  | .resolved => diff.resolved
  | .changed => diff.changed
  | .unchanged => diff.unchanged

def Fate.backwards : Fate → Fate
  | .new => .resolved
  | .resolved => .new
  | .changed => .changed
  | .unchanged => .unchanged

theorem Fate.backwards_backwards (fate : Fate) : fate.backwards.backwards = fate := by
  cases fate <;> rfl

variable {a b : IntegritySnapshot} {id : String}

/-- An ability is listed under the fate that it has, and under no other. -/
theorem mem_listed (fate : Fate) :
    id ∈ (between (some a) b).listed fate ↔ fate? (a.violations.get? id) (b.violations.get? id) = some fate := by
  cases before : a.violations.get? id with
  | none =>
    cases now : b.violations.get? id with
    | none => cases fate <;> simp [listed, between, mem_idsWhere, SortedMap.contains, fate?, before, now]
    | some later => cases fate <;> simp [listed, between, mem_idsWhere, SortedMap.contains, fate?, before, now]
  | some earlier =>
    cases now : b.violations.get? id with
    | none => cases fate <;> simp [listed, between, mem_idsWhere, SortedMap.contains, fate?, before, now]
    | some later =>
      cases verdict : sameConditions earlier later <;> cases fate <;>
        simp [listed, between, mem_idsWhere, SortedMap.contains, fate?, before, now, verdict]

theorem listed_ascending (a b : IntegritySnapshot) (fate : Fate) :
    ((between (some a) b).listed fate).Pairwise (· < ·) := by
  cases fate with
  | new | resolved | changed | unchanged =>
    simp only [listed, between]
    apply idsWhere_ascending

theorem listed_disjoint {fate other : Fate} (different : fate ≠ other) :
    ((between (some a) b).listed fate).Disjoint ((between (some a) b).listed other) := by
  intro id here there
  rw [mem_listed] at here there
  exact different (Option.some.inj (here.symm.trans there))

theorem exists_fate : (∃ fate, id ∈ (between (some a) b).listed fate) ↔
    id ∈ a.violations.keys ∨ id ∈ b.violations.keys := by
  simp only [mem_listed, SortedMap.mem_keys_iff]
  cases a.violations.get? id <;> cases b.violations.get? id <;> simp [fate?]

theorem fate?_swap (before now : Option Violation) : fate? now before = (fate? before now).map Fate.backwards := by
  cases before with
  | none => cases now <;> rfl
  | some earlier =>
    cases now with
    | none => rfl
    | some later =>
      rw [fate?, fate?, sameConditions_comm]
      cases sameConditions earlier later <;> rfl

theorem listed_swap (a b : IntegritySnapshot) (fate : Fate) :
    (between (some b) a).listed fate = (between (some a) b).listed fate.backwards := by
  apply SortedMap.eq_of_ascending (fun id => id) (listed_ascending b a fate) (listed_ascending a b fate.backwards)
  intro id
  rw [mem_listed, mem_listed, fate?_swap, Option.map_eq_some_iff]
  constructor
  · rintro ⟨_, found, rfl⟩
    rw [found, Fate.backwards_backwards]
  · intro found
    exact ⟨fate.backwards, found, fate.backwards_backwards⟩

/-- A comparison of two runs puts each ability that violates in either into exactly one of four ascending lists. The
ids of the current run are those of the run before without the resolved and with the new ones; of those in both, the
changed ones are those whose missing conditions are not the same set. The comparison the other way round has the new and
the resolved ones exchanged, and where there is no run before, all are new. -/
theorem between_partitions (a b : IntegritySnapshot) :
    let diff := between (some a) b
    (∀ fate, (diff.listed fate).Pairwise (· < ·)) ∧
      [diff.new, diff.resolved, diff.changed, diff.unchanged].Pairwise List.Disjoint ∧
      (∀ id, id ∈ diff.new ++ diff.resolved ++ diff.changed ++ diff.unchanged ↔
        id ∈ a.violations.keys ∨ id ∈ b.violations.keys) ∧
      (∀ id, id ∈ b.violations.keys ↔ (id ∈ a.violations.keys ∧ id ∉ diff.resolved) ∨ id ∈ diff.new) ∧
      (∀ id before now, a.violations.get? id = some before → b.violations.get? id = some now →
        (id ∈ diff.changed ↔
          ¬ ∀ condition, condition ∈ before.missingConditions ↔ condition ∈ now.missingConditions)) ∧
      between (some b) a = ⟨diff.resolved, diff.new, diff.changed, diff.unchanged⟩ ∧
      between none b = ⟨b.violations.keys, [], [], []⟩ := by
  intro diff
  refine ⟨listed_ascending a b, ?_, ?_, ?_, ?_, ?_, rfl⟩
  · have apart (fate other : Fate) (different : fate ≠ other) :
        (diff.listed fate).Disjoint (diff.listed other) := listed_disjoint different
    have distinct : [Fate.new, .resolved, .changed, .unchanged].Pairwise (· ≠ ·) := by decide
    exact List.pairwise_map.mpr (distinct.imp (apart _ _))
  · intro id
    rw [← exists_fate, List.mem_append, List.mem_append, List.mem_append]
    constructor
    · rintro (((new | resolved) | changed) | unchanged)
      · exact ⟨.new, new⟩
      · exact ⟨.resolved, resolved⟩
      · exact ⟨.changed, changed⟩
      · exact ⟨.unchanged, unchanged⟩
    · rintro ⟨fate, listed⟩
      cases fate with
      | new => exact .inl (.inl (.inl listed))
      | resolved => exact .inl (.inl (.inr listed))
      | changed => exact .inl (.inr listed)
      | unchanged => exact .inr listed
  · intro id
    have resolved : id ∈ diff.resolved ↔ id ∈ a.violations.keys ∧ id ∉ b.violations.keys := mem_idsWhere_absent
    have new : id ∈ diff.new ↔ id ∈ b.violations.keys ∧ id ∉ a.violations.keys := mem_idsWhere_absent
    rw [resolved, new]
    by_cases earlier : id ∈ a.violations.keys
    · simp [earlier]
    · simp [earlier]
  · intro id before now violated violates
    have changed : id ∈ diff.changed ↔ _ := mem_listed .changed
    rw [changed, ← sameConditions_iff, violated, violates, fate?]
    cases sameConditions before now <;> simp
  · have lists (fate : Fate) : (between (some b) a).listed fate = diff.listed fate.backwards := listed_swap a b fate
    exact congr (congr (congrArg₂ mk (lists .new) (lists .resolved)) (lists .changed)) (lists .unchanged)

end ViolationDiff

theorem IntegritySnapshot.keys_ofList (characterId : String) (evaluatedAt : Instant) (violations : List Violation) :
    (ofList characterId evaluatedAt violations).violations.keys =
      (ofList characterId evaluatedAt violations).violations.values.map Violation.abilityId := by
  rw [SortedMap.keys, SortedMap.values, List.map_map, List.map_inj_left]
  intro entry member
  obtain ⟨violation, -, rfl⟩ := List.mem_map.mp (SortedMap.mem_ofList member)
  rfl

end Legality
