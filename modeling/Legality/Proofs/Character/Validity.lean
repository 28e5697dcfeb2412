import Legality.Character.Validity
import Legality.Proofs.Data.SortedMap

/-!
Well-formed characters. The check of a snapshot finds no fault exactly in those that keep every rule, and the rules
are kept when a character trains a skill, acquires an ability with a new id, or gains a level in a class.
-/
namespace Legality.Snapshot

/-- The levels in all classes together, in whatever number of bits they need. -/
def classLevelSum (snapshot : Snapshot) : Nat := (snapshot.classLevels.values.map UInt32.toNat).sum

/-- The rules of shape that a snapshot has to keep. -/
structure WellFormed (snapshot : Snapshot) : Prop where
  schema : snapshot.schemaVersion = supportedSchema
  named : Text.isBlankText snapshot.characterId = false
  scores : ∀ ability, snapshot.abilities.score ability ≤ maximumScore
  identified : ∀ owned ∈ snapshot.owned, Text.isBlankText owned.id = false
  distinct : (snapshot.owned.map OwnedAbility.id).Nodup
  levels : snapshot.classLevelSum ≤ snapshot.level.toNat

def Distinct (abilities : List OwnedAbility) : Prop :=
  (∀ owned ∈ abilities, Text.isBlankText owned.id = false) ∧ (abilities.map OwnedAbility.id).Nodup

theorem Distinct.snoc {abilities : List OwnedAbility} {ability : OwnedAbility} (distinct : Distinct abilities)
    (identified : Text.isBlankText ability.id = false) (new : ability.id ∉ abilities.map OwnedAbility.id) :
    Distinct (abilities ++ [ability]) := by
  constructor
  · intro owned member
    rcases List.mem_append.mp member with earlier | here
    · exact distinct.1 owned earlier
    · exact List.mem_singleton.mp here ▸ identified
  · rw [List.map_append, List.map_singleton, List.nodup_append]
    refine ⟨distinct.2, by simp, ?_⟩
    intro id earlier other here same
    rw [same, List.mem_singleton.mp here] at earlier
    exact new earlier

variable {snapshot : Snapshot}

theorem mem_all_abilities (ability : Ability) : ability ∈ Ability.all := by
  cases ability <;> decide

theorem scoreFault?_eq_none_iff :
    snapshot.scoreFault? = none ↔ ∀ ability, snapshot.abilities.score ability ≤ maximumScore := by
  simp [scoreFault?, mem_all_abilities]

/-- The loop over owned abilities finds nothing if all of them have ids, no two the same and none an earlier one. -/
theorem ownedFault?_eq_none_iff {seen : List String} {abilities : List OwnedAbility} :
    ownedFault? seen abilities = none ↔
      (∀ owned ∈ abilities, Text.isBlankText owned.id = false) ∧
        (abilities.map OwnedAbility.id).Nodup ∧ ∀ owned ∈ abilities, owned.id ∉ seen := by
  induction abilities generalizing seen with
  | nil => simp [ownedFault?]
  | cons owned rest ih =>
    rw [ownedFault?]
    by_cases blank : Text.isBlankText owned.id = true
    · simp [blank]
    by_cases repeated : owned.id ∈ seen
    · simp [blank, repeated]
    rw [if_neg blank, if_neg repeated, ih, List.map_cons, List.nodup_cons, List.forall_mem_cons, List.forall_mem_cons]
    -- What the rest of the loop finds new is new to the earlier ids and to the id that was just passed.
    have split : (∀ other ∈ rest, other.id ∉ owned.id :: seen) ↔
        owned.id ∉ rest.map OwnedAbility.id ∧ ∀ other ∈ rest, other.id ∉ seen := by
      simp only [List.mem_cons, not_or, forall_and, List.mem_map, not_exists, not_and]
    rw [split]
    constructor
    · rintro ⟨identified, apart, new, unseen⟩
      exact ⟨⟨Bool.not_eq_true _ ▸ blank, identified⟩, ⟨new, apart⟩, repeated, unseen⟩
    · rintro ⟨⟨-, identified⟩, ⟨new, apart⟩, -, unseen⟩
      exact ⟨identified, apart, new, unseen⟩

theorem ownedFault?_nil_iff {abilities : List OwnedAbility} : ownedFault? [] abilities = none ↔ Distinct abilities := by
  rw [ownedFault?_eq_none_iff, Distinct]
  simp only [List.not_mem_nil, not_false_eq_true, implies_true, and_true]

theorem toNat_addLevels (total : UInt64) (levels : UInt32) :
    (addLevels total levels).toNat = min (total.toNat + levels.toNat) (2 ^ 64 - 1) := by
  have size : UInt64.size = 2 ^ 64 := rfl
  rw [addLevels]
  split
  next fits =>
    rw [UInt64.toNat_add, UInt32.toNat_toUInt64]
    omega
  next full =>
    have largest : (0xFFFFFFFFFFFFFFFF : UInt64).toNat = 2 ^ 64 - 1 := rfl
    omega

/-- Saturating on the way and at the end come to the same. -/
theorem toNat_foldl_addLevels (values : List UInt32) (total : UInt64) :
    (values.foldl addLevels total).toNat = min (total.toNat + (values.map UInt32.toNat).sum) (2 ^ 64 - 1) := by
  induction values generalizing total with
  | nil =>
    have bound := total.toNat_lt
    rw [List.foldl_nil, List.map_nil, List.sum_nil]
    omega
  | cons levels rest ih =>
    rw [List.foldl_cons, ih, toNat_addLevels, List.map_cons, List.sum_cons]
    omega

theorem toNat_classLevelTotal (snapshot : Snapshot) :
    snapshot.classLevelTotal.toNat = min snapshot.classLevelSum (2 ^ 64 - 1) := by
  rw [classLevelTotal, toNat_foldl_addLevels, classLevelSum, UInt64.toNat_zero, Nat.zero_add]

theorem classLevelTotal_le_iff :
    snapshot.classLevelTotal ≤ snapshot.level.toUInt64 ↔ snapshot.classLevelSum ≤ snapshot.level.toNat := by
  have bound := snapshot.level.toNat_lt
  rw [UInt64.le_iff_toNat_le, UInt32.toNat_toUInt64, toNat_classLevelTotal]
  omega

theorem classLevelFault?_eq_none_iff :
    snapshot.classLevelFault? = none ↔ snapshot.classLevelSum ≤ snapshot.level.toNat := by
  rw [← classLevelTotal_le_iff]
  simp [classLevelFault?]

theorem orElse_eq_none_iff {first second : Option StructureError} :
    (first <|> second) = none ↔ first = none ∧ second = none := by
  cases first <;> simp

theorem fault?_eq_none_iff : snapshot.fault? = none ↔ snapshot.WellFormed := by
  rw [fault?, orElse_eq_none_iff, orElse_eq_none_iff, orElse_eq_none_iff, orElse_eq_none_iff,
    scoreFault?_eq_none_iff, ownedFault?_eq_none_iff, classLevelFault?_eq_none_iff]
  constructor
  · rintro ⟨schema, named, scores, ⟨identified, distinct, -⟩, levels⟩
    exact ⟨by simpa [schemaFault?] using schema, by simpa [identityFault?] using named, scores, identified, distinct,
      levels⟩
  · intro well
    refine ⟨?_, ?_, well.scores, ⟨well.identified, well.distinct, fun _ _ => List.not_mem_nil⟩, well.levels⟩
    · simp [schemaFault?, well.schema]
    · simp [identityFault?, well.named]

theorem checked_ok_iff {after : Snapshot} : snapshot.checked = .ok after ↔ snapshot.WellFormed ∧ after = snapshot := by
  rw [checked, ← fault?_eq_none_iff]
  cases snapshot.fault? with
  | some fault => simp
  | none => simp [eq_comm]

theorem WellFormed.train (well : snapshot.WellFormed) (skill : String) : (snapshot.train skill).WellFormed :=
  { well with }

theorem owns_iff {id : String} : snapshot.owns id = true ↔ id ∈ snapshot.owned.map OwnedAbility.id := by
  simp [owns]

theorem WellFormed.acquire (well : snapshot.WellFormed) {ability : OwnedAbility}
    (identified : Text.isBlankText ability.id = false) (fresh : snapshot.owns ability.id = false) :
    (snapshot.acquire ability).WellFormed := by
  have absent : ability.id ∉ snapshot.owned.map OwnedAbility.id := by
    rw [← owns_iff, fresh]
    exact Bool.false_ne_true
  obtain ⟨named, apart⟩ := Distinct.snoc ⟨well.identified, well.distinct⟩ identified absent
  exact { well with identified := named, distinct := apart }

/-- Setting the levels in one class changes the sum by as much as it changes that class. -/
theorem classLevelSum_setClassLevel (snapshot : Snapshot) (classId : String) (levels : UInt32) :
    (snapshot.setClassLevel classId levels).classLevelSum + (snapshot.classLevel classId).toNat =
      snapshot.classLevelSum + levels.toNat := by
  have counted := snapshot.classLevels.sum_insert classId levels UInt32.toNat
  have earlier : ((snapshot.classLevels.get? classId).map UInt32.toNat).getD 0 =
      (snapshot.classLevel classId).toNat := by
    rw [classLevel]
    cases snapshot.classLevels.get? classId <;> rfl
  rw [earlier] at counted
  exact counted

end Legality.Snapshot
