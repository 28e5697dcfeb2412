import Legality.Proofs.Progression.Effect

/-!
What setting the fields of a delta does. A field that can be set is the level or the level in a class, and its value has
to be a level. The fields of a delta stand in ascending order, so that none is set twice: what was set for a field is
what the delta says of it, and everything else of a character stays.
-/
namespace Legality

namespace Delta

variable {start middle after : Snapshot}

theorem dropStem?_eq_some_iff {stem text rest : List Char} :
    dropStem? stem text = some rest ↔ text = stem ++ rest := by
  constructor
  · intro dropped
    induction stem generalizing text with
    | nil => exact Option.some.inj dropped
    | cons s stem ih =>
      cases text with
      | nil => contradiction
      | cons c text =>
        rw [dropStem?] at dropped
        split at dropped
        next same => rw [ih dropped, same, List.cons_append]
        next different => contradiction
  · rintro rfl
    exact dropStem?_append stem rest

theorem classOfField?_eq_some_iff {field classId : String} :
    classOfField? field = some classId ↔ field = classLevelField classId := by
  constructor
  · intro found
    obtain ⟨rest, dropped, rfl⟩ := Option.map_eq_some_iff.mp found
    have text := congrArg String.ofList (dropStem?_eq_some_iff.mp dropped)
    rwa [String.ofList_append, String.ofList_toList, String.ofList_toList] at text
  · rintro rfl
    exact classOfField?_classLevelField classId

theorem classLevelField_injective {classId other : String} (same : classLevelField classId = classLevelField other) :
    classId = other := by
  have found := classOfField?_classLevelField classId
  rw [same, classOfField?_classLevelField] at found
  exact (Option.some.inj found).symm

def IsField (field : String) : Prop := field = levelField ∨ ∃ classId, field = classLevelField classId

/-- What setting a field to a level does to a character. -/
inductive Sets (start : Snapshot) : String → UInt32 → Snapshot → Prop
  | level (level : UInt32) : Sets start levelField level { start with level := level }
  | classLevel (classId : String) (level : UInt32) :
      Sets start (classLevelField classId) level (start.setClassLevel classId level)

theorem IsField.sets {field : String} (known : IsField field) (start : Snapshot) (level : UInt32) :
    ∃ after, Sets start field level after := by
  rcases known with rfl | ⟨classId, rfl⟩
  · exact ⟨_, .level level⟩
  · exact ⟨_, .classLevel classId level⟩

theorem Sets.isField {field : String} {level : UInt32} (sets : Sets start field level after) : IsField field := by
  cases sets with
  | level => exact .inl rfl
  | classLevel classId => exact .inr ⟨classId, rfl⟩

theorem levelValue_ok_iff {field : String} {value : Value} {level : UInt32} :
    levelValue field value = .ok level ↔ value.uint32? = some level := by
  rw [levelValue]
  cases value.uint32? <;> simp

theorem setField_ok_iff {field : String} {value : Value} :
    setField start field value = .ok after ↔ ∃ level, value.uint32? = some level ∧ Sets start field level after := by
  unfold setField
  constructor
  · intro set
    split at set
    next same =>
      obtain ⟨level, read, rfl⟩ := map_ok_iff.mp set
      exact ⟨level, levelValue_ok_iff.mp read, same ▸ .level level⟩
    next different =>
      split at set
      next classId found =>
        obtain ⟨level, read, rfl⟩ := map_ok_iff.mp set
        exact ⟨level, levelValue_ok_iff.mp read, classOfField?_eq_some_iff.mp found ▸ .classLevel classId level⟩
      next unknown => contradiction
  · rintro ⟨level, read, sets⟩
    cases sets with
    | level =>
      rw [if_pos rfl]
      exact map_ok_iff.mpr ⟨level, levelValue_ok_iff.mpr read, rfl⟩
    | classLevel classId =>
      simp only [if_neg (classLevelField_ne classId), classOfField?_classLevelField]
      exact map_ok_iff.mpr ⟨level, levelValue_ok_iff.mpr read, rfl⟩

def levelIn? (fields : List (String × Value)) (field : String) : Option UInt32 :=
  (SortedMap.find? field fields).bind Value.uint32?

/-- What the fields of a delta do to a character. -/
structure FieldsSet (fields : List (String × Value)) (start after : Snapshot) : Prop where
  settable : ∀ entry ∈ fields, IsField entry.1 ∧ ∃ level, entry.2.uint32? = some level
  level : after.level = (levelIn? fields levelField).getD start.level
  classLevels : ∀ classId, after.classLevels.get? classId =
    (levelIn? fields (classLevelField classId)).or (start.classLevels.get? classId)
  frame : after = { start with level := after.level, classLevels := after.classLevels }

theorem levelIn?_cons {field : String} {value : Value} {level : UInt32} {rest : List (String × Value)}
    (read : value.uint32? = some level) (other : String) :
    levelIn? ((field, value) :: rest) other = if other = field then some level else levelIn? rest other := by
  rw [levelIn?, SortedMap.find?]
  split
  next same => exact read
  next different => rfl

theorem FieldsSet.owned {fields : List (String × Value)} (set : FieldsSet fields start after) :
    after.owned = start.owned := by
  rw [set.frame]

theorem FieldsSet.trainedSkills {fields : List (String × Value)} (set : FieldsSet fields start after) :
    after.trainedSkills = start.trainedSkills := by
  rw [set.frame]

theorem fieldsSet_cons {field : String} {value : Value} {level : UInt32} {rest : List (String × Value)}
    (absent : ∀ entry ∈ rest, entry.1 ≠ field) (read : value.uint32? = some level)
    (sets : Sets start field level middle) :
    FieldsSet ((field, value) :: rest) start after ↔ FieldsSet rest middle after := by
  have unset : levelIn? rest field = none := by
    rw [levelIn?, SortedMap.find?_eq_none_iff.mpr absent, Option.bind_none]
  have levels : (levelIn? ((field, value) :: rest) levelField).getD start.level =
      (levelIn? rest levelField).getD middle.level := by
    rw [levelIn?_cons read]
    cases sets with
    | level => rw [if_pos rfl, unset, Option.getD_some, Option.getD_none]
    | classLevel classId => rw [if_neg (classLevelField_ne classId).symm, Snapshot.setClassLevel]
  have classLevels (classId : String) :
      (levelIn? ((field, value) :: rest) (classLevelField classId)).or (start.classLevels.get? classId) =
        (levelIn? rest (classLevelField classId)).or (middle.classLevels.get? classId) := by
    rw [levelIn?_cons read]
    cases sets with
    | level => rw [if_neg (classLevelField_ne classId)]
    | classLevel other =>
      rw [Snapshot.setClassLevel, SortedMap.get?_insert]
      by_cases same : classId = other
      · rw [same, if_pos rfl, if_pos rfl, unset, Option.none_or, Option.some_or]
      · rw [if_neg same, if_neg fun equal => same (classLevelField_injective equal)]
  -- The field that is set first is one of the two that the frame leaves open.
  have frame : { start with level := after.level, classLevels := after.classLevels } =
      { middle with level := after.level, classLevels := after.classLevels } := by
    cases sets <;> rfl
  constructor
  · intro set
    exact ⟨fun entry member => set.settable entry (List.mem_cons_of_mem _ member), set.level.trans levels,
      fun classId => (set.classLevels classId).trans (classLevels classId), set.frame.trans frame⟩
  · intro set
    exact ⟨List.forall_mem_cons.mpr ⟨⟨sets.isField, level, read⟩, set.settable⟩, set.level.trans levels.symm,
      fun classId => (set.classLevels classId).trans (classLevels classId).symm, set.frame.trans frame.symm⟩

theorem setFields_cons_ok_iff {field : String} {value : Value} {rest : List (String × Value)} :
    setFields start ((field, value) :: rest) = .ok after ↔
      ∃ middle, setField start field value = .ok middle ∧ setFields middle rest = .ok after := by
  rw [setFields]
  cases setField start field value <;> simp

/-- Fields are set in ascending order, so that none is set twice. -/
theorem setFields_ok_iff {fields : List (String × Value)} (ascending : fields.Pairwise fun a b => a.1 < b.1) :
    setFields start fields = .ok after ↔ FieldsSet fields start after := by
  induction fields generalizing start with
  | nil =>
    rw [setFields, Except.ok.injEq]
    constructor
    · rintro rfl
      exact ⟨List.forall_mem_nil _, rfl, fun _ => rfl, rfl⟩
    · intro set
      have levels : after.classLevels = start.classLevels := SortedMap.ext_get? set.classLevels
      have unchanged := set.frame
      rw [set.level, levels] at unchanged
      exact unchanged.symm
  | cons entry rest ih =>
    obtain ⟨field, value⟩ := entry
    obtain ⟨first, later⟩ := List.pairwise_cons.mp ascending
    have absent : ∀ entry ∈ rest, entry.1 ≠ field := SortedMap.keys_ne_of_ascending first
    rw [setFields_cons_ok_iff]
    constructor
    · rintro ⟨middle, here, others⟩
      obtain ⟨level, read, sets⟩ := setField_ok_iff.mp here
      exact (fieldsSet_cons absent read sets).mpr ((ih later).mp others)
    · intro set
      obtain ⟨known, level, read⟩ := set.settable _ List.mem_cons_self
      obtain ⟨middle, sets⟩ := known.sets start level
      exact ⟨middle, setField_ok_iff.mpr ⟨level, read, sets⟩,
        (ih later).mpr ((fieldsSet_cons absent read sets).mp set)⟩

/-- Fields that have been set are set again without any effect. -/
theorem FieldsSet.again {fields : List (String × Value)} (set : FieldsSet fields start middle)
    (level : after.level = middle.level) (classLevels : after.classLevels = middle.classLevels) :
    FieldsSet fields after after where
  settable := set.settable
  level := by
    rw [level, set.level]
    cases levelIn? fields levelField <;> rfl
  classLevels classId := by
    rw [classLevels, set.classLevels]
    cases levelIn? fields (classLevelField classId) <;> rfl
  frame := rfl

end Delta

end Legality
