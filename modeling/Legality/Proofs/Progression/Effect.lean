import Legality.Proofs.Data.Reading
import Legality.Proofs.Progression.Compilation

/-!
The effect of an intent on a character, without the detour over a delta. A preview of a compiled delta is this
effect, checked: content is acquired unless it is owned, a skill is trained, and a level raises two counters.
-/
namespace Legality

theorem toNat_succ {number : UInt32} (below : number.toNat + 1 < UInt32.size) :
    (number + 1).toNat = number.toNat + 1 := by
  rw [UInt32.toNat_add, UInt32.toNat_one, Nat.mod_eq_of_lt below]

namespace Snapshot

/-- The character with an ability that it takes unless it owns one of that id. -/
def gain (snapshot : Snapshot) (ability : OwnedAbility) : Snapshot :=
  if snapshot.owns ability.id then snapshot else snapshot.acquire ability

def raise (snapshot : Snapshot) (classId : String) : Snapshot :=
  { snapshot with level := snapshot.level + 1 }.setClassLevel classId (snapshot.classLevel classId + 1)

theorem gain_eq (snapshot : Snapshot) (ability : OwnedAbility) : snapshot.gain ability =
    { snapshot with owned := snapshot.owned ++ if snapshot.owns ability.id then [] else [ability] } := by
  rw [gain]
  split
  next known => rw [List.append_nil]
  next fresh => rfl

theorem raise_level {snapshot : Snapshot} (classId : String) (below : snapshot.level.toNat + 1 < UInt32.size) :
    (snapshot.raise classId).level.toNat = snapshot.level.toNat + 1 :=
  toNat_succ below

theorem raise_get? (snapshot : Snapshot) (classId other : String) :
    (snapshot.raise classId).classLevels.get? other =
      if other = classId then some (snapshot.classLevel classId + 1) else snapshot.classLevels.get? other :=
  SortedMap.get?_insert _ _ _ _

theorem raise_classLevel {snapshot : Snapshot} {classId : String} (other : String)
    (below : (snapshot.classLevel classId).toNat + 1 < UInt32.size) :
    ((snapshot.raise classId).classLevel other).toNat =
      (snapshot.classLevel other).toNat + if other = classId then 1 else 0 := by
  rw [classLevel, raise_get?]
  split
  next same => rw [same, Option.getD_some, toNat_succ below]
  next different => rfl

theorem Grows.gain (snapshot : Snapshot) (ability : OwnedAbility) : Grows snapshot (snapshot.gain ability) := by
  rw [Snapshot.gain]
  split
  next known => exact .refl snapshot
  next fresh => exact .acquire snapshot ability

theorem Grows.raise {snapshot : Snapshot} (classId : String) (below : snapshot.level.toNat + 1 < UInt32.size) :
    Grows snapshot (snapshot.raise classId) := by
  have higher : snapshot.level ≤ snapshot.level + 1 := by
    rw [UInt32.le_iff_toNat_le, toNat_succ below]
    exact Nat.le_succ _
  exact { refl snapshot with level := higher }

end Snapshot

/-- The content that an intent takes, as a character would own it. A class is taken with its first level. -/
def RuleTable.content? (rules : RuleTable) (snapshot : Snapshot) : Intent → Option OwnedAbility
  | .chooseFeat id => (rules.feats.find? id).map AbilityDefinition.owned
  | .chooseTalent id => (rules.talents.find? id).map AbilityDefinition.owned
  | .chooseSkill _ => none
  | .levelUp classId =>
    if snapshot.classLevel classId = 0 then (rules.classes.find? classId).map ClassDefinition.owned else none

/-- The character after an intent, apart from the content that the intent takes. -/
def Intent.progress (snapshot : Snapshot) : Intent → Snapshot
  | .chooseFeat _ => snapshot
  | .chooseTalent _ => snapshot
  | .chooseSkill skill => snapshot.train (Text.trim skill)
  | .levelUp classId => snapshot.raise classId

def Intent.effect (rules : RuleTable) (snapshot : Snapshot) (intent : Intent) : Snapshot :=
  (rules.content? snapshot intent).elim (intent.progress snapshot) (intent.progress snapshot).gain

namespace Delta

variable {rules : RuleTable} {start snapshot : Snapshot}

theorem ofLabel?_label (collection : Collection) : Collection.ofLabel? collection.label = some collection := by
  cases collection <;> decide

theorem dropStem?_append (stem rest : List Char) : dropStem? stem (stem ++ rest) = some rest := by
  induction stem with
  | nil => rfl
  | cons c stem ih => rw [List.cons_append, dropStem?, if_pos rfl, ih]

theorem classOfField?_classLevelField (classId : String) : classOfField? (classLevelField classId) = some classId := by
  rw [classOfField?, classLevelField, String.toList_append, dropStem?_append, Option.map_some, String.ofList_toList]

theorem classLevelField_lt (classId : String) : classLevelField classId < levelField := by
  change (classLevelField classId).toList < levelField.toList
  rw [classLevelField, String.toList_append]
  exact List.cons_lt_cons_iff.mpr (.inl (by decide))

theorem classLevelField_ne (classId : String) : classLevelField classId ≠ levelField := by
  intro same
  have below := classLevelField_lt classId
  rw [same] at below
  exact String.lt_irrefl levelField below

theorem setField_level (level : UInt32) :
    setField snapshot levelField (.nat level.toNat) = .ok { snapshot with level := level } := by
  rw [setField, if_pos rfl, levelValue, Value.uint32?_nat]
  rfl

theorem setField_classLevel (classId : String) (level : UInt32) :
    setField snapshot (classLevelField classId) (.nat level.toNat) = .ok (snapshot.setClassLevel classId level) := by
  rw [setField, if_neg (classLevelField_ne classId), classOfField?_classLevelField, levelValue, Value.uint32?_nat]
  rfl

theorem setFields_cons {field : String} {value : Value} {rest : List (String × Value)}
    (here : setField start field value = .ok snapshot) :
    setFields start ((field, value) :: rest) = setFields snapshot rest := by
  rw [setFields, here]

/-- Content that the character owned at the start is passed over; other content is acquired. -/
theorem acquireFrom_gain {collection : Collection} {noun id : String} {owned : OwnedAbility} (named : owned.id = id)
    (unchanged : snapshot.owned = start.owned) :
    acquireFrom start snapshot collection noun id (some owned) = .ok (snapshot.gain owned) := by
  rw [acquireFrom, Snapshot.gain, Snapshot.owns, Snapshot.owns, named, unchanged]
  split <;> rfl

theorem addItems_pendingGrants (items : List String) :
    addItems rules start snapshot Collection.pendingGrants.label items = .ok snapshot := by
  induction items with
  | nil => rfl
  | cons item rest ih => simp only [addItems, addItem, ofLabel?_label, ih]

theorem addCollections_insert_pendingGrants (items : List String) (entries : List (String × List String)) :
    addCollections rules start snapshot (SortedMap.insertEntry Collection.pendingGrants.label items entries) =
      addCollections rules start snapshot entries := by
  induction entries generalizing snapshot with
  | nil => simp only [SortedMap.insertEntry, addCollections, addItems_pendingGrants]
  | cons entry rest ih =>
    rw [SortedMap.insertEntry]
    split
    next below => simp only [addCollections, addItems_pendingGrants]
    next notBelow =>
      split
      next same =>
        simp only [addCollections, ← same, addItems_pendingGrants]
      next different =>
        simp only [addCollections]
        cases addItems rules start snapshot entry.1 entry.2 with
        | error fault => rfl
        | ok after => exact ih

/-- A preview shows nothing of pending grants. -/
theorem preview_adding_pendingGrants (delta : Delta) (grant : String) :
    (delta.adding Collection.pendingGrants.label grant).preview rules start = delta.preview rules start := by
  simp only [preview, adding, SortedMap.insert, addCollections_insert_pendingGrants]

theorem preview_of_item {delta : Delta} {raised : Snapshot} {collection : Collection} {item : String}
    (fields : setFields start delta.set.entries = .ok raised)
    (items : delta.add.entries = [(collection.label, [item])]) :
    delta.preview rules start = (addItem rules start raised collection.label item).bind Snapshot.checked := by
  simp only [preview, fields, items, addCollections, addItems]
  cases addItem rules start raised collection.label item <;> rfl

theorem preview_adding (collection : Collection) (item : String) :
    (empty.adding collection.label item).preview rules start =
      (addItem rules start start collection.label item).bind Snapshot.checked :=
  preview_of_item rfl rfl

def counters (classId : String) (level classLevel : UInt32) : Delta :=
  (empty.setting levelField (.nat level.toNat)).setting (classLevelField classId) (.nat classLevel.toNat)

theorem counters_entries (classId : String) (level classLevel : UInt32) :
    (counters classId level classLevel).set.entries =
      [(classLevelField classId, .nat classLevel.toNat), (levelField, .nat level.toNat)] := by
  -- The order of the two fields is unfolded by itself, since the class is not a closed text.
  have placed : SortedMap.insertEntry (classLevelField classId) (Value.nat classLevel.toNat)
      [(levelField, .nat level.toNat)] =
        [(classLevelField classId, .nat classLevel.toNat), (levelField, .nat level.toNat)] := by
    rw [SortedMap.insertEntry]
    exact if_pos (classLevelField_lt classId)
  exact placed

theorem setFields_counters (classId : String) :
    setFields start (counters classId (start.level + 1) (start.classLevel classId + 1)).set.entries =
      .ok (start.raise classId) := by
  rw [counters_entries, setFields_cons (setField_classLevel _ _), setFields_cons (setField_level _), setFields]
  rfl

theorem preview_counters (classId : String) :
    (counters classId (start.level + 1) (start.classLevel classId + 1)).preview rules start =
      (start.raise classId).checked := by
  rw [preview, setFields_counters]
  rfl

theorem preview_counters_adding (classId : String) (collection : Collection) (item : String) :
    ((counters classId (start.level + 1) (start.classLevel classId + 1)).adding collection.label item).preview
        rules start =
      (addItem rules start (start.raise classId) collection.label item).bind Snapshot.checked :=
  preview_of_item (setFields_counters classId) rfl

/-- The grants of a level are pending, so the preview of a level is that of its counters and of its class. -/
theorem preview_levelDelta (houseRules : HouseRules) (classId : String) (level classLevel : UInt32) :
    (Compiler.levelDelta houseRules classId level classLevel).preview rules start =
      (if classLevel = 1 then (counters classId level classLevel).adding Collection.classes.label classId
        else counters classId level classLevel).preview rules start := by
  have passed (delta : Delta) (due : Prop) [Decidable due] (grant : String) :
      (if due then delta.adding Collection.pendingGrants.label grant else delta).preview rules start =
        delta.preview rules start := by
    split
    · exact preview_adding_pendingGrants delta grant
    · rfl
  rw [Compiler.levelDelta, passed, passed, counters]

end Delta

namespace Compiler

variable {compiler : Compiler} {snapshot after : Snapshot} {intent : Intent} {delta : Delta}

/-- The preview of a compiled delta is the effect of its intent, unless that breaks a rule of shape. -/
theorem preview_of_compile (compiled : compiler.compile snapshot intent = .ok delta) :
    delta.preview compiler.rules snapshot = (intent.effect compiler.rules snapshot).checked := by
  cases intent with
  | chooseFeat id | chooseTalent id =>
    obtain ⟨definition, found, -, -, rfl⟩ := takeAbility_ok.mp (mapError_ok_iff.mp compiled)
    have named : definition.id = id := Catalogue.id_of_find? found
    simp only [Delta.preview_adding, Delta.addItem, Delta.ofLabel?_label, Intent.effect, RuleTable.content?, found,
      Option.map_some, Option.elim_some, Intent.progress]
    rw [Delta.acquireFrom_gain named rfl]
    rfl
  | chooseSkill skill =>
    obtain ⟨-, -, -, rfl⟩ := chooseSkill_ok.mp compiled
    simp only [Delta.preview_adding, Delta.addItem, Delta.ofLabel?_label]
    rfl
  | levelUp classId =>
    obtain ⟨definition, found, -, -, -, rfl⟩ := levelUp_ok.mp compiled
    have named : definition.id = classId := Catalogue.id_of_find? found
    have first : snapshot.classLevel classId + 1 = 1 ↔ snapshot.classLevel classId = 0 := by
      constructor
      · intro one
        exact (UInt32.add_left_inj 1).mp (one.trans (UInt32.zero_add 1).symm)
      · intro zero
        rw [zero, UInt32.zero_add]
    rw [Delta.preview_levelDelta, Intent.effect, RuleTable.content?, Intent.progress]
    by_cases entering : snapshot.classLevel classId = 0
    · have unchanged : (snapshot.raise classId).owned = snapshot.owned := rfl
      rw [if_pos (first.mpr entering), if_pos entering, Delta.preview_counters_adding]
      simp only [Delta.addItem, Delta.ofLabel?_label, found, Option.map_some, Option.elim_some]
      rw [Delta.acquireFrom_gain named unchanged]
      rfl
    · rw [if_neg (mt first.mp entering), if_neg entering, Delta.preview_counters, Option.elim_none]

theorem progress_grows (compiled : compiler.compile snapshot intent = .ok delta) :
    snapshot.Grows (intent.progress snapshot) := by
  cases intent with
  | chooseFeat id | chooseTalent id => exact .refl snapshot
  | chooseSkill skill => exact .train snapshot (Text.trim skill)
  | levelUp classId =>
    obtain ⟨-, -, -, below, -, -⟩ := levelUp_ok.mp compiled
    exact .raise classId below

/-- A character only grows by an intent that compiles; no counter overflows. -/
theorem effect_grows (compiled : compiler.compile snapshot intent = .ok delta) :
    snapshot.Grows (intent.effect compiler.rules snapshot) := by
  have progressed := progress_grows compiled
  rw [Intent.effect]
  cases compiler.rules.content? snapshot intent with
  | none => exact progressed
  | some ability => exact progressed.trans (.gain _ ability)

theorem content_accepted (compiled : compiler.compile snapshot intent = .ok delta) {ability : OwnedAbility}
    (taken : compiler.rules.content? snapshot intent = some ability) {prerequisite : Prerequisite}
    (asks : ability.prerequisite = some prerequisite) : compiler.evaluator.Accepts snapshot none prerequisite := by
  cases intent with
  | chooseFeat id | chooseTalent id =>
    obtain ⟨definition, found, -, qualified, -⟩ := takeAbility_ok.mp (mapError_ok_iff.mp compiled)
    rw [RuleTable.content?, found] at taken
    obtain rfl := Option.some.inj taken
    exact unmet_none.mp qualified prerequisite asks
  | chooseSkill skill => exact absurd taken (Option.some_ne_none ability).symm
  | levelUp classId =>
    obtain ⟨definition, found, qualified, -⟩ := levelUp_ok.mp compiled
    rw [RuleTable.content?, found] at taken
    split at taken
    next entering =>
      obtain rfl := Option.some.inj taken
      exact unmet_none.mp qualified prerequisite asks
    next returning => exact absurd taken (Option.some_ne_none ability).symm

end Compiler

namespace Intent

variable (rules : RuleTable) (snapshot : Snapshot) (intent : Intent)

theorem progress_abilities : (intent.progress snapshot).abilities = snapshot.abilities := by
  cases intent <;> rfl

theorem progress_owned : (intent.progress snapshot).owned = snapshot.owned := by
  cases intent <;> rfl

/-- An intent changes what it makes progress in, and its content is owned from then on if the id is new. -/
theorem effect_eq : intent.effect rules snapshot =
    { intent.progress snapshot with
      owned := snapshot.owned ++
        ((rules.content? snapshot intent).filter fun ability => !snapshot.owns ability.id).toList } := by
  have unchanged := intent.progress_owned snapshot
  rw [effect]
  cases rules.content? snapshot intent with
  | none =>
    rw [Option.elim_none, Option.filter_none, Option.toList_none, List.append_nil, ← unchanged]
  | some ability =>
    have known : (intent.progress snapshot).owns ability.id = snapshot.owns ability.id := by
      rw [Snapshot.owns, unchanged, Snapshot.owns]
    rw [Option.elim_some, Snapshot.gain_eq, known, unchanged, Option.filter_some]
    cases snapshot.owns ability.id <;> rfl

theorem effect_trainedSkills :
    (intent.effect rules snapshot).trainedSkills = (intent.progress snapshot).trainedSkills := by
  rw [effect_eq]

theorem effect_abilities : (intent.effect rules snapshot).abilities = snapshot.abilities := by
  rw [effect_eq]
  exact intent.progress_abilities snapshot

theorem mem_owned_effect {owned : OwnedAbility} (member : owned ∈ (intent.effect rules snapshot).owned) :
    owned ∈ snapshot.owned ∨ rules.content? snapshot intent = some owned ∧ snapshot.owns owned.id = false := by
  rw [effect_eq] at member
  rcases List.mem_append.mp member with earlier | new
  · exact .inl earlier
  · rw [Option.mem_toList, Option.filter_eq_some_iff] at new
    exact .inr ⟨new.1, by simpa using new.2⟩

end Intent

end Legality
