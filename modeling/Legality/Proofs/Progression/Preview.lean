import Legality.Proofs.Character.Validity
import Legality.Proofs.Progression.Fields

/-!
Previews of deltas of any origin, and not only of those that the compiler makes. A preview sets the fields of the delta,
takes the content that the character did not own at the start, trains the skills, and is checked: these are all its
effects. What it took carries the id under which it was asked for, so a second preview passes over it, and a delta has
the same effect twice as once.
-/
namespace Legality

/-- The content that a collection takes, by id, in the form in which a character owns it. -/
def RuleTable.published (rules : RuleTable) : Delta.Collection → String → Option OwnedAbility
  | .feats, id => (rules.feats.find? id).map AbilityDefinition.owned
  | .talents, id => (rules.talents.find? id).map AbilityDefinition.owned
  | .classes, id => (rules.classes.find? id).map ClassDefinition.owned
  | .trainedSkills, _ => none
  | .pendingGrants, _ => none

theorem RuleTable.id_of_published (rules : RuleTable) (collection : Delta.Collection) (id : String)
    (ability : OwnedAbility) (found : rules.published collection id = some ability) : ability.id = id := by
  cases collection with
  | feats | talents | classes =>
    obtain ⟨definition, filed, rfl⟩ := Option.map_eq_some_iff.mp found
    have named : definition.id = id := Catalogue.id_of_find? filed
    exact named
  | trainedSkills | pendingGrants => contradiction

/-- Whether some abilities are those of a list of ids that a character does not own yet, in the order of the list. -/
def Snapshot.Acquires (start : Snapshot) (published : String → Option OwnedAbility) (ids : List String)
    (abilities : List OwnedAbility) : Prop :=
  List.Forall₂ (fun id ability => published id = some ability) (ids.filter fun id => !start.owns id) abilities

namespace Snapshot

variable {start after : Snapshot} {published : String → Option OwnedAbility} {ids : List String}
  {abilities : List OwnedAbility}

theorem acquires_nil_iff : start.Acquires published ids [] ↔ ∀ id ∈ ids, start.owns id = true := by
  rw [Acquires, List.forall₂_nil_right_iff, List.filter_eq_nil_iff]
  simp

theorem Acquires.map_id (acquires : start.Acquires published ids abilities)
    (named : ∀ id ability, published id = some ability → ability.id = id) :
    ids.filter (fun id => !start.owns id) = abilities.map OwnedAbility.id := by
  rw [← List.forall₂_eq_eq_eq, List.forall₂_map_right_iff]
  exact acquires.imp fun id ability found => (named id ability found).symm

theorem Acquires.again (acquires : start.Acquires published ids abilities)
    (named : ∀ id ability, published id = some ability → ability.id = id)
    (kept : start.owned ⊆ after.owned) (taken : abilities ⊆ after.owned) : after.Acquires published ids [] := by
  rw [acquires_nil_iff]
  intro id member
  apply owns_iff.mpr
  cases known : start.owns id with
  | true => exact List.map_subset _ kept (owns_iff.mp known)
  | false =>
    have wanted : id ∈ ids.filter fun id => !start.owns id := List.mem_filter.mpr ⟨member, by rw [known]; rfl⟩
    rw [acquires.map_id named] at wanted
    exact List.map_subset _ taken wanted

end Snapshot

namespace Delta

variable {rules : RuleTable} {start snapshot middle after : Snapshot} {delta : Delta}

def Collection.content : List Collection := [.classes, .feats, .talents]

theorem acquireFrom_ok_iff {collection : Collection} {noun id : String} {found : Option OwnedAbility} :
    acquireFrom start snapshot collection noun id found = .ok after ↔
      (start.owns id = true ∧ snapshot = after) ∨
        start.owns id = false ∧ ∃ ability, found = some ability ∧ snapshot.acquire ability = after := by
  unfold acquireFrom
  cases start.owns id with
  | true => simp
  | false => cases found <;> simp

theorem addItem_content_ok_iff {collection : Collection} {item : String}
    (content : collection ∈ Collection.content) :
    addItem rules start snapshot collection.label item = .ok after ↔
      (start.owns item = true ∧ snapshot = after) ∨
        start.owns item = false ∧
          ∃ ability, rules.published collection item = some ability ∧ snapshot.acquire ability = after := by
  rw [addItem, ofLabel?_label]
  cases collection with
  | feats | talents | classes => exact acquireFrom_ok_iff
  | trainedSkills | pendingGrants => exact absurd content (by decide)

theorem addItems_cons_ok_iff {collection item : String} {rest : List String} :
    addItems rules start snapshot collection (item :: rest) = .ok after ↔
      ∃ middle, addItem rules start snapshot collection item = .ok middle ∧
        addItems rules start middle collection rest = .ok after := by
  rw [addItems]
  cases addItem rules start snapshot collection item <;> simp

theorem addItems_content_ok_iff {collection : Collection} {items : List String}
    (content : collection ∈ Collection.content) :
    addItems rules start snapshot collection.label items = .ok after ↔
      ∃ abilities, start.Acquires (rules.published collection) items abilities ∧
        after = { snapshot with owned := snapshot.owned ++ abilities } := by
  -- The character grows from item to item, but what it owns is asked of the one at the start.
  induction items generalizing snapshot with
  | nil => simp [addItems, Snapshot.Acquires, eq_comm]
  | cons item rest ih =>
    simp only [addItems_cons_ok_iff, addItem_content_ok_iff content, ih, Snapshot.Acquires]
    cases owned : start.owns item with
    | true =>
      rw [List.filter_cons_of_neg (by simp [owned])]
      simp
    | false =>
      rw [List.filter_cons_of_pos (by simp [owned])]
      simp only [List.forall₂_cons_left_iff]
      constructor
      · rintro ⟨_, known | ⟨-, ability, found, rfl⟩, others, acquired, rfl⟩
        · exact absurd known.1 Bool.false_ne_true
        · exact ⟨ability :: others, ⟨ability, others, found, acquired, rfl⟩, by simp [Snapshot.acquire]⟩
      · rintro ⟨_, ⟨ability, others, found, acquired, rfl⟩, rfl⟩
        exact ⟨_, .inr ⟨trivial, ability, found, rfl⟩, others, acquired, by simp [Snapshot.acquire]⟩

theorem addItems_trainedSkills (items : List String) :
    addItems rules start snapshot Collection.trainedSkills.label items =
      .ok { snapshot with trainedSkills := items.foldl SortedSet.add snapshot.trainedSkills } := by
  induction items generalizing snapshot with
  | nil => rfl
  | cons item rest ih =>
    simp only [addItems, addItem, ofLabel?_label, ih]
    rfl

theorem addCollections_nil : addCollections rules start snapshot [] = .ok snapshot := by
  rw [addCollections]

theorem addCollections_cons_ok_iff {name : String} {items : List String} {rest : List (String × List String)} :
    addCollections rules start snapshot ((name, items) :: rest) = .ok after ↔
      ∃ middle, addItems rules start snapshot name items = .ok middle ∧
        addCollections rules start middle rest = .ok after := by
  rw [addCollections]
  cases addItems rules start snapshot name items <;> simp

def Collection.ascending : List Collection := [.classes, .feats, .pendingGrants, .talents, .trainedSkills]

theorem Collection.mem_ascending (collection : Collection) : collection ∈ ascending := by
  cases collection <;> decide

theorem Collection.labels_ascending : ascending.Pairwise fun a b => a.label < b.label := by
  decide

theorem addCollections_filter (entries : List (String × List String)) :
    addCollections rules start snapshot (entries.filter fun entry => !entry.2.isEmpty) =
      addCollections rules start snapshot entries := by
  induction entries generalizing snapshot with
  | nil => rfl
  | cons entry rest ih =>
    obtain ⟨name, items⟩ := entry
    cases items with
    | nil =>
      rw [List.filter_cons_of_neg (by simp), ih, addCollections, addItems]
    | cons item items =>
      rw [List.filter_cons_of_pos (by simp), addCollections, addCollections]
      cases addItems rules start snapshot name (item :: items) with
      | error fault => rfl
      | ok middle => exact ih

def additions (delta : Delta) : List (String × List String) :=
  Collection.ascending.map fun collection => (collection.label, delta.added collection.label)

def Supported (delta : Delta) : Prop :=
  ∀ entry ∈ delta.add.entries, entry.2 = [] ∨ ∃ collection, entry.1 = Collection.label collection

theorem filter_additions (supported : delta.Supported) :
    delta.add.entries.filter (fun entry => !entry.2.isEmpty) =
      delta.additions.filter fun entry => !entry.2.isEmpty := by
  have ascending : delta.additions.Pairwise fun a b => a.1 < b.1 := List.pairwise_map.mpr Collection.labels_ascending
  -- Both lists are ascending, so it is enough that they have the same members.
  apply SortedMap.eq_of_ascending Prod.fst (delta.add.ascending.filter _) (ascending.filter _)
  rintro ⟨name, items⟩
  rw [List.mem_filter, List.mem_filter, additions, List.mem_map]
  apply and_congr_left
  intro some
  constructor
  · intro member
    rcases supported _ member with none | ⟨collection, rfl⟩
    · rw [none] at some
      contradiction
    · have found : delta.added collection.label = items := by
        rw [added, SortedMap.get?_eq_some_iff.mpr member, Option.getD_some]
      exact ⟨collection, collection.mem_ascending, by rw [found]⟩
  · rintro ⟨collection, -, same⟩
    obtain ⟨rfl, rfl⟩ := Prod.mk.inj same
    apply SortedMap.get?_eq_some_iff.mp
    rw [added] at some ⊢
    cases found : delta.add.get? collection.label with
    | some items => rfl
    | none =>
      rw [found] at some
      contradiction

theorem eq_label_of_ofLabel? {name : String} {collection : Collection}
    (found : Collection.ofLabel? name = some collection) : name = collection.label := by
  unfold Collection.ofLabel? at found
  grind [Collection.label]

theorem supported_of_addCollections {entries : List (String × List String)}
    (added : addCollections rules start snapshot entries = .ok after) :
    ∀ entry ∈ entries, entry.2 = [] ∨ ∃ collection, entry.1 = Collection.label collection := by
  induction entries generalizing snapshot with
  | nil => exact List.forall_mem_nil _
  | cons entry rest ih =>
    obtain ⟨name, items⟩ := entry
    obtain ⟨middle, here, later⟩ := addCollections_cons_ok_iff.mp added
    refine List.forall_mem_cons.mpr ⟨?_, ih later⟩
    cases items with
    | nil => exact .inl rfl
    | cons item items =>
      obtain ⟨_, first, -⟩ := addItems_cons_ok_iff.mp here
      cases found : Collection.ofLabel? name with
      | some collection => exact .inr ⟨collection, eq_label_of_ofLabel? found⟩
      | none => simp [addItem, found] at first

theorem addCollections_ok_iff :
    addCollections rules start snapshot delta.add.entries = .ok after ↔
      delta.Supported ∧ addCollections rules start snapshot delta.additions = .ok after := by
  have same (supported : delta.Supported) : addCollections rules start snapshot delta.add.entries =
      addCollections rules start snapshot delta.additions := by
    rw [← addCollections_filter, filter_additions supported, addCollections_filter]
  constructor
  · intro added
    have supported : delta.Supported := supported_of_addCollections added
    exact ⟨supported, same supported ▸ added⟩
  · rintro ⟨supported, added⟩
    exact (same supported).trans added

/-- The content that a delta takes for a character, by collection. -/
structure Takes (delta : Delta) (rules : RuleTable) (start : Snapshot) (classes feats talents : List OwnedAbility) :
    Prop where
  classes : start.Acquires (rules.published .classes) (delta.added Collection.classes.label) classes
  feats : start.Acquires (rules.published .feats) (delta.added Collection.feats.label) feats
  talents : start.Acquires (rules.published .talents) (delta.added Collection.talents.label) talents

theorem additions_ok_iff :
    addCollections rules start snapshot delta.additions = .ok after ↔
      ∃ classes feats talents, delta.Takes rules start classes feats talents ∧
        after = { snapshot with
          owned := snapshot.owned ++ classes ++ feats ++ talents
          trainedSkills :=
            (delta.added Collection.trainedSkills.label).foldl SortedSet.add snapshot.trainedSkills } := by
  simp only [additions, Collection.ascending, List.map_cons, List.map_nil, addCollections_cons_ok_iff,
    addCollections_nil, addItems_pendingGrants, addItems_trainedSkills,
    addItems_content_ok_iff (by decide : Collection.classes ∈ Collection.content),
    addItems_content_ok_iff (by decide : Collection.feats ∈ Collection.content),
    addItems_content_ok_iff (by decide : Collection.talents ∈ Collection.content), Except.ok.injEq]
  constructor
  · rintro ⟨_, ⟨classes, first, rfl⟩, _, ⟨feats, second, rfl⟩, _, rfl, _, ⟨talents, third, rfl⟩, _, rfl, rfl⟩
    exact ⟨classes, feats, talents, ⟨first, second, third⟩, rfl⟩
  · rintro ⟨classes, feats, talents, takes, rfl⟩
    exact ⟨_, ⟨classes, takes.classes, rfl⟩, _, ⟨feats, takes.feats, rfl⟩, _, rfl, _,
      ⟨talents, takes.talents, rfl⟩, _, rfl, rfl⟩

theorem preview_stages_ok_iff :
    delta.preview rules start = .ok after ↔
      ∃ raised, setFields start delta.set.entries = .ok raised ∧
        addCollections rules start raised delta.add.entries = .ok after ∧ after.WellFormed := by
  rw [preview]
  cases setFields start delta.set.entries with
  | error fault => simp
  | ok raised =>
    simp only [Except.ok.injEq, exists_eq_left']
    cases addCollections rules start raised delta.add.entries with
    | error fault => simp
    | ok grown =>
      rw [Except.ok.injEq, Snapshot.checked_ok_iff]
      constructor
      · rintro ⟨well, rfl⟩
        exact ⟨rfl, well⟩
      · rintro ⟨rfl, well⟩
        exact ⟨well, rfl⟩

/-- A preview sets the fields, adds to the collections what the character did not own at the start, and is checked. -/
theorem preview_ok_iff :
    delta.preview rules start = .ok after ↔
      delta.Supported ∧ after.WellFormed ∧ ∃ raised, FieldsSet delta.set.entries start raised ∧
        ∃ classes feats talents, delta.Takes rules start classes feats talents ∧
          after = { raised with
            owned := raised.owned ++ classes ++ feats ++ talents
            trainedSkills :=
              (delta.added Collection.trainedSkills.label).foldl SortedSet.add raised.trainedSkills } := by
  simp only [preview_stages_ok_iff, setFields_ok_iff delta.set.ascending, addCollections_ok_iff, additions_ok_iff]
  constructor
  · rintro ⟨raised, set, ⟨supported, added⟩, well⟩
    exact ⟨supported, well, raised, set, added⟩
  · rintro ⟨supported, well, raised, set, added⟩
    exact ⟨raised, set, ⟨supported, added⟩, well⟩

/-- A preview does what the delta says and nothing else. Fields are set over those of the character, skills are trained
besides those it is trained in, and content that it did not own follows what it owned, classes before feats before
talents. -/
theorem preview_exact (previewed : delta.preview rules start = .ok after) :
    after.fault? = none ∧
      after = { start with
        level := after.level
        classLevels := after.classLevels
        owned := after.owned
        trainedSkills := after.trainedSkills } ∧
      (∀ entry ∈ delta.set.entries, IsField entry.1 ∧ ∃ level, entry.2.uint32? = some level) ∧
      after.level = (levelIn? delta.set.entries levelField).getD start.level ∧
      (∀ classId, after.classLevels.get? classId =
        (levelIn? delta.set.entries (classLevelField classId)).or (start.classLevels.get? classId)) ∧
      delta.Supported ∧
      (∀ skill, skill ∈ SortedSet.toList after.trainedSkills ↔
        skill ∈ SortedSet.toList start.trainedSkills ∨ skill ∈ delta.added Collection.trainedSkills.label) ∧
      ∃ classes feats talents, delta.Takes rules start classes feats talents ∧
        after.owned = start.owned ++ classes ++ feats ++ talents := by
  obtain ⟨supported, well, raised, set, classes, feats, talents, takes, rfl⟩ := preview_ok_iff.mp previewed
  refine ⟨Snapshot.fault?_eq_none_iff.mpr well, ?_, set.settable, set.level, set.classLevels, supported, ?_,
    classes, feats, talents, takes, by rw [set.owned]⟩
  · rw [set.frame]
  · intro skill
    rw [SortedSet.mem_foldl_add, set.trainedSkills]

def curriculum : RuleTable :=
  ((RuleTable.empty.fileClass ⟨"scout", "Scout", false, none⟩).fileFeat
    ⟨"dodge", "Dodge", .feat, none, none, false⟩).fileTalent
      ⟨"evasion", "Evasion", .talent, some "Fringer", none, false⟩

def trainee : Snapshot :=
  { ((Snapshot.blank "pc").acquire ⟨"dodge", "Dodge", .feat, none, none⟩).train "Pilot" with level := 1 }

def graduation : Delta where
  set := .ofList [("level", .nat 2), ("classLevels.scout", .nat 1)]
  add := .ofList [("talents", ["evasion"]), ("feats", ["dodge"]), ("trainedSkills", ["Stealth", "Pilot"]),
    ("classes", ["scout"]), ("pendingGrants", ["speed"])]

theorem preview_exact_graduation :
    ∃ after, graduation.preview curriculum trainee = .ok after ∧ after.fault? = none ∧
      after.level = 2 ∧ after.classLevels.get? "scout" = some 1 ∧
      (∀ skill, skill ∈ SortedSet.toList after.trainedSkills ↔ skill ∈ ["Pilot", "Stealth"]) ∧
      after.owned.map OwnedAbility.id = ["dodge", "scout", "evasion"] := by
  obtain ⟨after, previewed⟩ := exists_of_isOk (by decide : (graduation.preview curriculum trainee).isOk = true)
  obtain ⟨valid, -, -, level, levels, -, trained, classes, feats, talents, takes, owned⟩ :=
    preview_exact previewed
  refine ⟨after, previewed, valid, ?_, ?_, ?_, ?_⟩
  · rw [level]
    decide
  · rw [levels]
    decide
  · intro skill
    have before : SortedSet.toList trainee.trainedSkills = ["Pilot"] := by decide
    have added : graduation.added Collection.trainedSkills.label = ["Stealth", "Pilot"] := by decide
    rw [trained, before, added]
    simp [or_comm]
  · rw [owned, List.map_append, List.map_append, List.map_append,
      ← takes.classes.map_id (curriculum.id_of_published .classes),
      ← takes.feats.map_id (curriculum.id_of_published .feats),
      ← takes.talents.map_id (curriculum.id_of_published .talents)]
    decide

/-- A delta takes nothing for a character that owns what it took. -/
theorem Takes.again {classes feats talents : List OwnedAbility} (takes : delta.Takes rules start classes feats talents)
    (owned : start.owned ++ classes ++ feats ++ talents ⊆ after.owned) : delta.Takes rules after [] [] [] := by
  obtain ⟨⟨⟨kept, ofClasses⟩, ofFeats⟩, ofTalents⟩ :
      ((start.owned ⊆ after.owned ∧ classes ⊆ after.owned) ∧ feats ⊆ after.owned) ∧ talents ⊆ after.owned := by
    rwa [List.append_subset, List.append_subset, List.append_subset] at owned
  exact ⟨takes.classes.again (rules.id_of_published .classes) kept ofClasses,
    takes.feats.again (rules.id_of_published .feats) kept ofFeats,
    takes.talents.again (rules.id_of_published .talents) kept ofTalents⟩

/-- A preview of the character that a preview led to shows the same character again. -/
theorem preview_idempotent (previewed : delta.preview rules start = .ok after) :
    delta.preview rules after = .ok after := by
  obtain ⟨supported, well, raised, set, classes, feats, talents, takes, grown⟩ := preview_ok_iff.mp previewed
  have setAgain : FieldsSet delta.set.entries after after := set.again (by rw [grown]) (by rw [grown])
  have takesAgain : delta.Takes rules after [] [] [] := by
    apply takes.again
    rw [grown, set.owned]
    exact List.Subset.refl _
  have trained : (delta.added Collection.trainedSkills.label).foldl SortedSet.add after.trainedSkills =
      after.trainedSkills := by
    apply SortedSet.ext_mem
    intro skill
    rw [grown, SortedSet.mem_foldl_add, SortedSet.mem_foldl_add, or_assoc, or_self]
  refine preview_ok_iff.mpr ⟨supported, well, after, setAgain, [], [], [], takesAgain, ?_⟩
  rw [trained, List.append_nil, List.append_nil, List.append_nil]

theorem preview_idempotent_graduation :
    ∃ after, graduation.preview curriculum trainee = .ok after ∧ graduation.preview curriculum after = .ok after := by
  obtain ⟨after, previewed⟩ := exists_of_isOk (by decide : (graduation.preview curriculum trainee).isOk = true)
  exact ⟨after, previewed, preview_idempotent previewed⟩

end Delta

end Legality
