import Legality.Proofs.Rules.Catalogue
import Legality.Wire.Rules
import Mathlib

/-!
Loading of rule tables. The three parts of a layout are taken in one pass, and every entry is judged by its own shape and
by the ids that its part has already. A table that is loaded holds what was laid out and nothing else; a layout that
cannot be loaded fails at the first entry that could not be taken behind those before it.
-/
namespace Legality

inductive RulePart
  | feat
  | talent
  | characterClass
  deriving DecidableEq

namespace RulePart

def label : RulePart → String
  | feat => "feat"
  | talent => "talent"
  | characterClass => "class"

def noun : RulePart → String
  | feat => "a feat"
  | talent => "a talent or force ability"
  | characterClass => "a class"

def Holds : RulePart → AbilityKind → Prop
  | feat, kind => kind = .feat
  | talent, kind => kind ≠ .feat ∧ kind ≠ .characterClass
  | characterClass, kind => kind = .characterClass

instance : (part : RulePart) → (kind : AbilityKind) → Decidable (part.Holds kind)
  | feat, kind => inferInstanceAs (Decidable (kind = .feat))
  | talent, kind => inferInstanceAs (Decidable (kind ≠ .feat ∧ kind ≠ .characterClass))
  | characterClass, kind => inferInstanceAs (Decidable (kind = .characterClass))

end RulePart

/-- An entry of a layout in its part. -/
inductive LayoutEntry
  | feat (entry : AbilityEntry)
  | talent (entry : AbilityEntry)
  | characterClass (entry : ClassEntry)

/-- The definition that an entry is laid out for, whose kind is `usual` unless it names another. -/
def AbilityEntry.content (entry : AbilityEntry) (usual : AbilityKind) : AbilityDefinition :=
  ⟨entry.id, entry.name, entry.kind.getD usual, entry.tree, entry.prerequisite, entry.repeatable⟩

def ClassEntry.content (entry : ClassEntry) : ClassDefinition :=
  ⟨entry.id, entry.name, entry.prestige, entry.prerequisite⟩

/-- A missing id is reported before a missing name, and both before anything else. -/
theorem RuleLayout.namingFault?_elim {α : Type} (id name : String) (next : Except RuleDataError α) :
    (match namingFault? id name with
      | some fault => .error fault
      | none => next) =
      if Text.isBlankText id then .error (.invalidEntry name "id must not be blank")
      else if Text.isBlankText name then .error (.invalidEntry id "name must not be blank")
      else next := by
  unfold namingFault?
  by_cases blank : Text.isBlankText id = true
  · simp only [if_pos blank]
  · by_cases unnamed : Text.isBlankText name = true
    · simp only [if_neg blank, if_pos unnamed]
    · simp only [if_neg blank, if_neg unnamed]

theorem AbilityEntry.define_eq (entry : AbilityEntry) (usual : AbilityKind) :
    entry.define usual =
      if Text.isBlankText entry.id then .error (.invalidEntry entry.name "id must not be blank")
      else if Text.isBlankText entry.name then .error (.invalidEntry entry.id "name must not be blank")
      else if entry.kind.getD usual = .talent ∧ entry.tree = none then
        .error (.invalidEntry entry.id "talents must name a tree")
      else .ok (entry.content usual) :=
  RuleLayout.namingFault?_elim entry.id entry.name _

theorem ClassEntry.define_eq (entry : ClassEntry) :
    entry.define =
      if Text.isBlankText entry.id then .error (.invalidEntry entry.name "id must not be blank")
      else if Text.isBlankText entry.name then .error (.invalidEntry entry.id "name must not be blank")
      else .ok entry.content :=
  RuleLayout.namingFault?_elim entry.id entry.name _

namespace LayoutEntry

def part : LayoutEntry → RulePart
  | feat _ => .feat
  | talent _ => .talent
  | characterClass _ => .characterClass

def id : LayoutEntry → String
  | feat entry | talent entry => entry.id
  | characterClass entry => entry.id

def name : LayoutEntry → String
  | feat entry | talent entry => entry.name
  | characterClass entry => entry.name

def kind : LayoutEntry → AbilityKind
  | feat entry => entry.kind.getD .feat
  | talent entry => entry.kind.getD .talent
  | characterClass _ => .characterClass

def tree : LayoutEntry → Option String
  | feat entry | talent entry => entry.tree
  | characterClass _ => none

theorem exists_part {part : RulePart} {property : LayoutEntry → Prop} :
    (∃ entry, entry.part = part ∧ property entry) ↔
      match part with
      | .feat => ∃ entry, property (.feat entry)
      | .talent => ∃ entry, property (.talent entry)
      | .characterClass => ∃ entry, property (.characterClass entry) := by
  constructor
  · intro ⟨entry, here, holds⟩
    subst here
    cases entry <;> exact ⟨_, holds⟩
  · cases part <;> exact fun ⟨entry, holds⟩ => ⟨_, rfl, holds⟩

structure Sound (entry : LayoutEntry) : Prop where
  identified : Text.isBlankText entry.id = false
  named : Text.isBlankText entry.name = false
  placed : entry.kind = .talent → entry.tree ≠ none
  fitting : entry.part.Holds entry.kind

theorem sound_feat_iff {entry : AbilityEntry} :
    (feat entry).Sound ↔
      (Text.isBlankText entry.id = false ∧ Text.isBlankText entry.name = false) ∧
        (entry.kind = none ∨ entry.kind = some .feat) := by
  have fits : entry.kind.getD .feat = .feat ↔ entry.kind = none ∨ entry.kind = some .feat := by
    cases entry.kind <;> simp
  constructor
  · intro sound
    exact ⟨⟨sound.identified, sound.named⟩, fits.mp sound.fitting⟩
  · intro ⟨⟨identified, named⟩, fitting⟩
    have holds : (feat entry).kind = .feat := fits.mpr fitting
    exact ⟨identified, named, fun talent => absurd (holds.symm.trans talent) (by decide), holds⟩

theorem sound_talent_iff {entry : AbilityEntry} :
    (talent entry).Sound ↔
      (Text.isBlankText entry.id = false ∧ Text.isBlankText entry.name = false) ∧
        (entry.kind ≠ some .feat ∧ entry.kind ≠ some .characterClass) ∧
          (entry.kind = none ∨ entry.kind = some .talent → entry.tree ≠ none) := by
  have fits : entry.kind.getD .talent ≠ .feat ∧ entry.kind.getD .talent ≠ .characterClass ↔
      entry.kind ≠ some .feat ∧ entry.kind ≠ some .characterClass := by
    cases entry.kind <;> simp
  have isTalent : entry.kind.getD .talent = .talent ↔ entry.kind = none ∨ entry.kind = some .talent := by
    cases entry.kind <;> simp
  constructor
  · intro sound
    exact ⟨⟨sound.identified, sound.named⟩, fits.mp sound.fitting, fun usual => sound.placed (isTalent.mpr usual)⟩
  · intro ⟨⟨identified, named⟩, fitting, placed⟩
    exact ⟨identified, named, fun usual => placed (isTalent.mp usual), fits.mpr fitting⟩

theorem sound_class_iff {entry : ClassEntry} :
    (characterClass entry).Sound ↔ Text.isBlankText entry.id = false ∧ Text.isBlankText entry.name = false := by
  constructor
  · intro sound
    exact ⟨sound.identified, sound.named⟩
  · intro ⟨identified, named⟩
    exact ⟨identified, named, fun talent => AbilityKind.noConfusion talent, rfl⟩

/-- Why an entry is refused when its part has some ids already. -/
inductive Fault (taken : List String) (entry : LayoutEntry) : RuleDataError → Prop
  | unidentified (blank : Text.isBlankText entry.id = true) :
      Fault taken entry (.invalidEntry entry.name "id must not be blank")
  | unnamed (identified : Text.isBlankText entry.id = false) (blank : Text.isBlankText entry.name = true) :
      Fault taken entry (.invalidEntry entry.id "name must not be blank")
  | treeless (identified : Text.isBlankText entry.id = false) (named : Text.isBlankText entry.name = false)
      (talent : entry.kind = .talent) (treeless : entry.tree = none) :
      Fault taken entry (.invalidEntry entry.id "talents must name a tree")
  | foreign (identified : Text.isBlankText entry.id = false) (named : Text.isBlankText entry.name = false)
      (placed : entry.kind = .talent → entry.tree ≠ none) (unfit : ¬ entry.part.Holds entry.kind) :
      Fault taken entry
        (.invalidEntry entry.id ("expected " ++ entry.part.noun ++ ", found " ++ entry.kind.label))
  | repeated (sound : entry.Sound) (again : entry.id ∈ taken) : Fault taken entry (.duplicate entry.part.label entry.id)

theorem Fault.refuses {taken : List String} {entry : LayoutEntry} {error : RuleDataError}
    (fault : Fault taken entry error) : ¬ (entry.Sound ∧ entry.id ∉ taken) := by
  intro ⟨sound, fresh⟩
  cases fault with
  | unidentified blank => exact absurd (sound.identified.symm.trans blank) Bool.noConfusion
  | unnamed identified blank => exact absurd (sound.named.symm.trans blank) Bool.noConfusion
  | treeless _ _ talent treeless => exact sound.placed talent treeless
  | foreign _ _ _ unfit => exact unfit sound.fitting
  | repeated _ again => exact fresh again

end LayoutEntry

namespace RuleTable

def has (table : RuleTable) : RulePart → String → Bool
  | .feat, id => table.feats.contains id
  | .talent, id => table.talents.contains id
  | .characterClass, id => table.classes.contains id

def take (table : RuleTable) : LayoutEntry → Except RuleDataError RuleTable
  | .feat entry => table.takeFeat entry
  | .talent entry => table.takeTalent entry
  | .characterClass entry => table.takeClass entry

def file (table : RuleTable) : LayoutEntry → RuleTable
  | .feat entry => table.fileFeat (entry.content .feat)
  | .talent entry => table.fileTalent (entry.content .talent)
  | .characterClass entry => table.fileClass entry.content

/-- The checks on an entry in their order, which is the same in every part. -/
theorem take_eq (table : RuleTable) (entry : LayoutEntry) :
    table.take entry =
      if Text.isBlankText entry.id then .error (.invalidEntry entry.name "id must not be blank")
      else if Text.isBlankText entry.name then .error (.invalidEntry entry.id "name must not be blank")
      else if entry.kind = .talent ∧ entry.tree = none then .error (.invalidEntry entry.id "talents must name a tree")
      else if ¬ entry.part.Holds entry.kind then
        .error (.invalidEntry entry.id ("expected " ++ entry.part.noun ++ ", found " ++ entry.kind.label))
      else if table.has entry.part entry.id then .error (.duplicate entry.part.label entry.id)
      else .ok (table.file entry) := by
  cases entry with
  | feat entry =>
    simp only [take, takeFeat, AbilityEntry.define_eq, apply_ite (Except.bind · table.insertFeat)]
    rfl
  | talent entry =>
    have unfit : (entry.kind.getD .talent = .feat ∨ entry.kind.getD .talent = .characterClass) ↔
        ¬ RulePart.talent.Holds (entry.kind.getD .talent) := by
      simp only [RulePart.Holds, not_and_or, not_not]
    simp only [take, takeTalent, AbilityEntry.define_eq, apply_ite (Except.bind · table.insertTalent)]
    simp only [Except.bind, insertTalent, AbilityEntry.content, unfit]
    rfl
  | characterClass entry =>
    simp only [take, takeClass, ClassEntry.define_eq, apply_ite (Except.bind · table.insertClass)]
    rfl

variable {table : RuleTable} {entry : LayoutEntry} {taken : List String}

/-- An entry that is sound and new to its part is taken, and any other is refused for its fault. -/
theorem take_cases (known : table.has entry.part entry.id = true ↔ entry.id ∈ taken) :
    (entry.Sound ∧ entry.id ∉ taken ∧ table.take entry = .ok (table.file entry)) ∨
      ∃ error, entry.Fault taken error ∧ table.take entry = .error error := by
  rw [take_eq]
  by_cases blank : Text.isBlankText entry.id = true
  · exact .inr ⟨_, .unidentified blank, if_pos blank⟩
  have identified : Text.isBlankText entry.id = false := Bool.eq_false_iff.mpr blank
  rw [if_neg blank]
  by_cases unnamed : Text.isBlankText entry.name = true
  · exact .inr ⟨_, .unnamed identified unnamed, if_pos unnamed⟩
  have named : Text.isBlankText entry.name = false := Bool.eq_false_iff.mpr unnamed
  rw [if_neg unnamed]
  by_cases treeless : entry.kind = .talent ∧ entry.tree = none
  · exact .inr ⟨_, .treeless identified named treeless.1 treeless.2, if_pos treeless⟩
  have placed : entry.kind = .talent → entry.tree ≠ none := fun talent none => treeless ⟨talent, none⟩
  rw [if_neg treeless]
  by_cases fitting : entry.part.Holds entry.kind
  · have sound : entry.Sound := ⟨identified, named, placed, fitting⟩
    rw [if_neg (not_not.mpr fitting)]
    by_cases again : table.has entry.part entry.id = true
    · exact .inr ⟨_, .repeated sound (known.mp again), if_pos again⟩
    · exact .inl ⟨sound, fun member => again (known.mpr member), if_neg again⟩
  · exact .inr ⟨_, .foreign identified named placed fitting, if_pos fitting⟩

end RuleTable

theorem Prestige.distinct : (Prestige.classes.map ClassDefinition.id).Nodup := by decide

/-- The ids that a part has when some entries have been taken. -/
def takenIds (prestige : Bool) (part : RulePart) (entries : List LayoutEntry) : List String :=
  (if prestige = true ∧ part = .characterClass then Prestige.classes.map ClassDefinition.id else []) ++
    (entries.filter fun entry => entry.part = part).map LayoutEntry.id

theorem takenIds_snoc (prestige : Bool) (part : RulePart) (entries : List LayoutEntry) (entry : LayoutEntry) :
    takenIds prestige part (entries ++ [entry]) =
      takenIds prestige part entries ++ if entry.part = part then [entry.id] else [] := by
  unfold takenIds
  rw [List.filter_append, List.map_append, List.append_assoc]
  by_cases here : entry.part = part
  · simp [here]
  · simp [here]

theorem mem_takenIds {prestige : Bool} {part : RulePart} {entries : List LayoutEntry} {id : String} :
    id ∈ takenIds prestige part entries ↔
      (part = .characterClass ∧ prestige = true ∧ ∃ included ∈ Prestige.classes, included.id = id) ∨
        ∃ entry : LayoutEntry, entry.part = part ∧ entry ∈ entries ∧ entry.id = id := by
  unfold takenIds
  rw [List.mem_append]
  apply or_congr
  · by_cases included : prestige = true ∧ part = .characterClass
    · simp [included]
    · rw [if_neg included]
      constructor
      · exact fun member => absurd member List.not_mem_nil
      · exact fun other => absurd ⟨other.2.1, other.1⟩ included
  · simp [and_assoc, and_left_comm]

/-- Whether entries can be taken one after another: each is sound, and no part gets an id twice. -/
structure Acceptable (prestige : Bool) (entries : List LayoutEntry) : Prop where
  sound : ∀ entry ∈ entries, entry.Sound
  distinct : ∀ part, (takenIds prestige part entries).Nodup

namespace Acceptable

variable {prestige : Bool} {entries more : List LayoutEntry} {entry : LayoutEntry}

theorem snoc_iff :
    Acceptable prestige (entries ++ [entry]) ↔
      Acceptable prestige entries ∧ entry.Sound ∧ entry.id ∉ takenIds prestige entry.part entries := by
  constructor
  · intro acceptable
    have distinct (part : RulePart) := takenIds_snoc prestige part entries entry ▸ acceptable.distinct part
    refine ⟨⟨?_, ?_⟩, acceptable.sound entry (by simp), ?_⟩
    · exact fun other member => acceptable.sound other (List.mem_append_left _ member)
    · exact fun part => (List.nodup_append.mp (distinct part)).1
    · intro again
      have apart := (List.nodup_append.mp (distinct entry.part)).2.2
      exact apart entry.id again entry.id (by simp) rfl
  · intro ⟨acceptable, sound, fresh⟩
    refine ⟨?_, ?_⟩
    · intro other member
      rcases List.mem_append.mp member with earlier | here
      · exact acceptable.sound other earlier
      · exact List.mem_singleton.mp here ▸ sound
    · intro part
      rw [takenIds_snoc]
      by_cases here : entry.part = part
      · rw [if_pos here, List.nodup_append]
        refine ⟨acceptable.distinct part, List.nodup_singleton _, ?_⟩
        intro id earlier other same equal
        rw [equal, List.mem_singleton.mp same] at earlier
        exact fresh (here ▸ earlier)
      · rw [if_neg here, List.append_nil]
        exact acceptable.distinct part

theorem front (acceptable : Acceptable prestige (entries ++ more)) : Acceptable prestige entries := by
  induction more using List.reverseRecOn with
  | nil => rwa [List.append_nil] at acceptable
  | append_singleton more entry ih =>
    rw [← List.append_assoc] at acceptable
    exact ih (snoc_iff.mp acceptable).1

theorem nil : Acceptable prestige [] := by
  refine ⟨fun _ member => absurd member List.not_mem_nil, ?_⟩
  intro part
  cases prestige <;> cases part <;> decide

end Acceptable

/-- What a table holds when some entries have been taken: their contents under their ids, the included classes, and
nothing else. -/
structure Contains (table : RuleTable) (prestige : Bool) (houseRules : HouseRules) (entries : List LayoutEntry) : Prop where
  feats : table.feats.Lists fun definition => ∃ entry, .feat entry ∈ entries ∧ entry.content .feat = definition
  talents : table.talents.Lists fun definition => ∃ entry, .talent entry ∈ entries ∧ entry.content .talent = definition
  classes : table.classes.Lists fun definition =>
    (prestige = true ∧ definition ∈ Prestige.classes) ∨
      ∃ entry, .characterClass entry ∈ entries ∧ entry.content = definition
  houseRules : table.houseRules = houseRules

namespace Contains

variable {table : RuleTable} {prestige : Bool} {houseRules : HouseRules} {entries : List LayoutEntry}
  {entry : LayoutEntry}

theorem has_iff (contents : Contains table prestige houseRules entries) (part : RulePart) (id : String) :
    table.has part id = true ↔ id ∈ takenIds prestige part entries := by
  rw [mem_takenIds, LayoutEntry.exists_part]
  cases part with
  | feat => exact contents.feats.contains_content_iff.trans (or_iff_right fun other => RulePart.noConfusion other.1).symm
  | talent =>
    exact contents.talents.contains_content_iff.trans (or_iff_right fun other => RulePart.noConfusion other.1).symm
  | characterClass =>
    rw [RuleTable.has, contents.classes.contains_iff]
    constructor
    · intro ⟨definition, named, there⟩
      rcases there with ⟨included, member⟩ | ⟨entry, member, same⟩
      · exact .inl ⟨rfl, included, definition, member, named⟩
      · exact .inr ⟨entry, member, (congrArg ClassDefinition.id same).trans named⟩
    · intro there
      rcases there with ⟨_, included, definition, member, named⟩ | ⟨entry, member, named⟩
      · exact ⟨definition, named, .inl ⟨included, member⟩⟩
      · exact ⟨_, named, .inr ⟨entry, member, rfl⟩⟩

theorem file (contents : Contains table prestige houseRules entries)
    (fresh : ¬ table.has entry.part entry.id = true) :
    Contains (table.file entry) prestige houseRules (entries ++ [entry]) := by
  cases entry with
  | feat entry =>
    have freshHere : ¬ table.feats.contains (entry.content .feat).id = true := fresh
    refine ⟨(contents.feats.file freshHere).congr ?_, contents.talents.congr ?_, contents.classes.congr ?_,
      contents.houseRules⟩
    · simp [or_and_right, exists_or, eq_comm]
    · simp
    · simp
  | talent entry =>
    have freshHere : ¬ table.talents.contains (entry.content .talent).id = true := fresh
    refine ⟨contents.feats.congr ?_, (contents.talents.file freshHere).congr ?_, contents.classes.congr ?_,
      contents.houseRules⟩
    · simp
    · simp [or_and_right, exists_or, eq_comm]
    · simp
  | characterClass entry =>
    have freshHere : ¬ table.classes.contains entry.content.id = true := fresh
    refine ⟨contents.feats.congr ?_, contents.talents.congr ?_, (contents.classes.file freshHere).congr ?_,
      contents.houseRules⟩
    · simp
    · simp
    · simp [or_and_right, exists_or, or_assoc, eq_comm]

end Contains

namespace RuleLayout

def entries (layout : RuleLayout) : List LayoutEntry :=
  layout.feats.map .feat ++ (layout.talents.map .talent ++ layout.classes.map .characterClass)

def ofDocument? (document : String) : Option RuleLayout := (Toml.read? document).bind (ofValue? .toml)

/-- What a layout has to be to be loaded. -/
structure Sound (layout : RuleLayout) : Prop where
  featNames : ∀ entry ∈ layout.feats, Text.isBlankText entry.id = false ∧ Text.isBlankText entry.name = false
  featKinds : ∀ entry ∈ layout.feats, entry.kind = none ∨ entry.kind = some .feat
  talentNames : ∀ entry ∈ layout.talents, Text.isBlankText entry.id = false ∧ Text.isBlankText entry.name = false
  talentKinds : ∀ entry ∈ layout.talents, entry.kind ≠ some .feat ∧ entry.kind ≠ some .characterClass
  talentTrees : ∀ entry ∈ layout.talents, entry.kind = none ∨ entry.kind = some .talent → entry.tree ≠ none
  classNames : ∀ entry ∈ layout.classes, Text.isBlankText entry.id = false ∧ Text.isBlankText entry.name = false
  featIds : (layout.feats.map AbilityEntry.id).Nodup
  talentIds : (layout.talents.map AbilityEntry.id).Nodup
  classIds : (layout.classes.map ClassEntry.id).Nodup
  newClassIds : layout.includePrestige = true → ∀ entry ∈ layout.classes, ∀ included ∈ Prestige.classes,
    entry.id ≠ included.id

/-- Whether a table holds what a layout says: every entry with its content under its id, the built-in classes if they are
included, and nothing else. -/
structure Loaded (layout : RuleLayout) (table : RuleTable) : Prop where
  feats : ∀ id definition, table.feats.find? id = some definition ↔
    ∃ entry ∈ layout.feats, entry.id = id ∧ entry.content .feat = definition
  talents : ∀ id definition, table.talents.find? id = some definition ↔
    ∃ entry ∈ layout.talents, entry.id = id ∧ entry.content .talent = definition
  classes : ∀ id definition, table.classes.find? id = some definition ↔
    (∃ entry ∈ layout.classes, entry.id = id ∧ entry.content = definition) ∨
      (layout.includePrestige = true ∧ definition ∈ Prestige.classes ∧ definition.id = id)
  houseRules : table.houseRules = layout.houseRules.resolve

variable {layout : RuleLayout} {table : RuleTable}

theorem feat_mem_entries {entry : AbilityEntry} : .feat entry ∈ layout.entries ↔ entry ∈ layout.feats := by
  simp [entries]

theorem talent_mem_entries {entry : AbilityEntry} : .talent entry ∈ layout.entries ↔ entry ∈ layout.talents := by
  simp [entries]

theorem class_mem_entries {entry : ClassEntry} : .characterClass entry ∈ layout.entries ↔ entry ∈ layout.classes := by
  simp [entries]

theorem loaded_of_contains
    (contents : Contains table layout.includePrestige layout.houseRules.resolve layout.entries) : layout.Loaded table := by
  refine ⟨?_, ?_, ?_, contents.houseRules⟩
  · intro id definition
    exact (contents.feats.found_iff id definition).trans (exists_congr fun entry => and_congr_left' feat_mem_entries)
  · intro id definition
    exact (contents.talents.found_iff id definition).trans (exists_congr fun entry => and_congr_left' talent_mem_entries)
  · intro id definition
    rw [contents.classes id definition]
    constructor
    · intro ⟨named, there⟩
      rcases there with ⟨included, member⟩ | ⟨entry, member, same⟩
      · exact .inr ⟨included, member, named⟩
      · exact .inl ⟨entry, class_mem_entries.mp member, (congrArg ClassDefinition.id same).trans named, same⟩
    · intro there
      rcases there with ⟨entry, member, named, same⟩ | ⟨included, member, named⟩
      · exact ⟨same ▸ named, .inr ⟨entry, class_mem_entries.mpr member, same⟩⟩
      · exact ⟨named, .inl ⟨included, member⟩⟩

theorem forall_entries {property : LayoutEntry → Prop} :
    (∀ entry ∈ layout.entries, property entry) ↔
      (∀ entry ∈ layout.feats, property (.feat entry)) ∧ (∀ entry ∈ layout.talents, property (.talent entry)) ∧
        ∀ entry ∈ layout.classes, property (.characterClass entry) := by
  simp [entries, or_imp, forall_and]

theorem takenIds_feats (prestige : Bool) : takenIds prestige .feat layout.entries = layout.feats.map AbilityEntry.id := by
  simp [takenIds, entries, List.filter_map, Function.comp_def, LayoutEntry.part, LayoutEntry.id]

theorem takenIds_talents (prestige : Bool) :
    takenIds prestige .talent layout.entries = layout.talents.map AbilityEntry.id := by
  simp [takenIds, entries, List.filter_map, Function.comp_def, LayoutEntry.part, LayoutEntry.id]

theorem takenIds_classes (prestige : Bool) :
    takenIds prestige .characterClass layout.entries =
      (if prestige = true then Prestige.classes.map ClassDefinition.id else []) ++ layout.classes.map ClassEntry.id := by
  simp [takenIds, entries, List.filter_map, Function.comp_def, LayoutEntry.part, LayoutEntry.id]

theorem nodup_classes_iff :
    (takenIds layout.includePrestige .characterClass layout.entries).Nodup ↔
      (layout.classes.map ClassEntry.id).Nodup ∧
        (layout.includePrestige = true → ∀ entry ∈ layout.classes, ∀ included ∈ Prestige.classes,
          entry.id ≠ included.id) := by
  rw [takenIds_classes, List.nodup_append]
  cases layout.includePrestige with
  | false => simp
  | true =>
    simp only [if_true, Prestige.distinct, true_and, forall_const]
    apply and_congr_right
    intro _
    constructor
    · intro apart entry member included there same
      exact apart included.id (List.mem_map_of_mem there) entry.id (List.mem_map_of_mem member) same.symm
    · intro apart id builtin other laid same
      obtain ⟨included, there, named⟩ := List.mem_map.mp builtin
      obtain ⟨entry, member, namedToo⟩ := List.mem_map.mp laid
      exact apart entry member included there (namedToo.trans (same.symm.trans named.symm))

theorem sound_iff : layout.Sound ↔ Acceptable layout.includePrestige layout.entries := by
  constructor
  · intro sound
    refine ⟨forall_entries.mpr ⟨?_, ?_, ?_⟩, ?_⟩
    · intro entry member
      exact LayoutEntry.sound_feat_iff.mpr ⟨sound.featNames entry member, sound.featKinds entry member⟩
    · intro entry member
      exact LayoutEntry.sound_talent_iff.mpr
        ⟨sound.talentNames entry member, sound.talentKinds entry member, sound.talentTrees entry member⟩
    · intro entry member
      exact LayoutEntry.sound_class_iff.mpr (sound.classNames entry member)
    · intro part
      cases part with
      | feat => exact takenIds_feats _ ▸ sound.featIds
      | talent => exact takenIds_talents _ ▸ sound.talentIds
      | characterClass => exact nodup_classes_iff.mpr ⟨sound.classIds, sound.newClassIds⟩
  · intro acceptable
    obtain ⟨feats, talents, classes⟩ := forall_entries.mp acceptable.sound
    obtain ⟨classIds, newClassIds⟩ := nodup_classes_iff.mp (acceptable.distinct .characterClass)
    exact {
      featNames := fun entry member => (LayoutEntry.sound_feat_iff.mp (feats entry member)).1
      featKinds := fun entry member => (LayoutEntry.sound_feat_iff.mp (feats entry member)).2
      talentNames := fun entry member => (LayoutEntry.sound_talent_iff.mp (talents entry member)).1
      talentKinds := fun entry member => (LayoutEntry.sound_talent_iff.mp (talents entry member)).2.1
      talentTrees := fun entry member => (LayoutEntry.sound_talent_iff.mp (talents entry member)).2.2
      classNames := fun entry member => LayoutEntry.sound_class_iff.mp (classes entry member)
      featIds := takenIds_feats _ ▸ acceptable.distinct .feat
      talentIds := takenIds_talents _ ▸ acceptable.distinct .talent
      classIds := classIds
      newClassIds := newClassIds }

end RuleLayout

namespace RuleTable

variable {table : RuleTable} {prestige : Bool} {houseRules : HouseRules} {earlier : List LayoutEntry}

/-- Entries are taken one after another, behind some that were taken before, until one is at fault. -/
theorem takeEach_cases (contents : Contains table prestige houseRules earlier) (acceptable : Acceptable prestige earlier)
    (entries : List LayoutEntry) :
    (∃ after, takeEach take table entries = .ok after ∧ Acceptable prestige (earlier ++ entries) ∧
      Contains after prestige houseRules (earlier ++ entries)) ∨
    ∃ error front entry back, takeEach take table entries = .error error ∧ entries = front ++ entry :: back ∧
      Acceptable prestige (earlier ++ front) ∧ entry.Fault (takenIds prestige entry.part (earlier ++ front)) error := by
  -- What was taken grows by the entry that is taken, and so does what the table contains.
  induction entries generalizing table earlier with
  | nil =>
    rw [List.append_nil]
    exact .inl ⟨table, rfl, acceptable, contents⟩
  | cons entry rest ih =>
    rw [takeEach]
    rcases take_cases (contents.has_iff entry.part entry.id) with ⟨sound, fresh, taken⟩ | ⟨error, fault, refused⟩
    · have filed := contents.file fun there => fresh ((contents.has_iff entry.part entry.id).mp there)
      have later := ih filed (Acceptable.snoc_iff.mpr ⟨acceptable, sound, fresh⟩)
      rw [List.append_assoc, List.singleton_append] at later
      simp only [taken]
      rcases later with later | ⟨error, front, other, back, failed, whole, sofar, fault⟩
      · exact .inl later
      · rw [List.append_assoc, List.singleton_append] at sofar fault
        exact .inr ⟨error, entry :: front, other, back, failed, by rw [whole, List.cons_append], sofar, fault⟩
    · simp only [refused]
      rw [← List.append_nil earlier] at acceptable fault
      exact .inr ⟨error, [], entry, rest, rfl, rfl, acceptable, fault⟩

theorem takeEach_append {α : Type} (take : RuleTable → α → Except RuleDataError RuleTable) (table : RuleTable)
    (first second : List α) :
    takeEach take table (first ++ second) =
      (takeEach take table first).bind fun table => takeEach take table second := by
  induction first generalizing table with
  | nil => rfl
  | cons entry rest ih =>
    rw [List.cons_append, takeEach, takeEach]
    cases take table entry with
    | error error => rfl
    | ok after => exact ih after

theorem takeEach_map {α : Type} (place : α → LayoutEntry) (table : RuleTable) (entries : List α) :
    takeEach take table (entries.map place) = takeEach (fun table entry => take table (place entry)) table entries := by
  induction entries generalizing table with
  | nil => rfl
  | cons entry rest ih =>
    rw [List.map_cons, takeEach, takeEach]
    cases take table (place entry) with
    | error error => rfl
    | ok after => exact ih after

def start (layout : RuleLayout) : RuleTable :=
  (if layout.includePrestige then RuleTable.prestige else empty).withHouseRules layout.houseRules.resolve

/-- Taking the parts of a layout one behind another is a single pass over its entries. -/
theorem ofLayout_eq (layout : RuleLayout) : ofLayout layout = takeEach take (start layout) layout.entries := by
  have feats : (fun table entry => take table (.feat entry)) = takeFeat := rfl
  have talents : (fun table entry => take table (.talent entry)) = takeTalent := rfl
  have classes : (fun table entry => take table (.characterClass entry)) = takeClass := rfl
  simp only [RuleLayout.entries, takeEach_append, takeEach_map, feats, talents, classes]
  rw [ofLayout, ← start]
  cases takeEach takeFeat (start layout) layout.feats with
  | error error => rfl
  | ok table => rfl

theorem foldl_fileClass (table : RuleTable) (classes : List ClassDefinition) :
    classes.foldl fileClass table = { table with classes := classes.foldl Catalogue.file table.classes } := by
  induction classes generalizing table with
  | nil => rfl
  | cons first rest ih => exact ih (table.fileClass first)

theorem start_contains (layout : RuleLayout) :
    Contains (start layout) layout.includePrestige layout.houseRules.resolve [] := by
  unfold start
  cases layout.includePrestige with
  | false =>
    exact ⟨Catalogue.Lists.empty.congr (by simp), Catalogue.Lists.empty.congr (by simp),
      Catalogue.Lists.empty.congr (by simp), rfl⟩
  | true =>
    rw [if_pos rfl, RuleTable.prestige, foldl_fileClass]
    have fresh (included : ClassDefinition) : ¬ (Catalogue.empty : Catalogue ClassDefinition ClassDefinition.id).contains
        included.id = true := by
      intro there
      exact (Catalogue.Lists.empty.contains_iff.mp there).elim fun _ listed => listed.2
    have filed := Catalogue.Lists.empty.fileEach Prestige.distinct fun included _ => fresh included
    exact ⟨Catalogue.Lists.empty.congr (by simp), Catalogue.Lists.empty.congr (by simp), filed.congr (by simp), rfl⟩

theorem ofLayout_cases (layout : RuleLayout) :
    (∃ table, ofLayout layout = .ok table ∧ layout.Sound ∧ layout.Loaded table) ∨
      ∃ error front entry back, ofLayout layout = .error error ∧ layout.entries = front ++ entry :: back ∧
        Acceptable layout.includePrestige front ∧
          entry.Fault (takenIds layout.includePrestige entry.part front) error := by
  rw [ofLayout_eq]
  rcases takeEach_cases (start_contains layout) .nil layout.entries with
    ⟨table, taken, acceptable, contents⟩ | ⟨error, front, entry, back, refused, whole, acceptable, fault⟩
  · exact .inl ⟨table, taken, RuleLayout.sound_iff.mpr acceptable, RuleLayout.loaded_of_contains contents⟩
  · exact .inr ⟨error, front, entry, back, refused, whole, acceptable, fault⟩

/-- A table document with a layout is loaded as a whole exactly if the layout is sound. The loaded table holds what was laid
out. A layout that is not loaded fails for its first entry that cannot be taken behind all entries before it. -/
theorem ofDocument_exact {document : String} {layout : RuleLayout}
    (parsed : RuleLayout.ofDocument? document = some layout) :
    ((∃ table, ofDocument document = .ok table) ↔ layout.Sound) ∧
      (∀ table, ofDocument document = .ok table → layout.Loaded table) ∧
        ∀ error, ofDocument document = .error error →
          ∃ front entry back, layout.entries = front ++ entry :: back ∧ Acceptable layout.includePrestige front ∧
            ¬ Acceptable layout.includePrestige (front ++ [entry]) ∧
              entry.Fault (takenIds layout.includePrestige entry.part front) error := by
  have loading : ofDocument document = ofLayout layout := by
    rw [ofDocument, show (Toml.read? document).bind (RuleLayout.ofValue? .toml) = some layout from parsed]
  rw [loading]
  rcases ofLayout_cases layout with
    ⟨table, loaded, sound, holds⟩ | ⟨error, front, entry, back, refused, whole, acceptable, fault⟩
  · rw [loaded]
    refine ⟨iff_of_true ⟨table, rfl⟩ sound, ?_, fun _ failed => by cases failed⟩
    intro other same
    exact Except.ok.inj same ▸ holds
  · have offending : ¬ Acceptable layout.includePrestige (front ++ [entry]) :=
      fun longer => fault.refuses (Acceptable.snoc_iff.mp longer).2
    have unsound : ¬ layout.Sound := by
      intro sound
      have all := RuleLayout.sound_iff.mp sound
      rw [whole, ← List.singleton_append, ← List.append_assoc] at all
      exact offending all.front
    rw [refused]
    refine ⟨iff_of_false ?_ unsound, ?_, ?_⟩
    · intro ⟨_, loaded⟩
      cases loaded
    · intro _ loaded
      cases loaded
    · intro other same
      exact ⟨front, entry, back, whole, acceptable, offending, Except.error.inj same ▸ fault⟩

def dodgeDocument : String :=
  "[[feat]]\nid=\"dodge\"\nname=\"Dodge\"\n[[talent]]\nid=\"dodge\"\nname=\"Dodge\"\ntree=\"Scout\"\n"

def officerDocument : String := "include_prestige=true\n[[class]]\nid=\"officer\"\nname=\"Officer\"\n"

/-- An id may stand in two parts, but not besides a built-in class of that id. -/
theorem ofDocument_exact_ids :
    (∃ table, ofDocument dodgeDocument = .ok table ∧
      table.feats.find? "dodge" = some ⟨"dodge", "Dodge", .feat, none, none, false⟩ ∧
        table.talents.find? "dodge" = some ⟨"dodge", "Dodge", .talent, some "Scout", none, false⟩) ∧
      ¬ ∃ table, ofDocument officerDocument = .ok table := by
  constructor
  · have read : Toml.read? dodgeDocument = some (.record
        [ ("feat", .list [.record [("id", .text "dodge"), ("name", .text "Dodge")]]),
          ("talent", .list [.record [("id", .text "dodge"), ("name", .text "Dodge"), ("tree", .text "Scout")]]) ]) := by
      cbv
    have parsed : RuleLayout.ofDocument? dodgeDocument = some ⟨.empty, false,
        [⟨"dodge", "Dodge", none, none, none, false⟩], [⟨"dodge", "Dodge", none, some "Scout", none, false⟩], []⟩ := by
      rw [RuleLayout.ofDocument?, read]
      rfl
    obtain ⟨loads, holds, -⟩ := ofDocument_exact parsed
    obtain ⟨table, loaded⟩ := loads.mpr
      ⟨by decide, by decide, by decide, by decide, by decide, by decide, by decide, by decide, by decide,
        by decide⟩
    have contents := holds table loaded
    exact ⟨table, loaded, (contents.feats _ _).mpr ⟨_, List.mem_singleton_self _, rfl, rfl⟩,
      (contents.talents _ _).mpr ⟨_, List.mem_singleton_self _, rfl, rfl⟩⟩
  · have read : Toml.read? officerDocument = some (.record
        [ ("include_prestige", .bool true),
          ("class", .list [.record [("id", .text "officer"), ("name", .text "Officer")]]) ]) := by
      cbv
    have parsed : RuleLayout.ofDocument? officerDocument =
        some ⟨.empty, true, [], [], [⟨"officer", "Officer", false, none⟩]⟩ := by
      rw [RuleLayout.ofDocument?, read]
      rfl
    intro loads
    have sound := (ofDocument_exact parsed).1.mp loads
    exact absurd (sound.newClassIds rfl) (by decide)

end RuleTable

end Legality
