import Legality.Proofs.Character.Validity
import Legality.Proofs.Progression.Effect

/-!
What compiled intents lead to. The compiler has already ruled out all that the check of a snapshot would refuse, so
the preview of a compiled delta cannot fail; and what the preview shows is what the intent asked for and no more.
-/
namespace Legality

def Catalogue.Identified {α : Type} {idOf : α → String} (catalogue : Catalogue α idOf) : Prop :=
  ∀ entry ∈ catalogue.entries.values, Text.isBlankText (idOf entry) = false

instance {α : Type} {idOf : α → String} (catalogue : Catalogue α idOf) : Decidable catalogue.Identified :=
  inferInstanceAs (Decidable (∀ entry ∈ catalogue.entries.values, Text.isBlankText (idOf entry) = false))

theorem Catalogue.Identified.of_find? {α : Type} {idOf : α → String} {catalogue : Catalogue α idOf} {id : String}
    {entry : α} (identified : catalogue.Identified) (found : catalogue.find? id = some entry) :
    Text.isBlankText (idOf entry) = false :=
  identified entry (List.mem_map.mpr ⟨(id, entry), SortedMap.mem_of_find? found, rfl⟩)

/-- Whether all published content has ids that are more than white space. -/
structure RuleTable.Identified (rules : RuleTable) : Prop where
  feats : rules.feats.Identified
  talents : rules.talents.Identified
  classes : rules.classes.Identified

/-- What an intent asks of the character after it. All that is not mentioned has to be as before. -/
def Intent.Fulfilled (rules : RuleTable) (before after : Snapshot) : Intent → Prop
  | .chooseFeat id => ∃ feat, rules.feats.find? id = some feat ∧
      after = { before with owned := before.owned ++ if before.owns id then [] else [feat.owned] }
  | .chooseTalent id => ∃ talent, rules.talents.find? id = some talent ∧
      after = { before with owned := before.owned ++ if before.owns id then [] else [talent.owned] }
  | .chooseSkill skill =>
      (∀ other, other ∈ SortedSet.toList after.trainedSkills ↔
        other = Text.trim skill ∨ other ∈ SortedSet.toList before.trainedSkills) ∧
      after = { before with trainedSkills := after.trainedSkills }
  | .levelUp classId => ∃ taken, rules.classes.find? classId = some taken ∧
      after.level.toNat = before.level.toNat + 1 ∧
      (after.classLevel classId).toNat = (before.classLevel classId).toNat + 1 ∧
      (∀ other ≠ classId, after.classLevels.get? other = before.classLevels.get? other) ∧
      after.owned = before.owned ++
        (if before.classLevel classId = 0 ∧ before.owns classId = false then [taken.owned] else []) ∧
      after = { before with level := after.level, classLevels := after.classLevels, owned := after.owned }

namespace Snapshot

variable {snapshot : Snapshot}

theorem WellFormed.gain (well : snapshot.WellFormed) {ability : OwnedAbility}
    (identified : Text.isBlankText ability.id = false) : (snapshot.gain ability).WellFormed := by
  rw [Snapshot.gain]
  split
  next known => exact well
  next fresh => exact well.acquire identified (Bool.eq_false_iff.mpr fresh)

theorem WellFormed.raise (well : snapshot.WellFormed) (classId : String)
    (below : snapshot.level.toNat + 1 < UInt32.size)
    (classBelow : (snapshot.classLevel classId).toNat + 1 < UInt32.size) : (snapshot.raise classId).WellFormed := by
  have total : (snapshot.raise classId).classLevelSum + (snapshot.classLevel classId).toNat =
      snapshot.classLevelSum + ((snapshot.classLevel classId).toNat + 1) := by
    have counted := classLevelSum_setClassLevel snapshot classId (snapshot.classLevel classId + 1)
    rw [toNat_succ classBelow] at counted
    exact counted
  have within : (snapshot.raise classId).classLevelSum ≤ (snapshot.raise classId).level.toNat := by
    have levels := well.levels
    rw [raise_level classId below]
    omega
  exact { well with levels := within }

end Snapshot

namespace Compiler

variable {compiler : Compiler} {snapshot : Snapshot} {intent : Intent} {delta : Delta}

theorem content_identified (identified : compiler.rules.Identified) {ability : OwnedAbility}
    (taken : compiler.rules.content? snapshot intent = some ability) : Text.isBlankText ability.id = false := by
  cases intent with
  | chooseFeat id =>
    obtain ⟨feat, found, rfl⟩ := Option.map_eq_some_iff.mp taken
    exact identified.feats.of_find? found
  | chooseTalent id =>
    obtain ⟨talent, found, rfl⟩ := Option.map_eq_some_iff.mp taken
    exact identified.talents.of_find? found
  | chooseSkill skill => exact absurd taken (Option.some_ne_none ability).symm
  | levelUp classId =>
    rw [RuleTable.content?] at taken
    split at taken
    next entering =>
      obtain ⟨definition, found, rfl⟩ := Option.map_eq_some_iff.mp taken
      exact identified.classes.of_find? found
    next returning => exact absurd taken (Option.some_ne_none ability).symm

theorem progress_wellFormed (compiled : compiler.compile snapshot intent = .ok delta) (well : snapshot.WellFormed) :
    (intent.progress snapshot).WellFormed := by
  cases intent with
  | chooseFeat id | chooseTalent id => exact well
  | chooseSkill skill => exact well.train (Text.trim skill)
  | levelUp classId =>
    obtain ⟨-, -, -, below, classBelow, -⟩ := levelUp_ok.mp compiled
    exact well.raise classId below classBelow

/-- A well-formed character is still well-formed after an intent that compiles. -/
theorem effect_wellFormed (identified : compiler.rules.Identified)
    (compiled : compiler.compile snapshot intent = .ok delta) (well : snapshot.WellFormed) :
    (intent.effect compiler.rules snapshot).WellFormed := by
  have progressed := progress_wellFormed compiled well
  rw [Intent.effect]
  cases taken : compiler.rules.content? snapshot intent with
  | none => exact progressed
  | some ability => exact progressed.gain (content_identified identified taken)

theorem effect_fulfilled (compiled : compiler.compile snapshot intent = .ok delta) :
    intent.Fulfilled compiler.rules snapshot (intent.effect compiler.rules snapshot) := by
  rw [Intent.effect_eq]
  cases intent with
  | chooseFeat id | chooseTalent id =>
    obtain ⟨definition, found, -⟩ := takeAbility_ok.mp (mapError_ok_iff.mp compiled)
    obtain rfl : definition.id = id := Catalogue.id_of_find? found
    refine ⟨definition, found, ?_⟩
    have known : snapshot.owns definition.owned.id = snapshot.owns definition.id := rfl
    rw [RuleTable.content?, found, Option.map_some, Option.filter_some, known]
    cases snapshot.owns definition.id <;> rfl
  | chooseSkill skill =>
    refine ⟨fun other => SortedSet.mem_add, ?_⟩
    rw [RuleTable.content?, Option.filter_none, Option.toList_none, List.append_nil]
    rfl
  | levelUp classId =>
    obtain ⟨definition, found, -, below, classBelow, -⟩ := levelUp_ok.mp compiled
    obtain rfl : definition.id = classId := Catalogue.id_of_find? found
    refine ⟨definition, found, Snapshot.raise_level definition.id below, ?_, ?_, ?_, rfl⟩
    · have raised := Snapshot.raise_classLevel definition.id classBelow
      rw [if_pos rfl] at raised
      exact raised
    · intro other different
      exact (snapshot.raise_get? definition.id other).trans (if_neg different)
    · -- The class is taken with its first level, and owned from then on only if nothing of its id was owned before.
      have known : snapshot.owns definition.owned.id = snapshot.owns definition.id := rfl
      rw [RuleTable.content?, found, Option.map_some]
      by_cases entering : snapshot.classLevel definition.id = 0
      · simp only [entering, if_true, true_and, Option.filter_some, known]
        cases snapshot.owns definition.id <;> rfl
      · simp only [entering, if_false, false_and, Option.filter_none, Option.toList_none]

/-- The preview of a compiled delta never fails, and it shows what the intent asks for and no other change. -/
theorem preview_fulfilled (identified : compiler.rules.Identified) (valid : snapshot.fault? = none)
    (compiled : compiler.compile snapshot intent = .ok delta) :
    ∃ after, delta.preview compiler.rules snapshot = .ok after ∧
      intent.Fulfilled compiler.rules snapshot after := by
  have well : snapshot.WellFormed := Snapshot.fault?_eq_none_iff.mp valid
  refine ⟨intent.effect compiler.rules snapshot, ?_, effect_fulfilled compiled⟩
  rw [preview_of_compile compiled]
  exact Snapshot.checked_ok_iff.mpr ⟨effect_wellFormed identified compiled well, rfl⟩

def chapters : RuleTable :=
  RuleTable.empty.fileClass ⟨"classLevels.knight", "Knight", true, some (.structured (.level 3))⟩

def squire : Snapshot :=
  { (((Snapshot.blank "pc").setClassLevel "scout" 3).acquire ⟨"scout", "Scout", .characterClass, none, none⟩) with
    level := 3 }

theorem preview_fulfilled_knight :
    ∃ delta after, Compiler.compile ⟨chapters, .standard⟩ squire (.levelUp "classLevels.knight") = .ok delta ∧
      delta.preview chapters squire = .ok after ∧
      (Intent.levelUp "classLevels.knight").Fulfilled chapters squire after := by
  have identified : chapters.Identified := ⟨by decide, by decide, by decide⟩
  have valid : squire.fault? = none := by decide
  have compiles : (Compiler.compile ⟨chapters, .standard⟩ squire (.levelUp "classLevels.knight")).isOk = true := by
    decide
  obtain ⟨delta, compiled⟩ := exists_of_isOk compiles
  obtain ⟨after, shown, fulfilled⟩ := @preview_fulfilled ⟨chapters, .standard⟩ squire _ delta identified valid compiled
  exact ⟨delta, after, compiled, shown, fulfilled⟩

end Compiler

end Legality
