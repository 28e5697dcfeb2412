import Legality.Proofs.Progression.Fulfilment
import Legality.Proofs.Progression.Plan
import Legality.Proofs.Progression.SkillBudget
import Legality.Proofs.Text.Words

/-!
Intents about different things. Of two intents that compile for the same character and are about different things,
neither takes anything away from the other: each still compiles after the other, and either order leads to the same
character, except that what was acquired first stands first.
-/
namespace Legality

/-- What an intent is about: published content by its id, or a skill by its key. -/
inductive Intent.Target
  | content (id : String)
  | skill (key : String)

/-- What an intent is about. Two spellings of the name of a skill are about the same skill. -/
def Intent.target : Intent → Target
  | .chooseFeat id => .content id
  | .chooseTalent id => .content id
  | .chooseSkill skill => .skill (Text.key skill)
  | .levelUp classId => .content classId

/-- Whether two characters are equal up to the order of what they own. -/
def Snapshot.SameButOrder (snapshot other : Snapshot) : Prop :=
  snapshot.owned.Perm other.owned ∧ snapshot = { other with owned := snapshot.owned }

theorem RuleTable.target_of_content {rules : RuleTable} {snapshot : Snapshot} {intent : Intent} {ability : OwnedAbility}
    (taken : rules.content? snapshot intent = some ability) : intent.target = .content ability.id := by
  cases intent with
  | chooseFeat id | chooseTalent id =>
    obtain ⟨definition, found, rfl⟩ := Option.map_eq_some_iff.mp taken
    exact congrArg Intent.Target.content (Catalogue.id_of_find? found).symm
  | chooseSkill skill => contradiction
  | levelUp classId =>
    rw [content?] at taken
    split at taken
    next entering =>
      obtain ⟨definition, found, rfl⟩ := Option.map_eq_some_iff.mp taken
      exact congrArg Intent.Target.content (Catalogue.id_of_find? found).symm
    next returning => contradiction

namespace Intent

variable {rules : RuleTable} {snapshot : Snapshot} {first second : Intent}

def acquired (rules : RuleTable) (snapshot : Snapshot) (intent : Intent) : List OwnedAbility :=
  ((rules.content? snapshot intent).filter fun ability => !snapshot.owns ability.id).toList

theorem effect_acquired (rules : RuleTable) (snapshot : Snapshot) (intent : Intent) :
    intent.effect rules snapshot =
      { intent.progress snapshot with owned := snapshot.owned ++ intent.acquired rules snapshot } :=
  intent.effect_eq rules snapshot

theorem effect_owns {id : String} (different : first.target ≠ .content id) :
    (first.effect rules snapshot).owns id = snapshot.owns id := by
  rw [Bool.eq_iff_iff, Snapshot.owns_iff, Snapshot.owns_iff, List.mem_map, List.mem_map]
  constructor
  · rintro ⟨owned, member, rfl⟩
    rcases mem_owned_effect _ _ _ member with earlier | ⟨taken, -⟩
    · exact ⟨owned, earlier, rfl⟩
    · exact absurd (RuleTable.target_of_content taken) different
  · rintro ⟨owned, member, same⟩
    rw [effect_eq]
    exact ⟨owned, List.mem_append_left _ member, same⟩

theorem effect_classLevel {classId : String} (different : first.target ≠ .content classId) :
    (first.effect rules snapshot).classLevel classId = snapshot.classLevel classId := by
  rw [effect_eq]
  cases first with
  | chooseFeat id | chooseTalent id | chooseSkill skill => rfl
  | levelUp raised =>
    have other : classId ≠ raised := fun same => different (congrArg Target.content same.symm)
    exact congrArg (Option.getD · 0) ((snapshot.raise_get? raised classId).trans (if_neg other))

theorem effect_isTrainedIn {skill : String} (different : first.target ≠ .skill (Text.key skill)) :
    (first.effect rules snapshot).isTrainedIn (Text.trim skill) = snapshot.isTrainedIn (Text.trim skill) := by
  rw [effect_eq]
  cases first with
  | chooseFeat id | chooseTalent id | levelUp id => rfl
  | chooseSkill trained =>
    have other : Text.key (Text.trim trained) ≠ Text.key (Text.trim skill) := by
      rw [Text.key_trim, Text.key_trim]
      exact fun same => different (congrArg Target.skill same)
    rw [Bool.eq_iff_iff, Snapshot.isTrainedIn, Snapshot.isTrainedIn, List.any_eq_true, List.any_eq_true]
    constructor
    · rintro ⟨known, member, same⟩
      rcases SortedSet.mem_add.mp member with rfl | earlier
      · exact absurd (beq_iff_eq.mp same) other
      · exact ⟨known, earlier, same⟩
    · rintro ⟨known, member, same⟩
      exact ⟨known, SortedSet.mem_add.mpr (.inr member), same⟩

theorem content?_effect (different : first.target ≠ second.target) :
    rules.content? (first.effect rules snapshot) second = rules.content? snapshot second := by
  cases second with
  | chooseFeat id | chooseTalent id | chooseSkill skill => rfl
  | levelUp classId => rw [RuleTable.content?, RuleTable.content?, effect_classLevel different]

theorem acquired_effect (different : first.target ≠ second.target) :
    second.acquired rules (first.effect rules snapshot) = second.acquired rules snapshot := by
  rw [acquired, acquired, content?_effect different]
  cases taken : rules.content? snapshot second with
  | none => rfl
  | some ability =>
    have other : first.target ≠ .content ability.id := RuleTable.target_of_content taken ▸ different
    rw [Option.filter_some, Option.filter_some, effect_owns other]

theorem raise_comm (snapshot : Snapshot) {classId other : String} (different : classId ≠ other) :
    (snapshot.raise classId).raise other = (snapshot.raise other).raise classId := by
  have kept (one another : String) (apart : one ≠ another) :
      (snapshot.raise another).classLevel one = snapshot.classLevel one :=
    congrArg (Option.getD · 0) ((snapshot.raise_get? another one).trans (if_neg apart))
  have levels := snapshot.classLevels.insert_comm different (snapshot.classLevel classId + 1)
    (snapshot.classLevel other + 1)
  rw [Snapshot.raise, kept other classId different.symm, Snapshot.raise.eq_1 (snapshot.raise other),
    kept classId other different]
  simp only [Snapshot.raise, Snapshot.setClassLevel, levels]

theorem progress_comm (different : first.target ≠ second.target) :
    second.progress (first.progress snapshot) = first.progress (second.progress snapshot) := by
  cases first with
  | chooseFeat id | chooseTalent id => rfl
  | chooseSkill skill =>
    cases second with
    | chooseSkill other =>
      simp only [progress, Snapshot.train]
      rw [SortedSet.add_comm]
    | chooseFeat id | chooseTalent id | levelUp id => rfl
  | levelUp classId =>
    cases second with
    | levelUp other => exact raise_comm snapshot fun same => different (congrArg Target.content same)
    | chooseFeat id | chooseTalent id | chooseSkill id => rfl

theorem progress_with_owned (intent : Intent) (snapshot : Snapshot) (owned : List OwnedAbility) :
    intent.progress { snapshot with owned := owned } = { intent.progress snapshot with owned := owned } := by
  cases intent <;> rfl

/-- Intents about different things lead to the same character in either order, up to the order of what it owns. -/
theorem effect_comm (rules : RuleTable) (snapshot : Snapshot) (different : first.target ≠ second.target) :
    (second.effect rules (first.effect rules snapshot)).SameButOrder
      (first.effect rules (second.effect rules snapshot)) := by
  have twice {one another : Intent} (apart : one.target ≠ another.target) :
      another.effect rules (one.effect rules snapshot) =
        { another.progress (one.progress snapshot) with
          owned := snapshot.owned ++ one.acquired rules snapshot ++ another.acquired rules snapshot } := by
    rw [effect_acquired rules _ another, acquired_effect apart, effect_acquired, progress_with_owned]
  rw [twice different, twice different.symm, progress_comm different]
  refine ⟨?_, rfl⟩
  simp only [List.append_assoc]
  exact List.perm_append_comm.append_left _

end Intent

namespace Compiler

variable {compiler : Compiler} {snapshot : Snapshot} {first second : Intent} {delta firstDelta secondDelta : Delta}

/-- What a character qualifies for it still qualifies for after an intent. -/
theorem unmet_effect (compiled : compiler.compile snapshot first = .ok delta) {prerequisite : Option Prerequisite}
    (qualified : compiler.unmet snapshot prerequisite = .ok none) :
    compiler.unmet (first.effect compiler.rules snapshot) prerequisite = .ok none := by
  have wisdom : (first.effect compiler.rules snapshot).abilities.wisdom = snapshot.abilities.wisdom := by
    rw [Intent.effect_abilities]
  rw [unmet_none] at qualified ⊢
  intro asked same
  exact (qualified asked same).grow (effect_grows compiled) wisdom

theorem takeAbility_after (firstCompiled : compiler.compile snapshot first = .ok firstDelta)
    {collection : Delta.Collection} {noun id : String} {catalogue : Catalogue AbilityDefinition AbilityDefinition.id}
    (different : first.target ≠ .content id)
    (compiled : compiler.takeAbility snapshot collection noun id (catalogue.find? id) = .ok delta) :
    compiler.takeAbility (first.effect compiler.rules snapshot) collection noun id (catalogue.find? id) = .ok delta := by
  obtain ⟨definition, found, known, qualified, rfl⟩ := takeAbility_ok.mp compiled
  obtain rfl : definition.id = id := Catalogue.id_of_find? found
  refine takeAbility_ok.mpr ⟨definition, found, ?_, unmet_effect firstCompiled qualified, rfl⟩
  rw [Snapshot.alreadyKnown?, Intent.effect_owns different]
  exact known

/-- An intent that compiles still compiles after one about something else, where there is room for both. -/
theorem compile_after (firstCompiled : compiler.compile snapshot first = .ok firstDelta)
    (secondCompiled : compiler.compile snapshot second = .ok secondDelta) (different : first.target ≠ second.target)
    (points : second.trainsSkill = true → ∃ left,
      (first.effect compiler.rules snapshot).skillPointsAvailable? compiler.rules.houseRules = some left ∧ 0 < left)
    (below : snapshot.level.toNat + 2 < UInt32.size) :
    ∃ delta, compiler.compile (first.effect compiler.rules snapshot) second = .ok delta := by
  cases second with
  | chooseFeat id | chooseTalent id =>
    have taken := takeAbility_after firstCompiled different (mapError_ok_iff.mp secondCompiled)
    exact ⟨_, mapError_ok_iff.mpr taken⟩
  | chooseSkill skill =>
    obtain ⟨named, -, -, -⟩ := chooseSkill_ok.mp secondCompiled
    have untrained := untrained_of_compile secondCompiled
    have new : (first.effect compiler.rules snapshot).alreadyTrained? (Text.trim skill) = none := by
      simp [Snapshot.alreadyTrained?, Intent.effect_isTrainedIn different, untrained]
    exact ⟨_, chooseSkill_ok.mpr ⟨named, new, points rfl, rfl⟩⟩
  | levelUp classId =>
    obtain ⟨definition, found, qualified, -, classBelow, -⟩ := levelUp_ok.mp secondCompiled
    have raised := effect_level firstCompiled
    have room : (first.effect compiler.rules snapshot).level.toNat + 1 < UInt32.size := by
      split at raised <;> omega
    have same : (first.effect compiler.rules snapshot).classLevel classId = _ := Intent.effect_classLevel different
    exact ⟨_, levelUp_ok.mpr ⟨definition, found, unmet_effect firstCompiled qualified, room, same ▸ classBelow, rfl⟩⟩

/-- The points for a skill are still there after another intent, which may itself train a skill if there are two. -/
theorem points_after (firstCompiled : compiler.compile snapshot first = .ok firstDelta)
    (secondCompiled : compiler.compile snapshot second = .ok secondDelta)
    (points : first.trainsSkill = true → second.trainsSkill = true →
      ∃ left, snapshot.skillPointsAvailable? compiler.rules.houseRules = some left ∧ 2 ≤ left)
    (granted : (snapshot.level.toNat + 2) * compiler.rules.houseRules.skillPointsPerLevel.toNat < 2 ^ 63)
    (storable : snapshot.trainedSkills.size < 2 ^ 63) (trains : second.trainsSkill = true) :
    ∃ left, (first.effect compiler.rules snapshot).skillPointsAvailable? compiler.rules.houseRules = some left ∧
      0 < left := by
  cases second with
  | chooseFeat id | chooseTalent id | levelUp id => contradiction
  | chooseSkill skill =>
    have raised := effect_level firstCompiled
    have trained := effect_skillCount firstCompiled
    generalize first.effect compiler.rules snapshot = after at raised trained ⊢
    obtain ⟨-, -, ⟨left, counted, positive⟩, -⟩ := chooseSkill_ok.mp secondCompiled
    have unspent := (Snapshot.skillPoints_pos_iff storable counted).mp positive
    have unspentAfter : snapshot.trainedSkills.size + (if first.trainsSkill then 1 else 0) <
        snapshot.level.toNat * compiler.rules.houseRules.skillPointsPerLevel.toNat := by
      split
      next another =>
        obtain ⟨several, countedSeveral, two⟩ := points another rfl
        have exact : (2 : Int64).toInt = 2 := by decide
        rw [Int64.le_iff_toInt_le, Snapshot.toInt_skillPoints storable countedSeveral] at two
        omega
      next single => exact unspent
    have higher : snapshot.level.toNat ≤ after.level.toNat ∧ after.level.toNat ≤ snapshot.level.toNat + 2 := by
      split at raised <;> omega
    have pays := Nat.mul_le_mul_right compiler.rules.houseRules.skillPointsPerLevel.toNat higher.1
    have bounded : after.level.toNat * compiler.rules.houseRules.skillPointsPerLevel.toNat < 2 ^ 63 :=
      Nat.lt_of_le_of_lt (Nat.mul_le_mul_right _ higher.2) granted
    have storableAfter : after.trainedSkills.size < 2 ^ 63 := by omega
    have countedAfter := @Snapshot.skillPointsAvailable?_eq after compiler.rules.houseRules storableAfter
    rw [if_neg (Nat.not_le.mpr bounded)] at countedAfter
    exact ⟨_, countedAfter, (Snapshot.skillPoints_pos_iff storableAfter countedAfter).mpr (by omega)⟩

theorem plan_pair (identified : compiler.rules.Identified) (well : snapshot.WellFormed)
    (firstCompiled : compiler.compile snapshot first = .ok firstDelta)
    (after : compiler.compile (first.effect compiler.rules snapshot) second = .ok secondDelta) :
    ∃ plan, compiler.plan snapshot [first, second] = .ok plan ∧
      plan.preview = second.effect compiler.rules (first.effect compiler.rules snapshot) := by
  have wellAfter := effect_wellFormed identified firstCompiled well
  have firstStep := advance_ok_iff.mpr ⟨firstCompiled, wellAfter, rfl⟩
  have secondStep := advance_ok_iff.mpr ⟨after, effect_wellFormed identified after wellAfter, rfl⟩
  exact ⟨_, plan_ok_iff.mpr (.step firstStep (.step secondStep (.done _))), rfl⟩

/-- Intents about different things commute. If two of them compile for a character, both orders of them are planned,
and both lead to the same character up to the order of what it owns, as long as there are two points where both train
a skill. The bounds keep the counters within machine arithmetic; a set in memory is always that small. -/
theorem plan_comm (identified : compiler.rules.Identified) (valid : snapshot.fault? = none)
    (firstCompiled : compiler.compile snapshot first = .ok firstDelta)
    (secondCompiled : compiler.compile snapshot second = .ok secondDelta) (different : first.target ≠ second.target)
    (points : first.trainsSkill = true → second.trainsSkill = true →
      ∃ left, snapshot.skillPointsAvailable? compiler.rules.houseRules = some left ∧ 2 ≤ left)
    (below : snapshot.level.toNat + 2 < UInt32.size)
    (granted : (snapshot.level.toNat + 2) * compiler.rules.houseRules.skillPointsPerLevel.toNat < 2 ^ 63)
    (storable : snapshot.trainedSkills.size < 2 ^ 63) :
    ∃ one other, compiler.plan snapshot [first, second] = .ok one ∧ compiler.plan snapshot [second, first] = .ok other ∧
      one.preview.SameButOrder other.preview := by
  have well : snapshot.WellFormed := Snapshot.fault?_eq_none_iff.mp valid
  have pointsFirst := points_after firstCompiled secondCompiled points granted storable
  have pointsSecond := points_after secondCompiled firstCompiled (fun one other => points other one) granted storable
  obtain ⟨_, afterFirst⟩ := compile_after firstCompiled secondCompiled different pointsFirst below
  obtain ⟨_, afterSecond⟩ := compile_after secondCompiled firstCompiled different.symm pointsSecond below
  obtain ⟨one, planned, reached⟩ := plan_pair identified well firstCompiled afterFirst
  obtain ⟨other, plannedOther, reachedOther⟩ := plan_pair identified well secondCompiled afterSecond
  refine ⟨one, other, planned, plannedOther, ?_⟩
  rw [reached, reachedOther]
  exact Intent.effect_comm compiler.rules snapshot different

def crew : RuleTable :=
  ((RuleTable.empty.fileClass ⟨"noble", "Noble", false, none⟩).fileTalent
    ⟨"talent:evasion", "Evasion", .talent, some "Fringer", some (.structured (.trained "Stealth")), false⟩).withHouseRules
      ⟨false, 2, .standard⟩

def stowaway : Snapshot := { ((Snapshot.blank "pc").train "Stealth").train "Pilot" with level := 2 }

theorem plan_comm_stowaway :
    (∃ one other,
      Compiler.plan ⟨crew, .standard⟩ stowaway [.chooseSkill " Endurance ", .chooseSkill "Deception"] = .ok one ∧
      Compiler.plan ⟨crew, .standard⟩ stowaway [.chooseSkill "Deception", .chooseSkill " Endurance "] = .ok other ∧
      one.preview.SameButOrder other.preview) ∧
    ∃ one other,
      Compiler.plan ⟨crew, .standard⟩ stowaway [.levelUp "noble", .chooseTalent "talent:evasion"] = .ok one ∧
      Compiler.plan ⟨crew, .standard⟩ stowaway [.chooseTalent "talent:evasion", .levelUp "noble"] = .ok other ∧
      one.preview.SameButOrder other.preview := by
  have identified : crew.Identified := ⟨by decide, by decide, by decide⟩
  have valid : stowaway.fault? = none := by decide
  have compiles (intent : Intent)
      (offered : intent ∈ [.chooseSkill " Endurance ", .chooseSkill "Deception", .levelUp "noble",
        .chooseTalent "talent:evasion"]) : ∃ delta, Compiler.compile ⟨crew, .standard⟩ stowaway intent = .ok delta := by
    apply exists_of_isOk
    revert intent
    decide
  obtain ⟨endurance, enduranceCompiled⟩ := compiles (.chooseSkill " Endurance ") (by decide)
  obtain ⟨deception, deceptionCompiled⟩ := compiles (.chooseSkill "Deception") (by decide)
  obtain ⟨noble, nobleCompiled⟩ := compiles (.levelUp "noble") (by decide)
  obtain ⟨evasion, evasionCompiled⟩ := compiles (.chooseTalent "talent:evasion") (by decide)
  have keysApart : Text.key " Endurance " ≠ Text.key "Deception" := by decide +kernel
  have idsApart : "noble" ≠ "talent:evasion" := by decide
  have points : stowaway.skillPointsAvailable? crew.houseRules = some 2 := by decide
  have bounds : stowaway.level.toNat + 2 < UInt32.size ∧
      (stowaway.level.toNat + 2) * crew.houseRules.skillPointsPerLevel.toNat < 2 ^ 63 ∧
      stowaway.trainedSkills.size < 2 ^ 63 := by decide
  have commute {first second : Intent} {delta another : Delta}
      (firstCompiled : Compiler.compile ⟨crew, .standard⟩ stowaway first = .ok delta)
      (secondCompiled : Compiler.compile ⟨crew, .standard⟩ stowaway second = .ok another)
      (different : first.target ≠ second.target) :=
    plan_comm identified valid firstCompiled secondCompiled different (fun _ _ => ⟨2, points, Int64.le_refl 2⟩)
      bounds.1 bounds.2.1 bounds.2.2
  exact ⟨commute enduranceCompiled deceptionCompiled fun same => keysApart (Intent.Target.skill.inj same),
    commute nobleCompiled evasionCompiled fun same => idsApart (Intent.Target.content.inj same)⟩

end Compiler

end Legality
