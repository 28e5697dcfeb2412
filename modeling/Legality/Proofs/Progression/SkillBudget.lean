import Legality.Proofs.Progression.Levels
import Legality.Proofs.Text.Basic

/-!
The budget of trained skills over whole plans. A skill is trained only if its key is new and a level pays for it; so
each trained skill adds one to the set, whatever way its name is spelled, and characters whose skills are different
and paid for stay so. The count of what is left is in signed arithmetic of 64 bits; it is exact where it does not
overflow, and an overflow compiles to nothing.
-/
namespace Legality

def Intent.trainsSkill : Intent → Bool
  | .chooseSkill _ => true
  | _ => false

namespace Snapshot

/-- Whether the trained skills of a character are different skills and no more than its levels pay for. -/
structure WithinBudget (houseRules : HouseRules) (snapshot : Snapshot) : Prop where
  distinct : (SortedSet.toList snapshot.trainedSkills).Pairwise fun one other => Text.key one ≠ Text.key other
  paid : snapshot.trainedSkills.size ≤ snapshot.level.toNat * houseRules.skillPointsPerLevel.toNat

variable {snapshot : Snapshot} {houseRules : HouseRules} {skill : String}

theorem key_ne_of_not_isTrainedIn (untrained : snapshot.isTrainedIn skill = false) :
    ∀ trained ∈ SortedSet.toList snapshot.trainedSkills, Text.key trained ≠ Text.key skill := by
  simpa [isTrainedIn] using untrained

theorem signed?_eq (n : Int) : signed? n = if -2 ^ 63 ≤ n ∧ n < 2 ^ 63 then some (Int64.ofInt n) else none := by
  cases n with
  | ofNat m =>
    have range : -2 ^ 63 ≤ Int.ofNat m ∧ Int.ofNat m < 2 ^ 63 ↔ m < 0x8000000000000000 := by
      rw [Int.ofNat_eq_natCast]
      omega
    simp only [signed?, range]
  | negSucc m =>
    have range : -2 ^ 63 ≤ Int.negSucc m ∧ Int.negSucc m < 2 ^ 63 ↔ m < 0x8000000000000000 := by
      rw [Int.negSucc_eq]
      omega
    simp only [signed?, range]

/-- Only the product can overflow: what it grants is not negative, and the skills that are trained fit in memory. -/
theorem skillPointsAvailable?_eq (storable : snapshot.trainedSkills.size < 2 ^ 63) :
    snapshot.skillPointsAvailable? houseRules =
      if 2 ^ 63 ≤ snapshot.level.toNat * houseRules.skillPointsPerLevel.toNat then none
      else some (Int64.ofInt ((snapshot.level.toNat * houseRules.skillPointsPerLevel.toNat : Nat) -
        (snapshot.trainedSkills.size : Int))) := by
  rw [skillPointsAvailable?]
  generalize snapshot.level.toNat * houseRules.skillPointsPerLevel.toNat = granted
  by_cases large : 2 ^ 63 ≤ granted
  · rw [if_pos large, signed?_eq, if_neg (by omega)]
  · have exact : (Int64.ofInt granted).toInt = granted := Int64.toInt_ofInt_of_le (by omega) (by omega)
    rw [if_neg large, signed?_eq, if_pos (by omega)]
    simp only [exact, Int64.toInt_ofNat_of_lt storable, signed?_eq]
    exact if_pos (by omega)

theorem granted_lt {left : Int64} (counted : snapshot.skillPointsAvailable? houseRules = some left) :
    snapshot.level.toNat * houseRules.skillPointsPerLevel.toNat < 2 ^ 63 := by
  by_contra large
  rw [skillPointsAvailable?, signed?_eq, if_neg (by omega)] at counted
  cases counted

theorem toInt_skillPoints {left : Int64} (storable : snapshot.trainedSkills.size < 2 ^ 63)
    (counted : snapshot.skillPointsAvailable? houseRules = some left) :
    left.toInt =
      (snapshot.level.toNat * houseRules.skillPointsPerLevel.toNat : Nat) - (snapshot.trainedSkills.size : Int) := by
  have granted := granted_lt counted
  rw [skillPointsAvailable?_eq storable, if_neg (Nat.not_le.mpr granted)] at counted
  obtain rfl := Option.some.inj counted
  apply Int64.toInt_ofInt_of_le <;> omega

theorem skillPoints_pos_iff {left : Int64} (storable : snapshot.trainedSkills.size < 2 ^ 63)
    (counted : snapshot.skillPointsAvailable? houseRules = some left) :
    0 < left ↔ snapshot.trainedSkills.size < snapshot.level.toNat * houseRules.skillPointsPerLevel.toNat := by
  rw [Int64.lt_iff_toInt_lt, toInt_skillPoints storable counted, Int64.toInt_zero]
  omega

theorem toList_train_perm (untrained : snapshot.isTrainedIn skill = false) :
    (SortedSet.toList (snapshot.train skill).trainedSkills).Perm
      (skill :: SortedSet.toList snapshot.trainedSkills) := by
  apply SortedSet.toList_add_perm
  intro member
  exact key_ne_of_not_isTrainedIn untrained skill member rfl

theorem size_eq_length_toList (skills : SortedSet String) : skills.size = (SortedSet.toList skills).length :=
  (List.length_map _).symm

theorem size_train (untrained : snapshot.isTrainedIn skill = false) :
    (snapshot.train skill).trainedSkills.size = snapshot.trainedSkills.size + 1 := by
  rw [size_eq_length_toList, (toList_train_perm untrained).length_eq, List.length_cons, size_eq_length_toList]

theorem WithinBudget.train (within : snapshot.WithinBudget houseRules)
    (untrained : snapshot.isTrainedIn skill = false)
    (left : snapshot.trainedSkills.size < snapshot.level.toNat * houseRules.skillPointsPerLevel.toNat) :
    (snapshot.train skill).WithinBudget houseRules where
  distinct := by
    rw [(toList_train_perm untrained).pairwise_iff Ne.symm, List.pairwise_cons]
    refine ⟨?_, within.distinct⟩
    intro trained member
    exact (key_ne_of_not_isTrainedIn untrained trained member).symm
  paid := by
    rw [size_train untrained]
    exact left

theorem WithinBudget.of_level_le (within : snapshot.WithinBudget houseRules) {after : Snapshot}
    (skills : after.trainedSkills = snapshot.trainedSkills) (higher : snapshot.level.toNat ≤ after.level.toNat) :
    after.WithinBudget houseRules where
  distinct := skills ▸ within.distinct
  paid := by
    rw [skills]
    exact Nat.le_trans within.paid (Nat.mul_le_mul_right _ higher)

end Snapshot

namespace Compiler

variable {compiler : Compiler} {snapshot : Snapshot} {intent : Intent} {delta : Delta} {intents : List Intent}
  {plan : Plan}

theorem untrained_of_compile {skill : String} (compiled : compiler.compile snapshot (.chooseSkill skill) = .ok delta) :
    snapshot.isTrainedIn (Text.trim skill) = false := by
  obtain ⟨-, new, -, -⟩ := chooseSkill_ok.mp compiled
  simpa [Snapshot.alreadyTrained?] using new

/-- One intent trains one skill if that is what it asks for, and none otherwise. -/
theorem effect_skillCount (compiled : compiler.compile snapshot intent = .ok delta) :
    (intent.effect compiler.rules snapshot).trainedSkills.size =
      snapshot.trainedSkills.size + if intent.trainsSkill then 1 else 0 := by
  have skills := Intent.effect_trainedSkills compiler.rules snapshot intent
  cases intent with
  | chooseSkill skill => exact Snapshot.size_train (untrained_of_compile compiled)
  | chooseFeat id | chooseTalent id | levelUp id => exact congrArg SortedMap.size skills

/-- One intent keeps the skills different and paid for. That the intent compiles is all that is needed: an overflow
would have broken it off. -/
theorem effect_withinBudget (compiled : compiler.compile snapshot intent = .ok delta)
    (within : snapshot.WithinBudget compiler.rules.houseRules) :
    (intent.effect compiler.rules snapshot).WithinBudget compiler.rules.houseRules := by
  have higher := effect_level compiled
  have skills := Intent.effect_trainedSkills compiler.rules snapshot intent
  cases intent with
  | chooseSkill skill =>
    obtain ⟨-, -, ⟨left, counted, positive⟩, -⟩ := chooseSkill_ok.mp compiled
    have storable := Nat.lt_of_le_of_lt within.paid (Snapshot.granted_lt counted)
    exact within.train (untrained_of_compile compiled) ((Snapshot.skillPoints_pos_iff storable counted).mp positive)
  | chooseFeat id | chooseTalent id | levelUp id => exact within.of_level_le skills (by omega)

/-- A run keeps the skills different and paid for, and it trains as many as its intents ask for. -/
theorem Run.withinBudget (run : compiler.Run snapshot intents plan)
    (within : snapshot.WithinBudget compiler.rules.houseRules) :
    plan.preview.WithinBudget compiler.rules.houseRules ∧
      plan.preview.trainedSkills.size = snapshot.trainedSkills.size + intents.countP Intent.trainsSkill := by
  induction run with
  | done snapshot => exact ⟨within, rfl⟩
  | @step snapshot after intent rest delta plan advanced later ih =>
    obtain ⟨compiled, -, rfl⟩ := advance_ok_iff.mp advanced
    obtain ⟨kept, counted⟩ := ih (effect_withinBudget compiled within)
    refine ⟨kept, ?_⟩
    rw [counted, effect_skillCount compiled, List.countP_cons]
    omega

/-- Plans keep the budget of skills. A character whose skills are different and paid for ends with skills that are, and
with one more for each intent that asks for one. -/
theorem plan_withinBudget (within : snapshot.WithinBudget compiler.rules.houseRules)
    (planned : compiler.plan snapshot intents = .ok plan) :
    plan.preview.WithinBudget compiler.rules.houseRules ∧
      plan.preview.trainedSkills.size = snapshot.trainedSkills.size + intents.countP Intent.trainsSkill := by
  have run : compiler.Run snapshot intents plan := plan_ok_iff.mp planned
  exact run.withinBudget within

def frugal : RuleTable :=
  (RuleTable.empty.fileClass ⟨"scout", "Scout", false, none⟩).withHouseRules ⟨false, 1, .standard⟩

def sneak : Snapshot := { (Snapshot.blank "pc").train "Stealth" with level := 2 }

theorem plan_withinBudget_sneak :
    ∃ plan, Compiler.plan ⟨frugal, .standard⟩ sneak
        [.chooseSkill " Pilot ", .levelUp "scout", .chooseSkill "Knowledge (Tactics)"] = .ok plan ∧
      plan.preview.WithinBudget frugal.houseRules ∧ plan.preview.trainedSkills.size = 3 := by
  have within : sneak.WithinBudget frugal.houseRules := ⟨by decide, by decide⟩
  have compiles : (Compiler.plan ⟨frugal, .standard⟩ sneak
      [.chooseSkill " Pilot ", .levelUp "scout", .chooseSkill "Knowledge (Tactics)"]).isOk = true := by decide +kernel
  obtain ⟨plan, planned⟩ := exists_of_isOk compiles
  obtain ⟨kept, counted⟩ := @plan_withinBudget ⟨frugal, .standard⟩ sneak _ plan within planned
  exact ⟨plan, planned, kept, counted⟩

theorem compile_newSkill (compiler : Compiler) {skill : String} (solid : Text.isBlankText skill = false)
    (new : snapshot.isTrainedIn (Text.trim skill) = false) :
    compiler.compile snapshot (.chooseSkill skill) =
      (snapshot.skillPointsAvailable? compiler.rules.houseRules).elim (.error .overflow) fun left =>
        if left ≤ 0 then .error (.reported (.validation (.plain (Text.trim skill) noSkillPoints)))
        else .ok (Delta.empty.adding Delta.Collection.trainedSkills.label (Text.trim skill)) := by
  simp only [compile, trainSkill, Text.trim_isEmpty, solid, Snapshot.alreadyTrained?, new, Bool.false_eq_true, if_false]
  cases snapshot.skillPointsAvailable? compiler.rules.houseRules <;> rfl

theorem mapError_reported_ne_overflow {α : Type} (result : Except CompileError α) :
    result.mapError CompileFailure.reported ≠ .error .overflow := by
  cases result <;> simp [Except.mapError]

/-- Nothing overflows but the budget of a new skill. -/
theorem compile_overflow_iff (storable : snapshot.trainedSkills.size < 2 ^ 63) :
    compiler.compile snapshot intent = .error .overflow ↔
      ∃ skill, intent = .chooseSkill skill ∧ Text.isBlankText skill = false ∧
        snapshot.isTrainedIn (Text.trim skill) = false ∧
          2 ^ 63 ≤ snapshot.level.toNat * compiler.rules.houseRules.skillPointsPerLevel.toNat := by
  cases intent with
  | chooseFeat id | chooseTalent id | levelUp id =>
    exact iff_of_false (mapError_reported_ne_overflow _) (by simp)
  | chooseSkill skill =>
    simp only [Intent.chooseSkill.injEq, exists_eq_left']
    cases solid : Text.isBlankText skill with
    | true => simp [compile, trainSkill, Text.trim_isEmpty, solid]
    | false =>
      cases new : snapshot.isTrainedIn (Text.trim skill) with
      | true => simp [compile, trainSkill, Text.trim_isEmpty, solid, Snapshot.alreadyTrained?, new]
      | false =>
        rw [compile_newSkill compiler solid new, Snapshot.skillPointsAvailable?_eq storable]
        by_cases large : 2 ^ 63 ≤ snapshot.level.toNat * compiler.rules.houseRules.skillPointsPerLevel.toNat
        · rw [if_pos large]
          exact iff_of_true rfl ⟨rfl, rfl, large⟩
        · rw [if_neg large, Option.elim_some]
          refine iff_of_false ?_ fun conditions => large conditions.2.2
          split <;> simp

/-- A new skill is broken off where the levels grant 2 ^ 63 skills or more. Where they grant fewer, the budget is exact:
the skill is trained exactly if the trained skills are fewer than that, and refused for the lack of points otherwise. -/
theorem newSkill_compiles_iff (compiler : Compiler) (snapshot : Snapshot) (skill : String)
    (solid : Text.isBlankText skill = false) (new : snapshot.isTrainedIn (Text.trim skill) = false)
    (storable : snapshot.trainedSkills.size < 2 ^ 63) :
    let granted := snapshot.level.toNat * compiler.rules.houseRules.skillPointsPerLevel.toNat
    let trained := snapshot.trainedSkills.size
    compiler.compile snapshot (.chooseSkill skill) =
        (if 2 ^ 63 ≤ granted then .error .overflow
        else if trained < granted then
          .ok (Delta.empty.adding Delta.Collection.trainedSkills.label (Text.trim skill))
        else .error (.reported (.validation (.plain (Text.trim skill) noSkillPoints)))) ∧
      ((∃ delta, compiler.compile snapshot (.chooseSkill skill) = .ok delta) ↔ trained < granted ∧ granted < 2 ^ 63) := by
  intro granted trained
  have compiled : compiler.compile snapshot (.chooseSkill skill) =
      if 2 ^ 63 ≤ granted then .error .overflow
      else if trained < granted then
        .ok (Delta.empty.adding Delta.Collection.trainedSkills.label (Text.trim skill))
      else .error (.reported (.validation (.plain (Text.trim skill) noSkillPoints))) := by
    rw [compile_newSkill compiler solid new]
    cases counted : snapshot.skillPointsAvailable? compiler.rules.houseRules with
    | none =>
      have large : 2 ^ 63 ≤ granted := by
        by_contra small
        rw [Snapshot.skillPointsAvailable?_eq storable, if_neg small] at counted
        contradiction
      rw [if_pos large, Option.elim_none]
    | some left =>
      have small : ¬ 2 ^ 63 ≤ granted := Nat.not_le.mpr (Snapshot.granted_lt counted)
      have positive : 0 < left ↔ trained < granted := Snapshot.skillPoints_pos_iff storable counted
      rw [if_neg small, Option.elim_some]
      by_cases exhausted : left ≤ 0
      · simp only [if_pos exhausted, if_neg (mt positive.mpr (Int64.not_lt.mpr exhausted))]
      · simp only [if_neg exhausted, if_pos (positive.mp (Int64.not_le.mp exhausted))]
  refine ⟨compiled, ?_⟩
  rw [compiled]
  split
  next large =>
    refine iff_of_false (by simp) ?_
    omega
  next small =>
    split
    next enough => exact iff_of_true ⟨_, rfl⟩ ⟨enough, Nat.not_le.mp small⟩
    next spent => simp [spent]

theorem newSkill_compiles_iff_sneak :
    Compiler.compile ⟨frugal, .standard⟩ sneak (.chooseSkill " Pilot ") =
      .ok (Delta.empty.adding Delta.Collection.trainedSkills.label "Pilot") := by
  have one : sneak.trainedSkills.size = 1 := by decide
  have granted : sneak.level.toNat * frugal.houseRules.skillPointsPerLevel.toNat = 2 := by decide
  have trimmed : Text.trim " Pilot " = "Pilot" := by decide
  have compiled := (newSkill_compiles_iff ⟨frugal, .standard⟩ sneak " Pilot " (by decide) (by decide)
    (by decide)).1
  rw [one, granted, trimmed, if_neg (by decide), if_pos (by decide)] at compiled
  exact compiled

def lavish : RuleTable := RuleTable.empty.withHouseRules ⟨true, 4294967295, .standard⟩

def veteran : Snapshot := { Snapshot.blank "pc" with level := 4294967295 }

/-- The veteran has more points than there are signed numbers of 64 bits above zero, and gets no skill and no answer. -/
theorem newSkill_overflows_veteran :
    Text.isBlankText "Stealth" = false ∧ veteran.isTrainedIn (Text.trim "Stealth") = false ∧
      veteran.trainedSkills.size < veteran.level.toNat * lavish.houseRules.skillPointsPerLevel.toNat ∧
      Compiler.compile ⟨lavish, .standard⟩ veteran (.chooseSkill "Stealth") = .error .overflow := by
  have solid : Text.isBlankText "Stealth" = false := by decide
  have new : veteran.isTrainedIn (Text.trim "Stealth") = false := by decide
  have uncounted : veteran.skillPointsAvailable? lavish.houseRules = none := by decide
  refine ⟨solid, new, by decide, ?_⟩
  rw [compile_newSkill ⟨lavish, .standard⟩ solid new, uncounted, Option.elim_none]

end Compiler

end Legality
