import Legality.Proofs.Progression.Plan

/-!
Levels and their grants over whole plans. Every level that a plan enters is entered once, by one intent and in one
class, and brings the grants of that level; so the grants of a plan are those of the levels between where it starts
and where it ends, in order.
-/
namespace Legality

def Intent.isLevelUp : Intent → Bool
  | .levelUp _ => true
  | _ => false

namespace Delta

def grants (delta : Delta) : List String := delta.added Collection.pendingGrants.label

theorem Collection.label_injective {one other : Collection} (same : one.label = other.label) : one = other := by
  have read := ofLabel?_label one
  rw [same, ofLabel?_label] at read
  exact (Option.some.inj read).symm

theorem added_adding (delta : Delta) (collection item other : String) :
    (delta.adding collection item).added other =
      if other = collection then delta.added collection ++ [item] else delta.added other := by
  rw [added, adding, SortedMap.get?_insert]
  split
  next same => rfl
  next different => rfl

theorem grants_adding_grant (delta : Delta) (grant : String) :
    (delta.adding Collection.pendingGrants.label grant).grants = delta.grants ++ [grant] := by
  rw [grants, added_adding, if_pos rfl]
  rfl

theorem grants_adding_other (delta : Delta) {collection : Collection} (item : String)
    (other : collection ≠ .pendingGrants) : (delta.adding collection.label item).grants = delta.grants := by
  rw [grants, added_adding, if_neg fun same => other (Collection.label_injective same.symm)]
  rfl

end Delta

namespace Compiler

/-- The grants of a character level. -/
def levelGrants (houseRules : HouseRules) (level : Nat) : List String :=
  (if level % generalFeatInterval = 0 then [generalFeatGrant] else []) ++
    if level % abilityIncreaseInterval = 0 then [abilityIncreaseGrant houseRules] else []

theorem levelDelta_grants (houseRules : HouseRules) (classId : String) (level classLevel : UInt32) :
    (levelDelta houseRules classId level classLevel).grants = levelGrants houseRules level.toNat := by
  have granted (delta : Delta) (due : Prop) [Decidable due] (grant : String) :
      (if due then delta.adding Delta.Collection.pendingGrants.label grant else delta).grants =
        delta.grants ++ if due then [grant] else [] := by
    split
    · exact delta.grants_adding_grant grant
    · exact (List.append_nil _).symm
  have entered : (if classLevel = 1 then
      (Delta.counters classId level classLevel).adding Delta.Collection.classes.label classId
    else Delta.counters classId level classLevel).grants = [] := by
    split
    next first => exact Delta.grants_adding_other _ _ (by decide)
    next later => rfl
  rw [Delta.counters] at entered
  rw [levelDelta, granted, granted, entered, List.nil_append, levelGrants]

theorem generalFeatGrant_ne (houseRules : HouseRules) : generalFeatGrant ≠ abilityIncreaseGrant houseRules := by
  have apart (method : IncreaseMethod) : generalFeatGrant ≠ "ability-increase:" ++ method.label := by
    cases method <;> decide
  exact apart houseRules.increaseMethod

theorem count_due (due : Prop) [Decidable due] (grant other : String) :
    (if due then [grant] else []).count other = if due ∧ grant = other then 1 else 0 := by
  by_cases now : due
  · simp [now, List.count_singleton]
  · simp [now]

theorem count_generalFeatGrant (houseRules : HouseRules) (level : Nat) :
    (levelGrants houseRules level).count generalFeatGrant = if level % generalFeatInterval = 0 then 1 else 0 := by
  simp only [levelGrants, List.count_append, count_due, (generalFeatGrant_ne houseRules).symm, and_true, and_false,
    if_false, Nat.add_zero]

theorem count_abilityIncreaseGrant (houseRules : HouseRules) (level : Nat) :
    (levelGrants houseRules level).count (abilityIncreaseGrant houseRules) =
      if level % abilityIncreaseInterval = 0 then 1 else 0 := by
  simp only [levelGrants, List.count_append, count_due, generalFeatGrant_ne houseRules, and_true, and_false,
    if_false, Nat.zero_add]

theorem mem_levelGrants {houseRules : HouseRules} {level : Nat} {grant : String}
    (member : grant ∈ levelGrants houseRules level) :
    grant = generalFeatGrant ∨ grant = abilityIncreaseGrant houseRules := by
  simp only [levelGrants, List.mem_append, List.mem_ite_nil_right, List.mem_singleton] at member
  rcases member with ⟨-, feat⟩ | ⟨-, increase⟩
  · exact .inl feat
  · exact .inr increase

/-- Consecutive numbers hold as many multiples of an interval as the intervals up to the last exceed those up to the
first. -/
theorem sum_multiples (interval start count : Nat) :
    ((List.range' (start + 1) count).map fun level => if level % interval = 0 then 1 else 0).sum + start / interval =
      (start + count) / interval := by
  induction count generalizing start with
  | zero => simp
  | succ count ih =>
    have later := ih (start + 1)
    have first : (start + 1) / interval = start / interval + if (start + 1) % interval = 0 then 1 else 0 := by
      rw [Nat.succ_div]
      simp only [Nat.dvd_iff_mod_eq_zero]
    have ends : start + 1 + count = start + (count + 1) := by omega
    rw [first, ends] at later
    rw [List.range'_succ, List.map_cons, List.sum_cons]
    omega

def Plan.grants (plan : Plan) : List String := plan.deltas.flatMap Delta.grants

variable {compiler : Compiler} {snapshot after : Snapshot} {intent : Intent} {delta : Delta} {intents : List Intent}
  {plan : Plan}

theorem compile_grants (compiled : compiler.compile snapshot intent = .ok delta) :
    delta.grants =
      if intent.isLevelUp then levelGrants compiler.rules.houseRules (snapshot.level.toNat + 1) else [] := by
  cases intent with
  | chooseFeat id | chooseTalent id =>
    obtain ⟨-, -, -, -, rfl⟩ := takeAbility_ok.mp (mapError_ok_iff.mp compiled)
    exact Delta.grants_adding_other _ _ (by decide)
  | chooseSkill skill =>
    obtain ⟨-, -, -, rfl⟩ := chooseSkill_ok.mp compiled
    exact Delta.grants_adding_other _ _ (by decide)
  | levelUp classId =>
    obtain ⟨-, -, -, below, -, rfl⟩ := levelUp_ok.mp compiled
    rw [levelDelta_grants, toNat_succ below]
    rfl

theorem effect_level (compiled : compiler.compile snapshot intent = .ok delta) :
    (intent.effect compiler.rules snapshot).level.toNat =
      snapshot.level.toNat + if intent.isLevelUp then 1 else 0 := by
  rw [Intent.effect_eq]
  cases intent with
  | chooseFeat id | chooseTalent id | chooseSkill skill => rfl
  | levelUp classId =>
    obtain ⟨-, -, -, below, -⟩ := levelUp_ok.mp compiled
    exact Snapshot.raise_level classId below

theorem effect_classLevel (compiled : compiler.compile snapshot intent = .ok delta) (classId : String) :
    ((intent.effect compiler.rules snapshot).classLevel classId).toNat =
      (snapshot.classLevel classId).toNat + if intent = .levelUp classId then 1 else 0 := by
  rw [Intent.effect_eq]
  cases intent with
  | chooseFeat id | chooseTalent id | chooseSkill skill => rfl
  | levelUp raised =>
    obtain ⟨-, -, -, -, below, -⟩ := levelUp_ok.mp compiled
    have counted := Snapshot.raise_classLevel classId below
    simp only [Intent.levelUp.injEq, eq_comm (a := raised)]
    exact counted

namespace Run

theorem level (run : compiler.Run snapshot intents plan) :
    plan.preview.level.toNat = snapshot.level.toNat + intents.countP Intent.isLevelUp := by
  induction run with
  | done snapshot => rfl
  | step advanced later ih =>
    obtain ⟨compiled, -, rfl⟩ := advance_ok_iff.mp advanced
    rw [ih, effect_level compiled, List.countP_cons]
    omega

theorem classLevel (run : compiler.Run snapshot intents plan) (classId : String) :
    (plan.preview.classLevel classId).toNat =
      (snapshot.classLevel classId).toNat + intents.count (.levelUp classId) := by
  induction run with
  | done snapshot => rfl
  | step advanced later ih =>
    obtain ⟨compiled, -, rfl⟩ := advance_ok_iff.mp advanced
    rw [ih, effect_classLevel compiled, List.count_cons]
    simp only [beq_iff_eq]
    omega

/-- The grants of a run are those of the levels that it enters, one after another. -/
theorem grants (run : compiler.Run snapshot intents plan) :
    plan.grants = (List.range' (snapshot.level.toNat + 1) (intents.countP Intent.isLevelUp)).flatMap
      (levelGrants compiler.rules.houseRules) := by
  induction run with
  | done snapshot => rfl
  | @step snapshot after intent rest delta plan advanced later ih =>
    obtain ⟨compiled, -, rfl⟩ := advance_ok_iff.mp advanced
    have first := compile_grants compiled
    have reached := effect_level compiled
    rw [Plan.grants, List.flatMap_cons, first]
    rw [Plan.grants] at ih
    -- The level that is entered is the first of the range, and what is left starts one later.
    cases levelling : intent.isLevelUp with
    | false =>
      simp only [levelling] at reached
      rw [List.countP_cons_of_neg (by simp [levelling]), ih, reached]
      rfl
    | true =>
      simp only [levelling] at reached
      rw [List.countP_cons_of_pos levelling, ih, reached, List.range'_succ, List.flatMap_cons]
      rfl

/-- A grant that comes with every level of an interval comes as often in a run as the run passes such levels. -/
theorem count_grants (run : compiler.Run snapshot intents plan) {grant : String} {interval : Nat}
    (periodic : ∀ level, (levelGrants compiler.rules.houseRules level).count grant =
      if level % interval = 0 then 1 else 0) :
    plan.grants.count grant =
      (snapshot.level.toNat + intents.countP Intent.isLevelUp) / interval - snapshot.level.toNat / interval := by
  have counted : plan.grants.count grant = ((List.range' (snapshot.level.toNat + 1)
      (intents.countP Intent.isLevelUp)).map fun level => if level % interval = 0 then 1 else 0).sum := by
    rw [run.grants, List.count_flatMap]
    exact congrArg List.sum (List.map_congr_left fun level _ => periodic level)
  have passed := sum_multiples interval snapshot.level.toNat (intents.countP Intent.isLevelUp)
  omega

end Run

/-- The levels of a plan add up. Each level is one intent and counts for the class that it names, every third level of
the character grants a feat, every fourth an ability increase by the method of the house rules, and nothing else is
granted. -/
theorem plan_accounts (planned : compiler.plan snapshot intents = .ok plan) :
    let reached := snapshot.level.toNat + intents.countP Intent.isLevelUp
    let grants := plan.deltas.flatMap fun delta => delta.added "pendingGrants"
    let increase := "ability-increase:" ++ compiler.rules.houseRules.increaseMethod.label
    plan.preview.level.toNat = reached ∧
      (∀ classId, (plan.preview.classLevel classId).toNat =
        (snapshot.classLevel classId).toNat + intents.count (.levelUp classId)) ∧
      grants.count "general-feat" = reached / 3 - snapshot.level.toNat / 3 ∧
      grants.count increase = reached / 4 - snapshot.level.toNat / 4 ∧
      ∀ grant ∈ grants, grant = "general-feat" ∨ grant = increase := by
  have run : compiler.Run snapshot intents plan := plan_ok_iff.mp planned
  refine ⟨run.level, run.classLevel, run.count_grants (count_generalFeatGrant _),
    run.count_grants (count_abilityIncreaseGrant _), ?_⟩
  intro grant member
  have granted : grant ∈ plan.grants := member
  rw [run.grants] at granted
  obtain ⟨level, -, brought⟩ := List.mem_flatMap.mp granted
  exact mem_levelGrants brought

def callings : RuleTable :=
  (RuleTable.empty.fileClass ⟨"scout", "Scout", false, none⟩).fileClass ⟨"soldier", "Soldier", false, none⟩

def ranger : Snapshot := { (Snapshot.blank "pc").setClassLevel "scout" 10 with level := 10 }

theorem plan_accounts_ranger :
    ∃ plan, Compiler.plan ⟨callings, .standard⟩ ranger
        [.levelUp "scout", .chooseSkill "Stealth", .levelUp "soldier"] = .ok plan ∧
      plan.preview.level.toNat = 12 ∧ (plan.preview.classLevel "soldier").toNat = 1 ∧
      (plan.deltas.flatMap fun delta => delta.added "pendingGrants").count "general-feat" = 1 ∧
      (plan.deltas.flatMap fun delta => delta.added "pendingGrants").count "ability-increase:standard" = 1 := by
  have compiles : (Compiler.plan ⟨callings, .standard⟩ ranger
      [.levelUp "scout", .chooseSkill "Stealth", .levelUp "soldier"]).isOk = true := by decide
  obtain ⟨plan, planned⟩ := exists_of_isOk compiles
  obtain ⟨level, classLevel, feats, increases, -⟩ := plan_accounts planned
  exact ⟨plan, planned, level, classLevel "soldier", feats, increases⟩

end Compiler

end Legality
