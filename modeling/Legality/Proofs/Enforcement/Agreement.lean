import Legality.Enforcement.Gate
import Legality.Proofs.Enforcement.Severity
import Legality.Proofs.Progression.SkillBudget
import Legality.Proofs.Text.Basic

/-!
Agreement of the gate with the compiler. The two judge an intent separately and answer in forms of their own; here
one relation says which answers belong together, and every kind of intent is shown to keep to it. A budget of skills
that overflows breaks off both.
-/
namespace Legality

theorem Case.judge_normal {facts : Case} (normal : facts.mode = .normal) :
    facts.judge.1 = .allow ↔ facts.severity = .none := by
  rw [Case.judge, normal]
  cases facts.severity with
  | none => simp
  | warning => cases facts.strict <;> simp
  | error => simp
  | structural => simp

def highestLevel : UInt32 := 0xFFFFFFFF

namespace Intent

/-- The errors that say that an intent means nothing: its target is unknown or blank, or what the target asks for
cannot be evaluated. -/
inductive Meaningless (rules : RuleTable) : Intent → CompileError → Prop
  | unknownFeat {id : String} (absent : rules.feats.find? id = none) :
      Meaningless rules (.chooseFeat id) (.validation (.plain id ("Unknown feat: " ++ id)))
  | unknownTalent {id : String} (absent : rules.talents.find? id = none) :
      Meaningless rules (.chooseTalent id) (.validation (.plain id ("Unknown talent: " ++ id)))
  | unknownClass {id : String} (absent : rules.classes.find? id = none) :
      Meaningless rules (.levelUp id) (.validation (.plain id ("Unknown class: " ++ id)))
  | blankSkill {skill : String} (blank : Text.isBlankText skill = true) :
      Meaningless rules (.chooseSkill skill) (.malformed (.missingField "skillId"))
  | evaluation {intent : Intent} {fault : EvaluationError} : Meaningless rules intent (.evaluation fault)

/-- The errors that say that a counter of levels is full. -/
inductive AtCeiling (snapshot : Snapshot) : Intent → CompileError → Prop
  | level {classId : String} (highest : snapshot.level = highestLevel) :
      AtCeiling snapshot (.levelUp classId) (.malformed (.invalidValue Delta.levelField
        (toString highestLevel.toNat ++ " is already the highest level")))
  | classLevel {classId : String} (highest : snapshot.classLevel classId = highestLevel) :
      AtCeiling snapshot (.levelUp classId) (.malformed (.invalidValue (Delta.classLevelField classId)
        (toString highestLevel.toNat ++ " is already the highest level")))

def isKnown (rules : RuleTable) : Intent → Bool
  | .chooseFeat id => (rules.feats.find? id).isSome
  | .chooseTalent id => (rules.talents.find? id).isSome
  | .chooseSkill skill => !Text.isBlankText skill
  | .levelUp classId => (rules.classes.find? classId).isSome

/-- Whether the target of an intent is used up: owned content that cannot be taken twice, a skill that is trained,
or any skill where no point is left. -/
def isSpent (rules : RuleTable) (snapshot : Snapshot) : Intent → Bool
  | .chooseFeat id => (rules.feats.find? id).any fun definition => snapshot.owns id && !definition.repeatable
  | .chooseTalent id => (rules.talents.find? id).any fun definition => snapshot.owns id && !definition.repeatable
  | .chooseSkill skill =>
    snapshot.isTrainedIn (Text.trim skill) || (snapshot.skillPointsAvailable? rules.houseRules).any (· ≤ 0)
  | .levelUp _ => false

/-- Which finding of the gate and which answer of the compiler belong together. -/
inductive Agree (rules : RuleTable) (snapshot : Snapshot) (intent : Intent) :
    Except CompileFailure Finding → Except CompileFailure Delta → Prop
  | meaningless {error : CompileError} (cause : Meaningless rules intent error) :
      Agree rules snapshot intent (.error (.reported error)) (.error (.reported error))
  | overflow : Agree rules snapshot intent (.error .overflow) (.error .overflow)
  | spent {target message : String} {kind : AbilityKind} {permanent : Bool} (known : intent.isKnown rules = true)
      (cause : intent.isSpent rules snapshot = true) :
      Agree rules snapshot intent (.ok ⟨target, kind, .failed [message] permanent⟩)
        (.error (.reported (.validation (.plain target message))))
  | unqualified {target name : String} {kind : AbilityKind} {result : EvaluationResult}
      (known : intent.isKnown rules = true) (unspent : intent.isSpent rules snapshot = false)
      (unsatisfied : result.satisfied = false) :
      Agree rules snapshot intent (.ok ⟨target, kind, result⟩)
        (.error (.reported (.validation (.prerequisites target name result.unmet))))
  | compiled {finding : Finding} {delta : Delta} (satisfied : finding.evaluation.satisfied = true)
      (reachable : finding.evaluation.permanentlyBlocked = false) :
      Agree rules snapshot intent (.ok finding) (.ok delta)
  | highest {finding : Finding} {error : CompileError} (known : intent.isKnown rules = true)
      (satisfied : finding.evaluation.satisfied = true) (reachable : finding.evaluation.permanentlyBlocked = false)
      (cause : AtCeiling snapshot intent error) :
      Agree rules snapshot intent (.ok finding) (.error (.reported error))

variable {rules : RuleTable} {snapshot : Snapshot} {intent : Intent} {looked : Except CompileFailure Finding}
  {compiled : Except CompileFailure Delta} {finding : Finding}

theorem Meaningless.evaluation_of_known {error : CompileError} (cause : Meaningless rules intent error)
    (known : intent.isKnown rules = true) : ∃ fault, error = .evaluation fault := by
  cases cause with
  | unknownFeat absent | unknownTalent absent | unknownClass absent =>
    rw [isKnown, absent] at known
    contradiction
  | blankSkill blank =>
    rw [isKnown, blank] at known
    contradiction
  | evaluation => exact ⟨_, rfl⟩

namespace Agree

theorem overflow_iff (agree : Agree rules snapshot intent looked compiled) :
    looked = .error .overflow ↔ compiled = .error .overflow := by
  cases agree <;> simp

theorem error_iff (agree : Agree rules snapshot intent looked compiled) (error : CompileError) :
    looked = .error (.reported error) ↔ compiled = .error (.reported error) ∧ Meaningless rules intent error := by
  cases agree with
  | overflow => simp
  | meaningless cause =>
    constructor
    · rintro ⟨⟩
      exact ⟨rfl, cause⟩
    · rintro ⟨⟨⟩, -⟩
      rfl
  | spent known _ | unqualified known _ _ =>
    refine iff_of_false (by simp) ?_
    rintro ⟨⟨⟩, meaningless⟩
    obtain ⟨fault, same⟩ := meaningless.evaluation_of_known known
    contradiction
  | compiled => simp
  | highest known _ _ cause =>
    refine iff_of_false (by simp) ?_
    rintro ⟨⟨⟩, meaningless⟩
    obtain ⟨fault, rfl⟩ := meaningless.evaluation_of_known known
    cases cause

/-- The gate is satisfied exactly where the compiler is, but for counters that are full. -/
theorem satisfied_iff (agree : Agree rules snapshot intent (.ok finding) compiled) :
    finding.evaluation.satisfied = true ↔
      (∃ delta, compiled = .ok delta) ∨
        ∃ error, compiled = .error (.reported error) ∧ AtCeiling snapshot intent error := by
  cases agree with
  | spent =>
    refine iff_of_false Bool.noConfusion ?_
    rintro (⟨delta, ⟨⟩⟩ | ⟨error, ⟨⟩, ceiling⟩)
    cases ceiling
  | unqualified _ _ unsatisfied =>
    refine iff_of_false (Bool.eq_false_iff.mp unsatisfied) ?_
    rintro (⟨delta, ⟨⟩⟩ | ⟨error, ⟨⟩, ceiling⟩)
    cases ceiling
  | compiled satisfied _ => exact iff_of_true satisfied (.inl ⟨_, rfl⟩)
  | highest _ satisfied _ ceiling => exact iff_of_true satisfied (.inr ⟨_, rfl, ceiling⟩)

theorem refused (agree : Agree rules snapshot intent (.ok finding) compiled)
    (unsatisfied : finding.evaluation.satisfied = false) :
    ∃ fault, compiled = .error (.reported (.validation fault)) ∧ fault.target = finding.target ∧
      if intent.isSpent rules snapshot then fault.unmet = [] ∧ finding.evaluation.unmet = [fault.message]
      else fault.unmet = finding.evaluation.unmet := by
  cases agree with
  | spent _ cause =>
    refine ⟨_, rfl, rfl, ?_⟩
    rw [if_pos cause]
    exact ⟨rfl, rfl⟩
  | unqualified _ unspent _ =>
    refine ⟨_, rfl, rfl, ?_⟩
    rw [if_neg (Bool.eq_false_iff.mp unspent)]
    rfl
  | compiled satisfied _ | highest _ satisfied _ _ =>
    exact absurd (satisfied.symm.trans unsatisfied) Bool.noConfusion

theorem reachable (agree : Agree rules snapshot intent (.ok finding) compiled)
    (satisfied : finding.evaluation.satisfied = true) : finding.evaluation.permanentlyBlocked = false := by
  cases agree with
  | spent => exact Bool.noConfusion satisfied
  | unqualified _ _ unsatisfied => exact absurd (unsatisfied.symm.trans satisfied) Bool.noConfusion
  | compiled _ reachable | highest _ _ reachable _ => exact reachable

end Agree

end Intent

namespace Gate

open Intent (Meaningless AtCeiling Agree isSpent)

variable {rules : RuleTable} {evaluator : Evaluator} {snapshot : Snapshot} {intent : Intent}

theorem ability_agrees {collection : Delta.Collection} {noun id : String} {found : Option AbilityDefinition}
    (unknown : found = none → Meaningless rules intent (.validation (.plain id ("Unknown " ++ noun ++ ": " ++ id))))
    (known : intent.isKnown rules = found.isSome)
    (spent : intent.isSpent rules snapshot =
      found.any fun definition => snapshot.owns id && !definition.repeatable)
    (named : ∀ definition, found = some definition → definition.id = id) :
    Agree rules snapshot intent ((Gate.lookAtAbility ⟨rules, evaluator⟩ snapshot noun id found).mapError .reported)
      ((Compiler.takeAbility ⟨rules, evaluator⟩ snapshot collection noun id found).mapError .reported) := by
  cases found with
  | none => exact .meaningless (unknown rfl)
  | some definition =>
    obtain rfl := named definition rfl
    rw [Option.any_some] at spent
    simp only [lookAtAbility, Compiler.takeAbility, Snapshot.alreadyKnown?]
    cases again : snapshot.owns definition.id && !definition.repeatable with
    | true => exact .spent known (spent.trans again)
    | false =>
      simp only [evaluate, Compiler.unmet]
      cases evaluated : evaluator.evaluateOptional snapshot definition.prerequisite none with
      | error fault => exact .meaningless .evaluation
      | ok result =>
        cases satisfied : result.satisfied with
        | false => simpa [satisfied, Except.mapError] using Agree.unqualified known (spent.trans again) satisfied
        | true =>
          have reachable := (Evaluator.evaluateOptional_coherent evaluated).reachable satisfied
          simpa [satisfied, Except.mapError] using Agree.compiled satisfied reachable

theorem skill_agrees (skill : String) :
    Agree rules snapshot (.chooseSkill skill) (Gate.lookAtSkill ⟨rules, evaluator⟩ snapshot skill)
      (Compiler.trainSkill ⟨rules, evaluator⟩ snapshot skill) := by
  simp only [lookAtSkill, Compiler.trainSkill, Text.trim_isEmpty, Snapshot.alreadyTrained?]
  cases blank : Text.isBlankText skill with
  | true => exact .meaningless (.blankSkill blank)
  | false =>
    have known : (Intent.chooseSkill skill).isKnown rules = true := by
      rw [Intent.isKnown, blank]
      rfl
    cases trained : snapshot.isTrainedIn (Text.trim skill) with
    | true =>
      have spent : (Intent.chooseSkill skill).isSpent rules snapshot = true := by
        rw [Intent.isSpent, trained, Bool.true_or]
      exact .spent known spent
    | false =>
      cases counted : snapshot.skillPointsAvailable? rules.houseRules with
      | none => exact .overflow
      | some left =>
        by_cases exhausted : left ≤ 0
        · have spent : (Intent.chooseSkill skill).isSpent rules snapshot = true := by
            rw [Intent.isSpent, counted, Option.any_some, decide_eq_true exhausted, Bool.or_true]
          simpa [exhausted, Int64.not_lt.mpr exhausted] using Agree.spent known spent
        · simpa [exhausted, Int64.not_le.mp exhausted] using Agree.compiled rfl rfl

theorem nextLevel_error {current : UInt32} {field : String} {fault : StructureError}
    (stuck : Compiler.nextLevel current field = .error fault) :
    current = highestLevel ∧
      fault = .invalidValue field (toString highestLevel.toNat ++ " is already the highest level") := by
  rw [Compiler.nextLevel] at stuck
  split at stuck
  next => contradiction
  next above =>
    have highest : current = highestLevel := by
      rw [← UInt32.toNat_inj]
      have bound := current.toNat_lt
      have full : highestLevel.toNat = 2 ^ 32 - 1 := rfl
      have size : UInt32.size = 2 ^ 32 := rfl
      omega
    rw [highest] at stuck
    exact ⟨highest, (Except.error.inj stuck).symm⟩

theorem class_agrees (classId : String) :
    Agree rules snapshot (.levelUp classId)
      ((Gate.lookAtClass ⟨rules, evaluator⟩ snapshot classId).mapError .reported)
      ((Compiler.gainLevel ⟨rules, evaluator⟩ snapshot classId).mapError .reported) := by
  simp only [lookAtClass, Compiler.gainLevel]
  cases published : rules.classes.find? classId with
  | none => exact .meaningless (.unknownClass published)
  | some definition =>
    have known : (Intent.levelUp classId).isKnown rules = true := by
      rw [Intent.isKnown, published]
      rfl
    simp only [evaluate, Compiler.unmet]
    cases evaluated : evaluator.evaluateOptional snapshot definition.prerequisite none with
    | error fault => exact .meaningless .evaluation
    | ok result =>
      cases satisfied : result.satisfied with
      | false => simpa [satisfied, Except.mapError] using Agree.unqualified known rfl satisfied
      | true =>
        have reachable : (Finding.mk classId .characterClass result).evaluation.permanentlyBlocked = false :=
          (Evaluator.evaluateOptional_coherent evaluated).reachable satisfied
        simp only [satisfied, if_true]
        cases stuck : Compiler.nextLevel snapshot.level Delta.levelField with
        | error fault =>
          obtain ⟨highest, rfl⟩ := nextLevel_error stuck
          exact .highest known satisfied reachable (.level highest)
        | ok level =>
          cases stuckClass : Compiler.nextLevel (snapshot.classLevel classId) (Delta.classLevelField classId) with
          | error fault =>
            obtain ⟨highest, rfl⟩ := nextLevel_error stuckClass
            exact .highest known satisfied reachable (.classLevel highest)
          | ok classLevel => exact .compiled satisfied reachable

/-- The gate and the compiler agree on every intent. -/
theorem look_agrees (rules : RuleTable) (evaluator : Evaluator) (snapshot : Snapshot) (intent : Intent) :
    Agree rules snapshot intent (Gate.look ⟨rules, evaluator⟩ snapshot intent)
      (Compiler.compile ⟨rules, evaluator⟩ snapshot intent) := by
  cases intent with
  | chooseFeat id => exact ability_agrees .unknownFeat rfl rfl fun _ found => Catalogue.id_of_find? found
  | chooseTalent id => exact ability_agrees .unknownTalent rfl rfl fun _ found => Catalogue.id_of_find? found
  | chooseSkill skill => exact skill_agrees skill
  | levelUp classId => exact class_agrees classId

theorem decision_normal {gate : Gate} {finding : Finding}
    (reachable : finding.evaluation.satisfied = true → finding.evaluation.permanentlyBlocked = false) :
    ((gate.caseOf finding .normal).decide.verdict = .allow ↔ finding.evaluation.satisfied = true) ∧
      (finding.evaluation.satisfied = true → (gate.caseOf finding .normal).decide.facts.count = 0) := by
  constructor
  · have allowed : (gate.caseOf finding .normal).decide.verdict = .allow ↔
        finding.evaluation.severityFor finding.kind = .none := Case.judge_normal rfl
    rw [allowed, EvaluationResult.severityFor_none]
    exact and_iff_left_of_imp reachable
  · intro satisfied
    simp [caseOf, Case.decide, satisfied]

/-- The advisory answer of the gate and the binding one of the compiler agree. They overflow together, where the levels
grant too many skills for one that is new, and report the same errors on intents that mean nothing. On others the gate
reports satisfied prerequisites exactly where the compiler returns a delta or is stopped by a full counter; else the
compiler refuses the same target for the same reasons, given as the message where the target is used up. In normal mode
just what is satisfied is allowed. -/
theorem check_agrees (rules : RuleTable) (evaluator : Evaluator) (snapshot : Snapshot) (intent : Intent)
    (governance : GovernanceState) :
    let checked := Gate.check ⟨rules, evaluator⟩ snapshot intent governance
    let compiled := Compiler.compile ⟨rules, evaluator⟩ snapshot intent
    (checked = .error .overflow ↔ compiled = .error .overflow) ∧
    (snapshot.trainedSkills.size < 2 ^ 63 →
      (compiled = .error .overflow ↔ ∃ skill, intent = .chooseSkill skill ∧ Text.isBlankText skill = false ∧
        snapshot.isTrainedIn (Text.trim skill) = false ∧
          2 ^ 63 ≤ snapshot.level.toNat * rules.houseRules.skillPointsPerLevel.toNat)) ∧
    (∀ error, checked = .error (.reported error) ↔
      compiled = .error (.reported error) ∧ Meaningless rules intent error) ∧
    ∀ report, checked = .ok report →
      (report.evaluation.satisfied = true ↔
        (∃ delta, compiled = .ok delta) ∨
          ∃ error, compiled = .error (.reported error) ∧ AtCeiling snapshot intent error) ∧
      (report.evaluation.satisfied = false → ∃ fault, compiled = .error (.reported (.validation fault)) ∧
        fault.target = report.target ∧
        if intent.isSpent rules snapshot then fault.unmet = [] ∧ report.evaluation.unmet = [fault.message]
        else fault.unmet = report.evaluation.unmet) ∧
      (governance.mode = .normal →
        (report.decision.verdict = .allow ↔ report.evaluation.satisfied = true) ∧
        (report.evaluation.satisfied = true → report.decision.facts.count = 0)) := by
  intro checked compiled
  have agree := look_agrees rules evaluator snapshot intent
  have overflows := @Compiler.compile_overflow_iff ⟨rules, evaluator⟩ snapshot intent
  simp only [checked, check]
  cases looked : Gate.look ⟨rules, evaluator⟩ snapshot intent with
  | error failure =>
    rw [looked] at agree
    refine ⟨?_, overflows, ?_, ?_⟩
    · rw [← agree.overflow_iff]
      simp
    · intro error
      rw [← agree.error_iff error]
      simp
    · intro report reported
      contradiction
  | ok finding =>
    rw [looked] at agree
    refine ⟨?_, overflows, ?_, ?_⟩
    · rw [← agree.overflow_iff]
      simp
    · intro error
      rw [← agree.error_iff error]
      simp
    · rintro report ⟨⟩
      refine ⟨agree.satisfied_iff, agree.refused, fun normal => ?_⟩
      rw [normal]
      exact decision_normal agree.reachable

/-- The veteran may have a skill that it asks for, and neither of the two says so. -/
theorem check_overflows_veteran :
    Text.isBlankText "Stealth" = false ∧
      Gate.check ⟨Compiler.lavish, .standard⟩ Compiler.veteran (.chooseSkill "Stealth") (.ofMode .normal) =
        .error .overflow ∧
      Compiler.compile ⟨Compiler.lavish, .standard⟩ Compiler.veteran (.chooseSkill "Stealth") = .error .overflow := by
  have solid : Text.isBlankText "Stealth" = false := by decide
  have new : Compiler.veteran.isTrainedIn (Text.trim "Stealth") = false := by decide
  have uncounted : Compiler.veteran.skillPointsAvailable? Compiler.lavish.houseRules = none := by decide
  have compiled : Compiler.compile ⟨Compiler.lavish, .standard⟩ Compiler.veteran (.chooseSkill "Stealth") =
      .error .overflow := by
    rw [Compiler.compile_newSkill ⟨Compiler.lavish, .standard⟩ solid new, uncounted, Option.elim_none]
  have looked := (look_agrees Compiler.lavish .standard Compiler.veteran (.chooseSkill "Stealth")).overflow_iff.mpr compiled
  exact ⟨solid, by rw [check, looked], compiled⟩

end Gate

end Legality
