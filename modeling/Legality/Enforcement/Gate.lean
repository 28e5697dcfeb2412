import Legality.Enforcement.Policy
import Legality.Progression.Compiler

/-!
The gate: whether an action would be let through. What is illegal is reported here as a verdict and not as an
error; only an intent that means nothing at all is one.
-/
namespace Legality

structure Finding where
  target : String
  kind : AbilityKind
  evaluation : EvaluationResult

structure GateReport where
  target : String
  evaluation : EvaluationResult
  severity : Severity
  decision : Decision

structure Gate where
  rules : RuleTable
  evaluator : Evaluator

namespace Gate

def evaluate (gate : Gate) (snapshot : Snapshot) (prerequisite : Option Prerequisite) :
    Except CompileError EvaluationResult :=
  match gate.evaluator.evaluateOptional snapshot prerequisite none with
  | .error fault => .error (.evaluation fault)
  | .ok result => .ok result

/-- Looks at a feat or a talent. One that is owned and not repeatable is out of reach for good. -/
def lookAtAbility (gate : Gate) (snapshot : Snapshot) (noun id : String) (found : Option AbilityDefinition) :
    Except CompileError Finding :=
  match found with
  | none => .error (.validation (.plain id ("Unknown " ++ noun ++ ": " ++ id)))
  | some definition =>
    match snapshot.alreadyKnown? definition with
    | some message => .ok ⟨id, definition.kind, .failed [message] true⟩
    | none =>
      match gate.evaluate snapshot definition.prerequisite with
      | .error error => .error error
      | .ok result => .ok ⟨id, definition.kind, result⟩

def lookAtClass (gate : Gate) (snapshot : Snapshot) (classId : String) : Except CompileError Finding :=
  match gate.rules.classes.find? classId with
  | none => .error (.validation (.plain classId ("Unknown class: " ++ classId)))
  | some definition =>
    match gate.evaluate snapshot definition.prerequisite with
    | .error error => .error error
    | .ok result => .ok ⟨classId, .characterClass, result⟩

/-- Looks at a skill. A skill is no ability; its violations count like those of a feat. -/
def lookAtSkill (gate : Gate) (snapshot : Snapshot) (skill : String) : Except CompileFailure Finding :=
  let skill := Text.trim skill
  if skill.isEmpty then .error (.reported (.malformed (.missingField "skillId")))
  else
    match snapshot.alreadyTrained? skill with
    | some message => .ok ⟨skill, .feat, .failed [message] true⟩
    | none =>
      match snapshot.skillPointsAvailable? gate.rules.houseRules with
      | none => .error .overflow
      | some available =>
        if 0 < available then .ok ⟨skill, .feat, .met⟩
        else .ok ⟨skill, .feat, .failed [noSkillPoints] false⟩

def look (gate : Gate) (snapshot : Snapshot) : Intent → Except CompileFailure Finding
  | .chooseFeat id => (gate.lookAtAbility snapshot "feat" id (gate.rules.feats.find? id)).mapError .reported
  | .chooseTalent id => (gate.lookAtAbility snapshot "talent" id (gate.rules.talents.find? id)).mapError .reported
  | .chooseSkill skill => gate.lookAtSkill snapshot skill
  | .levelUp classId => (gate.lookAtClass snapshot classId).mapError .reported

def caseOf (gate : Gate) (finding : Finding) (mode : Mode) : Case where
  mode := mode
  strict := gate.rules.houseRules.strictEnforcement
  severity := finding.evaluation.severityFor finding.kind
  count := if finding.evaluation.satisfied then 0 else finding.evaluation.unmetCount

def check (gate : Gate) (snapshot : Snapshot) (intent : Intent) (governance : GovernanceState) :
    Except CompileFailure GateReport :=
  match gate.look snapshot intent with
  | .error failure => .error failure
  | .ok finding =>
    .ok ⟨finding.target, finding.evaluation, finding.evaluation.severityFor finding.kind,
      (gate.caseOf finding governance.mode).decide⟩

end Gate

end Legality
