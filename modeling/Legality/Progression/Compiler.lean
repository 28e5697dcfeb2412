import Legality.Progression.Delta
import Legality.Progression.Intent

/-!
Compiling intents: a legal intent becomes the delta that it asks for, an illegal one an error. Nothing is
applied here; a plan previews each delta to find out what the next intent starts from.

Machine arithmetic is taken to be checked, as it is in builds for development and for tests: a result that does not
fit its type breaks the run off.
-/
namespace Legality

def generalFeatInterval : Nat := 3

def abilityIncreaseInterval : Nat := 4

def signed? (n : Int) : Option Int64 :=
  match n with
  | .ofNat m | .negSucc m => if m < 0x8000000000000000 then some (Int64.ofInt n) else none

namespace Snapshot

def alreadyKnown? (snapshot : Snapshot) (definition : AbilityDefinition) : Option String :=
  if snapshot.owns definition.id && !definition.repeatable then some (definition.name ++ " is already known.")
  else none

def alreadyTrained? (snapshot : Snapshot) (skill : String) : Option String :=
  if snapshot.isTrainedIn skill then some ("Already trained in " ++ skill ++ ".") else none

/-- The skills that can still be trained: the grants of all levels less the trained skills. The product and the
difference are checked; the number of trained skills is taken to 64 bits as it is. -/
def skillPointsAvailable? (snapshot : Snapshot) (houseRules : HouseRules) : Option Int64 :=
  match signed? (snapshot.level.toNat * houseRules.skillPointsPerLevel.toNat : Nat) with
  | none => none
  | some granted => signed? (granted.toInt - (Int64.ofNat snapshot.trainedSkills.size).toInt)

end Snapshot

def noSkillPoints : String := "No skill points available."

/-- Compiles intents by the rules of one table. -/
structure Compiler where
  rules : RuleTable
  evaluator : Evaluator

namespace Compiler

def nextLevel (current : UInt32) (field : String) : Except StructureError UInt32 :=
  if current.toNat + 1 < UInt32.size then .ok (current + 1)
  else .error (.invalidValue field (toString current.toNat ++ " is already the highest level"))

def unmet (compiler : Compiler) (snapshot : Snapshot) (prerequisite : Option Prerequisite) :
    Except CompileError (Option (List String)) :=
  match compiler.evaluator.evaluateOptional snapshot prerequisite none with
  | .error fault => .error (.evaluation fault)
  | .ok result => .ok (if result.satisfied then none else some result.unmet)

def takeAbility (compiler : Compiler) (snapshot : Snapshot) (collection : Delta.Collection)
    (noun id : String) (found : Option AbilityDefinition) : Except CompileError Delta :=
  match found with
  | none => .error (.validation (.plain id ("Unknown " ++ noun ++ ": " ++ id)))
  | some definition =>
    match snapshot.alreadyKnown? definition with
    | some message => .error (.validation (.plain definition.id message))
    | none =>
      match compiler.unmet snapshot definition.prerequisite with
      | .error error => .error error
      | .ok (some lines) => .error (.validation (.prerequisites definition.id definition.name lines))
      | .ok none => .ok (Delta.empty.adding collection.label id)

def trainSkill (compiler : Compiler) (snapshot : Snapshot) (skill : String) : Except CompileFailure Delta :=
  let skill := Text.trim skill
  if skill.isEmpty then .error (.reported (.malformed (.missingField "skillId")))
  else
    match snapshot.alreadyTrained? skill with
    | some message => .error (.reported (.validation (.plain skill message)))
    | none =>
      match snapshot.skillPointsAvailable? compiler.rules.houseRules with
      | none => .error .overflow
      | some available =>
        if available ≤ 0 then .error (.reported (.validation (.plain skill noSkillPoints)))
        else .ok (Delta.empty.adding Delta.Collection.trainedSkills.label skill)

def abilityIncreaseGrant (houseRules : HouseRules) : String :=
  "ability-increase:" ++ houseRules.increaseMethod.label

def generalFeatGrant : String := "general-feat"

/-- The delta of a new character level that is also a new level in a class. The first level in a class adds the
class itself. -/
def levelDelta (houseRules : HouseRules) (classId : String) (level classLevel : UInt32) : Delta :=
  let raised := (Delta.empty.setting Delta.levelField (.nat level.toNat)).setting
    (Delta.classLevelField classId) (.nat classLevel.toNat)
  let entered := if classLevel = 1 then raised.adding Delta.Collection.classes.label classId else raised
  let granted := if level.toNat % generalFeatInterval = 0 then
      entered.adding Delta.Collection.pendingGrants.label generalFeatGrant
    else entered
  if level.toNat % abilityIncreaseInterval = 0 then
    granted.adding Delta.Collection.pendingGrants.label (abilityIncreaseGrant houseRules)
  else granted

def gainLevel (compiler : Compiler) (snapshot : Snapshot) (classId : String) : Except CompileError Delta :=
  match compiler.rules.classes.find? classId with
  | none => .error (.validation (.plain classId ("Unknown class: " ++ classId)))
  | some definition =>
    match compiler.unmet snapshot definition.prerequisite with
    | .error error => .error error
    | .ok (some lines) => .error (.validation (.prerequisites classId definition.name lines))
    | .ok none =>
      match nextLevel snapshot.level Delta.levelField with
      | .error fault => .error (.malformed fault)
      | .ok level =>
        match nextLevel (snapshot.classLevel classId) (Delta.classLevelField classId) with
        | .error fault => .error (.malformed fault)
        | .ok classLevel => .ok (levelDelta compiler.rules.houseRules classId level classLevel)

def compile (compiler : Compiler) (snapshot : Snapshot) : Intent → Except CompileFailure Delta
  | .chooseFeat id =>
    (compiler.takeAbility snapshot .feats "feat" id (compiler.rules.feats.find? id)).mapError .reported
  | .chooseTalent id =>
    (compiler.takeAbility snapshot .talents "talent" id (compiler.rules.talents.find? id)).mapError .reported
  | .chooseSkill skill => compiler.trainSkill snapshot skill
  | .levelUp classId => (compiler.gainLevel snapshot classId).mapError .reported

def compileValue (compiler : Compiler) (snapshot : Snapshot) (value : Value) : Except CompileFailure Delta :=
  match Intent.explain value with
  | .error error => .error (.reported error)
  | .ok intent => compiler.compile snapshot intent

def advance (compiler : Compiler) (snapshot : Snapshot) (intent : Intent) :
    Except CompileFailure (Delta × Snapshot) :=
  match compiler.compile snapshot intent with
  | .error failure => .error failure
  | .ok delta =>
    match delta.preview compiler.rules snapshot with
    | .error fault => .error (.reported (.malformed fault))
    | .ok after => .ok (delta, after)

/-- Several intents in a row: their deltas, and the character after all of them. -/
structure Plan where
  deltas : List Delta
  preview : Snapshot

def planFrom (compiler : Compiler) (step : Nat) (snapshot : Snapshot) : List Intent → Except CompileFailure Plan
  | [] => .ok ⟨[], snapshot⟩
  | intent :: rest =>
    match compiler.advance snapshot intent with
    | .error failure => .error (failure.atStep step)
    | .ok (delta, after) =>
      match planFrom compiler (step + 1) after rest with
      | .error failure => .error failure
      | .ok plan => .ok ⟨delta :: plan.deltas, plan.preview⟩

/-- Compiles intents one after another; the first illegal one ends it. -/
def plan (compiler : Compiler) (snapshot : Snapshot) (intents : List Intent) : Except CompileFailure Plan :=
  compiler.planFrom 0 snapshot intents

end Compiler

end Legality
