import Legality.Character.Validity
import Legality.Data.Value
import Legality.Prerequisite.Evaluation

/-!
Intents: what a player wants to do next. They arrive as records of a type and an id, which are read with an
explanation of what is wrong; ids are trimmed, and a blank one counts as missing.
-/
namespace Legality

/-- A step that a player wants to take. -/
inductive Intent
  | chooseTalent (id : String)
  | chooseFeat (id : String)
  | chooseSkill (skill : String)
  | levelUp (classId : String)
  deriving DecidableEq, Repr, Inhabited

structure ValidationError where
  target : String
  message : String
  unmet : List String
  deriving DecidableEq, Repr

namespace ValidationError

def plain (target message : String) : ValidationError := ⟨target, message, []⟩

def prerequisites (target name : String) (unmet : List String) : ValidationError :=
  ⟨target, "Prerequisites not met for " ++ name ++ ": " ++ "; ".intercalate unmet, unmet⟩

end ValidationError

inductive CompileError
  | malformed (fault : StructureError)
  | validation (fault : ValidationError)
  | unknownIntent (kind : String)
  | evaluation (fault : EvaluationError)
  | atStep (step : Nat) (fault : CompileError)
  deriving DecidableEq, Repr

namespace CompileError

def message : CompileError → String
  | malformed fault => "Malformed intent: " ++ fault.message
  | validation fault => fault.message
  | unknownIntent kind => "Unknown intent type: " ++ kind
  | evaluation fault => "Prerequisite evaluation failed: " ++ fault.message
  | atStep step fault => "Step " ++ toString step ++ " failed: " ++ fault.message

def code : CompileError → String
  | malformed fault => fault.code
  | validation _ => "VALIDATION_FAILED"
  | unknownIntent _ => "UNKNOWN_INTENT"
  | evaluation fault => fault.code
  | atStep _ fault => fault.code

def illegality? : CompileError → Option ValidationError
  | validation fault => some fault
  | atStep _ fault => fault.illegality?
  | _ => none

end CompileError

/-- How compiling ends without a result. A number that leaves its type breaks the run off; it is no error that a
caller is handed. -/
inductive CompileFailure
  | reported (error : CompileError)
  | overflow
  deriving DecidableEq, Repr

/-- A failure as the step of a plan reports it. There is nobody left to report an overflow. -/
def CompileFailure.atStep (step : Nat) : CompileFailure → CompileFailure
  | reported error => reported (.atStep step error)
  | overflow => overflow

namespace Intent

def kind : Intent → String
  | chooseTalent _ => "chooseTalent"
  | chooseFeat _ => "chooseFeat"
  | chooseSkill _ => "chooseSkill"
  | levelUp _ => "levelUp"

def subject : Intent → String
  | chooseTalent id => id
  | chooseFeat id => id
  | chooseSkill skill => skill
  | levelUp classId => classId

def subjectField : Intent → String
  | chooseTalent _ => "talentId"
  | chooseFeat _ => "featId"
  | chooseSkill _ => "skillId"
  | levelUp _ => "classId"

/-- A text field that has to be there. Null counts as missing. -/
def textField (fields : List (String × Value)) (name : String) : Except StructureError String :=
  match Value.field? fields name with
  | none => .error (.missingField name)
  | some .null => .error (.missingField name)
  | some (.text content) => .ok content
  | some _ => .error (.wrongType name "string")

def idField (fields : List (String × Value)) (name : String) : Except StructureError String :=
  match textField fields name with
  | .error fault => .error fault
  | .ok content =>
    if (Text.trim content).isEmpty then .error (.missingField name) else .ok (Text.trim content)

def withId (make : String → Intent) (fields : List (String × Value)) (name : String) :
    Except CompileError Intent :=
  match idField fields name with
  | .error fault => .error (.malformed fault)
  | .ok id => .ok (make id)

def explain : Value → Except CompileError Intent
  | .record fields =>
    match textField fields "type" with
    | .error fault => .error (.malformed fault)
    | .ok kind =>
      if kind = "chooseTalent" then withId chooseTalent fields "talentId"
      else if kind = "chooseFeat" then withId chooseFeat fields "featId"
      else if kind = "chooseSkill" then withId chooseSkill fields "skillId"
      else if kind = "levelUp" then withId levelUp fields "classId"
      else .error (.unknownIntent kind)
  | _ => .error (.malformed (.wrongType "intent" "object"))

end Intent

end Legality
