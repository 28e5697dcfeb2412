import Legality.Character.Validity
import Legality.Config.Settings
import Legality.Data.Value
import Legality.Governance.Ledger
import Legality.Progression.Intent
import Legality.Rules.RuleTable

/-!
Errors as data: the name of the case, a code for whoever acts on it, and the text for whoever reads it. A code
stays when a text is reworded. Parser errors are given without their text, which is that of the parser.
-/
namespace Legality

class CodedError (ε : Type) where
  code : ε → String
  message : ε → String

namespace CodedError

variable {ε : Type} [CodedError ε]

def line (error : ε) : String := "[" ++ code error ++ "] " ++ message error

def asValue (error : ε) (name : String) (more : List (String × Value)) : Value :=
  .record ([("error", .text name), ("code", .text (code error)), ("message", .text (message error))] ++ more)

def withoutText (error : ε) (name : String) (more : List (String × Value)) : Value :=
  .record ([("error", .text name), ("code", .text (code error))] ++ more)

end CodedError

instance : CodedError StructureError := ⟨StructureError.code, StructureError.message⟩
instance : CodedError EvaluationError := ⟨EvaluationError.code, EvaluationError.message⟩
instance : CodedError CompileError := ⟨CompileError.code, CompileError.message⟩
instance : CodedError GovernanceError := ⟨GovernanceError.code, GovernanceError.message⟩
instance : CodedError RepositoryError := ⟨RepositoryError.code, RepositoryError.message⟩
instance : CodedError RuleDataError := ⟨RuleDataError.code, RuleDataError.message⟩
instance : CodedError ConfigError := ⟨ConfigError.code, ConfigError.message⟩

def StructureError.toValue (error : StructureError) : Value :=
  let name := match error with
    | missingField .. => "MissingField"
    | wrongType .. => "WrongType"
    | invalidValue .. => "InvalidValue"
    | duplicateAbility .. => "DuplicateAbility"
    | unsupportedSchema .. => "UnsupportedSchema"
  CodedError.asValue error name []

def EvaluationError.toValue (error : EvaluationError) : Value :=
  let name := match error with
    | depthExceeded .. => "DepthExceeded"
    | emptyAlternatives => "EmptyAlternatives"
  CodedError.asValue error name []

def ValidationError.toValue (error : ValidationError) : Value :=
  .record [("target", .text error.target), ("message", .text error.message), ("unmet", .texts error.unmet)]

/-- An error of compiling as data: with the error inside it, and with the illegality at the bottom. -/
def CompileError.toValue (error : CompileError) : Value :=
  let bottom := match error.illegality? with
    | some found => [("validation", found.toValue)]
    | none => []
  match error with
  | malformed fault => CodedError.asValue error "Structure" (("inner", fault.toValue) :: bottom)
  | validation _ => CodedError.asValue error "Validation" bottom
  | unknownIntent _ => CodedError.asValue error "UnknownIntent" bottom
  | evaluation fault => CodedError.asValue error "Evaluation" (("inner", fault.toValue) :: bottom)
  | atStep step fault =>
    CodedError.asValue error "AtStep" (("inner", fault.toValue) :: ("step", .nat step) :: bottom)

def GovernanceError.toValue (error : GovernanceError) : Value :=
  let name := match error with
    | unauthorized .. => "Unauthorized"
    | illegalTransition .. => "IllegalTransition"
    | missingReason => "MissingReason"
    | conflict .. => "Conflict"
    | store .. => "Store"
  CodedError.asValue error name []

def RepositoryError.toValue (error : RepositoryError) : Value :=
  let name := match error with
    | notFound .. => "NotFound"
    | malformed .. => "Malformed"
    | unavailable .. => "Unavailable"
  CodedError.asValue error name []

def RuleDataError.toValue (error : RuleDataError) : Value :=
  match error with
  | parse _ => CodedError.withoutText error "Parse" []
  | duplicate .. => CodedError.asValue error "Duplicate" []
  | invalidEntry .. => CodedError.asValue error "InvalidEntry" []
  | unreadable _ => CodedError.asValue error "Io" []

/-- An error of loading settings as data. The text for a broken file of the user is the library's own. -/
def ConfigError.toValue (error : ConfigError) : Value :=
  match error with
  | fileNotFound _ => CodedError.asValue error "FileNotFound" []
  | parse path detail =>
    if detail = Settings.brokenUserFile then CodedError.asValue error "ParseError" []
    else CodedError.withoutText error "ParseError" [("path", .text path)]
  | invalid .. => CodedError.asValue error "ValidationFailed" []

end Legality
