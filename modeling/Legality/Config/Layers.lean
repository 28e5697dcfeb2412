import Legality.Wire.Config

/-!
Layers of settings. Overrides of the caller come first, then the environment, then the file of the project, then
the file of the user. A layer counts only where it sets something, and only the result is checked.
-/
namespace Legality

/-- Settings that a caller makes for one session. -/
structure Overrides where
  strictEnforcement : Option Bool
  skillPointsPerLevel : Option UInt32
  maxDepth : Option Nat
  deriving DecidableEq, Repr

structure Surroundings where
  file : String → FileState
  environment : String → Option String

namespace Settings

def above (upper lower : Settings) : Settings where
  houseRules :=
    { strictEnforcement := upper.houseRules.strictEnforcement <|> lower.houseRules.strictEnforcement
      skillPointsPerLevel := upper.houseRules.skillPointsPerLevel <|> lower.houseRules.skillPointsPerLevel
      increaseMethod := upper.houseRules.increaseMethod <|> lower.houseRules.increaseMethod }
  evaluation :=
    { maxDepth := upper.evaluation.maxDepth <|> lower.evaluation.maxDepth
      legacyDiagnostics := upper.evaluation.legacyDiagnostics <|> lower.evaluation.legacyDiagnostics }
  governance := { requireReason := upper.governance.requireReason <|> lower.governance.requireReason }
  policy :=
    { decisionCacheCapacity := upper.policy.decisionCacheCapacity <|> lower.policy.decisionCacheCapacity }

def readFlag? (text : String) : Option Bool :=
  if text = "true" then some true else if text = "false" then some false else none

/-- The layer of the environment. A variable that cannot be read sets nothing; two of the settings have no
variable. -/
def ofVariables (environment : String → Option String) : Settings where
  houseRules :=
    { strictEnforcement := (environment "SAGA_STRICT_ENFORCEMENT").bind readFlag?
      skillPointsPerLevel :=
        ((environment "SAGA_SKILL_POINTS_PER_LEVEL").bind (Text.readUnsigned? UInt32.size)).map UInt32.ofNat
      increaseMethod := (environment "SAGA_ABILITY_INCREASE_METHOD").bind fun text =>
        IncreaseMethod.ofLabel? (String.ofList (text.toList.map Char.toLower)) }
  evaluation :=
    { maxDepth := (environment "SAGA_MAX_EXPRESSION_DEPTH").bind (Text.readUnsigned? UInt64.size)
      legacyDiagnostics := none }
  governance := { requireReason := (environment "SAGA_GOVERNANCE_REQUIRE_REASON").bind readFlag? }
  policy := { decisionCacheCapacity := none }

def ofOverrides (overrides : Overrides) : Settings where
  houseRules :=
    { strictEnforcement := overrides.strictEnforcement
      skillPointsPerLevel := overrides.skillPointsPerLevel
      increaseMethod := none }
  evaluation := { maxDepth := overrides.maxDepth, legacyDiagnostics := none }
  governance := { requireReason := none }
  policy := { decisionCacheCapacity := none }

/-- A path that goes on from another one. A separator stands between them unless the first is empty or ends with one;
an absolute path starts anew. -/
def joinPath (base next : String) : String :=
  if next.toList.head? = some '/' then next
  else
    match base.toList.getLast? with
    | none => next
    | some last => if last = '/' then base ++ next else base ++ "/" ++ next

def projectPath (root : String) : String := joinPath root "saga.toml"

def userPath? (environment : String → Option String) : Option String :=
  (environment "HOME" <|> environment "USERPROFILE").map fun home =>
    joinPath (joinPath home ".saga") "config.toml"

def ofFile (path : String) : FileState → Except ConfigError Settings
  | .absent => .ok empty
  | .unreadable => .error (.fileNotFound path)
  | .content text =>
    match ofDocument? text with
    | some settings => .ok settings
    | none => .error (.parse path "not a configuration document")

/-- The layer of the user. A file that cannot be read sets nothing, one that is no document is an error. -/
def ofUser (surroundings : Surroundings) : Except ConfigError Settings :=
  match userPath? surroundings.environment with
  | none => .ok empty
  | some path =>
    match ofFile path (surroundings.file path) with
    | .ok settings => .ok settings
    | .error (.parse _ _) => .error (.parse path brokenUserFile)
    | .error _ => .ok empty

def load (root : String) (surroundings : Surroundings) (overrides : Overrides) :
    Except ConfigError Settings :=
  match ofUser surroundings with
  | .error error => .error error
  | .ok user =>
    match ofFile (projectPath root) (surroundings.file (projectPath root)) with
    | .error error => .error error
    | .ok project =>
      ((ofOverrides overrides).above ((ofVariables surroundings.environment).above (project.above user))).checked

end Settings

end Legality
