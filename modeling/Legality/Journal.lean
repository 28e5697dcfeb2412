import Legality.Config.Layers
import Legality.Data.Value
import Legality.Enforcement.Gate
import Legality.Governance.Request
import Legality.Integrity.Tracker
import Legality.Prerequisite.Evaluation
import Legality.Progression.Compiler
import Legality.Text.Quoted
import Legality.Wire.Rules

/-!
Events: what a run of the library tells whoever watches it. No answer depends on them. The events of an
operation are a function of what the operation is given, so they can be listed without carrying it out again.
-/
namespace Legality

inductive Attention
  | debug
  | info
  | warn
  deriving DecidableEq, Repr, Inhabited

namespace Attention

def label : Attention → String
  | debug => "DEBUG"
  | info => "INFO"
  | warn => "WARN"

end Attention

structure Event where
  attention : Attention
  message : String
  facts : List (String × Value)
  deriving Repr, Inhabited

namespace Event

def debug (message : String) (facts : List (String × Value)) : Event := ⟨.debug, message, facts⟩

def info (message : String) (facts : List (String × Value)) : Event := ⟨.info, message, facts⟩

def warn (message : String) (facts : List (String × Value)) : Event := ⟨.warn, message, facts⟩

def toValue (event : Event) : Value :=
  .record
    [ ("level", .text event.attention.label),
      ("message", .text event.message),
      ("fields", .record event.facts) ]

end Event

end Legality

/-!
Events of evaluation. Rules text that was not fully understood is reported before it is evaluated.
-/
namespace Legality.Evaluator

def notUnderstood (text : String) (unparsed : List String) : Event :=
  .debug "legacy prerequisite clauses not understood; treated as met"
    [("text", .text text), ("unparsed", .text (Text.quotedList unparsed))]

def prerequisiteEvents (evaluator : Evaluator) : Prerequisite → List Event
  | .structured _ => []
  | .legacy text =>
    let unparsed := (RulesText.read text).unparsed
    if evaluator.legacyDiagnostics && !unparsed.isEmpty then [notUnderstood text unparsed] else []

def optionalEvents (evaluator : Evaluator) : Option Prerequisite → List Event
  | none => []
  | some prerequisite => evaluator.prerequisiteEvents prerequisite

end Legality.Evaluator

/-!
Events of compiling intents: the intent itself, what its prerequisite reports, and why it is refused.
-/
namespace Legality.Compiler

def began (snapshot : Snapshot) (intent : Intent) : Event :=
  .debug "compiling intent"
    [("character", .text snapshot.characterId), ("intent", .text intent.kind)]

/-- The events of evaluating published content; `refused` is the event of unmet requirements. -/
def evaluationEvents (compiler : Compiler) (snapshot : Snapshot) (prerequisite : Option Prerequisite)
    (refused : String → Event) : List Event :=
  compiler.evaluator.optionalEvents prerequisite ++
    match compiler.unmet snapshot prerequisite with
    | .ok (some lines) => [refused (Text.quotedList lines)]
    | _ => []

def abilityEvents (compiler : Compiler) (snapshot : Snapshot) (found : Option AbilityDefinition) : List Event :=
  match found with
  | none => []
  | some definition =>
    if (snapshot.alreadyKnown? definition).isSome then []
    else compiler.evaluationEvents snapshot definition.prerequisite fun lines =>
      .debug "prerequisites not met" [("ability", .text definition.id), ("unmet", .text lines)]

def skillEvents (compiler : Compiler) (snapshot : Snapshot) (skill : String) : List Event :=
  let skill := Text.trim skill
  if skill.isEmpty || (snapshot.alreadyTrained? skill).isSome then []
  else
    match snapshot.skillPointsAvailable? compiler.rules.houseRules with
    | none => []
    | some available =>
      if 0 < available then []
      else [.debug "skill budget exhausted" [("skill", .text skill), ("available", .int available.toInt)]]

def levelEvents (compiler : Compiler) (snapshot : Snapshot) (classId : String) : List Event :=
  match compiler.rules.classes.find? classId with
  | none => []
  | some definition =>
    compiler.evaluationEvents snapshot definition.prerequisite fun lines =>
      .debug "class prerequisites not met" [("class", .text classId), ("unmet", .text lines)]

def events (compiler : Compiler) (snapshot : Snapshot) (intent : Intent) : List Event :=
  began snapshot intent ::
    match intent with
    | .chooseFeat id => compiler.abilityEvents snapshot (compiler.rules.feats.find? id)
    | .chooseTalent id => compiler.abilityEvents snapshot (compiler.rules.talents.find? id)
    | .chooseSkill skill => compiler.skillEvents snapshot skill
    | .levelUp classId => compiler.levelEvents snapshot classId

def valueEvents (compiler : Compiler) (snapshot : Snapshot) (value : Value) : List Event :=
  match Intent.explain value with
  | .error _ => []
  | .ok intent => compiler.events snapshot intent

def planEvents (compiler : Compiler) (snapshot : Snapshot) : List Intent → List Event
  | [] => []
  | intent :: rest =>
    compiler.events snapshot intent ++
      match compiler.advance snapshot intent with
      | .error _ => []
      | .ok (_, after) => planEvents compiler after rest

end Legality.Compiler

/-!
Events of the gate: what the prerequisite of a target reports, and the decision.
-/
namespace Legality.Gate

def abilityEvents (gate : Gate) (snapshot : Snapshot) (found : Option AbilityDefinition) : List Event :=
  match found with
  | none => []
  | some definition =>
    if (snapshot.alreadyKnown? definition).isSome then []
    else gate.evaluator.optionalEvents definition.prerequisite

def lookEvents (gate : Gate) (snapshot : Snapshot) : Intent → List Event
  | .chooseFeat id => gate.abilityEvents snapshot (gate.rules.feats.find? id)
  | .chooseTalent id => gate.abilityEvents snapshot (gate.rules.talents.find? id)
  | .chooseSkill _ => []
  | .levelUp classId =>
    gate.evaluator.optionalEvents ((gate.rules.classes.find? classId).bind ClassDefinition.prerequisite)

def decided (snapshot : Snapshot) (intent : Intent) (report : GateReport) : Event :=
  .debug "gate decision"
    [ ("character", .text snapshot.characterId),
      ("intent", .text intent.kind),
      ("target", .text report.target),
      ("severity", .text report.severity.label),
      ("outcome", .text report.decision.verdict.label) ]

def events (gate : Gate) (snapshot : Snapshot) (intent : Intent) (governance : GovernanceState) : List Event :=
  gate.lookEvents snapshot intent ++
    match gate.check snapshot intent governance with
    | .error _ => []
    | .ok report => [decided snapshot intent report]

end Legality.Gate

/-!
Events of governance: a change that took effect, and a change of mode that came too late. A request that is
refused is an answer of its own and no event.
-/
namespace Legality.GovernanceRequest

def modeChanged (request : GovernanceRequest) (source target : Mode) : Event :=
  .info "governance mode changed"
    [ ("character", .text request.characterId),
      ("from", .text source.label),
      ("to", .text target.label),
      ("approved_by", .text request.actor.id) ]

def cameTooLate (request : GovernanceRequest) : Event :=
  .warn "governance transition lost a concurrent write" [("character", .text request.characterId)]

def visibilityChanged (request : GovernanceRequest) (target : Visibility) : Event :=
  .info "governance visibility changed"
    [("character", .text request.characterId), ("visibility", .text target.title)]

def events {σ : Type} (request : GovernanceRequest) (store : GovernanceStore σ) (requireReason : Bool)
    (now : Instant) (before : σ) : List Event :=
  match request.wish, (request.run store requireReason now before).1, store.state before request.characterId with
  | .mode target _, .ok _, .ok current => [request.modeChanged current.mode target]
  | .mode _ _, .error (.conflict _), _ => [request.cameTooLate]
  | .visibility target, .ok _, _ => [request.visibilityChanged target]
  | _, _, _ => []

end Legality.GovernanceRequest

/-!
Events of integrity tracking: why a run is degraded, which abilities were left out of it, and what it came to.
-/
namespace Legality

def Evaluator.RunFault.event : RunFault → Event
  | .invalid fault =>
    .warn "snapshot failed validation; integrity run degraded" [("error", .text fault.message)]
  | .foreign characterId =>
    .warn "snapshot belongs to another character; integrity run degraded" [("snapshot_id", .text characterId)]

def IntegrityReport.event (report : IntegrityReport) : Event :=
  .debug "integrity re-evaluated"
    [ ("violations", .nat report.summary.total),
      ("new", .nat report.diff.new.length),
      ("resolved", .nat report.diff.resolved.length),
      ("changed", .nat report.diff.changed.length),
      ("overall", .text report.overall.label) ]

namespace Evaluator

def ownedEvents (evaluator : Evaluator) (snapshot : Snapshot) (owned : OwnedAbility) : List Event :=
  match owned.prerequisite with
  | none => []
  | some prerequisite =>
    evaluator.prerequisiteEvents prerequisite ++
      match evaluator.evaluatePrerequisite snapshot prerequisite (some owned.id) with
      | .ok _ => []
      | .error error =>
        [.warn "prerequisite evaluation failed; ability omitted"
          [("ability", .text owned.id), ("error", .text error.message)]]

def reevaluateEvents (evaluator : Evaluator) (store : IntegrityStore) (characterId : String)
    (snapshot : Snapshot) (now : Instant) : List Event :=
  match runFault? characterId snapshot with
  | some fault => [fault.event]
  | none =>
    snapshot.owned.flatMap (evaluator.ownedEvents snapshot) ++
      [(evaluator.reevaluate store characterId snapshot now).1.event]

def reevaluateFromEvents (evaluator : Evaluator) (store : IntegrityStore) (repository : Repository)
    (characterId : String) (now : Instant) : List Event :=
  match repository.load characterId with
  | .error error =>
    [.warn "character could not be loaded; integrity run degraded" [("error", .text error.message)]]
  | .ok snapshot => evaluator.reevaluateEvents store characterId snapshot now

end Evaluator

/-!
Events of loading rule tables and settings.
-/

/-- The events of loading a table document. One that is refused is reported by its error alone. -/
def RuleTable.documentEvents (document : String) : List Event :=
  match ofDocument document with
  | .error _ => []
  | .ok table =>
    [.debug "rule table loaded"
      [ ("feats", .nat table.feats.size),
        ("talents", .nat table.talents.size),
        ("classes", .nat table.classes.size) ]]

/-- The events of resolving settings: a file of the user that cannot be read is passed over with a warning. -/
def Settings.loadEvents (surroundings : Surroundings) : List Event :=
  match userPath? surroundings.environment with
  | none => []
  | some path =>
    match ofFile path (surroundings.file path) with
    | .error (.parse _ _) => []
    | .error error => [.warn "ignoring unreadable user config" [("error", .text error.message)]]
    | .ok _ => []

end Legality
