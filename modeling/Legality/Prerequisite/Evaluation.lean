import Legality.Character.Snapshot
import Legality.Prerequisite.RulesText
import Legality.Text.Basic

/-!
Evaluation of prerequisites. A node that asks for all of its items reports every shortfall once, in order; a
node that asks for any of them stops at the first that is met, and otherwise reports one line that lists the
alternatives. Evaluation fails only on trees that nest too deeply or offer no alternative.
-/
namespace Legality

/-- Why a tree could not be evaluated. A requirement that is not met is no error. -/
inductive EvaluationError
  | depthExceeded (limit : Nat)
  | emptyAlternatives
  deriving DecidableEq, Repr

namespace EvaluationError

def message : EvaluationError → String
  | depthExceeded limit => "Prerequisite expression nests deeper than " ++ toString limit ++ " levels"
  | emptyAlternatives => "ANY-of prerequisite has no alternatives"

def code (_ : EvaluationError) : String := "EVALUATION_ERROR"

end EvaluationError

/-- What one node of a tree comes to. -/
structure Outcome where
  satisfied : Bool
  unmet : List String
  permanent : Bool
  deriving DecidableEq, Repr

namespace Outcome

def met : Outcome := ⟨true, [], false⟩

def missing (line : String) : Outcome := ⟨false, [line], false⟩

def impossible (line : String) : Outcome := ⟨false, [line], true⟩

def distinct : List String → List String
  | [] => []
  | line :: rest => line :: (distinct rest).filter fun other => other != line

def conjunction (outcomes : List Outcome) : Outcome :=
  let failed := outcomes.filter fun outcome => !outcome.satisfied
  { satisfied := failed.isEmpty
    unmet := distinct (failed.flatMap Outcome.unmet)
    permanent := failed.any Outcome.permanent }

/-- Alternatives of which none is met: one line for all, out of reach only if each of them is. -/
def exhausted (outcomes : List Outcome) : Outcome :=
  { satisfied := false
    unmet := ["One of: " ++ " or ".intercalate (outcomes.map fun outcome => " and ".intercalate outcome.unmet)]
    permanent := outcomes.all Outcome.permanent }

end Outcome

namespace Snapshot

def hasNamed (snapshot : Snapshot) (kind : AbilityKind) (name : String) : Bool :=
  snapshot.owned.any fun owned =>
    owned.kind == kind && (Text.key owned.name == Text.key name || Text.key owned.id == Text.key name)

/-- Whether an ability counts as a talent of one of some trees. The excluded id never counts, so that an owned
talent does not meet its own requirement. -/
def countsForTrees (trees : List String) (exclude : Option String) (owned : OwnedAbility) : Bool :=
  owned.kind == .talent && some owned.id != exclude &&
    match owned.tree with
    | some tree => trees.any fun wanted => Text.key wanted == Text.key tree
    | none => false

def talentsInTrees (snapshot : Snapshot) (trees : List String) (exclude : Option String) : Nat :=
  snapshot.owned.countP (countsForTrees trees exclude)

def hasSystem (snapshot : Snapshot) (system : String) : Bool :=
  (SortedSet.toList snapshot.droidSystems).any fun installed => Text.key installed == Text.key system

end Snapshot

namespace Condition

def checkDarkSide (snapshot : Snapshot) : Threshold → Outcome
  | .atLeast score =>
    if score ≤ snapshot.darkSideScore then .met
    else .missing ("Dark Side Score " ++ toString score.toNat ++ " (you have " ++
      toString snapshot.darkSideScore.toNat ++ ")")
  | .equalsWisdom =>
    if snapshot.abilities.wisdom.toNat ≤ snapshot.darkSideScore.toNat then .met
    else .missing ("Dark Side Score equal to Wisdom " ++ toString snapshot.abilities.wisdom.toNat ++
      " (you have " ++ toString snapshot.darkSideScore.toNat ++ ")")

/-- The species among the allowed ones; an empty list allows every species. -/
def checkSpecies (snapshot : Snapshot) (allowed : List String) : Outcome :=
  if allowed.isEmpty || allowed.any (fun name => Text.key name == Text.key snapshot.species) then .met
  else
    let current := if snapshot.species.isEmpty then "unspecified" else snapshot.species
    .impossible ("Species: " ++ " or ".intercalate allowed ++ " (you are " ++ current ++ ")")

def checkSystems (snapshot : Snapshot) (systems : List String) : Outcome :=
  if !snapshot.isDroid then .impossible ("Droid system(s): " ++ ", ".intercalate systems ++ " (not a droid)")
  else
    let absent := systems.filter fun system => !snapshot.hasSystem system
    if absent.isEmpty then .met else .missing ("Droid system(s): " ++ ", ".intercalate absent)

def check (snapshot : Snapshot) (exclude : Option String) : Condition → Outcome
  | feat name => if snapshot.hasNamed .feat name then .met else .missing ("Feat: " ++ name)
  | talent name => if snapshot.hasNamed .talent name then .met else .missing ("Talent: " ++ name)
  | talentsFromTree trees count =>
    let owned := snapshot.talentsInTrees trees exclude
    if count.toNat ≤ owned then .met
    else .missing (toString count.toNat ++ " talent(s) from: " ++ ", ".intercalate trees ++ " (you have " ++
      toString owned ++ ")")
  | abilityScore ability least =>
    let score := snapshot.abilities.score ability
    if least ≤ score then .met
    else .missing (ability.title ++ " " ++ toString least.toNat ++ " (you have " ++ toString score.toNat ++ ")")
  | trainedSkill skill =>
    if snapshot.isTrainedIn skill then .met else .missing ("Trained in " ++ skill)
  | baseAttackBonus least =>
    if least ≤ snapshot.baseAttackBonus then .met
    else .missing ("Base attack bonus " ++ Text.signed least.toInt ++ " (you have " ++
      Text.signed snapshot.baseAttackBonus.toInt ++ ")")
  | level least =>
    if least ≤ snapshot.level then .met
    else .missing ("Minimum level " ++ toString least.toNat ++ " (you are level " ++
      toString snapshot.level.toNat ++ ")")
  | darkSideScore threshold => checkDarkSide snapshot threshold
  | species allowed => checkSpecies snapshot allowed
  | droidSystems systems => checkSystems snapshot systems

end Condition

namespace Expression

mutual

/-- The outcome of a tree whose root stands at a depth, under a limit on the depth. -/
def outcomeAt (snapshot : Snapshot) (exclude : Option String) (limit depth : Nat) :
    Expression → Except EvaluationError Outcome
  | condition leaf => if limit < depth then .error (.depthExceeded limit) else .ok (leaf.check snapshot exclude)
  | all items =>
    if limit < depth then .error (.depthExceeded limit)
    else
      match outcomesAt snapshot exclude limit (depth + 1) items with
      | .error error => .error error
      | .ok outcomes => .ok (Outcome.conjunction outcomes)
  | any items =>
    if limit < depth then .error (.depthExceeded limit)
    else if items.isEmpty then .error .emptyAlternatives
    else
      match failuresAt snapshot exclude limit (depth + 1) items with
      | .error error => .error error
      | .ok none => .ok Outcome.met
      | .ok (some outcomes) => .ok (Outcome.exhausted outcomes)

def outcomesAt (snapshot : Snapshot) (exclude : Option String) (limit depth : Nat) :
    List Expression → Except EvaluationError (List Outcome)
  | [] => .ok []
  | item :: rest =>
    match outcomeAt snapshot exclude limit depth item with
    | .error error => .error error
    | .ok outcome =>
      match outcomesAt snapshot exclude limit depth rest with
      | .error error => .error error
      | .ok outcomes => .ok (outcome :: outcomes)

/-- The outcomes of the items of a node if none is met; nothing once one is met, whatever comes after it. -/
def failuresAt (snapshot : Snapshot) (exclude : Option String) (limit depth : Nat) :
    List Expression → Except EvaluationError (Option (List Outcome))
  | [] => .ok (some [])
  | item :: rest =>
    match outcomeAt snapshot exclude limit depth item with
    | .error error => .error error
    | .ok outcome =>
      if outcome.satisfied then .ok none
      else
        match failuresAt snapshot exclude limit depth rest with
        | .error error => .error error
        | .ok none => .ok none
        | .ok (some outcomes) => .ok (some (outcome :: outcomes))

end

end Expression

/-- What a prerequisite comes to for one character. -/
structure EvaluationResult where
  satisfied : Bool
  unmet : List String
  permanentlyBlocked : Bool
  diagnostics : List String
  deriving DecidableEq, Repr, Inhabited

namespace EvaluationResult

def met : EvaluationResult := ⟨true, [], false, []⟩

def failed (unmet : List String) (permanentlyBlocked : Bool) : EvaluationResult :=
  ⟨false, unmet, permanentlyBlocked, []⟩

def unmetCount (result : EvaluationResult) : Nat := result.unmet.length

end EvaluationResult

/-- Evaluates prerequisites; holds settings only. -/
structure Evaluator where
  maxDepth : Nat
  legacyDiagnostics : Bool
  deriving DecidableEq, Repr

namespace Evaluator

def standard : Evaluator := ⟨32, true⟩

instance : Inhabited Evaluator := ⟨standard⟩

def evaluate (evaluator : Evaluator) (snapshot : Snapshot) (expression : Expression)
    (exclude : Option String) : Except EvaluationError EvaluationResult :=
  match expression.outcomeAt snapshot exclude evaluator.maxDepth 1 with
  | .error error => .error error
  | .ok outcome =>
    .ok (if outcome.satisfied then .met else .failed outcome.unmet outcome.permanent)

/-- Evaluates rules text or a tree. Clauses of rules text that were not recognised count as met and are listed. -/
def evaluatePrerequisite (evaluator : Evaluator) (snapshot : Snapshot) (prerequisite : Prerequisite)
    (exclude : Option String) : Except EvaluationError EvaluationResult :=
  match prerequisite with
  | .structured expression => evaluator.evaluate snapshot expression exclude
  | .legacy text =>
    let reading := RulesText.read text
    match evaluator.evaluate snapshot reading.expression exclude with
    | .error error => .error error
    | .ok result => .ok { result with diagnostics := reading.unparsed }

def evaluateOptional (evaluator : Evaluator) (snapshot : Snapshot) (prerequisite : Option Prerequisite)
    (exclude : Option String) : Except EvaluationError EvaluationResult :=
  match prerequisite with
  | some prerequisite => evaluator.evaluatePrerequisite snapshot prerequisite exclude
  | none => .ok .met

end Evaluator

end Legality
