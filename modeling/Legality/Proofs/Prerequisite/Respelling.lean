import Legality.Proofs.Prerequisite.Meaning
import Legality.Proofs.Text.LetterCase

/-!
Respelling of trees. Whether a node is satisfied, and whether it can be evaluated, depends on the verdicts about its items
alone and not on their lines. Names are compared by their keys, so a tree with all names in capitals has the verdict that
it had before.
-/
namespace Legality

def Condition.inCapitals : Condition → Condition
  | feat name => feat name.toUpper
  | talent name => talent name.toUpper
  | talentsFromTree trees count => talentsFromTree (trees.map String.toUpper) count
  | trainedSkill skill => trainedSkill skill.toUpper
  | species allowed => species (allowed.map String.toUpper)
  | droidSystems systems => droidSystems (systems.map String.toUpper)
  | leaf => leaf

theorem Condition.isMet_inCapitals (snapshot : Snapshot) (exclude : Option String) (leaf : Condition) :
    leaf.inCapitals.isMet snapshot exclude = leaf.isMet snapshot exclude := by
  cases leaf with
  | feat name => simp [inCapitals, Snapshot.hasNamed]
  | talent name => simp [inCapitals, Snapshot.hasNamed]
  | talentsFromTree trees count =>
    have counted : Snapshot.countsForTrees (trees.map String.toUpper) exclude = Snapshot.countsForTrees trees exclude := by
      funext owned
      simp [Snapshot.countsForTrees, Function.comp_def]
    rw [inCapitals, isMet_talentsFromTree, isMet_talentsFromTree, Snapshot.talentsInTrees, counted,
      Snapshot.talentsInTrees]
  | trainedSkill skill => simp [inCapitals, Snapshot.isTrainedIn]
  | species allowed => simp [inCapitals, Function.comp_def]
  | droidSystems systems =>
    have installed (system : String) : snapshot.hasSystem system.toUpper = snapshot.hasSystem system := by
      simp [Snapshot.hasSystem]
    simp [inCapitals, Function.comp_def, installed]
  | _ => rfl

namespace Expression

mutual

def inCapitals : Expression → Expression
  | condition leaf => condition leaf.inCapitals
  | all items => all (itemsInCapitals items)
  | any items => any (itemsInCapitals items)

def itemsInCapitals : List Expression → List Expression
  | [] => []
  | item :: rest => inCapitals item :: itemsInCapitals rest

end

theorem itemsInCapitals_eq (items : List Expression) : itemsInCapitals items = items.map inCapitals := by
  induction items with
  | nil => rfl
  | cons item rest ih => rw [itemsInCapitals, ih, List.map_cons]

variable {snapshot : Snapshot} {exclude : Option String} {limit depth : Nat} {tree : Expression}

/-- Whether a tree at a depth is satisfied, or why it cannot be evaluated. -/
def verdictAt (snapshot : Snapshot) (exclude : Option String) (limit depth : Nat) (tree : Expression) :
    Except EvaluationError Bool :=
  (outcomeAt snapshot exclude limit depth tree).map Outcome.satisfied

theorem verdictAt_error_iff {error : EvaluationError} :
    verdictAt snapshot exclude limit depth tree = .error error ↔
      outcomeAt snapshot exclude limit depth tree = .error error := by
  unfold verdictAt
  cases outcomeAt snapshot exclude limit depth tree <;> simp [Except.map]

theorem verdictAt_ok_iff {verdict : Bool} :
    verdictAt snapshot exclude limit depth tree = .ok verdict ↔
      ∃ outcome, outcomeAt snapshot exclude limit depth tree = .ok outcome ∧ outcome.satisfied = verdict := by
  unfold verdictAt
  cases outcomeAt snapshot exclude limit depth tree <;> simp [Except.map]

variable {respell : Expression → Expression} {items : List Expression}

theorem outcomesAt_respelled
    (same : ∀ item ∈ items, verdictAt snapshot exclude limit depth (respell item) =
      verdictAt snapshot exclude limit depth item) :
    (outcomesAt snapshot exclude limit depth (items.map respell)).map (List.map Outcome.satisfied) =
      (outcomesAt snapshot exclude limit depth items).map (List.map Outcome.satisfied) := by
  induction items with
  | nil => rw [List.map_nil]
  | cons item rest ih =>
    obtain ⟨here, later⟩ := List.forall_mem_cons.mp same
    have tail := ih later
    rw [List.map_cons, outcomesAt, outcomesAt]
    cases first : outcomeAt snapshot exclude limit depth item with
    | error error => rw [verdictAt_error_iff.mp (here.trans (verdictAt_error_iff.mpr first))]
    | ok outcome =>
      obtain ⟨another, firstAgain, verdict⟩ :=
        verdictAt_ok_iff.mp (here.trans (verdictAt_ok_iff.mpr ⟨outcome, first, rfl⟩))
      rw [firstAgain]
      cases before : outcomesAt snapshot exclude limit depth rest <;>
        cases after : outcomesAt snapshot exclude limit depth (rest.map respell) <;>
        simp_all [Except.map]

/-- The search for an item that is met ends alike, since it goes on behind an item only if that is not satisfied. -/
theorem failuresAt_respelled
    (same : ∀ item ∈ items, verdictAt snapshot exclude limit depth (respell item) =
      verdictAt snapshot exclude limit depth item) :
    (failuresAt snapshot exclude limit depth (items.map respell)).map Option.isNone =
      (failuresAt snapshot exclude limit depth items).map Option.isNone := by
  induction items with
  | nil => rw [List.map_nil]
  | cons item rest ih =>
    obtain ⟨here, later⟩ := List.forall_mem_cons.mp same
    have tail := ih later
    rw [List.map_cons, failuresAt, failuresAt]
    cases first : outcomeAt snapshot exclude limit depth item with
    | error error => rw [verdictAt_error_iff.mp (here.trans (verdictAt_error_iff.mpr first))]
    | ok outcome =>
      obtain ⟨another, firstAgain, verdict⟩ :=
        verdictAt_ok_iff.mp (here.trans (verdictAt_ok_iff.mpr ⟨outcome, first, rfl⟩))
      simp only [firstAgain, verdict]
      by_cases satisfied : outcome.satisfied = true
      · rw [if_pos satisfied, if_pos satisfied]
      · rw [if_neg satisfied, if_neg satisfied]
        cases before : failuresAt snapshot exclude limit depth rest with
        | error error =>
          cases after : failuresAt snapshot exclude limit depth (rest.map respell) <;> simp_all [Except.map]
        | ok found =>
          cases after : failuresAt snapshot exclude limit depth (rest.map respell) with
          | error error => simp_all [Except.map]
          | ok foundAgain => cases found <;> cases foundAgain <;> simp_all [Except.map]

theorem verdictAt_condition (leaf : Condition) :
    verdictAt snapshot exclude limit depth (condition leaf) =
      if limit < depth then .error (.depthExceeded limit) else .ok (leaf.isMet snapshot exclude) := by
  unfold verdictAt
  rw [outcomeAt]
  split <;> rfl

theorem verdictAt_all (items : List Expression) :
    verdictAt snapshot exclude limit depth (all items) =
      if limit < depth then .error (.depthExceeded limit)
      else ((outcomesAt snapshot exclude limit (depth + 1) items).map (List.map Outcome.satisfied)).map (List.all · id) := by
  unfold verdictAt
  rw [outcomeAt]
  split
  next => rfl
  next =>
    cases outcomesAt snapshot exclude limit (depth + 1) items with
    | error error => rfl
    | ok outcomes => simp [Except.map, Outcome.conjunction_satisfied]

theorem verdictAt_any (items : List Expression) :
    verdictAt snapshot exclude limit depth (any items) =
      if limit < depth then .error (.depthExceeded limit)
      else if items.isEmpty then .error .emptyAlternatives
      else (failuresAt snapshot exclude limit (depth + 1) items).map Option.isNone := by
  unfold verdictAt
  rw [outcomeAt]
  split
  next => rfl
  next =>
    split
    next => rfl
    next =>
      cases failuresAt snapshot exclude limit (depth + 1) items with
      | error error => rfl
      | ok found => cases found <;> rfl

/-- No tree can tell in which case its names are spelled. -/
theorem verdictAt_inCapitals (tree : Expression) :
    verdictAt snapshot exclude limit depth tree.inCapitals = verdictAt snapshot exclude limit depth tree := by
  induction tree generalizing depth with
  | condition leaf => rw [inCapitals, verdictAt_condition, verdictAt_condition, Condition.isMet_inCapitals]
  | all items ih =>
    rw [inCapitals, itemsInCapitals_eq, verdictAt_all, verdictAt_all,
      outcomesAt_respelled fun item member => ih item member]
  | any items ih =>
    rw [inCapitals, itemsInCapitals_eq, verdictAt_any, verdictAt_any, List.isEmpty_map,
      failuresAt_respelled fun item member => ih item member]

end Expression

end Legality
