import Legality.Proofs.Prerequisite.Requirement
import Legality.Proofs.Prerequisite.Tree
import Mathlib.Data.List.Forall2

/-!
What an evaluation means. Where evaluation of a tree succeeds, the tree is satisfied when it holds of the
requirements that are met, and blocked for good when it does not even hold of those that are not out of reach.
Evaluation succeeds on every tree that is shallow enough and always offers an alternative.
-/
namespace Legality

namespace Expression
open Condition (isMet isReachable)

variable {snapshot : Snapshot} {exclude : Option String} {limit depth : Nat}

theorem outcomeAt_condition_ok {leaf : Condition} {outcome : Outcome} :
    outcomeAt snapshot exclude limit depth (condition leaf) = .ok outcome ↔
      depth ≤ limit ∧ leaf.check snapshot exclude = outcome := by
  rw [outcomeAt]
  split
  next deep => simp [Nat.not_le.mpr deep]
  next shallow => simp [Nat.not_lt.mp shallow]

theorem outcomeAt_all_ok {items : List Expression} {outcome : Outcome} :
    outcomeAt snapshot exclude limit depth (all items) = .ok outcome ↔
      depth ≤ limit ∧ ∃ outcomes, outcomesAt snapshot exclude limit (depth + 1) items = .ok outcomes ∧
        Outcome.conjunction outcomes = outcome := by
  rw [outcomeAt]
  split
  next deep => simp [Nat.not_le.mpr deep]
  next shallow =>
    cases outcomesAt snapshot exclude limit (depth + 1) items with
    | error error => simp
    | ok outcomes => simp [Nat.not_lt.mp shallow]

theorem outcomeAt_any_ok {items : List Expression} {outcome : Outcome} :
    outcomeAt snapshot exclude limit depth (any items) = .ok outcome ↔
      depth ≤ limit ∧ items ≠ [] ∧ ∃ found, failuresAt snapshot exclude limit (depth + 1) items = .ok found ∧
        found.elim Outcome.met Outcome.exhausted = outcome := by
  rw [outcomeAt]
  split
  next deep => simp [Nat.not_le.mpr deep]
  next shallow =>
    split
    next none => simp [List.isEmpty_iff.mp none]
    next some =>
      have offered : items ≠ [] := fun same => some (List.isEmpty_iff.mpr same)
      cases failuresAt snapshot exclude limit (depth + 1) items with
      | error error => simp
      | ok found => cases found <;> simp [Nat.not_lt.mp shallow, offered]

theorem outcomesAt_ok_iff {items : List Expression} {outcomes : List Outcome} :
    outcomesAt snapshot exclude limit depth items = .ok outcomes ↔
      List.Forall₂ (fun item outcome => outcomeAt snapshot exclude limit depth item = .ok outcome)
        items outcomes := by
  induction items generalizing outcomes with
  | nil => cases outcomes <;> simp [outcomesAt]
  | cons item rest ih =>
    rw [outcomesAt, List.forall₂_cons_left_iff]
    cases outcomeAt snapshot exclude limit depth item with
    | error error => simp
    | ok first =>
      simp only [Except.ok.injEq, ← ih]
      cases outcomesAt snapshot exclude limit depth rest with
      | error error => simp
      | ok later => simp [eq_comm]

theorem outcomesAt_cons_ok {item : Expression} {rest : List Expression} {outcomes : List Outcome} :
    outcomesAt snapshot exclude limit depth (item :: rest) = .ok outcomes ↔
      ∃ first later, outcomeAt snapshot exclude limit depth item = .ok first ∧
        outcomesAt snapshot exclude limit depth rest = .ok later ∧ outcomes = first :: later := by
  simp only [outcomesAt_ok_iff, List.forall₂_cons_left_iff]

theorem outcomesAt_append_ok {left right : List Expression} {outcomes : List Outcome} :
    outcomesAt snapshot exclude limit depth (left ++ right) = .ok outcomes ↔
      ∃ before after, outcomesAt snapshot exclude limit depth left = .ok before ∧
        outcomesAt snapshot exclude limit depth right = .ok after ∧ outcomes = before ++ after := by
  induction left generalizing outcomes with
  | nil => simp [outcomesAt]
  | cons item rest ih =>
    simp only [List.cons_append, outcomesAt_cons_ok, ih]
    constructor
    · rintro ⟨first, later, here, ⟨before, after, eachLeft, eachRight, rfl⟩, rfl⟩
      exact ⟨first :: before, after, ⟨first, before, here, eachLeft, rfl⟩, eachRight, rfl⟩
    · rintro ⟨before, after, ⟨first, later, here, eachLeft, rfl⟩, eachRight, rfl⟩
      exact ⟨first, later ++ after, here, ⟨later, after, eachLeft, eachRight, rfl⟩, rfl⟩

/-- The search for an item that is met fails only after the evaluation of all of them. -/
theorem failuresAt_some_iff {items : List Expression} {outcomes : List Outcome} :
    failuresAt snapshot exclude limit depth items = .ok (some outcomes) ↔
      List.Forall₂ (fun item outcome => outcomeAt snapshot exclude limit depth item = .ok outcome ∧
        outcome.satisfied = false) items outcomes := by
  induction items generalizing outcomes with
  | nil => cases outcomes <;> simp [failuresAt]
  | cons item rest ih =>
    rw [failuresAt, List.forall₂_cons_left_iff]
    cases outcomeAt snapshot exclude limit depth item with
    | error error => simp
    | ok first =>
      cases verdict : first.satisfied with
      | true =>
        simp only [verdict, if_true, Except.ok.injEq, reduceCtorEq, false_iff]
        rintro ⟨outcome, later, ⟨rfl, failed⟩, -⟩
        exact absurd (verdict.symm.trans failed) Bool.noConfusion
      | false =>
        simp only [verdict, Bool.false_eq_true, if_false, Except.ok.injEq, ← ih]
        cases failuresAt snapshot exclude limit depth rest with
        | error error => simp
        | ok found => cases found <;> simp [verdict, eq_comm]

theorem failuresAt_none {items : List Expression}
    (found : failuresAt snapshot exclude limit depth items = .ok none) :
    ∃ item ∈ items, ∃ outcome, outcomeAt snapshot exclude limit depth item = .ok outcome ∧
      outcome.satisfied = true := by
  induction items with
  | nil => simp [failuresAt] at found
  | cons item rest ih =>
    rw [failuresAt] at found
    cases first : outcomeAt snapshot exclude limit depth item with
    | error error => simp [first] at found
    | ok outcome =>
      cases satisfied : outcome.satisfied with
      | true => exact ⟨item, List.mem_cons_self, outcome, first, satisfied⟩
      | false =>
        have later : failuresAt snapshot exclude limit depth rest = .ok none := by
          cases tail : failuresAt snapshot exclude limit depth rest with
          | error error => simp [first, satisfied, tail] at found
          | ok outcomes => cases outcomes <;> simp_all
        obtain ⟨other, member, reached⟩ := ih later
        exact ⟨other, List.mem_cons_of_mem _ member, reached⟩

theorem all_any_of_pairs {items : List Expression} {outcomes : List Outcome}
    {evaluates : Expression → Outcome → Prop} {read : Outcome → Bool} {value : Expression → Bool}
    (pairs : List.Forall₂ evaluates items outcomes)
    (each : ∀ item ∈ items, ∀ outcome, evaluates item outcome → read outcome = value item) :
    outcomes.all read = items.all value ∧ outcomes.any read = items.any value := by
  have equal : List.Forall₂ (fun item outcome => read outcome = value item) items outcomes :=
    ((List.forall₂_and_left items outcomes).mpr ⟨each, pairs⟩).imp fun item outcome both => both.1 outcome both.2
  clear pairs each
  induction equal with
  | nil => exact ⟨rfl, rfl⟩
  | cons here _ ih => simp only [List.all_cons, List.any_cons, here, ih, and_self]

/-- A tree is satisfied when it holds of the requirements that are met. -/
theorem outcomeAt_satisfied {expression : Expression} {outcome : Outcome}
    (evaluated : outcomeAt snapshot exclude limit depth expression = .ok outcome) :
    outcome.satisfied = expression.holds (isMet snapshot exclude) := by
  induction expression generalizing depth outcome with
  | condition leaf =>
    obtain ⟨-, rfl⟩ := outcomeAt_condition_ok.mp evaluated
    rw [holds_condition, isMet]
  | all items ih =>
    obtain ⟨-, outcomes, each, rfl⟩ := outcomeAt_all_ok.mp evaluated
    have same := all_any_of_pairs (outcomesAt_ok_iff.mp each) fun item member _ => ih item member
    rw [Outcome.conjunction_satisfied, holds_all, same.1]
  | any items ih =>
    obtain ⟨-, -, found, search, rfl⟩ := outcomeAt_any_ok.mp evaluated
    rw [holds_any]
    cases found with
    | none =>
      obtain ⟨item, member, outcome, here, satisfied⟩ := failuresAt_none search
      exact (List.any_eq_true.mpr ⟨item, member, ih item member here ▸ satisfied⟩).symm
    | some outcomes =>
      -- Every outcome of the search is a failure, so reading them all as false loses nothing.
      have same : outcomes.all (fun _ => false) = items.all (holds (isMet snapshot exclude)) ∧
          outcomes.any (fun _ => false) = items.any (holds (isMet snapshot exclude)) := by
        apply all_any_of_pairs (failuresAt_some_iff.mp search)
        intro item member outcome failed
        exact failed.2.symm.trans (ih item member failed.1)
      rw [← same.2]
      simp [Outcome.exhausted]

theorem mem_outcomesAt {items : List Expression} {outcomes : List Outcome} {outcome : Outcome}
    (evaluated : outcomesAt snapshot exclude limit depth items = .ok outcomes) :
    outcome ∈ outcomes ↔ ∃ item ∈ items, outcomeAt snapshot exclude limit depth item = .ok outcome := by
  have pairs := outcomesAt_ok_iff.mp evaluated
  clear evaluated
  induction pairs with
  | nil => simp
  | cons here _ ih => simp [ih, here, eq_comm]

theorem outcomesAt_each {items : List Expression} {outcomes : List Outcome}
    (evaluated : outcomesAt snapshot exclude limit depth items = .ok outcomes) :
    ∀ item ∈ items, ∃ outcome, outcomeAt snapshot exclude limit depth item = .ok outcome := by
  have pairs := outcomesAt_ok_iff.mp evaluated
  clear evaluated
  induction pairs with
  | nil => exact fun _ member => absurd member List.not_mem_nil
  | cons here _ ih => exact List.forall_mem_cons.mpr ⟨⟨_, here⟩, ih⟩

theorem outcomeAt_coherent {expression : Expression} {outcome : Outcome}
    (evaluated : outcomeAt snapshot exclude limit depth expression = .ok outcome) : outcome.Coherent := by
  induction expression generalizing depth outcome with
  | condition leaf =>
    obtain ⟨-, rfl⟩ := outcomeAt_condition_ok.mp evaluated
    exact (Condition.check_single snapshot exclude leaf).coherent
  | all items ih =>
    obtain ⟨-, outcomes, each, rfl⟩ := outcomeAt_all_ok.mp evaluated
    apply Outcome.Coherent.conjunction
    intro outcome member
    obtain ⟨item, inside, here⟩ := (mem_outcomesAt each).mp member
    exact ih item inside here
  | any items ih =>
    obtain ⟨-, -, found, -, rfl⟩ := outcomeAt_any_ok.mp evaluated
    cases found with
    | none => exact .met
    | some outcomes => exact .exhausted outcomes

theorem outcomesAt_coherent {items : List Expression} {outcomes : List Outcome}
    (evaluated : outcomesAt snapshot exclude limit depth items = .ok outcomes) :
    ∀ outcome ∈ outcomes, outcome.Coherent := by
  intro outcome member
  obtain ⟨item, -, here⟩ := (mem_outcomesAt evaluated).mp member
  exact outcomeAt_coherent here

/-- A tree is blocked for good when it does not even hold of the requirements that are not out of reach. -/
theorem outcomeAt_permanent {expression : Expression} {outcome : Outcome}
    (evaluated : outcomeAt snapshot exclude limit depth expression = .ok outcome) :
    outcome.permanent = !expression.holds (isReachable snapshot exclude) := by
  induction expression generalizing depth outcome with
  | condition leaf =>
    obtain ⟨-, rfl⟩ := outcomeAt_condition_ok.mp evaluated
    rw [holds_condition, isReachable, Bool.not_not]
  | all items ih =>
    obtain ⟨-, outcomes, each, rfl⟩ := outcomeAt_all_ok.mp evaluated
    have same := all_any_of_pairs (outcomesAt_ok_iff.mp each) fun item member _ => ih item member
    rw [Outcome.conjunction_permanent (outcomesAt_coherent each), holds_all, same.2, List.not_all_eq_any_not]
  | any items ih =>
    obtain ⟨-, -, found, search, rfl⟩ := outcomeAt_any_ok.mp evaluated
    rw [holds_any]
    cases found with
    | none =>
      obtain ⟨item, member, outcome, here, satisfied⟩ := failuresAt_none search
      have held : item.holds (isReachable snapshot exclude) = true := by
        simpa [(outcomeAt_coherent here).reachable satisfied] using ih item member here
      rw [List.any_eq_true.mpr ⟨item, member, held⟩]
      rfl
    | some outcomes =>
      have same := all_any_of_pairs (failuresAt_some_iff.mp search) fun item member _ failed => ih item member failed.1
      rw [List.not_any_eq_all_not]
      exact same.1

theorem outcomesAt_total {items : List Expression}
    (each : ∀ item ∈ items, ∃ outcome, outcomeAt snapshot exclude limit depth item = .ok outcome) :
    ∃ outcomes, outcomesAt snapshot exclude limit depth items = .ok outcomes := by
  induction items with
  | nil => exact ⟨[], by rw [outcomesAt]⟩
  | cons item rest ih =>
    obtain ⟨⟨outcome, here⟩, later⟩ := List.forall_mem_cons.mp each
    obtain ⟨outcomes, evaluated⟩ := ih later
    exact ⟨outcome :: outcomes, by rw [outcomesAt, here, evaluated]⟩

theorem failuresAt_total {items : List Expression}
    (each : ∀ item ∈ items, ∃ outcome, outcomeAt snapshot exclude limit depth item = .ok outcome) :
    ∃ found, failuresAt snapshot exclude limit depth items = .ok found := by
  induction items with
  | nil => exact ⟨some [], by rw [failuresAt]⟩
  | cons item rest ih =>
    obtain ⟨⟨outcome, here⟩, later⟩ := List.forall_mem_cons.mp each
    obtain ⟨found, searched⟩ := ih later
    rw [failuresAt, here]
    cases verdict : outcome.satisfied with
    | true => exact ⟨none, by simp [verdict]⟩
    | false =>
      cases found with
      | none => exact ⟨none, by simp [verdict, searched]⟩
      | some outcomes => exact ⟨some (outcome :: outcomes), by simp [verdict, searched]⟩

/-- Trees that are shallow enough and always offer an alternative can be evaluated. -/
theorem outcomeAt_total {expression : Expression} (offered : any [] ∉ expression.subtrees)
    (shallow : depth + expression.depth ≤ limit + 1) :
    ∃ outcome, outcomeAt snapshot exclude limit depth expression = .ok outcome := by
  induction expression generalizing depth with
  | condition leaf =>
    rw [Expression.depth] at shallow
    exact ⟨_, outcomeAt_condition_ok.mpr ⟨Nat.le_of_succ_le_succ shallow, rfl⟩⟩
  | all items ih =>
    rw [Expression.depth] at shallow
    have each : ∀ item ∈ items, ∃ outcome, outcomeAt snapshot exclude limit (depth + 1) item = .ok outcome := by
      intro item member
      have below := depth_le_depthOfItems member
      apply ih item member
      · intro empty
        exact offered (mem_subtrees_all.mpr (.inr ⟨item, member, empty⟩))
      · omega
    obtain ⟨outcomes, evaluated⟩ := outcomesAt_total each
    exact ⟨_, outcomeAt_all_ok.mpr ⟨by omega, outcomes, evaluated, rfl⟩⟩
  | any items ih =>
    rw [Expression.depth] at shallow
    have each : ∀ item ∈ items, ∃ outcome, outcomeAt snapshot exclude limit (depth + 1) item = .ok outcome := by
      intro item member
      have below := depth_le_depthOfItems member
      apply ih item member
      · intro empty
        exact offered (mem_subtrees_any.mpr (.inr ⟨item, member, empty⟩))
      · omega
    have some : items ≠ [] := by
      intro none
      apply offered
      rw [none]
      exact mem_subtrees_any.mpr (.inl rfl)
    obtain ⟨found, searched⟩ := failuresAt_total each
    exact ⟨_, outcomeAt_any_ok.mpr ⟨by omega, some, found, searched, rfl⟩⟩

end Expression

def EvaluationResult.outcome (result : EvaluationResult) : Outcome :=
  ⟨result.satisfied, result.unmet, result.permanentlyBlocked⟩

namespace Evaluator

variable {evaluator : Evaluator} {snapshot : Snapshot} {exclude : Option String} {expression : Expression}

/-- An evaluation returns the outcome at the root as it is: what is satisfied has nothing to leave out. -/
theorem evaluate_ok_iff {result : EvaluationResult} :
    evaluator.evaluate snapshot expression exclude = .ok result ↔
      expression.outcomeAt snapshot exclude evaluator.maxDepth 1 = .ok result.outcome ∧ result.diagnostics = [] := by
  rw [evaluate]
  cases root : expression.outcomeAt snapshot exclude evaluator.maxDepth 1 with
  | error error => simp
  | ok outcome =>
    have coherent := Expression.outcomeAt_coherent root
    have plain : (if outcome.satisfied then .met else .failed outcome.unmet outcome.permanent) =
        EvaluationResult.mk outcome.satisfied outcome.unmet outcome.permanent [] := by
      cases verdict : outcome.satisfied with
      | true =>
        rw [coherent.satisfied_iff.mp verdict, coherent.reachable verdict]
        rfl
      | false => rfl
    simp only [plain, Except.ok.injEq]
    cases result
    cases outcome
    simp [EvaluationResult.outcome, and_assoc, eq_comm]

theorem evaluate_ok {result : EvaluationResult}
    (evaluated : evaluator.evaluate snapshot expression exclude = .ok result) :
    ∃ outcome, expression.outcomeAt snapshot exclude evaluator.maxDepth 1 = .ok outcome ∧
      result.satisfied = outcome.satisfied ∧
      (result.satisfied = false → result.permanentlyBlocked = outcome.permanent) :=
  ⟨result.outcome, (evaluate_ok_iff.mp evaluated).1, rfl, fun _ => rfl⟩

theorem evaluate_of_outcome {outcome : Outcome}
    (root : expression.outcomeAt snapshot exclude evaluator.maxDepth 1 = .ok outcome) :
    ∃ result, evaluator.evaluate snapshot expression exclude = .ok result ∧ result.outcome = outcome :=
  ⟨⟨outcome.satisfied, outcome.unmet, outcome.permanent, []⟩, evaluate_ok_iff.mpr ⟨root, rfl⟩, rfl⟩

theorem evaluate_coherent {result : EvaluationResult}
    (evaluated : evaluator.evaluate snapshot expression exclude = .ok result) : result.outcome.Coherent :=
  Expression.outcomeAt_coherent (evaluate_ok_iff.mp evaluated).1

/-- Rules text comes to what its tree comes to, and its diagnostics are the clauses outside the tree. -/
theorem evaluateRulesText_ok_iff {text : String} {result : EvaluationResult} :
    evaluator.evaluatePrerequisite snapshot (.legacy text) exclude = .ok result ↔
      (RulesText.read text).expression.outcomeAt snapshot exclude evaluator.maxDepth 1 = .ok result.outcome ∧
        result.diagnostics = (RulesText.read text).unparsed := by
  rw [evaluatePrerequisite]
  constructor
  · intro evaluated
    cases inner : evaluator.evaluate snapshot (RulesText.read text).expression exclude with
    | error fault => simp [inner] at evaluated
    | ok found =>
      simp only [inner, Except.ok.injEq] at evaluated
      subst evaluated
      exact ⟨(evaluate_ok_iff.mp inner).1, rfl⟩
  · rintro ⟨root, listed⟩
    have inner : evaluator.evaluate snapshot (RulesText.read text).expression exclude =
        .ok { result with diagnostics := [] } := evaluate_ok_iff.mpr ⟨root, rfl⟩
    simp only [inner, ← listed]

theorem evaluateOptional_coherent {prerequisite : Option Prerequisite} {result : EvaluationResult}
    (evaluated : evaluator.evaluateOptional snapshot prerequisite exclude = .ok result) : result.outcome.Coherent := by
  cases prerequisite with
  | none =>
    rw [← Except.ok.inj evaluated]
    exact .met
  | some prerequisite =>
    cases prerequisite with
    | structured expression => exact evaluate_coherent evaluated
    | legacy text => exact Expression.outcomeAt_coherent (evaluateRulesText_ok_iff.mp evaluated).1

end Evaluator

end Legality
