import Legality.Prerequisite.Evaluation

/-!
Outcomes of nodes. A conjunction keeps each line once, so a conjunction inside a conjunction may be taken apart and an
outcome that is there already may be left out. The three parts of an outcome agree with each other, and both ways to
put outcomes together keep it so.
-/
namespace Legality.Outcome

theorem mem_distinct {lines : List String} {line : String} : line ∈ distinct lines ↔ line ∈ lines := by
  induction lines with
  | nil => exact Iff.rfl
  | cons first rest ih =>
    rw [distinct, List.mem_cons, List.mem_filter, ih, List.mem_cons]
    by_cases same : line = first
    · simp [same]
    · simp [same]

theorem nodup_distinct (lines : List String) : (distinct lines).Nodup := by
  induction lines with
  | nil => exact List.nodup_nil
  | cons first rest ih =>
    rw [distinct, List.nodup_cons]
    constructor
    · simp
    · exact ih.filter _

theorem distinct_eq_nil_iff {lines : List String} : distinct lines = [] ↔ lines = [] := by
  cases lines <;> simp [distinct]

theorem distinct_of_nodup {lines : List String} (nodup : lines.Nodup) : distinct lines = lines := by
  induction lines with
  | nil => rfl
  | cons first rest ih =>
    obtain ⟨fresh, nodupRest⟩ := List.nodup_cons.mp nodup
    rw [distinct, ih nodupRest, List.filter_eq_self.mpr]
    intro line member
    simpa using fun same : line = first => fresh (same ▸ member)

theorem distinct_append (left right : List String) :
    distinct (left ++ right) = distinct left ++ (distinct right).filter fun line => !left.contains line := by
  induction left with
  | nil => exact (List.filter_eq_self.mpr fun _ _ => rfl).symm
  | cons first rest ih =>
    rw [List.cons_append, distinct, ih, List.filter_append, List.filter_filter, distinct, List.cons_append]
    simp only [List.contains_cons, Bool.not_or, bne]

theorem contains_distinct (lines : List String) (line : String) : (distinct lines).contains line = lines.contains line := by
  simp [mem_distinct]

theorem distinct_append_distinct (left inner right : List String) :
    distinct (left ++ (distinct inner ++ right)) = distinct (left ++ (inner ++ right)) := by
  have first : distinct (distinct inner ++ right) = distinct (inner ++ right) := by
    rw [distinct_append, distinct_append, distinct_of_nodup (nodup_distinct inner)]
    simp only [contains_distinct]
  rw [distinct_append, first, ← distinct_append]

theorem distinct_append_of_subset {left repeated : List String} (there : repeated ⊆ left) (right : List String) :
    distinct (left ++ (repeated ++ right)) = distinct (left ++ right) := by
  have known : (distinct repeated).filter (fun line => !left.contains line) = [] := by
    rw [List.filter_eq_nil_iff]
    intro line member
    simpa using there (mem_distinct.mp member)
  have others : ∀ line, (!left.contains line && !repeated.contains line) = !left.contains line := by
    intro line
    cases found : repeated.contains line with
    | false => simp
    | true => simp [there (List.contains_iff_mem.mp found)]
  rw [distinct_append, distinct_append repeated, List.filter_append, known, List.nil_append, List.filter_filter,
    distinct_append left right]
  simp only [others]

def failures (outcomes : List Outcome) : List Outcome := outcomes.filter fun outcome => !outcome.satisfied

theorem mem_failures {outcomes : List Outcome} {outcome : Outcome} :
    outcome ∈ failures outcomes ↔ outcome ∈ outcomes ∧ outcome.satisfied = false := by
  simp [failures]

theorem failures_eq_nil_iff {outcomes : List Outcome} : failures outcomes = [] ↔ outcomes.all satisfied = true := by
  simp [failures]

theorem failures_append (before after : List Outcome) :
    failures (before ++ after) = failures before ++ failures after := List.filter_append ..

theorem failures_cons_of_satisfied {outcome : Outcome} (satisfied : outcome.satisfied = true) (rest : List Outcome) :
    failures (outcome :: rest) = failures rest := by
  simp [failures, satisfied]

theorem failures_cons_of_failed {outcome : Outcome} (failed : outcome.satisfied = false) (rest : List Outcome) :
    failures (outcome :: rest) = outcome :: failures rest := by
  simp [failures, failed]

theorem conjunction_satisfied (outcomes : List Outcome) :
    (conjunction outcomes).satisfied = outcomes.all satisfied := by
  rw [Bool.eq_iff_iff, ← failures_eq_nil_iff, ← List.isEmpty_iff]
  exact Iff.rfl

theorem conjunction_eq (outcomes : List Outcome) :
    conjunction outcomes =
      { satisfied := outcomes.all satisfied
        unmet := distinct ((failures outcomes).flatMap unmet)
        permanent := (failures outcomes).any permanent } := by
  rw [← conjunction_satisfied]
  rfl

theorem mem_conjunction_unmet {outcomes : List Outcome} {line : String} :
    line ∈ (conjunction outcomes).unmet ↔ ∃ outcome ∈ failures outcomes, line ∈ outcome.unmet := by
  rw [conjunction_eq, mem_distinct, List.mem_flatMap]

theorem conjunction_append (before after : List Outcome) :
    conjunction (before ++ after) =
      { satisfied := (conjunction before).satisfied && (conjunction after).satisfied
        unmet := (conjunction before).unmet ++
          (conjunction after).unmet.filter fun line => !(conjunction before).unmet.contains line
        permanent := (conjunction before).permanent || (conjunction after).permanent } := by
  simp only [conjunction_eq, contains_distinct, List.all_append, failures_append, List.flatMap_append, List.any_append,
    distinct_append]

/-- A conjunction among the parts of a conjunction may be taken apart. -/
theorem conjunction_splice (before inner after : List Outcome) :
    conjunction (before ++ conjunction inner :: after) = conjunction (before ++ (inner ++ after)) := by
  rw [conjunction_eq, conjunction_eq (before ++ _)]
  simp only [List.all_append, List.all_cons, conjunction_satisfied, failures_append]
  cases verdict : inner.all satisfied with
  | true =>
    -- Neither the inner conjunction nor any of its parts has a line.
    have satisfied : (conjunction inner).satisfied = true := (conjunction_satisfied inner).trans verdict
    rw [failures_cons_of_satisfied satisfied, failures_eq_nil_iff.mpr verdict, List.nil_append]
  | false =>
    have unsatisfied : (conjunction inner).satisfied = false := (conjunction_satisfied inner).trans verdict
    rw [failures_cons_of_failed unsatisfied]
    simp only [List.flatMap_append, List.flatMap_cons, List.any_append, List.any_cons]
    rw [conjunction_eq, distinct_append_distinct]

theorem conjunction_drop {before : List Outcome} {outcome : Outcome} (there : outcome ∈ before)
    (after : List Outcome) : conjunction (before ++ outcome :: after) = conjunction (before ++ after) := by
  rw [conjunction_eq, conjunction_eq (before ++ after)]
  simp only [List.all_append, List.all_cons, failures_append]
  cases verdict : outcome.satisfied with
  | true => rw [failures_cons_of_satisfied verdict, Bool.true_and]
  | false =>
    have failed : outcome ∈ failures before := mem_failures.mpr ⟨there, verdict⟩
    have unsatisfied : before.all satisfied = false := List.all_eq_false.mpr ⟨outcome, there, by simp [verdict]⟩
    have lines : outcome.unmet ⊆ (failures before).flatMap unmet := by
      intro line listed
      exact List.mem_flatMap.mpr ⟨outcome, failed, listed⟩
    have blocked : ((failures before).any permanent || outcome.permanent) = (failures before).any permanent := by
      cases permanence : outcome.permanent with
      | false => exact Bool.or_false _
      | true => rw [List.any_eq_true.mpr ⟨outcome, failed, permanence⟩, Bool.true_or]
    rw [failures_cons_of_failed verdict, unsatisfied]
    simp only [List.flatMap_append, List.flatMap_cons, List.any_append, List.any_cons, Bool.false_and]
    rw [distinct_append_of_subset lines, ← Bool.or_assoc, blocked]

/-- Whether the parts of an outcome agree: it is satisfied exactly if nothing is unmet, what is satisfied is not
permanent, and no line is listed twice. -/
structure Coherent (outcome : Outcome) : Prop where
  satisfied_iff : outcome.satisfied = true ↔ outcome.unmet = []
  reachable : outcome.satisfied = true → outcome.permanent = false
  nodup : outcome.unmet.Nodup

namespace Coherent

theorem met : Coherent met where
  satisfied_iff := iff_of_true rfl rfl
  reachable _ := rfl
  nodup := List.nodup_nil

theorem unsatisfied (line : String) (permanent : Bool) : Coherent ⟨false, [line], permanent⟩ where
  satisfied_iff := iff_of_false Bool.noConfusion (List.cons_ne_nil _ _)
  reachable satisfied := Bool.noConfusion satisfied
  nodup := List.pairwise_singleton _ line

theorem exhausted (outcomes : List Outcome) : Coherent (exhausted outcomes) := unsatisfied _ _

theorem conjunction {outcomes : List Outcome} (each : ∀ outcome ∈ outcomes, outcome.Coherent) :
    Coherent (conjunction outcomes) where
  satisfied_iff := by
    rw [conjunction_eq, ← failures_eq_nil_iff, distinct_eq_nil_iff, List.flatMap_eq_nil_iff]
    constructor
    · intro none
      simp [none]
    · intro silent
      refine List.eq_nil_iff_forall_not_mem.mpr fun outcome failed => ?_
      obtain ⟨member, unsatisfied⟩ := mem_failures.mp failed
      have satisfied := (each outcome member).satisfied_iff.mpr (silent outcome failed)
      exact absurd (satisfied.symm.trans unsatisfied) Bool.noConfusion
  reachable satisfied := by
    rw [conjunction_eq, ← failures_eq_nil_iff] at satisfied
    rw [conjunction_eq, satisfied]
    rfl
  nodup := nodup_distinct _

end Coherent

theorem conjunction_permanent {outcomes : List Outcome} (each : ∀ outcome ∈ outcomes, outcome.Coherent) :
    (conjunction outcomes).permanent = outcomes.any permanent := by
  rw [conjunction_eq, Bool.eq_iff_iff, List.any_eq_true, List.any_eq_true]
  constructor
  · rintro ⟨outcome, failed, permanent⟩
    exact ⟨outcome, (mem_failures.mp failed).1, permanent⟩
  · rintro ⟨outcome, member, permanent⟩
    refine ⟨outcome, mem_failures.mpr ⟨member, ?_⟩, permanent⟩
    cases verdict : outcome.satisfied with
    | false => rfl
    | true => exact absurd (((each outcome member).reachable verdict).symm.trans permanent) Bool.noConfusion

end Legality.Outcome
