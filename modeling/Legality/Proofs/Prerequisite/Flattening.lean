import Legality.Proofs.Prerequisite.Meaning

/-!
Flattening of trees. The items of an ALL node inside an ALL node may as well stand in the outer one, and an item that an
ALL node has already may be left out. Both are possible anywhere in a tree, since a node is evaluated by the outcomes of
its items, and leave the result as it is, line by line. Flattening raises items, so no limit on the depth is reached that
was not reached before.
-/
namespace Legality

namespace Expression

/-- Trees that come from each other by splicing ALL nodes into ALL nodes and leaving out repeated items of ALL nodes, any
number of times and anywhere. -/
inductive Flattened : Expression → Expression → Prop
  | refl (tree : Expression) : Flattened tree tree
  | trans {first second third : Expression} (before : Flattened first second) (after : Flattened second third) :
      Flattened first third
  | splice (left inner right : List Expression) :
      Flattened (.all (left ++ .all inner :: right)) (.all (left ++ (inner ++ right)))
  | drop (left right : List Expression) {item : Expression} (earlier : item ∈ left) :
      Flattened (.all (left ++ item :: right)) (.all (left ++ right))
  | withinAll (left right : List Expression) {item other : Expression} (inside : Flattened item other) :
      Flattened (.all (left ++ item :: right)) (.all (left ++ other :: right))
  | withinAny (left right : List Expression) {item other : Expression} (inside : Flattened item other) :
      Flattened (.any (left ++ item :: right)) (.any (left ++ other :: right))

variable {snapshot : Snapshot} {exclude : Option String} {limit depth raised : Nat}

/-- Whether a tree comes, at one depth, to whatever another one comes to at another depth. -/
def Reproduces (snapshot : Snapshot) (exclude : Option String) (limit depth raised : Nat)
    (tree other : Expression) : Prop :=
  ∀ outcome, outcomeAt snapshot exclude limit depth tree = .ok outcome →
    outcomeAt snapshot exclude limit raised other = .ok outcome

theorem outcomesAt_of_pairs {items others : List Expression} {outcomes : List Outcome}
    (pairs : List.Forall₂ (Reproduces snapshot exclude limit depth raised) items others)
    (evaluated : outcomesAt snapshot exclude limit depth items = .ok outcomes) :
    outcomesAt snapshot exclude limit raised others = .ok outcomes := by
  induction pairs generalizing outcomes with
  | nil =>
    rw [outcomesAt] at evaluated ⊢
    exact evaluated
  | cons here _ ih =>
    obtain ⟨first, later, evaluatedFirst, evaluatedLater, rfl⟩ := outcomesAt_cons_ok.mp evaluated
    exact outcomesAt_cons_ok.mpr ⟨first, later, here first evaluatedFirst, ih evaluatedLater, rfl⟩

theorem failuresAt_of_pairs {items others : List Expression} {found : Option (List Outcome)}
    (pairs : List.Forall₂ (Reproduces snapshot exclude limit depth raised) items others)
    (searched : failuresAt snapshot exclude limit depth items = .ok found) :
    failuresAt snapshot exclude limit raised others = .ok found := by
  induction pairs generalizing found with
  | nil =>
    rw [failuresAt] at searched ⊢
    exact searched
  | @cons item other rest later here _ ih =>
    rw [failuresAt] at searched ⊢
    cases first : outcomeAt snapshot exclude limit depth item with
    | error error => simp [first] at searched
    | ok outcome =>
      rw [here outcome first]
      cases verdict : outcome.satisfied with
      | true =>
        -- Both searches end here; the items behind need not even be evaluable.
        simpa [first, verdict] using searched
      | false =>
        cases tail : failuresAt snapshot exclude limit depth rest with
        | error error => simp [first, verdict, tail] at searched
        | ok outcomes =>
          rw [ih tail]
          simpa [first, verdict, tail] using searched

namespace Reproduces

theorem all {items others : List Expression} (higher : raised ≤ depth)
    (pairs : List.Forall₂ (Reproduces snapshot exclude limit (depth + 1) (raised + 1)) items others) :
    Reproduces snapshot exclude limit depth raised (.all items) (.all others) := by
  intro outcome evaluated
  obtain ⟨shallow, outcomes, each, same⟩ := outcomeAt_all_ok.mp evaluated
  exact outcomeAt_all_ok.mpr ⟨Nat.le_trans higher shallow, outcomes, outcomesAt_of_pairs pairs each, same⟩

theorem any {items others : List Expression} (higher : raised ≤ depth)
    (pairs : List.Forall₂ (Reproduces snapshot exclude limit (depth + 1) (raised + 1)) items others) :
    Reproduces snapshot exclude limit depth raised (.any items) (.any others) := by
  intro outcome evaluated
  obtain ⟨shallow, offered, found, searched, same⟩ := outcomeAt_any_ok.mp evaluated
  have stillOffered : others ≠ [] := by
    rintro rfl
    exact offered (List.forall₂_nil_right_iff.mp pairs)
  exact outcomeAt_any_ok.mpr
    ⟨Nat.le_trans higher shallow, stillOffered, found, failuresAt_of_pairs pairs searched, same⟩

/-- A tree that can be evaluated comes to the same nearer to the root. -/
theorem raise (higher : raised ≤ depth) (tree : Expression) :
    Reproduces snapshot exclude limit depth raised tree tree := by
  -- The items stand one level deeper in both trees.
  induction tree generalizing depth raised with
  | condition leaf =>
    intro outcome evaluated
    obtain ⟨shallow, same⟩ := outcomeAt_condition_ok.mp evaluated
    exact outcomeAt_condition_ok.mpr ⟨Nat.le_trans higher shallow, same⟩
  | all items ih =>
    exact all higher (List.forall₂_same.mpr fun item member => ih item member (Nat.succ_le_succ higher))
  | any items ih =>
    exact any higher (List.forall₂_same.mpr fun item member => ih item member (Nat.succ_le_succ higher))

theorem splice (left inner right : List Expression) :
    Reproduces snapshot exclude limit depth depth (.all (left ++ .all inner :: right))
      (.all (left ++ (inner ++ right))) := by
  intro outcome evaluated
  obtain ⟨shallow, outcomes, each, rfl⟩ := outcomeAt_all_ok.mp evaluated
  obtain ⟨before, rest, eachLeft, eachRest, rfl⟩ := outcomesAt_append_ok.mp each
  obtain ⟨nested, after, here, eachRight, rfl⟩ := outcomesAt_cons_ok.mp eachRest
  obtain ⟨-, parts, eachInner, rfl⟩ := outcomeAt_all_ok.mp here
  have eachRaised : outcomesAt snapshot exclude limit (depth + 1) inner = .ok parts :=
    outcomesAt_of_pairs (List.forall₂_same.mpr fun item _ => raise (Nat.le_succ _) item) eachInner
  refine outcomeAt_all_ok.mpr ⟨shallow, before ++ (parts ++ after), ?_, ?_⟩
  · exact outcomesAt_append_ok.mpr
      ⟨before, _, eachLeft, outcomesAt_append_ok.mpr ⟨parts, after, eachRaised, eachRight, rfl⟩, rfl⟩
  · exact (Outcome.conjunction_splice before parts after).symm

theorem drop (left right : List Expression) {item : Expression} (earlier : item ∈ left) :
    Reproduces snapshot exclude limit depth depth (.all (left ++ item :: right)) (.all (left ++ right)) := by
  intro outcome evaluated
  obtain ⟨shallow, outcomes, each, rfl⟩ := outcomeAt_all_ok.mp evaluated
  obtain ⟨before, rest, eachLeft, eachRest, rfl⟩ := outcomesAt_append_ok.mp each
  obtain ⟨first, after, here, eachRight, rfl⟩ := outcomesAt_cons_ok.mp eachRest
  have there : first ∈ before := (mem_outcomesAt eachLeft).mpr ⟨item, earlier, here⟩
  refine outcomeAt_all_ok.mpr ⟨shallow, before ++ after, ?_, ?_⟩
  · exact outcomesAt_append_ok.mpr ⟨before, after, eachLeft, eachRight, rfl⟩
  · exact (Outcome.conjunction_drop there after).symm

theorem exchange {item other : Expression} (here : Reproduces snapshot exclude limit depth depth item other)
    (left right : List Expression) :
    List.Forall₂ (Reproduces snapshot exclude limit depth depth) (left ++ item :: right) (left ++ other :: right) := by
  have unchanged (items : List Expression) :
      List.Forall₂ (Reproduces snapshot exclude limit depth depth) items items :=
    List.forall₂_same.mpr fun item _ => raise (Nat.le_refl _) item
  exact List.rel_append (unchanged left) (.cons here (unchanged right))

end Reproduces

/-- Flattening does not change what a tree comes to, at no depth. -/
theorem Flattened.reproduces {tree other : Expression} (flattened : Flattened tree other) (depth : Nat) :
    Reproduces snapshot exclude limit depth depth tree other := by
  induction flattened generalizing depth with
  | refl tree => exact fun _ evaluated => evaluated
  | trans _ _ first second => exact fun outcome evaluated => second depth outcome (first depth outcome evaluated)
  | splice left inner right => exact .splice left inner right
  | drop left right earlier => exact .drop left right earlier
  | withinAll left right _ ih => exact .all (Nat.le_refl _) ((ih (depth + 1)).exchange left right)
  | withinAny left right _ ih => exact .any (Nat.le_refl _) ((ih (depth + 1)).exchange left right)

end Expression

namespace Evaluator

/-- Flattening preserves results. Where a tree can be evaluated, so can every tree that comes from it by splicing ALL nodes
into ALL nodes and leaving out repeated items, and the result is the same, with the same lines in the same order. -/
theorem evaluate_flattened {evaluator : Evaluator} {snapshot : Snapshot} {exclude : Option String}
    {expression other : Expression} {result : EvaluationResult} (flattened : expression.Flattened other)
    (evaluated : evaluator.evaluate snapshot expression exclude = .ok result) :
    evaluator.evaluate snapshot other exclude = .ok result := by
  obtain ⟨root, plain⟩ := evaluate_ok_iff.mp evaluated
  exact evaluate_ok_iff.mpr ⟨flattened.reproduces 1 result.outcome root, plain⟩

def nested : Expression := .any [.feat "Dodge", .all [.all [.level 5, .trained "Stealth"], .level 5]]

def flat : Expression := .any [.feat "Dodge", .all [.level 5, .trained "Stealth"]]

/-- Flattening inside an alternative leaves the line about the alternatives as it is, at the very limit on the depth. -/
theorem evaluate_flattened_nested :
    nested.Flattened flat ∧ nested.depth = 4 ∧
      (⟨4, true⟩ : Evaluator).evaluate (.blank "pc") flat none =
        .ok (.failed ["One of: Feat: Dodge or Minimum level 5 (you are level 0) and Trained in Stealth"] false) := by
  have flattened : nested.Flattened flat :=
    .withinAny [.feat "Dodge"] []
      (.trans (.splice [] [.level 5, .trained "Stealth"] [.level 5])
        (.drop [.level 5, .trained "Stealth"] [] List.mem_cons_self))
  have evaluated : (⟨4, true⟩ : Evaluator).evaluate (.blank "pc") nested none =
      .ok (.failed ["One of: Feat: Dodge or Minimum level 5 (you are level 0) and Trained in Stealth"] false) := by
    decide
  exact ⟨flattened, by decide, evaluate_flattened flattened evaluated⟩

end Evaluator

end Legality
