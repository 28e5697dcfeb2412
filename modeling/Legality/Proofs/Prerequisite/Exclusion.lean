import Legality.Prerequisite.Evaluation
import Legality.Proofs.Prerequisite.Tree
import Mathlib.Tactic.Common

/-!
Exclusion of an ability. Evaluation depends on a character through its requirements only, and of these the excluded id is
read by the counts of talents alone. So an ability is excluded as if it belonged to no tree, and the id of anything but an
owned talent is excluded from nothing.
-/
namespace Legality

def OwnedAbility.withoutTree (id : String) (owned : OwnedAbility) : OwnedAbility :=
  if owned.id = id then { owned with tree := none } else owned

namespace OwnedAbility

variable (id : String) (owned : OwnedAbility)

@[simp] theorem withoutTree_id : (owned.withoutTree id).id = owned.id := by
  unfold withoutTree
  split <;> rfl

@[simp] theorem withoutTree_name : (owned.withoutTree id).name = owned.name := by
  unfold withoutTree
  split <;> rfl

@[simp] theorem withoutTree_kind : (owned.withoutTree id).kind = owned.kind := by
  unfold withoutTree
  split <;> rfl

end OwnedAbility

namespace Snapshot

/-- The character whose abilities of an id belong to no tree. -/
def withoutTree (snapshot : Snapshot) (id : String) : Snapshot :=
  { snapshot with owned := snapshot.owned.map (OwnedAbility.withoutTree id) }

variable {snapshot : Snapshot} {id : String}

theorem hasNamed_withoutTree (kind : AbilityKind) (name : String) :
    (snapshot.withoutTree id).hasNamed kind name = snapshot.hasNamed kind name := by
  simp [hasNamed, withoutTree, Function.comp_def]

theorem countsForTrees_withoutTree (trees : List String) (owned : OwnedAbility) :
    countsForTrees trees none (owned.withoutTree id) = countsForTrees trees (some id) owned := by
  rw [countsForTrees, countsForTrees, OwnedAbility.withoutTree_kind]
  by_cases same : owned.id = id
  · -- Neither counts: one has no tree any more, the other is excluded.
    simp [OwnedAbility.withoutTree, same]
  · have counted : (some owned.id != none) = (some owned.id != some id) := by simp [bne, same]
    rw [OwnedAbility.withoutTree, if_neg same, counted]

theorem talentsInTrees_withoutTree (trees : List String) :
    (snapshot.withoutTree id).talentsInTrees trees none = snapshot.talentsInTrees trees (some id) := by
  rw [talentsInTrees, withoutTree, List.countP_map]
  apply List.countP_congr
  intro owned _
  rw [Function.comp_apply, countsForTrees_withoutTree]

theorem talentsInTrees_of_absent (absent : ∀ owned ∈ snapshot.owned, owned.kind = .talent → owned.id ≠ id)
    (trees : List String) : snapshot.talentsInTrees trees (some id) = snapshot.talentsInTrees trees none := by
  apply List.countP_congr
  intro owned member
  by_cases talent : owned.kind = .talent
  · simp [countsForTrees, talent, absent owned member talent]
  · simp [countsForTrees, talent]

end Snapshot

namespace Condition

variable {snapshot : Snapshot} {id : String}

theorem check_withoutTree (leaf : Condition) :
    leaf.check (snapshot.withoutTree id) none = leaf.check snapshot (some id) := by
  cases leaf with
  | feat name => simp only [check, Snapshot.hasNamed_withoutTree]
  | talent name => simp only [check, Snapshot.hasNamed_withoutTree]
  | talentsFromTree trees count => simp only [check, Snapshot.talentsInTrees_withoutTree]
  | _ => rfl

theorem check_of_absent (absent : ∀ owned ∈ snapshot.owned, owned.kind = .talent → owned.id ≠ id)
    (leaf : Condition) : leaf.check snapshot (some id) = leaf.check snapshot none := by
  cases leaf with
  | talentsFromTree trees count => simp only [check, Snapshot.talentsInTrees_of_absent absent]
  | _ => rfl

end Condition

namespace Expression

variable {before after : Snapshot} {excludeBefore excludeAfter : Option String} {limit depth : Nat}

theorem outcomesAt_congr {items : List Expression}
    (same : ∀ item ∈ items, outcomeAt before excludeBefore limit depth item =
      outcomeAt after excludeAfter limit depth item) :
    outcomesAt before excludeBefore limit depth items = outcomesAt after excludeAfter limit depth items := by
  induction items with
  | nil => rw [outcomesAt, outcomesAt]
  | cons item rest ih =>
    obtain ⟨here, later⟩ := List.forall_mem_cons.mp same
    rw [outcomesAt, outcomesAt, here, ih later]

theorem failuresAt_congr {items : List Expression}
    (same : ∀ item ∈ items, outcomeAt before excludeBefore limit depth item =
      outcomeAt after excludeAfter limit depth item) :
    failuresAt before excludeBefore limit depth items = failuresAt after excludeAfter limit depth items := by
  induction items with
  | nil => rw [failuresAt, failuresAt]
  | cons item rest ih =>
    obtain ⟨here, later⟩ := List.forall_mem_cons.mp same
    rw [failuresAt, failuresAt, here, ih later]

/-- Characters that differ in no requirement differ in no tree, neither in its outcome nor in its error. -/
theorem outcomeAt_congr (same : ∀ leaf : Condition, leaf.check before excludeBefore = leaf.check after excludeAfter)
    (expression : Expression) :
    outcomeAt before excludeBefore limit depth expression = outcomeAt after excludeAfter limit depth expression := by
  induction expression generalizing depth with
  | condition leaf => rw [outcomeAt, outcomeAt, same]
  | all items ih => rw [outcomeAt, outcomeAt, outcomesAt_congr fun item member => ih item member]
  | any items ih => rw [outcomeAt, outcomeAt, failuresAt_congr fun item member => ih item member]

end Expression

namespace Evaluator

variable {evaluator : Evaluator} {snapshot before after : Snapshot} {id : String}

theorem evaluate_congr {excludeBefore excludeAfter : Option String}
    (same : ∀ leaf : Condition, leaf.check before excludeBefore = leaf.check after excludeAfter)
    (expression : Expression) :
    evaluator.evaluate before expression excludeBefore = evaluator.evaluate after expression excludeAfter := by
  rw [evaluate, evaluate, Expression.outcomeAt_congr same]

theorem evaluate_of_absent (absent : ∀ owned ∈ snapshot.owned, owned.kind = .talent → owned.id ≠ id)
    (expression : Expression) :
    evaluator.evaluate snapshot expression (some id) = evaluator.evaluate snapshot expression none :=
  evaluate_congr (Condition.check_of_absent absent) expression

/-- Excluding an ability withdraws it from the counts of its tree and does nothing else: the evaluation has the result, or
the error, that it has for the character whose abilities of that id belong to no tree. So it changes nothing to exclude an
id that is not the id of an owned talent. -/
theorem exclude_withdraws_tree (evaluator : Evaluator) (snapshot : Snapshot) (expression : Expression) (id : String) :
    evaluator.evaluate snapshot expression (some id) = evaluator.evaluate (snapshot.withoutTree id) expression none ∧
      ((∀ owned ∈ snapshot.owned, owned.kind = .talent → owned.id ≠ id) →
        evaluator.evaluate snapshot expression (some id) = evaluator.evaluate snapshot expression none) := by
  constructor
  · exact (evaluate_congr Condition.check_withoutTree expression).symm
  · exact fun absent => evaluate_of_absent absent expression

def spotter : Snapshot :=
  { Snapshot.blank "pc" with
    owned :=
      [ ⟨"keen-eye", "Keen Eye", .talent, some "Awareness", none⟩,
        ⟨"acute-senses", "Acute Senses", .talent, some "Awareness", none⟩,
        ⟨"dodge", "Dodge", .feat, none, none⟩ ] }

def watch : Expression := .all [.talentsFrom ["Awareness"] 2, .condition (.talent "Keen Eye")]

/-- The excluded talent is not counted but still known by its name; to exclude the feat changes nothing. -/
theorem exclude_withdraws_tree_spotter :
    standard.evaluate (spotter.withoutTree "keen-eye") watch none =
        .ok (.failed ["2 talent(s) from: Awareness (you have 1)"] false) ∧
      standard.evaluate spotter watch (some "dodge") = .ok .met := by
  have excluded : standard.evaluate spotter watch (some "keen-eye") =
      .ok (.failed ["2 talent(s) from: Awareness (you have 1)"] false) := by
    decide +kernel
  have included : standard.evaluate spotter watch none = .ok .met := by decide +kernel
  have absent : ∀ owned ∈ spotter.owned, owned.kind = .talent → owned.id ≠ "dodge" := by
    simp [spotter]
  constructor
  · exact (exclude_withdraws_tree standard spotter watch "keen-eye").1.symm.trans excluded
  · exact ((exclude_withdraws_tree standard spotter watch "dodge").2 absent).trans included

end Evaluator

end Legality
