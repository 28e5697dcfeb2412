import Legality.Prerequisite.Expression

/-!
The shape of prerequisite trees: an induction principle over them, the subtrees and the leaves of a tree, and the
truth value that a tree takes from the values of its leaves. A tree has no negation, so it is monotone in them.
-/
namespace Legality.Expression

/-- Induction over trees. The items of a node are taken together, so no second motive for lists is needed. -/
@[elab_as_elim, induction_eliminator]
theorem induct {motive : Expression → Prop}
    (all : ∀ items, (∀ item ∈ items, motive item) → motive (.all items))
    (any : ∀ items, (∀ item ∈ items, motive item) → motive (.any items))
    (condition : ∀ leaf, motive (.condition leaf)) (expression : Expression) : motive expression := by
  refine Expression.rec (motive_1 := motive) (motive_2 := fun items => ∀ item ∈ items, motive item)
    all any condition ?_ ?_ expression
  · intro item member
    exact absurd member List.not_mem_nil
  · intro first rest atFirst atRest item member
    rcases List.mem_cons.mp member with same | later
    · exact same ▸ atFirst
    · exact atRest item later

mutual

def subtrees : Expression → List Expression
  | condition leaf => [condition leaf]
  | all items => all items :: subtreesOfItems items
  | any items => any items :: subtreesOfItems items

def subtreesOfItems : List Expression → List Expression
  | [] => []
  | item :: rest => subtrees item ++ subtreesOfItems rest

end

theorem mem_subtreesOfItems {items : List Expression} {tree : Expression} :
    tree ∈ subtreesOfItems items ↔ ∃ item ∈ items, tree ∈ item.subtrees := by
  induction items with
  | nil => simp [subtreesOfItems]
  | cons item rest ih => simp [subtreesOfItems, ih]

theorem mem_subtrees_all {items : List Expression} {tree : Expression} :
    tree ∈ (all items).subtrees ↔ tree = all items ∨ ∃ item ∈ items, tree ∈ item.subtrees := by
  rw [subtrees, List.mem_cons, mem_subtreesOfItems]

theorem mem_subtrees_any {items : List Expression} {tree : Expression} :
    tree ∈ (any items).subtrees ↔ tree = any items ∨ ∃ item ∈ items, tree ∈ item.subtrees := by
  rw [subtrees, List.mem_cons, mem_subtreesOfItems]

def leaf? : Expression → Option Condition
  | condition leaf => some leaf
  | _ => none

def leaves (expression : Expression) : List Condition := expression.subtrees.filterMap leaf?

@[simp] theorem leaves_condition (leaf : Condition) : (condition leaf).leaves = [leaf] := rfl

theorem leaves_of_items {items : List Expression} {leaf : Condition} :
    leaf ∈ (subtreesOfItems items).filterMap leaf? ↔ ∃ item ∈ items, leaf ∈ item.leaves := by
  simp only [List.mem_filterMap, mem_subtreesOfItems, leaves]
  constructor
  · rintro ⟨tree, ⟨item, member, below⟩, here⟩
    exact ⟨item, member, tree, below, here⟩
  · rintro ⟨item, member, tree, below, here⟩
    exact ⟨tree, ⟨item, member, below⟩, here⟩

@[simp] theorem mem_leaves_all {items : List Expression} {leaf : Condition} :
    leaf ∈ (all items).leaves ↔ ∃ item ∈ items, leaf ∈ item.leaves := by
  rw [leaves, subtrees, List.filterMap_cons_none rfl, leaves_of_items]

@[simp] theorem mem_leaves_any {items : List Expression} {leaf : Condition} :
    leaf ∈ (any items).leaves ↔ ∃ item ∈ items, leaf ∈ item.leaves := by
  rw [leaves, subtrees, List.filterMap_cons_none rfl, leaves_of_items]

mutual

/-- The truth value of a tree whose leaves have the given ones. -/
def holds (value : Condition → Bool) : Expression → Bool
  | condition leaf => value leaf
  | all items => allHold value items
  | any items => anyHolds value items

def allHold (value : Condition → Bool) : List Expression → Bool
  | [] => true
  | item :: rest => holds value item && allHold value rest

def anyHolds (value : Condition → Bool) : List Expression → Bool
  | [] => false
  | item :: rest => holds value item || anyHolds value rest

end

@[simp] theorem holds_condition (value : Condition → Bool) (leaf : Condition) :
    (condition leaf).holds value = value leaf := by
  rw [holds]

@[simp] theorem holds_all (value : Condition → Bool) (items : List Expression) :
    (all items).holds value = items.all (holds value) := by
  rw [holds]
  induction items with
  | nil => rfl
  | cons item rest ih => rw [allHold, List.all_cons, ih]

@[simp] theorem holds_any (value : Condition → Bool) (items : List Expression) :
    (any items).holds value = items.any (holds value) := by
  rw [holds]
  induction items with
  | nil => rfl
  | cons item rest ih => rw [anyHolds, List.any_cons, ih]

/-- Leaves that turn from false to true never turn a tree from true to false. -/
theorem holds_mono {before after : Condition → Bool} {expression : Expression}
    (rising : ∀ leaf ∈ expression.leaves, before leaf = true → after leaf = true)
    (held : expression.holds before = true) : expression.holds after = true := by
  induction expression with
  | condition leaf =>
    rw [holds_condition] at held ⊢
    exact rising leaf (List.mem_singleton.mpr rfl) held
  | all items ih =>
    rw [holds_all, List.all_eq_true] at held ⊢
    intro item member
    apply ih item member _ (held item member)
    intro leaf inside
    exact rising leaf (mem_leaves_all.mpr ⟨item, member, inside⟩)
  | any items ih =>
    rw [holds_any, List.any_eq_true] at held ⊢
    obtain ⟨item, member, heldHere⟩ := held
    refine ⟨item, member, ?_⟩
    apply ih item member _ heldHere
    intro leaf inside
    exact rising leaf (mem_leaves_any.mpr ⟨item, member, inside⟩)

theorem depth_le_depthOfItems {items : List Expression} {item : Expression} (member : item ∈ items) :
    item.depth ≤ depthOfItems items := by
  induction items with
  | nil => exact absurd member List.not_mem_nil
  | cons first rest ih =>
    rw [depthOfItems]
    rcases List.mem_cons.mp member with same | later
    · exact same ▸ Nat.le_max_left _ _
    · exact Nat.le_trans (ih later) (Nat.le_max_right _ _)

theorem depthOfItems_le {items : List Expression} {bound : Nat} (each : ∀ item ∈ items, item.depth ≤ bound) :
    depthOfItems items ≤ bound := by
  induction items with
  | nil => exact Nat.zero_le bound
  | cons first rest ih =>
    obtain ⟨here, later⟩ := List.forall_mem_cons.mp each
    exact Nat.max_le.mpr ⟨here, ih later⟩

end Legality.Expression
