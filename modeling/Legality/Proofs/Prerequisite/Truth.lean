import Legality.Proofs.Prerequisite.Meaning
import Mathlib.Data.List.Count

/-!
Prerequisites as plain logic. What a character has to show for a requirement is said here in the words of the rules,
without the code that measures it. Evaluation gives a tree the truth value that it takes from its requirements; so
the order of items decides nothing, and an evaluation that fails shows a tree that is malformed.
-/
namespace Legality

namespace Snapshot

def Has (snapshot : Snapshot) (kind : AbilityKind) (name : String) : Prop :=
  ∃ owned ∈ snapshot.owned, owned.kind = kind ∧ (Text.key owned.name = Text.key name ∨ Text.key owned.id = Text.key name)

/-- Whether a character meets a requirement, by the rules. Talents of trees are counted by naming enough of them, each
of which the character owns and which may belong to any of the trees. -/
def Meets (snapshot : Snapshot) (exclude : Option String) : Condition → Prop
  | .feat name => snapshot.Has .feat name
  | .talent name => snapshot.Has .talent name
  | .talentsFromTree trees count =>
    ∃ counted : List OwnedAbility, counted.Sublist snapshot.owned ∧ counted.length = count.toNat ∧
      ∀ talent ∈ counted, talent.kind = .talent ∧ some talent.id ≠ exclude ∧
        ∃ tree ∈ trees, talent.tree.map Text.key = some (Text.key tree)
  | .abilityScore ability least => least.toNat ≤ (snapshot.abilities.score ability).toNat
  | .trainedSkill skill => ∃ trained ∈ SortedSet.toList snapshot.trainedSkills, Text.key trained = Text.key skill
  | .baseAttackBonus least => least.toInt ≤ snapshot.baseAttackBonus.toInt
  | .level least => least.toNat ≤ snapshot.level.toNat
  | .darkSideScore (.atLeast score) => score.toNat ≤ snapshot.darkSideScore.toNat
  | .darkSideScore .equalsWisdom => snapshot.abilities.wisdom.toNat ≤ snapshot.darkSideScore.toNat
  | .species allowed => allowed = [] ∨ ∃ name ∈ allowed, Text.key name = Text.key snapshot.species
  | .droidSystems systems => snapshot.isDroid = true ∧ ∀ system ∈ systems,
      ∃ installed ∈ SortedSet.toList snapshot.droidSystems, Text.key installed = Text.key system

variable {snapshot : Snapshot} {exclude : Option String}

theorem hasNamed_iff {kind : AbilityKind} {name : String} :
    snapshot.hasNamed kind name = true ↔ snapshot.Has kind name := by
  simp [hasNamed, Has]

theorem countsForTrees_iff {trees : List String} {owned : OwnedAbility} :
    countsForTrees trees exclude owned = true ↔ owned.kind = .talent ∧ some owned.id ≠ exclude ∧
      ∃ tree ∈ trees, owned.tree.map Text.key = some (Text.key tree) := by
  rw [countsForTrees]
  cases owned.tree with
  | none => simp
  | some tree => simp [and_assoc, eq_comm (a := Text.key tree)]

theorem le_countP_iff {test : OwnedAbility → Bool} {abilities : List OwnedAbility} {count : Nat} :
    count ≤ abilities.countP test ↔
      ∃ counted : List OwnedAbility, counted.Sublist abilities ∧ counted.length = count ∧
        ∀ ability ∈ counted, test ability = true := by
  constructor
  · intro enough
    refine ⟨(abilities.filter test).take count, ?_, ?_, ?_⟩
    · exact (List.take_sublist _ _).trans List.filter_sublist
    · rw [List.length_take, ← List.countP_eq_length_filter, Nat.min_eq_left enough]
    · intro ability member
      exact List.of_mem_filter (List.mem_of_mem_take member)
  · rintro ⟨counted, inside, rfl, passed⟩
    rw [← List.countP_eq_length.mpr passed]
    exact inside.countP_le

end Snapshot

namespace Condition

variable {snapshot : Snapshot} {exclude : Option String}

/-- A requirement is measured as met exactly if the character meets it. -/
theorem isMet_iff {leaf : Condition} : leaf.isMet snapshot exclude = true ↔ snapshot.Meets exclude leaf := by
  cases leaf with
  | feat name =>
    rw [isMet_feat]
    exact Snapshot.hasNamed_iff
  | talent name =>
    rw [isMet_talent]
    exact Snapshot.hasNamed_iff
  | talentsFromTree trees count =>
    rw [isMet_talentsFromTree, decide_eq_true_iff, Snapshot.talentsInTrees, Snapshot.le_countP_iff]
    simp only [Snapshot.countsForTrees_iff]
    exact Iff.rfl
  | abilityScore ability least =>
    rw [isMet_abilityScore, decide_eq_true_iff]
    exact UInt8.le_iff_toNat_le
  | trainedSkill skill =>
    rw [isMet_trainedSkill]
    simp [Snapshot.isTrainedIn, Snapshot.Meets]
  | baseAttackBonus least =>
    rw [isMet_baseAttackBonus, decide_eq_true_iff]
    exact Int32.le_iff_toInt_le
  | level least =>
    rw [isMet_level, decide_eq_true_iff]
    exact UInt32.le_iff_toNat_le
  | darkSideScore threshold =>
    cases threshold with
    | atLeast score =>
      rw [isMet_darkSide_atLeast, decide_eq_true_iff]
      exact UInt32.le_iff_toNat_le
    | equalsWisdom =>
      rw [isMet_darkSide_equalsWisdom, decide_eq_true_iff]
      exact Iff.rfl
  | species allowed =>
    rw [isMet_species]
    simp [Snapshot.Meets]
  | droidSystems systems =>
    rw [isMet_droidSystems]
    simp [Snapshot.Meets, Snapshot.hasSystem]

instance (leaf : Condition) : Decidable (snapshot.Meets exclude leaf) :=
  decidable_of_iff (leaf.isMet snapshot exclude = true) isMet_iff

theorem isMet_eq_decide : isMet snapshot exclude = fun leaf => decide (snapshot.Meets exclude leaf) := by
  funext leaf
  rw [Bool.eq_iff_iff, isMet_iff, decide_eq_true_iff]

end Condition

namespace Expression

/-- Trees that differ in the order of the items of their nodes and in nothing else. -/
inductive Rearranged : Expression → Expression → Prop
  | refl (tree : Expression) : Rearranged tree tree
  | trans {first second third : Expression} (before : Rearranged first second) (after : Rearranged second third) :
      Rearranged first third
  | all {items others : List Expression} (same : items.Perm others) : Rearranged (.all items) (.all others)
  | any {items others : List Expression} (same : items.Perm others) : Rearranged (.any items) (.any others)
  | withinAll (left right : List Expression) {item other : Expression} (inside : Rearranged item other) :
      Rearranged (.all (left ++ item :: right)) (.all (left ++ other :: right))
  | withinAny (left right : List Expression) {item other : Expression} (inside : Rearranged item other) :
      Rearranged (.any (left ++ item :: right)) (.any (left ++ other :: right))

theorem depthOfItems_append (left right : List Expression) :
    depthOfItems (left ++ right) = max (depthOfItems left) (depthOfItems right) := by
  induction left with
  | nil => simp [depthOfItems]
  | cons item rest ih => rw [List.cons_append, depthOfItems, depthOfItems, ih, Nat.max_assoc]

theorem depthOfItems_perm {items others : List Expression} (same : items.Perm others) :
    depthOfItems items = depthOfItems others := by
  induction same with
  | nil => rfl
  | cons item _ ih => rw [depthOfItems, depthOfItems, ih]
  | swap first second rest =>
    simp only [depthOfItems]
    exact Nat.max_left_comm _ _ _
  | trans _ _ first second => exact first.trans second

theorem offered_all {items : List Expression} :
    any [] ∉ (all items).subtrees ↔ ∀ item ∈ items, any [] ∉ item.subtrees := by
  simp [mem_subtrees_all]

theorem offered_any {items : List Expression} :
    any [] ∉ (any items).subtrees ↔ items ≠ [] ∧ ∀ item ∈ items, any [] ∉ item.subtrees := by
  simp [mem_subtrees_any, eq_comm]

namespace Rearranged

variable {tree other : Expression}

theorem holds (rearranged : Rearranged tree other) (value : Condition → Bool) :
    tree.holds value = other.holds value := by
  induction rearranged with
  | refl tree => rfl
  | trans _ _ first second => exact first.trans second
  | all same =>
    rw [holds_all, holds_all]
    exact same.all_eq
  | any same =>
    rw [holds_any, holds_any]
    exact same.any_eq
  | withinAll left right _ ih => simp only [holds_all, List.all_append, List.all_cons, ih]
  | withinAny left right _ ih => simp only [holds_any, List.any_append, List.any_cons, ih]

theorem depth (rearranged : Rearranged tree other) : tree.depth = other.depth := by
  induction rearranged with
  | refl tree => rfl
  | trans _ _ first second => exact first.trans second
  | all same | any same => rw [Expression.depth, Expression.depth, depthOfItems_perm same]
  | withinAll left right _ ih | withinAny left right _ ih =>
    simp only [Expression.depth, depthOfItems_append, depthOfItems, ih]

theorem offered (rearranged : Rearranged tree other) (offered : .any [] ∉ tree.subtrees) :
    .any [] ∉ other.subtrees := by
  induction rearranged with
  | refl tree => exact offered
  | trans _ _ first second => exact second (first offered)
  | all same =>
    rw [offered_all] at offered ⊢
    intro item member
    exact offered item (same.mem_iff.mpr member)
  | any same =>
    rw [offered_any] at offered ⊢
    constructor
    · rintro rfl
      exact offered.1 same.eq_nil
    · intro item member
      exact offered.2 item (same.mem_iff.mpr member)
  | withinAll left right _ ih =>
    rw [offered_all, List.forall_mem_append, List.forall_mem_cons] at offered ⊢
    exact ⟨offered.1, ih offered.2.1, offered.2.2⟩
  | withinAny left right _ ih =>
    rw [offered_any, List.forall_mem_append, List.forall_mem_cons] at offered ⊢
    exact ⟨List.append_ne_nil_of_right_ne_nil _ (List.cons_ne_nil _ _), offered.2.1, ih offered.2.2.1, offered.2.2.2⟩

end Rearranged

variable {snapshot : Snapshot} {exclude : Option String} {limit depth : Nat} {error : EvaluationError}

theorem outcomesAt_error {items : List Expression}
    (failed : outcomesAt snapshot exclude limit depth items = .error error) :
    ∃ item ∈ items, outcomeAt snapshot exclude limit depth item = .error error := by
  induction items with
  | nil => simp [outcomesAt] at failed
  | cons item rest ih =>
    rw [outcomesAt] at failed
    cases first : outcomeAt snapshot exclude limit depth item with
    | error fault =>
      simp only [first, Except.error.injEq] at failed
      exact ⟨item, List.mem_cons_self, failed ▸ first⟩
    | ok outcome =>
      cases later : outcomesAt snapshot exclude limit depth rest with
      | error fault =>
        simp only [first, later, Except.error.injEq] at failed
        obtain ⟨other, member, there⟩ := ih (failed ▸ later)
        exact ⟨other, List.mem_cons_of_mem _ member, there⟩
      | ok outcomes => simp [first, later] at failed

theorem failuresAt_error {items : List Expression}
    (failed : failuresAt snapshot exclude limit depth items = .error error) :
    ∃ item ∈ items, outcomeAt snapshot exclude limit depth item = .error error := by
  induction items with
  | nil => simp [failuresAt] at failed
  | cons item rest ih =>
    rw [failuresAt] at failed
    cases first : outcomeAt snapshot exclude limit depth item with
    | error fault =>
      simp only [first, Except.error.injEq] at failed
      exact ⟨item, List.mem_cons_self, failed ▸ first⟩
    | ok outcome =>
      cases verdict : outcome.satisfied with
      | true => simp [first, verdict] at failed
      | false =>
        cases later : failuresAt snapshot exclude limit depth rest with
        | error fault =>
          simp only [first, verdict, later, Bool.false_eq_true, if_false, Except.error.injEq] at failed
          obtain ⟨other, member, there⟩ := ih (failed ▸ later)
          exact ⟨other, List.mem_cons_of_mem _ member, there⟩
        | ok found => cases found <;> simp [first, verdict, later] at failed

/-- Whether an error shows in a tree whose root stands at a depth: some node has no alternative, or there is a level
more than the limit allows. -/
def Malformed (limit depth : Nat) (error : EvaluationError) (tree : Expression) : Prop :=
  (error = .emptyAlternatives ∧ any [] ∈ tree.subtrees) ∨
    (error = .depthExceeded limit ∧ limit + 1 < depth + tree.depth)

theorem depth_pos (tree : Expression) : 0 < tree.depth := by
  cases tree with
  | condition leaf => exact Nat.one_pos
  | all items | any items =>
    rw [Expression.depth]
    exact Nat.lt_add_right _ Nat.one_pos

theorem Malformed.deep (tree : Expression) (deep : limit < depth) :
    Malformed limit depth (.depthExceeded limit) tree := by
  have levels := tree.depth_pos
  exact .inr ⟨rfl, by omega⟩

theorem depth_lt_all {items : List Expression} {item : Expression} (member : item ∈ items) :
    item.depth < (all items).depth := by
  have below := depth_le_depthOfItems member
  rw [Expression.depth]
  omega

theorem depth_lt_any {items : List Expression} {item : Expression} (member : item ∈ items) :
    item.depth < (any items).depth := by
  have below := depth_le_depthOfItems member
  rw [Expression.depth]
  omega

theorem Malformed.of_item {tree item : Expression} (flaw : Malformed limit (depth + 1) error item)
    (inside : any [] ∈ item.subtrees → any [] ∈ tree.subtrees) (below : item.depth < tree.depth) :
    Malformed limit depth error tree := by
  rcases flaw with ⟨cause, empty⟩ | ⟨cause, deep⟩
  · exact .inl ⟨cause, inside empty⟩
  · exact .inr ⟨cause, by omega⟩

/-- An evaluation fails only where the tree shows why. -/
theorem outcomeAt_error {tree : Expression} (failed : outcomeAt snapshot exclude limit depth tree = .error error) :
    Malformed limit depth error tree := by
  induction tree generalizing depth with
  | condition leaf =>
    rw [outcomeAt] at failed
    split at failed
    next deep => exact Except.error.inj failed ▸ .deep _ deep
    next shallow => contradiction
  | all items ih =>
    rw [outcomeAt] at failed
    split at failed
    next deep => exact Except.error.inj failed ▸ .deep _ deep
    next shallow =>
      cases evaluated : outcomesAt snapshot exclude limit (depth + 1) items with
      | ok outcomes => simp [evaluated] at failed
      | error fault =>
        simp only [evaluated, Except.error.injEq] at failed
        obtain ⟨item, member, there⟩ := outcomesAt_error evaluated
        have flaw := ih item member (failed ▸ there)
        exact flaw.of_item (fun empty => mem_subtrees_all.mpr (.inr ⟨item, member, empty⟩)) (depth_lt_all member)
  | any items ih =>
    rw [outcomeAt] at failed
    split at failed
    next deep => exact Except.error.inj failed ▸ .deep _ deep
    next shallow =>
      split at failed
      next none =>
        rw [List.isEmpty_iff] at none
        exact .inl ⟨(Except.error.inj failed).symm, none ▸ mem_subtrees_any.mpr (.inl rfl)⟩
      next some =>
        cases searched : failuresAt snapshot exclude limit (depth + 1) items with
        | ok found => cases found <;> simp [searched] at failed
        | error fault =>
          simp only [searched, Except.error.injEq] at failed
          obtain ⟨item, member, there⟩ := failuresAt_error searched
          have flaw := ih item member (failed ▸ there)
          exact flaw.of_item (fun empty => mem_subtrees_any.mpr (.inr ⟨item, member, empty⟩)) (depth_lt_any member)

end Expression

namespace Evaluator

variable {evaluator : Evaluator} {snapshot : Snapshot} {exclude : Option String} {expression other : Expression}

/-- What a result says in terms of truth values: whether the tree holds of what is met, and whether it holds of what is
not out of reach. -/
theorem evaluate_flags {result : EvaluationResult}
    (evaluated : evaluator.evaluate snapshot expression exclude = .ok result) :
    result.satisfied = expression.holds (Condition.isMet snapshot exclude) ∧
      result.permanentlyBlocked = !expression.holds (Condition.isReachable snapshot exclude) := by
  have root := (evaluate_ok_iff.mp evaluated).1
  exact ⟨Expression.outcomeAt_satisfied root, Expression.outcomeAt_permanent root⟩

theorem evaluate_total (snapshot : Snapshot) (exclude : Option String) (offered : .any [] ∉ expression.subtrees)
    (shallow : expression.depth ≤ evaluator.maxDepth) :
    ∃ result, evaluator.evaluate snapshot expression exclude = .ok result := by
  have total : ∃ outcome, expression.outcomeAt snapshot exclude evaluator.maxDepth 1 = .ok outcome :=
    Expression.outcomeAt_total offered (by omega)
  obtain ⟨outcome, root⟩ := total
  obtain ⟨result, evaluated, -⟩ := evaluate_of_outcome root
  exact ⟨result, evaluated⟩

theorem evaluate_error {error : EvaluationError}
    (failed : evaluator.evaluate snapshot expression exclude = .error error) :
    Expression.Malformed evaluator.maxDepth 1 error expression := by
  rw [evaluate] at failed
  split at failed
  next fault root => exact Expression.outcomeAt_error (Except.error.inj failed ▸ root)
  next => contradiction

theorem evaluate_rearranged {result again : EvaluationResult} (rearranged : expression.Rearranged other)
    (evaluated : evaluator.evaluate snapshot expression exclude = .ok result)
    (evaluatedAgain : evaluator.evaluate snapshot other exclude = .ok again) :
    again.satisfied = result.satisfied ∧ again.permanentlyBlocked = result.permanentlyBlocked := by
  obtain ⟨satisfied, blocked⟩ := evaluate_flags evaluated
  obtain ⟨satisfiedAgain, blockedAgain⟩ := evaluate_flags evaluatedAgain
  rw [satisfied, satisfiedAgain, blocked, blockedAgain, rearranged.holds, rearranged.holds]
  exact ⟨rfl, rfl⟩

/-- Evaluation is logic. A tree that is shallow enough and always offers an alternative can be evaluated, it is
satisfied if it is true of the requirements that the character meets, and another order of its items changes neither
that nor whether it is blocked for good. An evaluation that fails has reached a node without an alternative or a level
beyond the limit. -/
theorem evaluate_truth (evaluator : Evaluator) (snapshot : Snapshot) (exclude : Option String)
    (expression : Expression) :
    (.any [] ∉ expression.subtrees → expression.depth ≤ evaluator.maxDepth →
      ∃ result, evaluator.evaluate snapshot expression exclude = .ok result ∧
        result.satisfied = expression.holds (fun leaf => decide (snapshot.Meets exclude leaf)) ∧
        ∀ other, expression.Rearranged other →
          ∃ again, evaluator.evaluate snapshot other exclude = .ok again ∧
            again.satisfied = result.satisfied ∧ again.permanentlyBlocked = result.permanentlyBlocked) ∧
      ∀ error, evaluator.evaluate snapshot expression exclude = .error error →
        (error = .emptyAlternatives ∧ .any [] ∈ expression.subtrees) ∨
          (error = .depthExceeded evaluator.maxDepth ∧ evaluator.maxDepth < expression.depth) := by
  constructor
  · intro offered shallow
    obtain ⟨result, evaluated⟩ := evaluate_total snapshot exclude offered shallow
    refine ⟨result, evaluated, ?_, ?_⟩
    · rw [← Condition.isMet_eq_decide]
      exact (evaluate_flags evaluated).1
    · intro other rearranged
      obtain ⟨again, evaluatedAgain⟩ :=
        evaluate_total snapshot exclude (rearranged.offered offered) (rearranged.depth ▸ shallow)
      exact ⟨again, evaluatedAgain, evaluate_rearranged rearranged evaluated evaluatedAgain⟩
  · intro error failed
    rcases evaluate_error failed with empty | ⟨cause, deep⟩
    · exact .inl empty
    · exact .inr ⟨cause, by omega⟩

def sentinel : Snapshot :=
  (Snapshot.blank "pc").acquire ⟨"acute-senses", "Acute Senses", .talent, some "Awareness", none⟩

def vigil : Expression :=
  .any [.talentsFrom ["Awareness", "awareness"] 2, .all [.condition (.species ["Human"]), .trained "Perception"]]

/-- The one talent counts once although both names of the tree are its own, also if the tree is read backwards. -/
theorem evaluate_truth_sentinel :
    ∃ again, standard.evaluate sentinel (.any [.all [.trained "Perception", .condition (.species ["Human"])],
        .talentsFrom ["Awareness", "awareness"] 2]) none = .ok again ∧
      again.satisfied = false ∧ again.permanentlyBlocked = false := by
  have offered : .any [] ∉ vigil.subtrees := by
    simp [vigil, Expression.subtrees, Expression.subtreesOfItems, Expression.talentsFrom, Expression.trained]
  have backwards : vigil.Rearranged (.any [.all [.trained "Perception", .condition (.species ["Human"])],
      .talentsFrom ["Awareness", "awareness"] 2]) :=
    .trans (.any (.swap _ _ _)) (.withinAny [] _ (.all (.swap _ _ _)))
  have evaluated : standard.evaluate sentinel vigil none = .ok (.failed
      ["One of: 2 talent(s) from: Awareness, awareness (you have 1) or " ++
        "Species: Human (you are unspecified) and Trained in Perception"] false) := by
    decide
  obtain ⟨result, found, -, same⟩ := (evaluate_truth standard sentinel none vigil).1 offered (by decide)
  obtain rfl := Except.ok.inj (evaluated.symm.trans found)
  exact same _ backwards

end Evaluator

end Legality
