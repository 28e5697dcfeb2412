import Legality.Proofs.Data.SortedMap
import Legality.Proofs.Prerequisite.Meaning
import Mathlib.Tactic.Common

/-!
Permanent blocks. A prerequisite is reported as blocked for good exactly when no character of the same species and
chassis meets it, whatever else that character has. One direction follows from the meaning of a tree; for the
other, one character is built that has acquired everything that any leaf of the tree asks for.
-/
namespace Legality

namespace Condition

def countedId (exclude : Option String) : String := if exclude = some "0" then "1" else "0"

theorem countedId_ne (exclude : Option String) : some (countedId exclude) ≠ exclude := by
  unfold countedId
  split
  next zero => simp [zero]
  next other => exact fun same => other same.symm

def abilities (exclude : Option String) : Condition → List OwnedAbility
  | feat name => [⟨name, name, .feat, none, none⟩]
  | talent name => [⟨name, name, .talent, none, none⟩]
  | talentsFromTree (tree :: _) count =>
    List.replicate count.toNat ⟨countedId exclude, "", .talent, some tree, none⟩
  | _ => []

def training : Condition → List String
  | trainedSkill skill => [skill]
  | _ => []

def systems : Condition → List String
  | droidSystems systems => systems
  | _ => []

end Condition

/-- A character as good as one can get: every number is the greatest of its type, and every ability, skill and
system that some requirement asks for is there. Species and chassis are those of another character. -/
def Snapshot.accomplished (like : Snapshot) (exclude : Option String) (leaves : List Condition) : Snapshot :=
  { like with
    level := 0xFFFFFFFF
    baseAttackBonus := Int32.maxValue
    abilities := Scores.uniform 0xFF
    darkSideScore := 0xFFFFFFFF
    droidSystems := SortedSet.ofList (leaves.flatMap Condition.systems)
    owned := leaves.flatMap (Condition.abilities exclude)
    trainedSkills := SortedSet.ofList (leaves.flatMap Condition.training) }

namespace Snapshot

variable {like : Snapshot} {exclude : Option String} {leaves : List Condition}

theorem accomplished_hasNamed {kind : AbilityKind} {name : String} {leaf : Condition} (member : leaf ∈ leaves)
    (given : leaf.abilities exclude = [⟨name, name, kind, none, none⟩]) :
    (like.accomplished exclude leaves).hasNamed kind name = true := by
  refine List.any_eq_true.mpr ⟨⟨name, name, kind, none, none⟩, ?_, by simp⟩
  exact List.mem_flatMap.mpr ⟨leaf, member, given ▸ List.mem_singleton.mpr rfl⟩

theorem accomplished_talentsInTrees {tree : String} {others : List String} {count : UInt32}
    (member : .talentsFromTree (tree :: others) count ∈ leaves) :
    count.toNat ≤ (like.accomplished exclude leaves).talentsInTrees (tree :: others) exclude := by
  have counted : countsForTrees (tree :: others) exclude
      ⟨Condition.countedId exclude, "", .talent, some tree, none⟩ = true := by
    simp [countsForTrees, Condition.countedId_ne]
  have inside : List.Sublist (Condition.abilities exclude (.talentsFromTree (tree :: others) count))
      (like.accomplished exclude leaves).owned := by
    rw [accomplished, List.flatMap]
    exact List.sublist_flatten_of_mem (List.mem_map_of_mem member)
  calc
    count.toNat = (Condition.abilities exclude (.talentsFromTree (tree :: others) count)).countP
        (countsForTrees (tree :: others) exclude) := by
      rw [Condition.abilities, List.countP_replicate, if_pos counted]
    _ ≤ _ := inside.countP_le

theorem accomplished_isTrainedIn {skill : String} (member : .trainedSkill skill ∈ leaves) :
    (like.accomplished exclude leaves).isTrainedIn skill = true := by
  refine List.any_eq_true.mpr ⟨skill, SortedSet.mem_ofList.mpr ?_, beq_self_eq_true _⟩
  exact List.mem_flatMap.mpr ⟨_, member, List.mem_singleton.mpr rfl⟩

theorem accomplished_hasSystem {systems : List String} (member : .droidSystems systems ∈ leaves) :
    ∀ system ∈ systems, (like.accomplished exclude leaves).hasSystem system = true := by
  intro system inside
  refine List.any_eq_true.mpr ⟨system, SortedSet.mem_ofList.mpr ?_, beq_self_eq_true _⟩
  exact List.mem_flatMap.mpr ⟨_, member, inside⟩

theorem accomplished_score (ability : Ability) :
    (like.accomplished exclude leaves).abilities.score ability = 0xFF := by
  cases ability <;> rfl

theorem le_greatest (number : UInt32) : number ≤ 0xFFFFFFFF := by
  rw [UInt32.le_iff_toNat_le, show (0xFFFFFFFF : UInt32).toNat = 2 ^ 32 - 1 from rfl]
  have below := number.toNat_lt
  omega

/-- The accomplished character meets every requirement that was within reach, all of them at once. -/
theorem accomplished_isMet {leaf : Condition} (member : leaf ∈ leaves)
    (named : ∀ trees count, leaf = .talentsFromTree trees count → 0 < count → trees ≠ [])
    (reachable : leaf.isReachable like exclude = true) :
    leaf.isMet (like.accomplished exclude leaves) exclude = true := by
  cases leaf with
  | feat name =>
    rw [Condition.isMet_feat]
    exact accomplished_hasNamed member rfl
  | talent name =>
    rw [Condition.isMet_talent]
    exact accomplished_hasNamed member rfl
  | talentsFromTree trees count =>
    rw [Condition.isMet_talentsFromTree, decide_eq_true_iff]
    cases trees with
    | nil =>
      have none : ¬ 0 < count := fun positive => named [] count rfl positive rfl
      have zero : count.toNat = 0 := by
        simpa [UInt32.lt_iff_toNat_lt] using none
      omega
    | cons tree others => exact accomplished_talentsInTrees member
  | abilityScore ability least =>
    rw [Condition.isMet_abilityScore, decide_eq_true_iff, accomplished_score, UInt8.le_iff_toNat_le]
    exact Nat.le_of_lt_succ least.toNat_lt
  | trainedSkill skill =>
    rw [Condition.isMet_trainedSkill]
    exact accomplished_isTrainedIn member
  | baseAttackBonus least =>
    rw [Condition.isMet_baseAttackBonus, decide_eq_true_iff, Int32.le_iff_toInt_le]
    exact least.toInt_le
  | level least =>
    rw [Condition.isMet_level, decide_eq_true_iff]
    exact le_greatest least
  | darkSideScore threshold =>
    cases threshold with
    | atLeast score =>
      rw [Condition.isMet_darkSide_atLeast, decide_eq_true_iff]
      exact le_greatest score
    | equalsWisdom =>
      rw [Condition.isMet_darkSide_equalsWisdom, decide_eq_true_iff]
      exact (by decide : (0xFF : UInt8).toNat ≤ (0xFFFFFFFF : UInt32).toNat)
  | species allowed =>
    rw [Condition.isReachable_species, Condition.isMet_species] at reachable
    rw [Condition.isMet_species]
    exact reachable
  | droidSystems systems =>
    rw [Condition.isReachable_droidSystems] at reachable
    rw [Condition.isMet_droidSystems, Bool.and_eq_true, List.all_eq_true]
    exact ⟨reachable, accomplished_hasSystem member⟩

end Snapshot

namespace Evaluator

variable {evaluator : Evaluator} {snapshot : Snapshot} {exclude : Option String} {expression : Expression}

theorem holds_reachable_of_satisfied {other : Snapshot} {reached : EvaluationResult}
    (sameSpecies : other.species = snapshot.species) (sameChassis : other.isDroid = snapshot.isDroid)
    (evaluated : evaluator.evaluate other expression exclude = .ok reached) (satisfied : reached.satisfied = true) :
    expression.holds (Condition.isReachable snapshot exclude) = true := by
  obtain ⟨outcome, root, same, -⟩ := evaluate_ok evaluated
  rw [same, Expression.outcomeAt_satisfied root] at satisfied
  apply Expression.holds_mono _ satisfied
  intro leaf _ met
  rw [← Condition.isReachable_congr sameSpecies sameChassis]
  exact Condition.isReachable_of_isMet met

theorem satisfied_of_holds_reachable (offered : .any [] ∉ expression.subtrees)
    (shallow : expression.depth ≤ evaluator.maxDepth)
    (named : ∀ trees count, .talentsFromTree trees count ∈ expression.leaves → 0 < count → trees ≠ [])
    (held : expression.holds (Condition.isReachable snapshot exclude) = true) :
    ∃ reached, evaluator.evaluate (snapshot.accomplished exclude expression.leaves) expression exclude = .ok reached ∧
      reached.satisfied = true := by
  have total : ∃ outcome, expression.outcomeAt (snapshot.accomplished exclude expression.leaves) exclude
      evaluator.maxDepth 1 = .ok outcome := Expression.outcomeAt_total offered (by omega)
  obtain ⟨outcome, root⟩ := total
  obtain ⟨reached, evaluated, rfl⟩ := evaluate_of_outcome root
  refine ⟨reached, evaluated, (Expression.outcomeAt_satisfied root).trans ?_⟩
  apply Expression.holds_mono _ held
  intro leaf inside reachable
  apply Snapshot.accomplished_isMet inside _ reachable
  intro trees count same
  exact named trees count (same ▸ inside)

/-- A prerequisite is blocked for good exactly when no character of the same species and chassis meets it. -/
theorem permanentlyBlocked_iff (offered : .any [] ∉ expression.subtrees)
    (shallow : expression.depth ≤ evaluator.maxDepth)
    (named : ∀ trees count, .talentsFromTree trees count ∈ expression.leaves → 0 < count → trees ≠ [])
    {result : EvaluationResult} (evaluated : evaluator.evaluate snapshot expression exclude = .ok result)
    (unsatisfied : result.satisfied = false) :
    result.permanentlyBlocked = true ↔
      ¬ ∃ other : Snapshot, other.species = snapshot.species ∧ other.isDroid = snapshot.isDroid ∧
        ∃ reached, evaluator.evaluate other expression exclude = .ok reached ∧ reached.satisfied = true := by
  obtain ⟨outcome, root, -, blocked⟩ := evaluate_ok evaluated
  rw [blocked unsatisfied, Expression.outcomeAt_permanent root, Bool.not_eq_true']
  constructor
  · rintro unreachable ⟨other, sameSpecies, sameChassis, reached, evaluatedOther, satisfied⟩
    have held := holds_reachable_of_satisfied sameSpecies sameChassis evaluatedOther satisfied
    exact absurd (unreachable.symm.trans held) Bool.noConfusion
  · intro nobody
    by_contra possible
    have held := satisfied_of_holds_reachable offered shallow named (Bool.not_eq_false _ ▸ possible)
    exact nobody ⟨snapshot.accomplished exclude expression.leaves, rfl, rfl, held⟩

def human : Snapshot := { Snapshot.blank "pc" with species := "Human", level := 20 }

def exclusive : Expression :=
  .any [.condition (.droidSystems ["Heuristic Processor"]),
    .all [.condition (.species ["Wookiee", "Ewok"]), .level 7, .talentsFrom ["Awareness"] 2]]

/-- No human who is not a droid ever gets there, although level and talents are within reach. -/
theorem permanentlyBlocked_iff_human :
    ¬ ∃ other : Snapshot, other.species = human.species ∧ other.isDroid = human.isDroid ∧
      ∃ reached, standard.evaluate other exclusive none = .ok reached ∧ reached.satisfied = true := by
  have evaluated : standard.evaluate human exclusive none = .ok (.failed
      ["One of: Droid system(s): Heuristic Processor (not a droid) or " ++
        "Species: Wookiee or Ewok (you are Human) and 2 talent(s) from: Awareness (you have 0)"] true) := by
    decide +kernel
  have offered : .any [] ∉ exclusive.subtrees := by
    simp [exclusive, Expression.subtrees, Expression.subtreesOfItems, Expression.level, Expression.talentsFrom]
  have named : ∀ trees count, .talentsFromTree trees count ∈ exclusive.leaves → 0 < count → trees ≠ [] := by
    simp [exclusive, Expression.level, Expression.talentsFrom]
  exact (permanentlyBlocked_iff offered (by decide) named evaluated rfl).mp rfl

end Evaluator

end Legality
