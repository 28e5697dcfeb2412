import Legality.Proofs.Data.SortedMap
import Legality.Proofs.Prerequisite.Meaning
import Mathlib.Data.List.Perm.Subperm

/-!
Evaluation of growing characters. A character that only gains keeps every requirement that it meets, and with
them every tree that can be evaluated and every tree that is satisfied. The search of an ANY node may end earlier
after growth, never later, so no error is found that was not found before.
-/
namespace Legality

/-- What a character gains when nothing is taken away from it. Wisdom may rise as well, although a dark side score
is measured against it; where that matters it is asked for separately. -/
structure Snapshot.Grows (before after : Snapshot) : Prop where
  level : before.level ≤ after.level
  baseAttackBonus : before.baseAttackBonus ≤ after.baseAttackBonus
  darkSideScore : before.darkSideScore ≤ after.darkSideScore
  scores : ∀ ability, before.abilities.score ability ≤ after.abilities.score ability
  species : after.species = before.species
  droid : before.isDroid = true → after.isDroid = true
  systems : SortedSet.toList before.droidSystems ⊆ SortedSet.toList after.droidSystems
  skills : SortedSet.toList before.trainedSkills ⊆ SortedSet.toList after.trainedSkills
  owned : List.Subperm before.owned after.owned

namespace Snapshot.Grows

theorem refl (snapshot : Snapshot) : Grows snapshot snapshot where
  level := UInt32.le_refl _
  baseAttackBonus := Int32.le_refl _
  darkSideScore := UInt32.le_refl _
  scores _ := UInt8.le_refl _
  species := rfl
  droid := id
  systems := List.Subset.refl _
  skills := List.Subset.refl _
  owned := List.Subperm.refl _

theorem trans {before between after : Snapshot} (first : Grows before between) (second : Grows between after) :
    Grows before after where
  level := UInt32.le_trans first.level second.level
  baseAttackBonus := Int32.le_trans first.baseAttackBonus second.baseAttackBonus
  darkSideScore := UInt32.le_trans first.darkSideScore second.darkSideScore
  scores ability := UInt8.le_trans (first.scores ability) (second.scores ability)
  species := second.species.trans first.species
  droid := second.droid ∘ first.droid
  systems := List.Subset.trans first.systems second.systems
  skills := List.Subset.trans first.skills second.skills
  owned := first.owned.trans second.owned

theorem acquire (snapshot : Snapshot) (ability : OwnedAbility) : Grows snapshot (snapshot.acquire ability) :=
  { refl snapshot with owned := (List.sublist_append_left _ _).subperm }

theorem train (snapshot : Snapshot) (skill : String) : Grows snapshot (snapshot.train skill) :=
  { refl snapshot with skills := fun _ member => SortedSet.mem_add.mpr (.inr member) }

variable {before after : Snapshot}

theorem hasNamed (grows : Grows before after) {kind : AbilityKind} {name : String}
    (named : before.hasNamed kind name = true) : after.hasNamed kind name = true := by
  obtain ⟨owned, member, same⟩ := List.any_eq_true.mp named
  exact List.any_eq_true.mpr ⟨owned, grows.owned.subset member, same⟩

theorem talentsInTrees (grows : Grows before after) (trees : List String) (exclude : Option String) :
    before.talentsInTrees trees exclude ≤ after.talentsInTrees trees exclude :=
  grows.owned.countP_le _

theorem isTrainedIn (grows : Grows before after) {skill : String} (trained : before.isTrainedIn skill = true) :
    after.isTrainedIn skill = true := by
  obtain ⟨other, member, same⟩ := List.any_eq_true.mp trained
  exact List.any_eq_true.mpr ⟨other, grows.skills member, same⟩

theorem hasSystem (grows : Grows before after) {system : String} (installed : before.hasSystem system = true) :
    after.hasSystem system = true := by
  obtain ⟨other, member, same⟩ := List.any_eq_true.mp installed
  exact List.any_eq_true.mpr ⟨other, grows.systems member, same⟩

/-- Growth loses no requirement that is met; a dark side score equal to Wisdom also needs Wisdom to stay. -/
theorem isMet (grows : Grows before after) {exclude : Option String} {leaf : Condition}
    (wisdom : leaf = .darkSideScore .equalsWisdom → after.abilities.wisdom = before.abilities.wisdom)
    (met : leaf.isMet before exclude = true) : leaf.isMet after exclude = true := by
  cases leaf with
  | feat name =>
    rw [Condition.isMet_feat] at met ⊢
    exact grows.hasNamed met
  | talent name =>
    rw [Condition.isMet_talent] at met ⊢
    exact grows.hasNamed met
  | talentsFromTree trees count =>
    rw [Condition.isMet_talentsFromTree, decide_eq_true_iff] at met ⊢
    exact Nat.le_trans met (grows.talentsInTrees trees exclude)
  | abilityScore ability least =>
    rw [Condition.isMet_abilityScore, decide_eq_true_iff] at met ⊢
    exact UInt8.le_trans met (grows.scores ability)
  | trainedSkill skill =>
    rw [Condition.isMet_trainedSkill] at met ⊢
    exact grows.isTrainedIn met
  | baseAttackBonus least =>
    rw [Condition.isMet_baseAttackBonus, decide_eq_true_iff] at met ⊢
    exact Int32.le_trans met grows.baseAttackBonus
  | level least =>
    rw [Condition.isMet_level, decide_eq_true_iff] at met ⊢
    exact UInt32.le_trans met grows.level
  | darkSideScore threshold =>
    cases threshold with
    | atLeast score =>
      rw [Condition.isMet_darkSide_atLeast, decide_eq_true_iff] at met ⊢
      exact UInt32.le_trans met grows.darkSideScore
    | equalsWisdom =>
      rw [Condition.isMet_darkSide_equalsWisdom, decide_eq_true_iff] at met ⊢
      rw [wisdom rfl]
      exact Nat.le_trans met (UInt32.le_iff_toNat_le.mp grows.darkSideScore)
  | species allowed =>
    rw [Condition.isMet_species] at met ⊢
    rw [grows.species]
    exact met
  | droidSystems systems =>
    rw [Condition.isMet_droidSystems, Bool.and_eq_true, List.all_eq_true] at met ⊢
    exact ⟨grows.droid met.1, fun system member => grows.hasSystem (met.2 system member)⟩

end Snapshot.Grows

namespace Expression
open Condition (isMet)

variable {before after : Snapshot} {excludeBefore excludeAfter : Option String} {limit depth : Nat}

/-- Where every item that is met stays met, the search reaches no item that it did not reach before. -/
theorem failuresAt_ok_of_each {items : List Expression} {found : Option (List Outcome)}
    (each : ∀ item ∈ items, ∀ outcome, outcomeAt before excludeBefore limit depth item = .ok outcome →
      ∃ later, outcomeAt after excludeAfter limit depth item = .ok later ∧
        (outcome.satisfied = true → later.satisfied = true))
    (searched : failuresAt before excludeBefore limit depth items = .ok found) :
    ∃ later, failuresAt after excludeAfter limit depth items = .ok later := by
  induction items generalizing found with
  | nil => exact ⟨some [], by rw [failuresAt]⟩
  | cons item rest ih =>
    rw [failuresAt] at searched
    cases first : outcomeAt before excludeBefore limit depth item with
    | error error => simp [first] at searched
    | ok outcome =>
      obtain ⟨here, later⟩ := List.forall_mem_cons.mp each
      obtain ⟨outcomeAfter, evaluated, kept⟩ := here outcome first
      rw [failuresAt, evaluated]
      cases verdict : outcomeAfter.satisfied with
      | true => exact ⟨none, by simp [verdict]⟩
      | false =>
        -- An item that is missed after growth was missed before it, so the first search went on as well.
        have missed : outcome.satisfied = false := by
          cases earlier : outcome.satisfied with
          | false => rfl
          | true => exact absurd ((kept earlier).symm.trans verdict) Bool.noConfusion
        cases tail : failuresAt before excludeBefore limit depth rest with
        | error error => simp [first, missed, tail] at searched
        | ok outcomes =>
          obtain ⟨rest, searchedRest⟩ := ih later tail
          cases rest with
          | none => exact ⟨none, by simp [verdict, searchedRest]⟩
          | some outcomes => exact ⟨some (outcomeAfter :: outcomes), by simp [verdict, searchedRest]⟩

theorem satisfied_mono {expression : Expression} {outcome later : Outcome}
    (rising : ∀ leaf ∈ expression.leaves, isMet before excludeBefore leaf = true →
      isMet after excludeAfter leaf = true)
    (evaluated : outcomeAt before excludeBefore limit depth expression = .ok outcome)
    (evaluatedLater : outcomeAt after excludeAfter limit depth expression = .ok later)
    (satisfied : outcome.satisfied = true) : later.satisfied = true := by
  rw [outcomeAt_satisfied evaluated] at satisfied
  rw [outcomeAt_satisfied evaluatedLater]
  exact holds_mono rising satisfied

theorem outcomeAt_ok_mono {expression : Expression} {outcome : Outcome}
    (rising : ∀ leaf ∈ expression.leaves, isMet before excludeBefore leaf = true →
      isMet after excludeAfter leaf = true)
    (evaluated : outcomeAt before excludeBefore limit depth expression = .ok outcome) :
    ∃ later, outcomeAt after excludeAfter limit depth expression = .ok later := by
  induction expression generalizing depth outcome with
  | condition leaf =>
    obtain ⟨shallow, -⟩ := outcomeAt_condition_ok.mp evaluated
    exact ⟨_, outcomeAt_condition_ok.mpr ⟨shallow, rfl⟩⟩
  | all items ih =>
    obtain ⟨shallow, outcomes, each, -⟩ := outcomeAt_all_ok.mp evaluated
    have eachLater : ∀ item ∈ items, ∃ later, outcomeAt after excludeAfter limit (depth + 1) item = .ok later := by
      intro item member
      obtain ⟨outcome, here⟩ := outcomesAt_each each item member
      apply ih item member _ here
      intro leaf inside
      exact rising leaf (mem_leaves_all.mpr ⟨item, member, inside⟩)
    obtain ⟨later, evaluatedLater⟩ := outcomesAt_total eachLater
    exact ⟨_, outcomeAt_all_ok.mpr ⟨shallow, later, evaluatedLater, rfl⟩⟩
  | any items ih =>
    obtain ⟨shallow, offered, found, searched, -⟩ := outcomeAt_any_ok.mp evaluated
    have eachLater : ∀ item ∈ items, ∀ outcome, outcomeAt before excludeBefore limit (depth + 1) item = .ok outcome →
        ∃ later, outcomeAt after excludeAfter limit (depth + 1) item = .ok later ∧
          (outcome.satisfied = true → later.satisfied = true) := by
      intro item member outcome here
      have risingHere : ∀ leaf ∈ item.leaves, isMet before excludeBefore leaf = true →
          isMet after excludeAfter leaf = true := by
        intro leaf inside
        exact rising leaf (mem_leaves_any.mpr ⟨item, member, inside⟩)
      obtain ⟨later, hereLater⟩ := ih item member risingHere here
      exact ⟨later, hereLater, satisfied_mono risingHere here hereLater⟩
    obtain ⟨later, searchedLater⟩ := failuresAt_ok_of_each eachLater searched
    exact ⟨_, outcomeAt_any_ok.mpr ⟨shallow, offered, later, searchedLater, rfl⟩⟩

end Expression

namespace Evaluator

variable {evaluator : Evaluator} {before after : Snapshot} {excludeBefore excludeAfter : Option String}

/-- Where every leaf that is met stays met, evaluation still succeeds, and a satisfied tree stays satisfied. -/
theorem evaluate_of_rising {expression : Expression} {result : EvaluationResult}
    (rising : ∀ leaf ∈ expression.leaves, leaf.isMet before excludeBefore = true →
      leaf.isMet after excludeAfter = true)
    (evaluated : evaluator.evaluate before expression excludeBefore = .ok result) :
    ∃ later, evaluator.evaluate after expression excludeAfter = .ok later ∧
      (result.satisfied = true → later.satisfied = true) := by
  obtain ⟨outcome, root, same, -⟩ := evaluate_ok evaluated
  obtain ⟨outcomeLater, rootLater⟩ := Expression.outcomeAt_ok_mono rising root
  obtain ⟨later, evaluatedLater, rfl⟩ := evaluate_of_outcome rootLater
  refine ⟨later, evaluatedLater, fun satisfied => ?_⟩
  exact Expression.satisfied_mono rising root rootLater (same ▸ satisfied)

/-- Growth loses neither an evaluation nor a satisfied prerequisite. Wisdom has to stay where a dark side score is
measured against it. -/
theorem evaluate_of_growth (grows : before.Grows after) (exclude : Option String) {expression : Expression}
    (wisdom : .darkSideScore .equalsWisdom ∈ expression.leaves → after.abilities.wisdom = before.abilities.wisdom)
    {result : EvaluationResult} (evaluated : evaluator.evaluate before expression exclude = .ok result) :
    ∃ later, evaluator.evaluate after expression exclude = .ok later ∧
      (result.satisfied = true → later.satisfied = true) := by
  apply evaluate_of_rising _ evaluated
  intro leaf inside
  apply grows.isMet
  intro same
  exact wisdom (same ▸ inside)

def fallen : Snapshot := { (Snapshot.blank "pc").train "Use the Force" with darkSideScore := 10 }

def forceUser : Expression :=
  .any [.feat "Force Sensitivity", .all [.trained "use the force", .condition (.darkSideScore .equalsWisdom)]]

/-- Growth may move the search for an alternative: the new feat ends it before Wisdom is read. -/
theorem evaluate_of_growth_fallen :
    ∃ later, standard.evaluate (fallen.acquire ⟨"force", "Force Sensitivity", .feat, none, none⟩) forceUser none =
      .ok later ∧ later.satisfied = true := by
  have before : standard.evaluate fallen forceUser none = .ok .met := by decide +kernel
  obtain ⟨later, evaluated, kept⟩ := evaluate_of_growth (.acquire fallen _) none (fun _ => rfl) before
  exact ⟨later, evaluated, kept rfl⟩

end Evaluator

end Legality
