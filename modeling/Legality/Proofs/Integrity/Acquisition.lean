import Legality.Proofs.Integrity.Report
import Legality.Proofs.Integrity.Restoration
import Legality.Proofs.Progression.Independence

/-!
The order of acquisition. A character is measured by which abilities it owns and by how many of them, never by which came
first, and the violations of a run are filed by ability. So evaluation, compilation and tracking treat characters alike
that acquired the same abilities in another order.
-/
namespace Legality

namespace Snapshot.SameButOrder

variable {snapshot other : Snapshot} {exclude : Option String}

theorem owns (same : snapshot.SameButOrder other) (id : String) : snapshot.owns id = other.owns id :=
  same.1.any_eq

theorem hasNamed (same : snapshot.SameButOrder other) (kind : AbilityKind) (name : String) :
    snapshot.hasNamed kind name = other.hasNamed kind name :=
  same.1.any_eq

theorem talentsInTrees (same : snapshot.SameButOrder other) (trees : List String) (exclude : Option String) :
    snapshot.talentsInTrees trees exclude = other.talentsInTrees trees exclude :=
  same.1.countP_eq _

theorem check (same : snapshot.SameButOrder other) (leaf : Condition) :
    leaf.check snapshot exclude = leaf.check other exclude := by
  -- Two kinds of leaves look at the list of abilities, one by name and one by count; the fields are shared.
  cases leaf with
  | feat name | talent name => simp only [Condition.check, same.hasNamed]
  | talentsFromTree trees count => simp only [Condition.check, same.talentsInTrees]
  | _ =>
    rw [same.2]
    rfl

theorem evaluatePrerequisite (same : snapshot.SameButOrder other) (evaluator : Evaluator) (prerequisite : Prerequisite) :
    evaluator.evaluatePrerequisite snapshot prerequisite exclude =
      evaluator.evaluatePrerequisite other prerequisite exclude := by
  have trees (expression : Expression) :
      evaluator.evaluate snapshot expression exclude = evaluator.evaluate other expression exclude :=
    Evaluator.evaluate_congr same.check expression
  cases prerequisite with
  | structured expression => exact trees expression
  | legacy text => simp only [Evaluator.evaluatePrerequisite, trees]

theorem alreadyKnown? (same : snapshot.SameButOrder other) (definition : AbilityDefinition) :
    snapshot.alreadyKnown? definition = other.alreadyKnown? definition := by
  rw [Snapshot.alreadyKnown?, Snapshot.alreadyKnown?, same.owns]

theorem compile (same : snapshot.SameButOrder other) (compiler : Compiler) (intent : Intent) :
    compiler.compile snapshot intent = compiler.compile other intent := by
  have unmet (prerequisite : Option Prerequisite) :
      compiler.unmet snapshot prerequisite = compiler.unmet other prerequisite := by
    cases prerequisite with
    | none => rfl
    | some prerequisite => simp only [Compiler.unmet, Evaluator.evaluateOptional, same.evaluatePrerequisite]
  cases intent with
  | chooseFeat id | chooseTalent id =>
    simp only [Compiler.compile, Compiler.takeAbility, same.alreadyKnown?, unmet]
  | chooseSkill skill =>
    rw [same.2]
    rfl
  | levelUp classId =>
    have level : snapshot.level = other.level := by rw [same.2]
    have classLevel : snapshot.classLevel classId = other.classLevel classId := by
      rw [same.2]
      rfl
    simp only [Compiler.compile, Compiler.gainLevel, unmet, level, classLevel]

theorem symm (same : snapshot.SameButOrder other) : other.SameButOrder snapshot := by
  refine ⟨same.1.symm, ?_⟩
  rw [same.2]

theorem wellFormed (same : snapshot.SameButOrder other) (well : snapshot.WellFormed) : other.WellFormed := by
  have distinct := (same.1.map OwnedAbility.id).nodup_iff.mp well.distinct
  have identified : ∀ owned ∈ other.owned, Text.isBlankText owned.id = false :=
    fun owned member => well.identified owned (same.1.mem_iff.mpr member)
  rw [same.2] at well
  exact { well with identified := identified, distinct := distinct }

theorem fault?_eq_none_iff (same : snapshot.SameButOrder other) : snapshot.fault? = none ↔ other.fault? = none := by
  rw [Snapshot.fault?_eq_none_iff, Snapshot.fault?_eq_none_iff]
  exact ⟨same.wellFormed, same.symm.wellFormed⟩

theorem violations (same : snapshot.SameButOrder other) (evaluator : Evaluator) :
    (evaluator.violations snapshot).Perm (evaluator.violations other) := by
  have each : evaluator.violation? snapshot = evaluator.violation? other := by
    funext owned
    simp only [Evaluator.violation?, same.evaluatePrerequisite]
  rw [Evaluator.violations, Evaluator.violations, each]
  exact same.1.filterMap _

/-- The abilities of a character that breaks no rule have different ids, so the order in which they are filed is lost. -/
theorem run (same : snapshot.SameButOrder other) (evaluator : Evaluator) (well : snapshot.WellFormed)
    (characterId : String) (now : Instant) :
    IntegritySnapshot.ofList characterId now (evaluator.violations snapshot) =
      IntegritySnapshot.ofList characterId now (evaluator.violations other) :=
  IntegritySnapshot.ofList_eq_of_perm (Evaluator.violations_distinct well) (same.violations evaluator) characterId now

/-- Trackers with the same latest run report the same, whenever each is asked. -/
theorem reevaluate (same : snapshot.SameButOrder other) (evaluator : Evaluator) {store another : IntegrityStore}
    (sound : store.Sound) (anotherSound : another.Sound) {characterId : String}
    (stored : store.current? characterId = another.current? characterId) (now later : Instant) :
    (evaluator.reevaluate store characterId snapshot now).1.undated =
      (evaluator.reevaluate another characterId other later).1.undated := by
  have named : snapshot.characterId = other.characterId := by rw [same.2]
  rw [TrackerCall.reevaluate_undated sound, TrackerCall.reevaluate_undated anotherSound, stored, named]
  simp only [same.fault?_eq_none_iff]
  split
  next admitted =>
    have well : snapshot.WellFormed := Snapshot.fault?_eq_none_iff.mp (same.fault?_eq_none_iff.mpr admitted.1)
    rw [same.run evaluator well]
  next refused => rfl

end Snapshot.SameButOrder

/-- The order of acquisition does not matter. For characters that own the same abilities in different orders and are
otherwise the same, every prerequisite evaluates to the same result or the same error, every intent compiles to the same
delta or the same error by every rule table, and trackers that keep the same run of them make the same report, apart from
its time: the same violations, summary, differences and overall severity. -/
theorem Snapshot.order_of_acquisition {snapshot other : Snapshot} (same : snapshot.SameButOrder other) :
    (∀ (evaluator : Evaluator) (prerequisite : Prerequisite) (exclude : Option String),
        evaluator.evaluatePrerequisite snapshot prerequisite exclude =
          evaluator.evaluatePrerequisite other prerequisite exclude) ∧
      (∀ (compiler : Compiler) (intent : Intent), compiler.compile snapshot intent = compiler.compile other intent) ∧
      ∀ (evaluator : Evaluator) (calls others : List TrackerCall) (characterId : String) (now later : Instant),
        let store := TrackerCall.after evaluator calls
        let another := TrackerCall.after evaluator others
        store.current? characterId = another.current? characterId →
          (evaluator.reevaluate store characterId snapshot now).1.undated =
            (evaluator.reevaluate another characterId other later).1.undated := by
  refine ⟨fun evaluator prerequisite exclude => same.evaluatePrerequisite evaluator prerequisite, same.compile, ?_⟩
  intro evaluator calls others characterId now later store another stored
  have sound : store.Sound := (TrackerCall.Tracks.after evaluator calls).sound
  have anotherSound : another.Sound := (TrackerCall.Tracks.after evaluator others).sound
  exact same.reevaluate evaluator sound anotherSound stored now later

def latecomer : Snapshot := { Evaluator.impostor with owned := Evaluator.impostor.owned.reverse }

theorem Snapshot.order_of_acquisition_latecomer :
    Evaluator.impostor.SameButOrder latecomer ∧
      Evaluator.standard.evaluatePrerequisite latecomer (.structured (.talentsFrom ["Awareness"] 1)) none = .ok .met ∧
      (Evaluator.standard.reevaluate .empty "pc" latecomer ⟨5, 0⟩).1.violations.map Violation.abilityId =
        ["keen-eye", "rage", "veteran"] := by
  have same : Evaluator.impostor.SameButOrder latecomer := ⟨(List.reverse_perm _).symm, rfl⟩
  obtain ⟨evaluates, -, reports⟩ := Snapshot.order_of_acquisition same
  have counted : Evaluator.standard.evaluatePrerequisite Evaluator.impostor
      (.structured (.talentsFrom ["Awareness"] 1)) none = .ok .met := by
    decide
  have found : (Evaluator.standard.reevaluate .empty "pc" Evaluator.impostor ⟨0, 0⟩).1.violations.map
      Violation.abilityId = ["keen-eye", "rage", "veteran"] := by
    decide
  have reported := congrArg IntegrityReport.violations (reports .standard [] [] "pc" ⟨0, 0⟩ ⟨5, 0⟩ rfl)
  exact ⟨same, (evaluates _ _ _).symm.trans counted,
    (congrArg (List.map Violation.abilityId) reported).symm.trans found⟩

end Legality
