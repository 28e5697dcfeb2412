import Legality.Progression.Compiler
import Legality.Proofs.Data.SortedMap
import Legality.Proofs.Prerequisite.Exclusion
import Legality.Proofs.Prerequisite.Growth

/-!
Acceptance: a prerequisite that can be evaluated and is satisfied. Rules text is accepted exactly when the tree
that it is read as is, so what holds of trees holds of either form.
-/
namespace Legality

def Prerequisite.tree : Prerequisite → Expression
  | .legacy text => (RulesText.read text).expression
  | .structured expression => expression

namespace Evaluator

variable {evaluator : Evaluator} {snapshot before after : Snapshot} {exclude : Option String}
  {prerequisite : Prerequisite}

/-- Whether a prerequisite can be evaluated for a character and is satisfied. -/
def Accepts (evaluator : Evaluator) (snapshot : Snapshot) (exclude : Option String)
    (prerequisite : Prerequisite) : Prop :=
  ∃ result, evaluator.evaluatePrerequisite snapshot prerequisite exclude = .ok result ∧ result.satisfied = true

theorem accepts_iff_tree :
    evaluator.Accepts snapshot exclude prerequisite ↔
      ∃ result, evaluator.evaluate snapshot prerequisite.tree exclude = .ok result ∧ result.satisfied = true := by
  cases prerequisite with
  | structured expression => exact Iff.rfl
  | legacy text =>
    simp only [Accepts, evaluatePrerequisite, Prerequisite.tree]
    cases evaluator.evaluate snapshot (RulesText.read text).expression exclude with
    | error fault => simp
    | ok result => simp

theorem Accepts.of_rising {excludeAfter : Option String} (accepted : evaluator.Accepts before exclude prerequisite)
    (rising : ∀ leaf ∈ prerequisite.tree.leaves, leaf.isMet before exclude = true →
      leaf.isMet after excludeAfter = true) : evaluator.Accepts after excludeAfter prerequisite := by
  rw [accepts_iff_tree] at accepted ⊢
  obtain ⟨result, evaluated, satisfied⟩ := accepted
  obtain ⟨later, evaluatedLater, kept⟩ := evaluate_of_rising rising evaluated
  exact ⟨later, evaluatedLater, kept satisfied⟩

/-- Growth keeps what was accepted, if Wisdom stays what it was. -/
theorem Accepts.grow (accepted : evaluator.Accepts before exclude prerequisite) (grows : before.Grows after)
    (wisdom : after.abilities.wisdom = before.abilities.wisdom) :
    evaluator.Accepts after exclude prerequisite := by
  apply accepted.of_rising
  intro leaf _
  apply grows.isMet
  intro _
  exact wisdom

/-- What a character qualifies for before it takes something new it still qualifies for with that left out. -/
theorem Accepts.exclude_fresh {id : String} (accepted : evaluator.Accepts snapshot none prerequisite)
    (fresh : snapshot.owns id = false) : evaluator.Accepts snapshot (some id) prerequisite := by
  have absent : ∀ owned ∈ snapshot.owned, owned.kind = .talent → owned.id ≠ id := by
    intro owned member _
    simpa using List.any_eq_false.mp fresh owned member
  rw [accepts_iff_tree] at accepted ⊢
  rw [evaluate_of_absent absent]
  exact accepted

end Evaluator

/-!
When intents compile, and to which deltas. Each compiled delta comes with every check that was passed on the way,
so that later modules need not follow the branches of the compiler again.
-/

theorem exists_of_isOk {ε α : Type} {result : Except ε α} (succeeds : result.isOk = true) :
    ∃ value, result = .ok value := by
  cases result with
  | error fault => contradiction
  | ok value => exact ⟨value, rfl⟩

theorem map_ok_iff {ε α β : Type} {result : Except ε α} {f : α → β} {b : β} :
    result.map f = .ok b ↔ ∃ a, result = .ok a ∧ f a = b := by
  cases result <;> simp [Except.map]

theorem mapError_ok_iff {ε φ α : Type} {result : Except ε α} {f : ε → φ} {a : α} :
    result.mapError f = .ok a ↔ result = .ok a := by
  cases result <;> simp [Except.mapError]

theorem Catalogue.id_of_find? {α : Type} {idOf : α → String} {catalogue : Catalogue α idOf} {id : String} {entry : α}
    (found : catalogue.find? id = some entry) : idOf entry = id :=
  catalogue.filed (id, entry) (SortedMap.mem_of_find? found)

namespace Compiler

variable {compiler : Compiler} {snapshot : Snapshot} {delta : Delta}

theorem unmet_none {found : Option Prerequisite} :
    compiler.unmet snapshot found = .ok none ↔
      ∀ prerequisite, found = some prerequisite → compiler.evaluator.Accepts snapshot none prerequisite := by
  cases found with
  | none => simp [unmet, Evaluator.evaluateOptional, EvaluationResult.met]
  | some prerequisite =>
    simp only [unmet, Evaluator.evaluateOptional, Evaluator.Accepts, Option.some.injEq, forall_eq']
    cases evaluated : compiler.evaluator.evaluatePrerequisite snapshot prerequisite none with
    | error fault => simp
    | ok result => simp

/-- A feat or a talent is taken if it is published, may be taken, and asks for nothing that is missing. -/
theorem takeAbility_ok {collection : Delta.Collection} {noun id : String} {found : Option AbilityDefinition} :
    compiler.takeAbility snapshot collection noun id found = .ok delta ↔
      ∃ definition, found = some definition ∧ snapshot.alreadyKnown? definition = none ∧
        compiler.unmet snapshot definition.prerequisite = .ok none ∧
        Delta.empty.adding collection.label id = delta := by
  cases found with
  | none => simp [takeAbility]
  | some definition =>
    simp only [takeAbility, Option.some.injEq, exists_eq_left']
    cases known : snapshot.alreadyKnown? definition with
    | some message => simp
    | none =>
      cases missing : compiler.unmet snapshot definition.prerequisite with
      | error error => simp
      | ok lines => cases lines <;> simp

theorem chooseSkill_ok {skill : String} :
    compiler.compile snapshot (.chooseSkill skill) = .ok delta ↔
      (Text.trim skill).isEmpty = false ∧ snapshot.alreadyTrained? (Text.trim skill) = none ∧
        (∃ left, snapshot.skillPointsAvailable? compiler.rules.houseRules = some left ∧ 0 < left) ∧
        Delta.empty.adding Delta.Collection.trainedSkills.label (Text.trim skill) = delta := by
  rw [compile, trainSkill]
  cases blank : (Text.trim skill).isEmpty with
  | true => simp
  | false =>
    cases trained : snapshot.alreadyTrained? (Text.trim skill) with
    | some message => simp
    | none =>
      cases snapshot.skillPointsAvailable? compiler.rules.houseRules with
      | none => simp
      | some left =>
        by_cases exhausted : left ≤ 0
        · simp [exhausted]
        · simp [exhausted, Int64.not_le.mp exhausted]

theorem levelUp_ok {classId : String} :
    compiler.compile snapshot (.levelUp classId) = .ok delta ↔
      ∃ definition, compiler.rules.classes.find? classId = some definition ∧
        compiler.unmet snapshot definition.prerequisite = .ok none ∧
        snapshot.level.toNat + 1 < UInt32.size ∧ (snapshot.classLevel classId).toNat + 1 < UInt32.size ∧
        levelDelta compiler.rules.houseRules classId (snapshot.level + 1) (snapshot.classLevel classId + 1) = delta := by
  rw [compile, mapError_ok_iff, gainLevel]
  cases published : compiler.rules.classes.find? classId with
  | none => simp
  | some definition =>
    simp only [Option.some.injEq, exists_eq_left']
    cases missing : compiler.unmet snapshot definition.prerequisite with
    | error error => simp
    | ok lines =>
      cases lines with
      | some lines => simp
      | none =>
        simp only [nextLevel]
        by_cases levelBelow : snapshot.level.toNat + 1 < UInt32.size
        · by_cases classBelow : (snapshot.classLevel classId).toNat + 1 < UInt32.size
          · simp [levelBelow, classBelow]
          · simp [levelBelow, classBelow]
        · simp [levelBelow]

end Compiler

end Legality
