import Legality.Integrity.Tracker
import Legality.Proofs.Progression.Plan

/-!
Lawful characters: those that qualify for everything they own. Intents that compile lead from lawful characters to
lawful characters, so that a tracker with the evaluator of the compiler finds nothing wrong with what was planned.
The compiler judges an ability before it is owned and leaves out nothing, the tracker afterwards and leaves out the
ability itself; the two agree because an ability that is new was not there to be counted.
-/
namespace Legality

/-- Whether every owned ability with a prerequisite is accepted, the ability itself left out. -/
def Snapshot.Lawful (evaluator : Evaluator) (snapshot : Snapshot) : Prop :=
  ∀ owned ∈ snapshot.owned, ∀ prerequisite, owned.prerequisite = some prerequisite →
    evaluator.Accepts snapshot (some owned.id) prerequisite

namespace Compiler

variable {compiler : Compiler} {snapshot after : Snapshot} {intent : Intent} {delta : Delta}

/-- One intent keeps a character lawful. What it owned is kept by growth; what is new qualified before. -/
theorem advance_lawful (lawful : snapshot.Lawful compiler.evaluator)
    (advanced : compiler.advance snapshot intent = .ok (delta, after)) : after.Lawful compiler.evaluator := by
  obtain ⟨compiled, -, rfl⟩ := advance_ok_iff.mp advanced
  have grows := effect_grows compiled
  have wisdom : (intent.effect compiler.rules snapshot).abilities.wisdom = snapshot.abilities.wisdom := by
    rw [Intent.effect_abilities]
  intro owned member prerequisite asks
  apply Evaluator.Accepts.grow _ grows wisdom
  rcases Intent.mem_owned_effect _ _ _ member with earlier | ⟨taken, fresh⟩
  · exact lawful owned earlier prerequisite asks
  · have qualified := content_accepted compiled taken asks
    exact qualified.exclude_fresh fresh

theorem planFrom_lawful {step : Nat} {intents : List Intent} {plan : Plan}
    (lawful : snapshot.Lawful compiler.evaluator) (planned : compiler.planFrom step snapshot intents = .ok plan) :
    plan.preview.Lawful compiler.evaluator := by
  have run : compiler.Run snapshot intents plan := planFrom_ok_iff.mp planned
  clear planned
  induction run with
  | done snapshot => exact lawful
  | step advanced later ih => exact ih (advance_lawful lawful advanced)

end Compiler

namespace Evaluator

variable {evaluator : Evaluator} {snapshot : Snapshot}

theorem violations_of_lawful (lawful : snapshot.Lawful evaluator) : evaluator.violations snapshot = [] := by
  apply List.filterMap_eq_nil_iff.mpr
  intro owned member
  rw [violation?]
  cases asks : owned.prerequisite with
  | none => rfl
  | some prerequisite =>
    obtain ⟨result, evaluated, satisfied⟩ := lawful owned member prerequisite asks
    simp only [evaluated, satisfied, if_true]

/-- A run over a lawful character that breaks no rule of shape reports nothing, whatever is stored. -/
theorem reevaluate_of_lawful (lawful : snapshot.Lawful evaluator) (valid : snapshot.fault? = none)
    (store : IntegrityStore) (now : Instant) :
    let report := (evaluator.reevaluate store snapshot.characterId snapshot now).1
    report.degraded = false ∧ report.violations = [] ∧ report.overall = .none := by
  have unobstructed : runFault? snapshot.characterId snapshot = none := by
    simp [runFault?, valid]
  simp only [reevaluate, unobstructed, violations_of_lawful lawful]
  exact ⟨rfl, rfl, rfl⟩

end Evaluator

namespace Compiler

/-- Plans create no violations. A lawful character is lawful after every plan that compiles, so a tracker that
evaluates as the compiler does reports nothing about the character that was planned. -/
theorem plan_lawful {compiler : Compiler} {snapshot : Snapshot} {intents : List Intent} {plan : Plan}
    (lawful : snapshot.Lawful compiler.evaluator) (planned : compiler.plan snapshot intents = .ok plan) :
    plan.preview.Lawful compiler.evaluator ∧
      (plan.preview.fault? = none → ∀ (store : IntegrityStore) (now : Instant),
        let report := (compiler.evaluator.reevaluate store plan.preview.characterId plan.preview now).1
        report.degraded = false ∧ report.violations = [] ∧ report.overall = .none) := by
  have kept := planFrom_lawful lawful planned
  constructor
  · exact kept
  · intro valid store now
    exact Evaluator.reevaluate_of_lawful kept valid store now

def awareness : RuleTable :=
  (RuleTable.empty.fileClass ⟨"scout", "Scout", false, none⟩).fileTalent
    ⟨"keen-shot", "Keen Shot", .talent, some "Awareness", some (.structured (.talentsFrom ["Awareness"] 1)), false⟩

def lookout : Snapshot :=
  ((Snapshot.blank "pc").train "Perception").acquire
    ⟨"acute-senses", "Acute Senses", .talent, some "Awareness", some (.structured (.trained "perception"))⟩

/-- The second talent counts for its own requirement, and without itself it still has the first. -/
theorem plan_lawful_lookout :
    ∃ plan, Compiler.plan ⟨awareness, .standard⟩ lookout [.levelUp "scout", .chooseTalent "keen-shot"] = .ok plan ∧
      plan.preview.Lawful .standard := by
  have lawful : lookout.Lawful .standard := by
    intro owned member prerequisite asks
    obtain rfl := List.mem_singleton.mp member
    obtain rfl := Option.some.inj asks
    exact ⟨.met, by decide, rfl⟩
  have compiles : (Compiler.plan ⟨awareness, .standard⟩ lookout
      [.levelUp "scout", .chooseTalent "keen-shot"]).isOk = true := by decide +kernel
  cases planned : Compiler.plan ⟨awareness, .standard⟩ lookout [.levelUp "scout", .chooseTalent "keen-shot"] with
  | error error =>
    rw [planned] at compiles
    contradiction
  | ok plan => exact ⟨plan, rfl, (plan_lawful lawful planned).1⟩

end Compiler

end Legality
