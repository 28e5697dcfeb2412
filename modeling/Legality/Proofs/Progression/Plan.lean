import Legality.Proofs.Character.Validity
import Legality.Proofs.Progression.Effect

/-!
Plans. A plan that compiles is a run of its intents, each carried out on the character that the one before led to.
The plan of two lists of intents is the plan of the first, continued by the plan of the second from where the first
ends; what fails in the second fails later by as many steps as the first has intents, and what overflows in it still
overflows.
-/
namespace Legality

/-- A failure as it is reported when some steps come before its own. -/
def CompileFailure.delayed (steps : Nat) : CompileFailure → CompileFailure
  | reported (.atStep step fault) => reported (.atStep (steps + step) fault)
  | failure => failure

@[simp]
theorem CompileFailure.delayed_atStep (steps step : Nat) (failure : CompileFailure) :
    (failure.atStep step).delayed steps = failure.atStep (steps + step) := by
  cases failure <;> rfl

namespace Compiler

def Plan.followedBy (first second : Plan) : Plan := ⟨first.deltas ++ second.deltas, second.preview⟩

variable {compiler : Compiler} {snapshot after : Snapshot} {intent : Intent} {delta : Delta} {intents : List Intent}
  {plan : Plan} {step : Nat}

/-- An intent is carried out if it compiles and its effect is well-formed, and then it leads to that effect. -/
theorem advance_ok_iff : compiler.advance snapshot intent = .ok (delta, after) ↔
    compiler.compile snapshot intent = .ok delta ∧ (intent.effect compiler.rules snapshot).WellFormed ∧
      after = intent.effect compiler.rules snapshot := by
  rw [advance]
  cases compiled : compiler.compile snapshot intent with
  | error failure => simp
  | ok change =>
    rw [← Snapshot.checked_ok_iff]
    simp only [preview_of_compile compiled]
    cases (intent.effect compiler.rules snapshot).checked with
    | error fault => simp
    | ok reached => simp

/-- The runs of a compiler: what intents lead to when each of them is carried out after the one before. -/
inductive Run (compiler : Compiler) : Snapshot → List Intent → Plan → Prop
  | done (snapshot : Snapshot) : Run compiler snapshot [] ⟨[], snapshot⟩
  | step {snapshot after : Snapshot} {intent : Intent} {rest : List Intent} {delta : Delta} {plan : Plan}
      (advanced : compiler.advance snapshot intent = .ok (delta, after)) (later : Run compiler after rest plan) :
      Run compiler snapshot (intent :: rest) ⟨delta :: plan.deltas, plan.preview⟩

theorem planFrom_ok_iff : compiler.planFrom step snapshot intents = .ok plan ↔ compiler.Run snapshot intents plan := by
  induction intents generalizing step snapshot plan with
  | nil =>
    rw [planFrom, Except.ok.injEq]
    constructor
    · rintro rfl
      exact .done snapshot
    · rintro ⟨⟩
      rfl
  | cons intent rest ih =>
    rw [planFrom]
    constructor
    · intro planned
      cases advanced : compiler.advance snapshot intent with
      | error failure => simp [advanced] at planned
      | ok reached =>
        cases later : compiler.planFrom (step + 1) reached.2 rest with
        | error failure => simp [advanced, later] at planned
        | ok remainder =>
          simp only [advanced, later, Except.ok.injEq] at planned
          exact planned ▸ .step advanced (ih.mp later)
    · rintro (_ | ⟨advanced, later⟩)
      simp only [advanced, ih.mpr later]

theorem plan_ok_iff : compiler.plan snapshot intents = .ok plan ↔ compiler.Run snapshot intents plan :=
  planFrom_ok_iff

/-- Two lists of intents are planned one after the other, by induction on the first. -/
theorem planFrom_append (first second : List Intent) :
    compiler.planFrom step snapshot (first ++ second) =
      match compiler.planFrom step snapshot first with
      | .error failure => .error failure
      | .ok plan => (compiler.planFrom (step + first.length) plan.preview second).map plan.followedBy := by
  induction first generalizing step snapshot with
  | nil =>
    simp only [List.nil_append, planFrom, List.length_nil, Nat.add_zero]
    cases compiler.planFrom step snapshot second <;> rfl
  | cons intent rest ih =>
    rw [List.cons_append, planFrom, planFrom]
    cases compiler.advance snapshot intent with
    | error failure => rfl
    | ok reached =>
      have shifted : step + (intent :: rest).length = step + 1 + rest.length := by
        rw [List.length_cons]
        omega
      simp only [ih, shifted]
      cases compiler.planFrom (step + 1) reached.2 rest with
      | error failure => rfl
      | ok plan =>
        dsimp only
        cases compiler.planFrom (step + 1 + rest.length) plan.preview second <;> rfl

/-- The number of the first step shows in the errors and nowhere else. -/
theorem planFrom_delayed (steps : Nat) :
    compiler.planFrom (steps + step) snapshot intents =
      (compiler.planFrom step snapshot intents).mapError (CompileFailure.delayed steps) := by
  induction intents generalizing step snapshot with
  | nil => rfl
  | cons intent rest ih =>
    rw [planFrom, planFrom]
    cases compiler.advance snapshot intent with
    | error failure => simp only [Except.mapError, CompileFailure.delayed_atStep]
    | ok reached =>
      simp only [Nat.add_assoc, ih]
      cases compiler.planFrom (step + 1) reached.2 rest <;> rfl

theorem planFrom_error {failure : CompileFailure} (failed : compiler.planFrom step snapshot intents = .error failure) :
    ∃ passed inner, passed < intents.length ∧ failure = CompileFailure.atStep (step + passed) inner := by
  induction intents generalizing step snapshot failure with
  | nil => contradiction
  | cons intent rest ih =>
    rw [planFrom] at failed
    cases advanced : compiler.advance snapshot intent with
    | error inner =>
      simp only [advanced, Except.error.injEq] at failed
      exact ⟨0, inner, Nat.zero_lt_succ _, failed.symm⟩
    | ok reached =>
      cases later : compiler.planFrom (step + 1) reached.2 rest with
      | error inner =>
        simp only [advanced, later, Except.error.injEq] at failed
        obtain ⟨passed, cause, within, numbered⟩ := ih later
        refine ⟨passed + 1, cause, Nat.succ_lt_succ within, ?_⟩
        rw [← failed, numbered]
        congr 1
        omega
      | ok plan => simp [advanced, later] at failed

theorem plan_append_eq (compiler : Compiler) (snapshot : Snapshot) (first second : List Intent) :
    compiler.plan snapshot (first ++ second) =
      match compiler.plan snapshot first with
      | .error failure => .error failure
      | .ok plan =>
        ((compiler.plan plan.preview second).mapError (CompileFailure.delayed first.length)).map plan.followedBy := by
  simp only [Compiler.plan, planFrom_append, Nat.zero_add, ← planFrom_delayed, Nat.add_zero]

/-- Plans compose. What fails in the first list fails as before; after the first list, the second compiles as it does
from where the first ends. What fails in the second fails by the same error at a step that counts the first list too, and
an overflow in it is one of the whole. -/
theorem plan_append (compiler : Compiler) (snapshot : Snapshot) (first second : List Intent) :
    (∀ failure, compiler.plan snapshot first = .error failure →
        compiler.plan snapshot (first ++ second) = .error failure) ∧
      ∀ reached, compiler.plan snapshot first = .ok reached →
        (∀ whole, compiler.plan snapshot (first ++ second) = .ok whole ↔
          ∃ rest, compiler.plan reached.preview second = .ok rest ∧
            whole = ⟨reached.deltas ++ rest.deltas, rest.preview⟩) ∧
        (∀ error, compiler.plan snapshot (first ++ second) = .error (.reported error) ↔
          ∃ step inner, compiler.plan reached.preview second = .error (.reported (.atStep step inner)) ∧
            step < second.length ∧ error = .atStep (first.length + step) inner) ∧
        (compiler.plan snapshot (first ++ second) = .error .overflow ↔
          compiler.plan reached.preview second = .error .overflow) := by
  have composed := plan_append_eq compiler snapshot first second
  constructor
  · intro failure failed
    rw [composed, failed]
  · intro reached planned
    simp only [planned] at composed
    rw [composed]
    cases later : compiler.plan reached.preview second with
    | ok rest => simp [Except.mapError, Except.map, Plan.followedBy, eq_comm]
    | error failure =>
      obtain ⟨step, inner, within, numbered⟩ := planFrom_error later
      rw [Nat.zero_add] at numbered
      have delayed : failure.delayed first.length = inner.atStep (first.length + step) := by
        rw [numbered, CompileFailure.delayed_atStep]
      simp only [Except.mapError, Except.map, delayed]
      refine ⟨fun whole => by simp, ?_⟩
      cases inner with
      | overflow => simp [numbered, CompileFailure.atStep]
      | reported cause =>
        simp only [numbered, CompileFailure.atStep, Except.error.injEq, CompileFailure.reported.injEq,
          CompileError.atStep.injEq, reduceCtorEq, and_true]
        intro error
        constructor
        · rintro rfl
          exact ⟨step, cause, ⟨rfl, rfl⟩, within, rfl⟩
        · rintro ⟨other, another, ⟨rfl, rfl⟩, -, same⟩
          exact same.symm

end Compiler

end Legality
