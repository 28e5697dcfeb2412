import Legality.Proofs.Enforcement.Severity
import Legality.Proofs.Prerequisite.Truth

/-!
The severity of evaluations. The parts of a result agree, so its severity tells whether it is satisfied and whether it is
blocked for good. A tree that asks for more is violated no less severely: dropping items of an ALL node and offering more
alternatives at an ANY node never make a violation worse.
-/
namespace Legality

namespace Expression

/-- Whether one tree asks for all that another asks for: where it is true, so is the other, whichever leaves are. -/
def Implies (strong weak : Expression) : Prop := ∀ value, strong.holds value = true → weak.holds value = true

theorem implies_all {items fewer : List Expression} (among : fewer ⊆ items) : Implies (.all items) (.all fewer) := by
  intro value held
  rw [holds_all, List.all_eq_true] at held ⊢
  exact fun item member => held item (among member)

theorem implies_any {items wider : List Expression} (among : items ⊆ wider) : Implies (.any items) (.any wider) := by
  intro value held
  rw [holds_any, List.any_eq_true] at held ⊢
  obtain ⟨item, member, here⟩ := held
  exact ⟨item, among member, here⟩

variable {snapshot : Snapshot} {exclude : Option String} {limit depth : Nat}

theorem outcomeAt_all_fewer {items fewer : List Expression} {outcome : Outcome} (among : fewer ⊆ items)
    (evaluated : outcomeAt snapshot exclude limit depth (.all items) = .ok outcome) :
    ∃ eased, outcomeAt snapshot exclude limit depth (.all fewer) = .ok eased ∧ eased.unmet ⊆ outcome.unmet := by
  obtain ⟨shallow, outcomes, each, rfl⟩ := outcomeAt_all_ok.mp evaluated
  obtain ⟨kept, eachKept⟩ := outcomesAt_total fun item member => outcomesAt_each each item (among member)
  refine ⟨.conjunction kept, outcomeAt_all_ok.mpr ⟨shallow, kept, eachKept, rfl⟩, ?_⟩
  intro line listed
  obtain ⟨failure, failed, mentions⟩ := Outcome.mem_conjunction_unmet.mp listed
  obtain ⟨member, unsatisfied⟩ := Outcome.mem_failures.mp failed
  obtain ⟨item, inside, here⟩ := (mem_outcomesAt eachKept).mp member
  have earlier : failure ∈ outcomes := (mem_outcomesAt each).mpr ⟨item, among inside, here⟩
  exact Outcome.mem_conjunction_unmet.mpr ⟨failure, Outcome.mem_failures.mpr ⟨earlier, unsatisfied⟩, mentions⟩

theorem outcomeAt_any_unmet {items : List Expression} {outcome : Outcome}
    (evaluated : outcomeAt snapshot exclude limit depth (.any items) = .ok outcome) : outcome.unmet.length ≤ 1 := by
  obtain ⟨-, -, found, -, rfl⟩ := outcomeAt_any_ok.mp evaluated
  cases found with
  | none => exact Nat.zero_le 1
  | some outcomes => exact Nat.le_refl 1

end Expression

namespace Evaluator

variable {evaluator : Evaluator} {snapshot : Snapshot} {exclude : Option String} {result eased : EvaluationResult}

/-- Of two trees the one that asks for less is not violated more severely, if it is not short of more lines. -/
theorem severityFor_le_of_implies {strong weak : Expression} (implies : strong.Implies weak)
    (evaluated : evaluator.evaluate snapshot strong exclude = .ok result)
    (evaluatedWeak : evaluator.evaluate snapshot weak exclude = .ok eased)
    (fewer : eased.unmetCount ≤ result.unmetCount) (kind : AbilityKind) :
    (eased.severityFor kind).rank ≤ (result.severityFor kind).rank := by
  obtain ⟨satisfied, blocked⟩ := evaluate_flags evaluated
  obtain ⟨satisfiedWeak, blockedWeak⟩ := evaluate_flags evaluatedWeak
  apply EvaluationResult.severityFor_mono
  apply EvaluationResult.severity_mono _ _ fewer
  · rw [satisfied, satisfiedWeak]
    exact implies _
  · rw [blocked, blockedWeak, Bool.not_eq_true', Bool.not_eq_true', ← Bool.not_eq_true, ← Bool.not_eq_true]
    exact mt (implies _)

theorem evaluate_all_fewer {items fewer : List Expression} (among : fewer ⊆ items)
    (evaluated : evaluator.evaluate snapshot (.all items) exclude = .ok result) :
    ∃ eased, evaluator.evaluate snapshot (.all fewer) exclude = .ok eased ∧ eased.unmet ⊆ result.unmet := by
  obtain ⟨outcome, root, kept⟩ := Expression.outcomeAt_all_fewer among (evaluate_ok_iff.mp evaluated).1
  obtain ⟨eased, evaluatedFewer, rfl⟩ := evaluate_of_outcome root
  exact ⟨eased, evaluatedFewer, kept⟩

theorem unmetCount_any_wider {items wider : List Expression} (among : items ⊆ wider)
    (evaluated : evaluator.evaluate snapshot (.any items) exclude = .ok result)
    (evaluatedWider : evaluator.evaluate snapshot (.any wider) exclude = .ok eased) :
    eased.unmetCount ≤ result.unmetCount := by
  by_cases silent : result.unmet = []
  · have satisfied : result.satisfied = true := (evaluate_coherent evaluated).satisfied_iff.mpr silent
    rw [(evaluate_flags evaluated).1] at satisfied
    have satisfiedWider : eased.satisfied = true :=
      (evaluate_flags evaluatedWider).1.trans (Expression.implies_any among _ satisfied)
    have nothing : eased.unmet = [] := (evaluate_coherent evaluatedWider).satisfied_iff.mp satisfiedWider
    rw [EvaluationResult.unmetCount, nothing]
    exact Nat.zero_le _
  · -- Alternatives of which none is met are listed in one line, however many there are.
    calc
      eased.unmetCount ≤ 1 := Expression.outcomeAt_any_unmet (evaluate_ok_iff.mp evaluatedWider).1
      _ ≤ result.unmetCount := List.length_pos_iff.mpr silent

/-- The coherence of results. A result is satisfied exactly if it lists nothing unmet, it is not satisfied and blocked at
once, and it lists no line twice. So, for an ability of any kind, nothing is wrong exactly if it is satisfied, and what is
wrong is structural exactly if it is blocked for good. -/
theorem result_coherent {prerequisite : Option Prerequisite}
    (evaluated : evaluator.evaluateOptional snapshot prerequisite exclude = .ok result) :
    (result.satisfied = true ↔ result.unmet = []) ∧
      (result.satisfied = true → result.permanentlyBlocked = false) ∧
      result.unmet.Nodup ∧
      ∀ kind, (result.severityFor kind = .none ↔ result.satisfied = true) ∧
        (result.severityFor kind = .structural ↔ result.permanentlyBlocked = true) := by
  have coherent := evaluateOptional_coherent evaluated
  refine ⟨coherent.satisfied_iff, coherent.reachable, coherent.nodup, fun kind => ⟨?_, ?_⟩⟩
  · rw [EvaluationResult.severityFor_none]
    exact and_iff_left_of_imp coherent.reachable
  · exact EvaluationResult.severityFor_structural

def apprentice : Snapshot := { Snapshot.blank "pc" with species := "Human", level := 1 }

def rite : Expression := .all [.condition (.species ["Wookiee"]), .level 7, .all [.level 1, .level 7]]

theorem result_coherent_apprentice :
    let result := EvaluationResult.failed
      ["Species: Wookiee (you are Human)", "Minimum level 7 (you are level 1)"] true
    standard.evaluateOptional apprentice (some (.structured rite)) none = .ok result ∧ result.unmet.Nodup ∧
      ∀ kind, result.severityFor kind = .structural := by
  intro result
  have evaluated : standard.evaluateOptional apprentice (some (.structured rite)) none = .ok result := by
    decide
  obtain ⟨-, -, nodup, graded⟩ := result_coherent evaluated
  exact ⟨evaluated, nodup, fun kind => (graded kind).2.mpr rfl⟩

/-- Severity follows the strength of what is asked for. An ALL node that can be evaluated can be evaluated with any of its
items left out, in whatever order the rest stand; then it lists no other line and is not violated more severely. An ANY
node that offers more alternatives is, if both can be evaluated, not violated more severely either. -/
theorem severity_follows_strength (evaluator : Evaluator) (snapshot : Snapshot) (exclude : Option String)
    (kind : AbilityKind) (items : List Expression) (result : EvaluationResult) :
    (evaluator.evaluate snapshot (.all items) exclude = .ok result →
      ∀ fewer : List Expression, fewer ⊆ items →
        ∃ eased, evaluator.evaluate snapshot (.all fewer) exclude = .ok eased ∧ eased.unmet ⊆ result.unmet ∧
          (eased.severityFor kind).rank ≤ (result.severityFor kind).rank) ∧
      (evaluator.evaluate snapshot (.any items) exclude = .ok result →
        ∀ wider : List Expression, items ⊆ wider →
          ∀ eased, evaluator.evaluate snapshot (.any wider) exclude = .ok eased →
            (eased.severityFor kind).rank ≤ (result.severityFor kind).rank) := by
  constructor
  · intro evaluated fewer among
    obtain ⟨eased, evaluatedFewer, kept⟩ := evaluate_all_fewer among evaluated
    have nodup : eased.unmet.Nodup := (evaluate_coherent evaluatedFewer).nodup
    -- The lines that are left are counted once each, so there are no more of them.
    have count : eased.unmetCount ≤ result.unmetCount := (List.subperm_of_subset nodup kept).length_le
    exact ⟨eased, evaluatedFewer, kept,
      severityFor_le_of_implies (Expression.implies_all among) evaluated evaluatedFewer count kind⟩
  · intro evaluated wider among eased evaluatedWider
    have count : eased.unmetCount ≤ result.unmetCount := unmetCount_any_wider among evaluated evaluatedWider
    exact severityFor_le_of_implies (Expression.implies_any among) evaluated evaluatedWider count kind

theorem severity_follows_strength_apprentice :
    (∃ eased, standard.evaluate apprentice (.all [.feat "Dodge", .level 7]) none = .ok eased ∧
      eased.unmet ⊆ ["Minimum level 7 (you are level 1)", "Trained in Stealth", "Feat: Dodge"] ∧
      (eased.severityFor .feat).rank ≤ Severity.error.rank) ∧
    ∀ eased, standard.evaluate apprentice (.any [.condition (.species ["Wookiee"]), .level 7]) none = .ok eased →
      (eased.severityFor .feat).rank ≤ Severity.warning.rank := by
  have all : standard.evaluate apprentice (.all [.level 7, .trained "Stealth", .level 7, .feat "Dodge"]) none =
      .ok (.failed ["Minimum level 7 (you are level 1)", "Trained in Stealth", "Feat: Dodge"] false) := by
    decide
  have any : standard.evaluate apprentice (.any [.level 7]) none =
      .ok (.failed ["One of: Minimum level 7 (you are level 1)"] false) := by
    decide
  constructor
  · exact (severity_follows_strength standard apprentice none .feat _ _).1 all _ (by simp)
  · exact (severity_follows_strength standard apprentice none .feat _ _).2 any _ (by simp)

end Evaluator

end Legality
