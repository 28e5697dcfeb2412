import Legality.Enforcement.Severity
import Mathlib.Tactic.SplitIfs

/-!
Severities. Nothing is wrong only with what is satisfied and not blocked, and the overall severity of some violations is
the greatest among them.
-/
namespace Legality

namespace EvaluationResult

variable {result weaker stronger : EvaluationResult} {kind : AbilityKind}

theorem severity_eq_none_iff :
    result.severity = .none ↔ result.satisfied = true ∧ result.permanentlyBlocked = false := by
  unfold severity
  split_ifs <;> simp_all

theorem severity_eq_structural_iff : result.severity = .structural ↔ result.permanentlyBlocked = true := by
  unfold severity
  split_ifs <;> simp_all

theorem severityFor_eq_iff {severity : Severity} (notWarning : severity ≠ .warning) (notError : severity ≠ .error) :
    result.severityFor kind = severity ↔ result.severity = severity := by
  rw [severityFor]
  split
  next floor => simp [floor.2, notWarning.symm, notError.symm]
  next => exact Iff.rfl

theorem severityFor_none :
    result.severityFor kind = .none ↔ result.satisfied = true ∧ result.permanentlyBlocked = false :=
  (severityFor_eq_iff (by decide) (by decide)).trans severity_eq_none_iff

theorem severityFor_structural : result.severityFor kind = .structural ↔ result.permanentlyBlocked = true :=
  (severityFor_eq_iff (by decide) (by decide)).trans severity_eq_structural_iff

/-- What is satisfied more easily, blocked only if the other is, and short of no more is not more severe. -/
theorem severity_mono (satisfied : stronger.satisfied = true → weaker.satisfied = true)
    (blocked : weaker.permanentlyBlocked = true → stronger.permanentlyBlocked = true)
    (fewer : weaker.unmetCount ≤ stronger.unmetCount) : weaker.severity.rank ≤ stronger.severity.rank := by
  unfold severity
  split
  next weakerBlocked => simp [blocked weakerBlocked]
  next =>
    split
    next => exact Nat.zero_le _
    next weakerFailed =>
      rw [if_neg (mt satisfied weakerFailed)]
      split
      next many =>
        rw [if_pos (Nat.le_trans many fewer)]
        split <;> decide
      next =>
        split
        · decide
        · split <;> decide

theorem severityFor_mono (below : weaker.severity.rank ≤ stronger.severity.rank) (kind : AbilityKind) :
    (weaker.severityFor kind).rank ≤ (stronger.severityFor kind).rank := by
  rw [severityFor, severityFor]
  -- A warning of a class is raised to the error that stands next above it.
  by_cases strict : kind = .characterClass
  · cases first : weaker.severity <;> cases second : stronger.severity <;> simp_all [Severity.rank]
  · simpa [strict] using below

end EvaluationResult

namespace Severity

theorem rank_max (a b : Severity) : (max a b).rank = Nat.max a.rank b.rank := by
  unfold max
  split
  next below => exact (Nat.max_eq_right below).symm
  next above => exact (Nat.max_eq_left (Nat.le_of_not_le above)).symm

theorem max_cases (a b : Severity) : max a b = a ∨ max a b = b := by
  unfold max
  split
  · exact .inr rfl
  · exact .inl rfl

theorem rank_le_foldl_max (severities : List Severity) (first : Severity) :
    ∀ severity ∈ first :: severities, severity.rank ≤ (severities.foldl max first).rank := by
  induction severities generalizing first with
  | nil =>
    intro severity member
    rw [List.mem_singleton.mp member]
    exact Nat.le_refl _
  | cons second rest ih =>
    have both : (max first second).rank ≤ ((second :: rest).foldl max first).rank := ih _ _ List.mem_cons_self
    rw [rank_max] at both
    intro severity member
    rcases List.mem_cons.mp member with rfl | later
    · exact Nat.le_trans (Nat.le_max_left _ _) both
    · rcases List.mem_cons.mp later with rfl | last
      · exact Nat.le_trans (Nat.le_max_right _ _) both
      · exact ih _ severity (List.mem_cons_of_mem _ last)

theorem foldl_max_mem (severities : List Severity) (first : Severity) :
    severities.foldl max first ∈ first :: severities := by
  induction severities generalizing first with
  | nil => exact List.mem_singleton_self first
  | cons second rest ih =>
    rw [List.foldl_cons]
    rcases List.mem_cons.mp (ih (max first second)) with greater | later
    · rw [greater]
      rcases max_cases first second with left | right
      · rw [left]
        exact List.mem_cons_self
      · rw [right]
        exact List.mem_cons_of_mem _ List.mem_cons_self
    · exact List.mem_cons_of_mem _ (List.mem_cons_of_mem _ later)

theorem rank_le_overall {severities : List Severity} {severity : Severity} (member : severity ∈ severities) :
    severity.rank ≤ (overall severities).rank :=
  rank_le_foldl_max severities none severity (List.mem_cons_of_mem _ member)

theorem overall_mem (severities : List Severity) : overall severities = none ∨ overall severities ∈ severities :=
  List.mem_cons.mp (foldl_max_mem severities none)

theorem overall_eq_none_iff {severities : List Severity} :
    overall severities = none ↔ ∀ severity ∈ severities, severity = none := by
  constructor
  · intro nothing severity member
    have below := rank_le_overall member
    rw [nothing] at below
    exact rank_injective (Nat.le_zero.mp below)
  · intro nothing
    rcases overall_mem severities with same | member
    · exact same
    · exact nothing _ member

end Severity

end Legality
