import Legality.Proofs.Time.Timestamp
import Legality.Proofs.Wire.Character
import Legality.Wire.Integrity

/-!
Runs survive being written and read, if they could be written at all: their time is one that a timestamp can tell, and
their counts are counts of something that fits into memory.
-/
namespace Legality

theorem Instant.ofValue?_toValue {instant : Instant} (representable : Timestamp.Representable instant) :
    ofValue? instant.toValue = some instant := by
  rw [ofValue?, toValue, Value.text?, Option.bind_some, Timestamp.read?_print representable]

theorem Severity.ofLabel?_label (severity : Severity) : ofLabel? severity.label = some severity := by
  cases severity <;> rfl

theorem Severity.ofValue?_toValue (dialect : Dialect) (severity : Severity) :
    ofValue? dialect severity.toValue = some severity :=
  ofLabel?_label severity

theorem Violation.ofValue?_toValue (dialect : Dialect) (violation : Violation) :
    ofValue? dialect violation.toValue = some violation := by
  refine Fields.ofValue?_bind ?_
  refine Fields.required_bind rfl (rfl : Value.text? (.text violation.abilityId) = _) ?_
  refine Fields.required_bind rfl (rfl : Value.text? (.text violation.abilityName) = _) ?_
  refine Fields.required_bind rfl (AbilityKind.ofValue?_toValue dialect violation.abilityKind) ?_
  refine Fields.required_bind rfl (Value.list?_texts violation.missingConditions) ?_
  refine Fields.required_bind rfl (rfl : Value.bool? (.bool violation.permanentlyBlocked) = _) ?_
  refine Fields.required_bind rfl (Severity.ofValue?_toValue dialect violation.severity) ?_
  rfl

namespace ViolationSummary

/-- Whether no count of a summary exceeds a bound. -/
structure AtMost (bound : Nat) (summary : ViolationSummary) : Prop where
  total : summary.total ≤ bound
  bySeverity : ∀ entry ∈ summary.bySeverity.entries, entry.2 ≤ bound
  byKind : ∀ entry ∈ summary.byKind.entries, entry.2 ≤ bound

theorem countUp_le {κ : Type} [OrderedKey κ] {counts : SortedMap κ Nat} {bound : Nat}
    (small : ∀ entry ∈ counts.entries, entry.2 ≤ bound) (key : κ) :
    ∀ entry ∈ (countUp counts key).entries, entry.2 ≤ bound + 1 := by
  intro entry member
  have found : counts.get? key = none ∨ ∃ count, counts.get? key = some count ∧ count ≤ bound := by
    cases present : counts.get? key with
    | none => exact .inl rfl
    | some count => exact .inr ⟨count, rfl, small _ (SortedMap.get?_eq_some_iff.mp present)⟩
  rcases SortedMap.mem_insertEntry member with rfl | earlier
  · rcases found with absent | ⟨count, present, below⟩
    · simp [absent]
    · simpa [present] using below
  · exact (small entry earlier).trans (Nat.le_succ bound)

theorem AtMost.count {bound : Nat} {summary : ViolationSummary} (small : summary.AtMost bound) (violation : Violation) :
    (summary.count violation).AtMost (bound + 1) where
  total := Nat.succ_le_succ small.total
  bySeverity := countUp_le small.bySeverity violation.severity
  byKind := countUp_le small.byKind violation.abilityKind

theorem atMost_ofList (violations : List Violation) : (ofList violations).AtMost violations.length := by
  suffices counted : ∀ {bound : Nat} {summary : ViolationSummary}, summary.AtMost bound →
      (violations.foldl ViolationSummary.count summary).AtMost (bound + violations.length) by
    have none : empty.AtMost 0 := ⟨Nat.le_refl 0, List.forall_mem_nil _, List.forall_mem_nil _⟩
    have all := counted none
    rwa [Nat.zero_add] at all
  induction violations with
  | nil => exact fun small => small
  | cons violation rest ih =>
    intro bound summary small
    rw [List.length_cons, ← Nat.add_assoc, Nat.add_right_comm]
    exact ih (small.count violation)

theorem ofValue?_toValue (dialect : Dialect) {summary : ViolationSummary} {bound : Nat} (small : summary.AtMost bound)
    (fits : bound < UInt64.size) : ofValue? dialect summary.toValue = some summary := by
  have count {n : Nat} (below : n ≤ bound) : (Value.nat n).count? = some n :=
    Value.natBelow?_nat (below.trans_lt fits)
  have bySeverity : (countsValue Severity.label summary.bySeverity).map? Severity.ofLabel? Value.count? =
      some summary.bySeverity :=
    Value.map?_record Severity.label Value.nat Severity.ofLabel?_label fun entry member =>
      count (small.bySeverity entry member)
  have byKind : (countsValue AbilityKind.label summary.byKind).map? AbilityKind.ofLabel? Value.count? =
      some summary.byKind :=
    Value.map?_record AbilityKind.label Value.nat AbilityKind.ofLabel?_label fun entry member =>
      count (small.byKind entry member)
  refine Fields.ofValue?_bind ?_
  refine Fields.required_bind rfl (count small.total) ?_
  refine Fields.required_bind rfl bySeverity ?_
  refine Fields.required_bind rfl byKind ?_
  rfl

end ViolationSummary

theorem IntegritySnapshot.ofValue?_toValue (dialect : Dialect) {run : IntegritySnapshot} {bound : Nat}
    (representable : Timestamp.Representable run.evaluatedAt) (small : run.summary.AtMost bound)
    (fits : bound < UInt64.size) : ofValue? dialect run.toValue = some run := by
  have violations : (Value.record (run.violations.entries.map fun entry => (entry.1, entry.2.toValue))).map? some
      (Violation.ofValue? dialect) = some run.violations :=
    Value.map?_record id Violation.toValue (fun _ => rfl) fun entry _ => Violation.ofValue?_toValue dialect entry.2
  refine Fields.ofValue?_bind ?_
  refine Fields.required_bind rfl (rfl : Value.text? (.text run.characterId) = _) ?_
  refine Fields.required_bind rfl (Instant.ofValue?_toValue representable) ?_
  refine Fields.required_bind rfl violations ?_
  refine Fields.required_bind rfl (ViolationSummary.ofValue?_toValue dialect small fits) ?_
  rfl

end Legality
