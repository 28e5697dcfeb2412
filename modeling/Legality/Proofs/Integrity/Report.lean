import Legality.Proofs.Character.Validity
import Legality.Proofs.Enforcement.Severity
import Legality.Proofs.Integrity.Tracking

/-!
Reports of runs. A run goes over the abilities in the order of their acquisition, counts the violations as it finds them
and files them by ability. Abilities of a character that breaks no rule have different ids, so no violation replaces
another one: the report lists one for each ability that has one, and the counts are those of the list.
-/
namespace Legality

namespace ViolationSummary

variable {κ : Type} [OrderedKey κ] {counts : SortedMap κ Nat} {keys : List κ} {summary : ViolationSummary}
  {violations : List Violation}

/-- Whether a map says how often each key stands in a list, and says nothing of keys that do not stand there. -/
structure Tallies (counts : SortedMap κ Nat) (keys : List κ) : Prop where
  get?_iff : ∀ key count, counts.get? key = some count ↔ keys.count key = count ∧ 0 < count
  sum : counts.values.sum = keys.length

structure Sums (summary : ViolationSummary) (violations : List Violation) : Prop where
  total : summary.total = violations.length
  bySeverity : Tallies summary.bySeverity (violations.map Violation.severity)
  byKind : Tallies summary.byKind (violations.map Violation.abilityKind)

theorem Tallies.getD (tallies : Tallies counts keys) (key : κ) : (counts.get? key).getD 0 = keys.count key := by
  cases found : counts.get? key with
  | some count => exact ((tallies.get?_iff key count).mp found).1.symm
  | none =>
    by_contra present
    have positive : 0 < keys.count key := Nat.pos_of_ne_zero (Ne.symm present)
    rw [(tallies.get?_iff key _).mpr ⟨rfl, positive⟩] at found
    contradiction

theorem Tallies.countUp (tallies : Tallies counts keys) (key : κ) :
    Tallies (ViolationSummary.countUp counts key) (key :: keys) := by
  rw [ViolationSummary.countUp, tallies.getD]
  constructor
  case get?_iff =>
    intro other count
    rw [SortedMap.get?_insert]
    split
    next same =>
      rw [same, List.count_cons_self, Option.some.injEq]
      omega
    next different => rw [List.count_cons_of_ne (Ne.symm different), tallies.get?_iff]
  case sum =>
    have weighed := counts.sum_insert key (keys.count key + 1) id
    simp only [List.map_id_fun, id_eq, Option.map_id_fun, tallies.getD, tallies.sum] at weighed
    rw [List.length_cons]
    omega

theorem Tallies.perm {others : List κ} (tallies : Tallies counts keys) (rearranged : keys.Perm others) :
    Tallies counts others where
  get?_iff key count := by rw [tallies.get?_iff, rearranged.count_eq]
  sum := tallies.sum.trans rearranged.length_eq

theorem Sums.count (sums : summary.Sums violations) (violation : Violation) :
    (summary.count violation).Sums (violation :: violations) where
  total := congrArg (· + 1) sums.total
  bySeverity := sums.bySeverity.countUp violation.severity
  byKind := sums.byKind.countUp violation.abilityKind

theorem Sums.perm {others : List Violation} (sums : summary.Sums violations) (rearranged : violations.Perm others) :
    summary.Sums others where
  total := sums.total.trans rearranged.length_eq
  bySeverity := sums.bySeverity.perm (rearranged.map _)
  byKind := sums.byKind.perm (rearranged.map _)

theorem sums_empty : empty.Sums [] where
  total := rfl
  bySeverity := ⟨fun _ _ => by simp [empty, SortedMap.empty, SortedMap.get?, SortedMap.find?]; omega, rfl⟩
  byKind := ⟨fun _ _ => by simp [empty, SortedMap.empty, SortedMap.get?, SortedMap.find?]; omega, rfl⟩

theorem sums_ofList (violations : List Violation) : (ofList violations).Sums violations := by
  suffices counted : ∀ {summary : ViolationSummary} {earlier : List Violation}, summary.Sums earlier →
      (violations.foldl ViolationSummary.count summary).Sums (violations ++ earlier) by
    have all := counted sums_empty
    rwa [List.append_nil] at all
  induction violations with
  | nil => exact fun sums => sums
  | cons violation rest ih =>
    intro summary earlier sums
    exact (ih (sums.count violation)).perm List.perm_middle

theorem countUp_comm (counts : SortedMap κ Nat) (key other : κ) :
    ViolationSummary.countUp (ViolationSummary.countUp counts key) other =
      ViolationSummary.countUp (ViolationSummary.countUp counts other) key := by
  by_cases same : key = other
  · rw [same]
  · simp only [ViolationSummary.countUp, SortedMap.get?_insert, if_neg same, if_neg (Ne.symm same)]
    exact counts.insert_comm same _ _

theorem ofList_eq_of_perm {others : List Violation} (same : violations.Perm others) :
    ofList violations = ofList others := by
  apply same.foldl_eq'
  intro violation _ other _ summary
  simp only [count, countUp_comm _ other.severity, countUp_comm _ other.abilityKind]

end ViolationSummary

namespace Evaluator

variable {evaluator : Evaluator} {snapshot : Snapshot} {owned : OwnedAbility} {violation : Violation}

/-- Whether an owned ability is violated, and how: it has a prerequisite that can be evaluated and is not met, where the
ability itself is left out. -/
inductive Violates (evaluator : Evaluator) (snapshot : Snapshot) (owned : OwnedAbility) : Violation → Prop
  | unmet {prerequisite : Prerequisite} {result : EvaluationResult} (asks : owned.prerequisite = some prerequisite)
      (evaluated : evaluator.evaluatePrerequisite snapshot prerequisite (some owned.id) = .ok result)
      (unsatisfied : result.satisfied = false) :
      Violates evaluator snapshot owned
        { abilityId := owned.id
          abilityName := owned.name
          abilityKind := owned.kind
          missingConditions := result.unmet
          permanentlyBlocked := result.permanentlyBlocked
          severity := result.severityFor owned.kind }

theorem violation?_eq_some_iff :
    evaluator.violation? snapshot owned = some violation ↔ evaluator.Violates snapshot owned violation := by
  constructor
  · intro found
    rw [violation?] at found
    split at found
    next free => contradiction
    next prerequisite asks =>
      split at found
      next error failed => contradiction
      next result evaluated =>
        split at found
        next satisfied => contradiction
        next unsatisfied =>
          rw [← Option.some.inj found]
          exact .unmet asks evaluated (Bool.eq_false_iff.mpr unsatisfied)
  · rintro ⟨asks, evaluated, unsatisfied⟩
    simp only [violation?, asks, evaluated, unsatisfied, Bool.false_eq_true, if_false]

theorem Violates.abilityId (violates : evaluator.Violates snapshot owned violation) :
    violation.abilityId = owned.id := by
  cases violates
  rfl

theorem Violates.severity_ne_none (violates : evaluator.Violates snapshot owned violation) :
    violation.severity ≠ .none := by
  cases violates with
  | unmet asks evaluated unsatisfied =>
    intro none
    have satisfied := (EvaluationResult.severityFor_none.mp none).1
    rw [unsatisfied] at satisfied
    contradiction

theorem mem_violations :
    violation ∈ evaluator.violations snapshot ↔
      ∃ owned ∈ snapshot.owned, evaluator.Violates snapshot owned violation := by
  simp only [violations, List.mem_filterMap, violation?_eq_some_iff]

theorem violations_distinct (well : snapshot.WellFormed) :
    ((evaluator.violations snapshot).map Violation.abilityId).Nodup := by
  have apart : snapshot.owned.Pairwise fun one other => one.id ≠ other.id := List.pairwise_map.mp well.distinct
  apply List.pairwise_map.mpr
  apply List.pairwise_filterMap.mpr
  apply apart.imp
  intro one other different violation found another alsoFound same
  apply different
  rw [← (violation?_eq_some_iff.mp found).abilityId, same, (violation?_eq_some_iff.mp alsoFound).abilityId]

end Evaluator

theorem IntegritySnapshot.values_ofList {violations : List Violation}
    (distinct : (violations.map Violation.abilityId).Nodup) (characterId : String) (evaluatedAt : Instant) :
    (ofList characterId evaluatedAt violations).violations.values.Perm violations := by
  have filed : (SortedMap.ofList (violations.map fun violation => (violation.abilityId, violation))).entries.Perm _ :=
    SortedMap.ofList_perm (by rwa [List.map_map])
  have values := filed.map Prod.snd
  rw [List.map_map] at values
  exact values.trans (.of_eq (List.map_id violations))

/-- Violations with different ids make the same run in every order. -/
theorem IntegritySnapshot.ofList_eq_of_perm {violations others : List Violation}
    (distinct : (violations.map Violation.abilityId).Nodup) (same : violations.Perm others) (characterId : String)
    (evaluatedAt : Instant) : ofList characterId evaluatedAt violations = ofList characterId evaluatedAt others := by
  have filed : SortedMap.ofList (violations.map fun violation => (violation.abilityId, violation)) =
      SortedMap.ofList (others.map fun violation => (violation.abilityId, violation)) :=
    SortedMap.ofList_eq_of_perm (by rwa [List.map_map]) (same.map _)
  rw [ofList, ofList, filed, ViolationSummary.ofList_eq_of_perm same]

namespace Evaluator

/-- A report is exact. Where a character breaks no rule of shape, the run is made, and its report lists in strictly
ascending order of ids one violation for each owned ability that is violated, as the evaluation tells, and no other. Its
summary counts these violations, by severity and by kind; and the overall severity is the greatest of them, none only
where there is no violation. -/
theorem report_exact (evaluator : Evaluator) (store : IntegrityStore) {snapshot : Snapshot} (now : Instant)
    (valid : snapshot.fault? = none) :
    let report := (evaluator.reevaluate store snapshot.characterId snapshot now).1
    report.degraded = false ∧
      (report.violations.map Violation.abilityId).Pairwise (· < ·) ∧
      (∀ violation ∈ report.violations, ∃ owned ∈ snapshot.owned, evaluator.Violates snapshot owned violation) ∧
      (∀ owned ∈ snapshot.owned, ∀ violation, evaluator.Violates snapshot owned violation ↔
        violation ∈ report.violations ∧ violation.abilityId = owned.id) ∧
      report.summary.Sums report.violations ∧
      (∀ violation ∈ report.violations, violation.severity.rank ≤ report.overall.rank) ∧
      (report.violations = [] ∨ ∃ violation ∈ report.violations, violation.severity = report.overall) ∧
      (report.overall = .none ↔ report.violations = []) := by
  intro report
  have well : snapshot.WellFormed := Snapshot.fault?_eq_none_iff.mp valid
  obtain ⟨run, runIs⟩ :
      ∃ run, run = IntegritySnapshot.ofList snapshot.characterId now (evaluator.violations snapshot) := ⟨_, rfl⟩
  have reported : report = .ofRun (store.commit snapshot.characterId run).1 run := by
    simp only [report, TrackerCall.reevaluate_eq, valid, and_self, if_true, runIs]
  have listed : report.violations.Perm (evaluator.violations snapshot) := by
    rw [reported, runIs]
    exact IntegritySnapshot.values_ofList (violations_distinct well) snapshot.characterId now
  have member {violation : Violation} :
      violation ∈ report.violations ↔ ∃ owned ∈ snapshot.owned, evaluator.Violates snapshot owned violation :=
    listed.mem_iff.trans mem_violations
  have overall : report.overall = .overall (report.violations.map Violation.severity) := by
    rw [reported, IntegrityReport.ofRun]
  have empty : report.overall = .none ↔ report.violations = [] := by
    rw [overall, Severity.overall_eq_none_iff, List.forall_mem_map, List.eq_nil_iff_forall_not_mem]
    apply forall_congr'
    intro violation
    constructor
    · intro harmless found
      obtain ⟨owned, -, violates⟩ := member.mp found
      exact violates.severity_ne_none (harmless found)
    · exact fun absent found => absurd found absent
  refine ⟨?_, ?_, fun _ => member.mp, ?_, ?_, ?_, ?_, empty⟩
  · rw [reported, IntegrityReport.ofRun]
  · have ids : report.violations.map Violation.abilityId = run.violations.keys := by
      rw [reported, runIs]
      exact (IntegritySnapshot.keys_ofList _ _ _).symm
    rw [ids]
    exact run.violations.keys_ascending
  · intro owned present violation
    constructor
    · exact fun violates => ⟨member.mpr ⟨owned, present, violates⟩, violates.abilityId⟩
    · rintro ⟨found, same⟩
      -- Only one owned ability has the id of the violation.
      obtain ⟨other, alsoPresent, violates⟩ := member.mp found
      have one : other = owned :=
        List.inj_on_of_nodup_map well.distinct alsoPresent present (violates.abilityId.symm.trans same)
      exact one ▸ violates
  · have summed := (ViolationSummary.sums_ofList (evaluator.violations snapshot)).perm listed.symm
    rw [reported, runIs] at summed ⊢
    exact summed
  · intro violation found
    rw [overall]
    exact Severity.rank_le_overall (List.mem_map_of_mem found)
  · rw [← empty, overall, ← List.mem_map]
    exact Severity.overall_mem _

/-- A character of the first level with a class that asks for more, a talent that counts for its own tree, a feat of
another species, a feat whose requirement offers nothing, and one that it qualifies for. -/
def impostor : Snapshot :=
  { Snapshot.blank "pc" with
    level := 1
    owned :=
      [ ⟨"veteran", "Veteran", .characterClass, none, some (.structured (.level 3))⟩,
        ⟨"keen-eye", "Keen Eye", .talent, some "Awareness", some (.structured (.talentsFrom ["Awareness"] 1))⟩,
        ⟨"rage", "Rage", .feat, none, some (.structured (.condition (.species ["Wookiee"])))⟩,
        ⟨"riddle", "Riddle", .feat, none, some (.structured (.any []))⟩,
        ⟨"novice", "Novice", .feat, none, some (.structured (.level 1))⟩ ] }

theorem report_exact_impostor :
    let report := (Evaluator.standard.reevaluate .empty impostor.characterId impostor ⟨0, 0⟩).1
    impostor.fault? = none ∧ report.degraded = false ∧
      report.violations.map (fun violation => (violation.abilityId, violation.severity)) =
        [("keen-eye", .warning), ("rage", .structural), ("veteran", .error)] ∧
      report.summary.Sums report.violations ∧ report.overall = .structural := by
  have valid : impostor.fault? = none := by decide
  obtain ⟨made, -, -, -, summed, -, -, -⟩ := report_exact .standard .empty ⟨0, 0⟩ valid
  exact ⟨valid, made, by decide, summed, by decide⟩

end Evaluator

end Legality
