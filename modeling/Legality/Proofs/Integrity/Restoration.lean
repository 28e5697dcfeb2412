import Legality.Proofs.Integrity.Tracking
import Legality.Proofs.Wire.Integrity

/-!
Runs that are kept elsewhere. A tracker that takes over a run answers for its character like the tracker that made the
run, apart from the time at which each is asked: an answer depends on the latest run alone, and of that not on its time.
-/
namespace Legality

def IntegritySnapshot.undated (run : IntegritySnapshot) : IntegritySnapshot := { run with evaluatedAt := default }

def IntegrityReport.undated (report : IntegrityReport) : IntegrityReport := { report with evaluatedAt := default }

def TrackerAnswer.undated : TrackerAnswer → TrackerAnswer
  | .report given => .report given.undated
  | .restored fault? => .restored fault?
  | .run run? => .run (run?.map IntegritySnapshot.undated)

theorem IntegrityReport.ofRun_undated (previous : Option IntegritySnapshot) (run : IntegritySnapshot) :
    (ofRun previous run).undated = ofRun (previous.map IntegritySnapshot.undated) run.undated := by
  cases previous <;> rfl

theorem Evaluator.violations_length_le (evaluator : Evaluator) (snapshot : Snapshot) :
    (evaluator.violations snapshot).length ≤ snapshot.owned.length :=
  List.length_filterMap_le _ _

namespace TrackerCall

def dated (now : Instant) : TrackerCall → TrackerCall
  | reevaluate characterId snapshot _ => reevaluate characterId snapshot now
  | reevaluateFrom repository characterId _ => reevaluateFrom repository characterId now
  | call => call

def answers (evaluator : Evaluator) (store : IntegrityStore) : List TrackerCall → List TrackerAnswer
  | [] => []
  | call :: rest => (call.make evaluator store).1 :: answers evaluator (call.make evaluator store).2 rest

variable {evaluator : Evaluator} {store : IntegrityStore} {calls : List TrackerCall}

theorem characterId_dated (call : TrackerCall) (now : Instant) : (call.dated now).characterId = call.characterId := by
  cases call <;> rfl

/-- The time of a call is the time of the run that it leaves, and of nothing else. -/
theorem leaves?_dated (evaluator : Evaluator) (call : TrackerCall) (now moment : Instant) :
    ((call.dated now).leaves? evaluator).map (Option.map IntegritySnapshot.undated) =
      ((call.dated moment).leaves? evaluator).map (Option.map IntegritySnapshot.undated) := by
  cases call with
  | reevaluate characterId snapshot _ =>
    simp only [dated, leaves?, stores?, evaluates?]
    split <;> rfl
  | reevaluateFrom repository characterId _ =>
    simp only [dated, leaves?, stores?, evaluates?]
    cases repository.load characterId with
    | error fault => rfl
    | ok snapshot =>
      dsimp only
      split <;> rfl
  | restore characterId run | current characterId | forget characterId => rfl

theorem reevaluate_undated (sound : store.Sound) (characterId : String) (snapshot : Snapshot) (now : Instant) :
    (evaluator.reevaluate store characterId snapshot now).1.undated =
      if snapshot.fault? = none ∧ snapshot.characterId = characterId then
        .ofRun ((store.current? characterId).map IntegritySnapshot.undated)
          (.ofList snapshot.characterId default (evaluator.violations snapshot))
      else .failed characterId default := by
  rw [reevaluate_eq]
  split
  next admitted =>
    rw [IntegrityReport.ofRun_undated, (IntegrityStore.becomes_commit sound characterId _).1]
    rfl
  next refused => rfl

theorem make_undated (evaluator : Evaluator) {other : IntegrityStore} (sound : store.Sound)
    (otherSound : other.Sound) (call : TrackerCall)
    (same : (store.current? call.characterId).map IntegritySnapshot.undated =
      (other.current? call.characterId).map IntegritySnapshot.undated) (now moment : Instant) :
    ((call.dated now).make evaluator store).1.undated = ((call.dated moment).make evaluator other).1.undated := by
  cases call with
  | reevaluate characterId snapshot _ =>
    simp only [dated, make, TrackerAnswer.undated, reevaluate_undated sound, reevaluate_undated otherSound]
    simp only [TrackerCall.characterId] at same
    rw [same]
  | reevaluateFrom repository characterId _ =>
    simp only [dated, make, Evaluator.reevaluateFrom]
    cases repository.load characterId with
    | error fault => rfl
    | ok snapshot =>
      simp only [TrackerAnswer.undated, reevaluate_undated sound, reevaluate_undated otherSound]
      simp only [TrackerCall.characterId] at same
      rw [same]
  | restore characterId run =>
    simp only [dated, make, IntegrityStore.restore]
    by_cases own : run.characterId = characterId
    · simp only [if_pos own]
    · simp only [if_neg own]
  | current characterId => exact congrArg TrackerAnswer.run same
  | forget characterId =>
    simp only [dated, make, (IntegrityStore.becomes_forget sound characterId).1,
      (IntegrityStore.becomes_forget otherSound characterId).1]
    exact congrArg TrackerAnswer.run same

theorem make_restore_own (evaluator : Evaluator) (store : IntegrityStore) {characterId : String}
    {run : IntegritySnapshot} (own : run.characterId = characterId) :
    (restore characterId run).make evaluator store = (.restored none, store.put run) := by
  simp only [make, IntegrityStore.restore, if_pos own]

theorem make_restore_foreign (evaluator : Evaluator) (store : IntegrityStore) {characterId : String}
    {run : IntegritySnapshot} (foreign : run.characterId ≠ characterId) :
    ∃ fault, (restore characterId run).make evaluator store = (.restored (some fault), store) := by
  simp only [make, IntegrityStore.restore, if_neg foreign]
  exact ⟨_, rfl⟩

theorem Tracks.current?_make (tracks : Tracks evaluator calls store) (call : TrackerCall) :
    (call.make evaluator store).2.current? call.characterId =
      (call.leaves? evaluator).getD (store.current? call.characterId) := by
  rw [(tracks.make call).current?, latest?_snoc, if_pos rfl, tracks.current?]

/-- Trackers that have the same latest run over a character, apart from its time, answer all calls for it alike. -/
theorem Tracks.answers_undated {characterId : String} {others : List TrackerCall} {other : IntegrityStore}
    (tracks : Tracks evaluator calls store) (otherTracks : Tracks evaluator others other)
    (same : (store.current? characterId).map IntegritySnapshot.undated =
      (other.current? characterId).map IntegritySnapshot.undated)
    (later : List (TrackerCall × Instant × Instant)) (own : ∀ entry ∈ later, entry.1.characterId = characterId) :
    (answers evaluator store (later.map fun entry => entry.1.dated entry.2.1)).map TrackerAnswer.undated =
      (answers evaluator other (later.map fun entry => entry.1.dated entry.2.2)).map TrackerAnswer.undated := by
  induction later generalizing store calls other others with
  | nil => rfl
  | cons entry rest ih =>
    obtain ⟨call, now, moment⟩ := entry
    obtain ⟨rfl, ownRest⟩ := List.forall_mem_cons.mp own
    have answer := make_undated evaluator tracks.sound otherTracks.sound call same now moment
    -- What the call leaves differs in its time only, so the rest of the calls finds the trackers alike again.
    have next : (((call.dated now).make evaluator store).2.current? call.characterId).map IntegritySnapshot.undated =
        (((call.dated moment).make evaluator other).2.current? call.characterId).map IntegritySnapshot.undated := by
      have here := tracks.current?_make (call.dated now)
      have there := otherTracks.current?_make (call.dated moment)
      rw [characterId_dated] at here there
      rw [here, there, ← Option.getD_map (Option.map _), ← Option.getD_map (Option.map _), same,
        leaves?_dated evaluator call now moment]
    simp only [List.map_cons, answers]
    rw [answer, ih (tracks.make _) (otherTracks.make _) next ownRest]

theorem Tracks.put (tracks : Tracks evaluator calls store) (run : IntegritySnapshot) :
    Tracks evaluator (calls ++ [restore run.characterId run]) (store.put run) ∧
      (store.put run).current? run.characterId = some run := by
  have taken := make_restore_own evaluator store (rfl : run.characterId = run.characterId)
  have left : (restore run.characterId run).leaves? evaluator = some (some run) := by
    simp only [leaves?, stores?, if_true, Option.map_some]
  have tracksAfter := tracks.make (restore run.characterId run)
  have current := tracks.current?_make (restore run.characterId run)
  rw [taken] at tracksAfter current
  rw [left] at current
  exact ⟨tracksAfter, current⟩

/-- A run can be kept elsewhere. What is written of a run that was evaluated is read as that run, if its time is one
that a timestamp can tell and its abilities can be counted with 64 bits. Any tracker takes the run over for its
character, also one without runs, and from then on answers all calls for that character as the tracker does that made
the run and has not changed it since, whenever the two are asked; only the times differ. For any other character the run
is refused, and nothing is stored. -/
theorem restored_run_continues (evaluator : Evaluator) (calls between : List TrackerCall) (call : TrackerCall)
    (snapshot : Snapshot) (now : Instant) (evaluates : call.evaluates? = some (snapshot, now))
    (quiet : ∀ call ∈ between, call.characterId = snapshot.characterId → call.leaves? evaluator = none)
    (representable : Timestamp.Representable now) (fits : snapshot.owned.length < UInt64.size) :
    let original := after evaluator (calls ++ call :: between)
    ∃ run, call.leaves? evaluator = some (some run) ∧ original.current? snapshot.characterId = some run ∧
      IntegritySnapshot.ofValue? .json run.toValue = some run ∧
      (∀ others : List TrackerCall,
        let restored := (after evaluator others).put run
        (restore snapshot.characterId run).make evaluator (after evaluator others) = (.restored none, restored) ∧
        ∀ later : List (TrackerCall × Instant × Instant),
          (∀ entry ∈ later, entry.1.characterId = snapshot.characterId) →
          (answers evaluator original (later.map fun entry => entry.1.dated entry.2.1)).map TrackerAnswer.undated =
            (answers evaluator restored (later.map fun entry => entry.1.dated entry.2.2)).map TrackerAnswer.undated) ∧
      ∀ (store : IntegrityStore) (characterId : String), characterId ≠ snapshot.characterId →
        ∃ fault, (restore characterId run).make evaluator store = (.restored (some fault), store) := by
  intro original
  obtain ⟨run, runIs⟩ :
      ∃ run, run = IntegritySnapshot.ofList snapshot.characterId now (evaluator.violations snapshot) := ⟨_, rfl⟩
  have own : run.characterId = snapshot.characterId := by rw [runIs, IntegritySnapshot.ofList]
  have left : call.leaves? evaluator = some (some run) := by rw [leaves?_of_evaluates evaluates, runIs]
  have tracks : Tracks evaluator (calls ++ call :: between) original := Tracks.after evaluator _
  have stored : original.current? snapshot.characterId = some run := by
    rw [tracks.current?, List.append_cons, latest?_append_quiet quiet, latest?_snoc,
      if_pos (characterId_of_evaluates evaluates), left, Option.getD_some]
  refine ⟨run, left, stored, ?_, ?_, ?_⟩
  · have few := (evaluator.violations_length_le snapshot).trans_lt fits
    subst runIs
    exact IntegritySnapshot.ofValue?_toValue .json representable (ViolationSummary.atMost_ofList _) few
  · intro others restored
    obtain ⟨restoredTracks, seeded⟩ := (Tracks.after evaluator others).put run
    rw [own] at seeded
    refine ⟨make_restore_own evaluator _ own, fun later named => ?_⟩
    exact tracks.answers_undated restoredTracks (by rw [stored, seeded]) later named
  · intro store characterId other
    exact make_restore_foreign evaluator store fun same => other (same.symm.trans own)

theorem restored_run_continues_upstart :
    ∃ run, (after .standard audits).current? "pc" = some run ∧
      IntegritySnapshot.ofValue? .json run.toValue = some run ∧
      (answers .standard (after .standard audits) [reevaluate "pc" upstart ⟨3, 0⟩, current "pc"]).map
          TrackerAnswer.undated =
        (answers .standard (IntegrityStore.empty.put run) [reevaluate "pc" upstart ⟨86403, 0⟩, current "pc"]).map
          TrackerAnswer.undated ∧
      ∃ fault, (restore "npc" run).make .standard .empty = (.restored (some fault), .empty) := by
  have admitted : upstart.fault? = none ∧ upstart.characterId = "pc" := by decide
  have evaluates : (reevaluate "pc" upstart ⟨0, 0⟩).evaluates? = some (upstart, ⟨0, 0⟩) := by
    rw [evaluates?, if_pos admitted]
  have quiet : ∀ call ∈ audits.tail, call.characterId = upstart.characterId → call.leaves? .standard = none := by
    decide
  have representable : Timestamp.Representable ⟨0, 0⟩ := ⟨by decide, .inl (by decide)⟩
  let later : List (TrackerCall × Instant × Instant) :=
    [(reevaluate "pc" upstart ⟨0, 0⟩, ⟨3, 0⟩, ⟨86403, 0⟩), (current "pc", ⟨3, 0⟩, ⟨86403, 0⟩)]
  have named : ∀ entry ∈ later, entry.1.characterId = upstart.characterId := by
    rw [admitted.2]
    decide
  obtain ⟨run, -, stored, read, taken, refused⟩ := restored_run_continues .standard [] audits.tail
    (reevaluate "pc" upstart ⟨0, 0⟩) upstart ⟨0, 0⟩ evaluates quiet representable (by decide)
  rw [admitted.2] at stored refused
  exact ⟨run, stored, read, (taken []).2 later named, refused .empty "npc" (by decide)⟩

end TrackerCall

end Legality
