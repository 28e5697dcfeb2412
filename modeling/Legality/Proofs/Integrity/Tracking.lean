import Legality.Integrity.Tracker
import Legality.Proofs.Integrity.Difference
import Legality.Proofs.Integrity.Slots
import Mathlib.Data.List.Induction

/-!
A tracker over many calls. However its slots come and go, it is a map from characters to their latest runs: a run that
could be made or that was taken over is kept until the next one for its character, or until the character is
forgotten, and all that is refused leaves no trace.
-/
namespace Legality

/-- One call of a tracker. -/
inductive TrackerCall
  | reevaluate (characterId : String) (snapshot : Snapshot) (now : Instant)
  | reevaluateFrom (repository : Repository) (characterId : String) (now : Instant)
  | restore (characterId : String) (run : IntegritySnapshot)
  | current (characterId : String)
  | forget (characterId : String)

inductive TrackerAnswer
  | report (report : IntegrityReport)
  | restored (fault? : Option StructureError)
  | run (run? : Option IntegritySnapshot)

namespace TrackerCall

def make (evaluator : Evaluator) (store : IntegrityStore) : TrackerCall → TrackerAnswer × IntegrityStore
  | reevaluate characterId snapshot now =>
    let (report, store) := evaluator.reevaluate store characterId snapshot now
    (.report report, store)
  | reevaluateFrom repository characterId now =>
    let (report, store) := evaluator.reevaluateFrom store repository characterId now
    (.report report, store)
  | restore characterId run =>
    match store.restore characterId run with
    | .error fault => (.restored (some fault), store)
    | .ok store => (.restored none, store)
  | current characterId => (.run (store.current? characterId), store)
  | forget characterId =>
    let (taken, store) := store.forget characterId
    (.run taken, store)

def after (evaluator : Evaluator) (calls : List TrackerCall) : IntegrityStore :=
  calls.foldl (fun store call => (call.make evaluator store).2) .empty

def characterId : TrackerCall → String
  | reevaluate characterId _ _ => characterId
  | reevaluateFrom _ characterId _ => characterId
  | restore characterId _ => characterId
  | current characterId => characterId
  | forget characterId => characterId

/-- The snapshot that a call evaluates, and when: a valid one, of the character that the call names. -/
def evaluates? : TrackerCall → Option (Snapshot × Instant)
  | reevaluate characterId snapshot now =>
    if snapshot.fault? = none ∧ snapshot.characterId = characterId then some (snapshot, now) else none
  | reevaluateFrom repository characterId now =>
    match repository.load characterId with
    | .error _ => none
    | .ok snapshot =>
      if snapshot.fault? = none ∧ snapshot.characterId = characterId then some (snapshot, now) else none
  | restore _ _ => none
  | current _ => none
  | forget _ => none

def stores? (evaluator : Evaluator) : TrackerCall → Option IntegritySnapshot
  | restore characterId run => if run.characterId = characterId then some run else none
  | call => call.evaluates?.map fun (snapshot, now) =>
    .ofList snapshot.characterId now (evaluator.violations snapshot)

/-- What a call leaves of the character that it names, if it changes that: a run, or nothing of one that it forgets. -/
def leaves? (evaluator : Evaluator) : TrackerCall → Option (Option IntegritySnapshot)
  | forget _ => some none
  | call => (call.stores? evaluator).map some

def left? (evaluator : Evaluator) (characterId : String) (calls : List TrackerCall) :
    Option (Option IntegritySnapshot) :=
  (calls.filter fun call => call.characterId = characterId).reverse.findSome? (leaves? evaluator)

/-- The latest run that some calls have left of a character, none if there was none since it was last forgotten. -/
def latest? (evaluator : Evaluator) (characterId : String) (calls : List TrackerCall) : Option IntegritySnapshot :=
  (left? evaluator characterId calls).join

variable {evaluator : Evaluator} {store : IntegrityStore} {calls : List TrackerCall} {call : TrackerCall}

theorem after_snoc (evaluator : Evaluator) (calls : List TrackerCall) (call : TrackerCall) :
    after evaluator (calls ++ [call]) = (call.make evaluator (after evaluator calls)).2 := by
  rw [after, List.foldl_append]
  rfl

theorem left?_append (evaluator : Evaluator) (characterId : String) (earlier later : List TrackerCall) :
    left? evaluator characterId (earlier ++ later) =
      (left? evaluator characterId later).or (left? evaluator characterId earlier) := by
  simp only [left?, List.filter_append, List.reverse_append, List.findSome?_append]

theorem latest?_snoc (evaluator : Evaluator) (characterId : String) (calls : List TrackerCall) (call : TrackerCall) :
    latest? evaluator characterId (calls ++ [call]) =
      if call.characterId = characterId then (call.leaves? evaluator).getD (latest? evaluator characterId calls)
      else latest? evaluator characterId calls := by
  rw [latest?, left?_append, latest?]
  by_cases named : call.characterId = characterId
  · have last : left? evaluator characterId [call] = call.leaves? evaluator := by simp [left?, named]
    rw [if_pos named, last]
    cases call.leaves? evaluator <;> rfl
  · have last : left? evaluator characterId [call] = none := by simp [left?, named]
    rw [if_neg named, last, Option.none_or]

theorem latest?_append_quiet {characterId : String} {between : List TrackerCall}
    (quiet : ∀ call ∈ between, call.characterId = characterId → call.leaves? evaluator = none) :
    latest? evaluator characterId (calls ++ between) = latest? evaluator characterId calls := by
  have nothing : left? evaluator characterId between = none := by
    apply List.findSome?_eq_none_iff.mpr
    intro call member
    obtain ⟨inside, named⟩ := List.mem_filter.mp (List.mem_reverse.mp member)
    exact quiet call inside (of_decide_eq_true named)
  rw [latest?, left?_append, nothing, Option.none_or, latest?]

/-- The run of a snapshot of the character is stored and compared with the run before it; all else is degraded. -/
theorem reevaluate_eq (evaluator : Evaluator) (store : IntegrityStore) (characterId : String) (snapshot : Snapshot)
    (now : Instant) :
    evaluator.reevaluate store characterId snapshot now =
      if snapshot.fault? = none ∧ snapshot.characterId = characterId then
        let run := IntegritySnapshot.ofList snapshot.characterId now (evaluator.violations snapshot)
        (.ofRun (store.commit characterId run).1 run, (store.commit characterId run).2)
      else (.failed characterId now, store) := by
  rw [Evaluator.reevaluate, Evaluator.runFault?]
  cases fault : snapshot.fault? with
  | some fault => simp
  | none =>
    by_cases own : snapshot.characterId = characterId
    · simp [own]
    · simp [own]

/-- What a call can do. -/
inductive Made (evaluator : Evaluator) (store : IntegrityStore) : TrackerCall → TrackerAnswer × IntegrityStore → Prop
  | evaluated {call : TrackerCall} {run : IntegritySnapshot} (left : call.leaves? evaluator = some (some run)) :
      Made evaluator store call
        (.report (.ofRun (store.commit call.characterId run).1 run), (store.commit call.characterId run).2)
  | degraded {call : TrackerCall} {report : IntegrityReport} (left : call.leaves? evaluator = none)
      (degraded : report.degraded = true) : Made evaluator store call (.report report, store)
  | restored {characterId : String} {run : IntegritySnapshot} (own : run.characterId = characterId) :
      Made evaluator store (restore characterId run) (.restored none, (store.commit characterId run).2)
  | refused {characterId : String} {run : IntegritySnapshot} {fault : StructureError}
      (foreign : run.characterId ≠ characterId) :
      Made evaluator store (restore characterId run) (.restored (some fault), store)
  | current (characterId : String) :
      Made evaluator store (current characterId) (.run (store.current? characterId), store)
  | forgotten (characterId : String) :
      Made evaluator store (forget characterId)
        (.run (store.forget characterId).1, (store.forget characterId).2)

theorem make_cases (evaluator : Evaluator) (store : IntegrityStore) (call : TrackerCall) :
    Made evaluator store call (call.make evaluator store) := by
  cases call with
  | reevaluate characterId snapshot now =>
    simp only [make, reevaluate_eq]
    split
    next admitted => exact .evaluated (by simp [leaves?, stores?, evaluates?, admitted])
    next refused => exact .degraded (by simp [leaves?, stores?, evaluates?, refused]) rfl
  | reevaluateFrom repository characterId now =>
    simp only [make, Evaluator.reevaluateFrom]
    cases loaded : repository.load characterId with
    | error error => exact .degraded (by simp [leaves?, stores?, evaluates?, loaded]) rfl
    | ok snapshot =>
      simp only [reevaluate_eq]
      split
      next admitted => exact .evaluated (by simp [leaves?, stores?, evaluates?, loaded, admitted])
      next refused => exact .degraded (by simp [leaves?, stores?, evaluates?, loaded, refused]) rfl
  | restore characterId run =>
    simp only [make, IntegrityStore.restore]
    by_cases own : run.characterId = characterId
    · subst own
      simp only [if_true]
      exact .restored rfl
    · simp only [if_neg own]
      exact .refused own
  | current characterId => exact .current characterId
  | forget characterId => exact .forgotten characterId

/-- A call stores the run that it leaves, forgets its character, or leaves the store alone. -/
theorem make_store (evaluator : Evaluator) (store : IntegrityStore) (call : TrackerCall) :
    (call.make evaluator store).2 =
      match call.leaves? evaluator with
      | none => store
      | some none => (store.forget call.characterId).2
      | some (some run) => (store.commit call.characterId run).2 := by
  have made := make_cases evaluator store call
  generalize call.make evaluator store = outcome at made ⊢
  cases made with
  | evaluated left => rw [left]
  | degraded left degraded => rw [left]
  | restored own => simp only [leaves?, stores?, if_pos own, Option.map_some, TrackerCall.characterId]
  | refused foreign => simp only [leaves?, stores?, if_neg foreign, Option.map_none]
  | current characterId | forgotten characterId => rfl

theorem make_of_degraded {report : IntegrityReport} (reported : (call.make evaluator store).1 = .report report)
    (degraded : report.degraded = true) :
    call.leaves? evaluator = none ∧ (call.make evaluator store).2 = store := by
  have made := make_cases evaluator store call
  generalize call.make evaluator store = outcome at made reported ⊢
  cases made with
  | evaluated left =>
    obtain rfl := TrackerAnswer.report.inj reported
    contradiction
  | degraded left _ => exact ⟨left, rfl⟩
  | restored own | refused foreign | current characterId | forgotten characterId => contradiction

theorem make_of_refused {fault : StructureError} (refused : (call.make evaluator store).1 = .restored (some fault)) :
    call.leaves? evaluator = none ∧ (call.make evaluator store).2 = store := by
  have made := make_cases evaluator store call
  generalize call.make evaluator store = outcome at made refused ⊢
  cases made with
  | refused foreign => exact ⟨by simp [leaves?, stores?, foreign], rfl⟩
  | restored own => exact absurd (TrackerAnswer.restored.inj refused).symm (Option.some_ne_none fault)
  | evaluated left | degraded left degraded | current characterId | forgotten characterId => contradiction

/-- Whether the slots of a store are those of the characters of which some calls have left a run, held by nobody. -/
structure Tracks (evaluator : Evaluator) (calls : List TrackerCall) (store : IntegrityStore) : Prop where
  sound : store.Sound
  slot? : ∀ characterId, store.slot? characterId =
    (latest? evaluator characterId calls).map fun run => ⟨some run, 0⟩

namespace Tracks

theorem opening (evaluator : Evaluator) : Tracks evaluator [] .empty := ⟨.empty, fun _ => rfl⟩

theorem current? (tracks : Tracks evaluator calls store) (characterId : String) :
    store.current? characterId = latest? evaluator characterId calls := by
  rw [IntegrityStore.current?_eq, tracks.slot?]
  cases latest? evaluator characterId calls <;> rfl

theorem holders (tracks : Tracks evaluator calls store) (characterId : String) : store.holders characterId = 0 := by
  rw [IntegrityStore.holders, tracks.slot?]
  cases latest? evaluator characterId calls <;> rfl

theorem becomes {run? : Option IntegritySnapshot} {after : IntegrityStore} (tracks : Tracks evaluator calls store)
    (left : call.leaves? evaluator = some run?)
    (becomes : store.Becomes call.characterId (run?.map fun run => ⟨some run, 0⟩) after) :
    Tracks evaluator (calls ++ [call]) after where
  sound := becomes.sound
  slot? := by
    intro characterId
    rw [becomes.slot?, latest?_snoc, left, Option.getD_some, tracks.slot?]
    by_cases named : call.characterId = characterId
    · rw [if_pos named.symm, if_pos named]
    · rw [if_neg (Ne.symm named), if_neg named]

theorem make (tracks : Tracks evaluator calls store) (call : TrackerCall) :
    Tracks evaluator (calls ++ [call]) (call.make evaluator store).2 := by
  rw [make_store]
  split
  next unchanged =>
    refine ⟨tracks.sound, ?_⟩
    intro characterId
    rw [latest?_snoc, unchanged, Option.getD_none, ite_self, tracks.slot?]
  next forgotten =>
    -- Calls that are made whole leave no hold behind, so the slot is dropped and not just emptied.
    have forgets := (IntegrityStore.becomes_forget tracks.sound call.characterId).2
    rw [tracks.holders, if_pos rfl] at forgets
    exact tracks.becomes forgotten forgets
  next run stored =>
    have commits := (IntegrityStore.becomes_commit tracks.sound call.characterId run).2
    rw [tracks.holders] at commits
    exact tracks.becomes stored commits

theorem after (evaluator : Evaluator) (calls : List TrackerCall) :
    Tracks evaluator calls (TrackerCall.after evaluator calls) := by
  induction calls using List.reverseRecOn with
  | nil => exact opening evaluator
  | append_singleton earlier call ih =>
    rw [after_snoc]
    exact ih.make call

theorem report_eq (tracks : Tracks evaluator calls store) {report : IntegrityReport}
    (reported : (call.make evaluator store).1 = .report report) (evaluated : report.degraded = false) :
    ∃ run, call.leaves? evaluator = some (some run) ∧
      report = .ofRun (latest? evaluator call.characterId calls) run := by
  have made := make_cases evaluator store call
  generalize call.make evaluator store = outcome at made reported
  cases made with
  | @evaluated _ run left =>
    obtain rfl := TrackerAnswer.report.inj reported
    refine ⟨run, left, ?_⟩
    rw [(IntegrityStore.becomes_commit tracks.sound call.characterId run).1, tracks.current?]
  | degraded left degraded =>
    obtain rfl := TrackerAnswer.report.inj reported
    rw [degraded] at evaluated
    contradiction
  | restored own | refused foreign | current characterId | forgotten characterId => contradiction

end Tracks

theorem leaves?_of_evaluates {snapshot : Snapshot} {now : Instant}
    (evaluates : call.evaluates? = some (snapshot, now)) :
    call.leaves? evaluator = some (some (.ofList snapshot.characterId now (evaluator.violations snapshot))) := by
  cases call with
  | reevaluate characterId given moment | reevaluateFrom repository characterId moment =>
    simp only [leaves?, stores?, evaluates, Option.map_some]
  | restore characterId run | current characterId | forget characterId => contradiction

theorem characterId_of_evaluates {snapshot : Snapshot} {now : Instant}
    (evaluates : call.evaluates? = some (snapshot, now)) : call.characterId = snapshot.characterId := by
  cases call with
  | reevaluate characterId given moment =>
    rw [evaluates?] at evaluates
    split at evaluates
    next admitted =>
      obtain ⟨rfl, rfl⟩ := Prod.mk.inj (Option.some.inj evaluates)
      exact admitted.2.symm
    next refused => contradiction
  | reevaluateFrom repository characterId moment =>
    rw [evaluates?] at evaluates
    split at evaluates
    next error failed => contradiction
    next given loaded =>
      split at evaluates
      next admitted =>
        obtain ⟨rfl, rfl⟩ := Prod.mk.inj (Option.some.inj evaluates)
        exact admitted.2.symm
      next refused => contradiction
  | restore characterId run | current characterId | forget characterId => contradiction

theorem Tracks.report_of_evaluates (tracks : Tracks evaluator calls store) {snapshot : Snapshot} {now : Instant}
    (evaluates : call.evaluates? = some (snapshot, now)) :
    (call.make evaluator store).1 = .report (.ofRun (latest? evaluator snapshot.characterId calls)
      (.ofList snapshot.characterId now (evaluator.violations snapshot))) := by
  have made := make_cases evaluator store call
  have leaves : call.leaves? evaluator = _ := leaves?_of_evaluates evaluates
  have named := characterId_of_evaluates evaluates
  generalize call.make evaluator store = outcome at made ⊢
  cases made with
  | evaluated left =>
    obtain rfl := Option.some.inj (Option.some.inj (left.symm.trans leaves))
    rw [(IntegrityStore.becomes_commit tracks.sound _ _).1, tracks.current?, named]
  | degraded left degraded => exact absurd (left.symm.trans leaves) (Option.some_ne_none _).symm
  | restored own | refused foreign | current characterId | forgotten characterId => contradiction

/-- What is evaluated again without anything else left of its character in between has not changed. -/
theorem Tracks.report_again {earlier between : List TrackerCall} {first second : TrackerCall} {snapshot : Snapshot}
    {moment now : Instant} (tracks : Tracks evaluator (earlier ++ first :: between) store)
    (evaluated : first.evaluates? = some (snapshot, moment)) (again : second.evaluates? = some (snapshot, now))
    (quiet : ∀ call ∈ between, call.characterId = snapshot.characterId → call.leaves? evaluator = none) :
    ∃ report, (second.make evaluator store).1 = .report report ∧
      report.diff = { ViolationDiff.empty with unchanged := report.violations.map Violation.abilityId } := by
  refine ⟨_, tracks.report_of_evaluates again, ?_⟩
  have latest : latest? evaluator snapshot.characterId (earlier ++ first :: between) =
      some (.ofList snapshot.characterId moment (evaluator.violations snapshot)) := by
    rw [List.append_cons, latest?_append_quiet quiet, latest?_snoc, if_pos (characterId_of_evaluates evaluated),
      leaves?_of_evaluates evaluated, Option.getD_some]
  rw [latest]
  exact (ViolationDiff.between_of_same rfl).trans (congrArg _ (IntegritySnapshot.keys_ofList ..))

/-- A tracker keeps the latest run of each character. After any calls, the run of a character is the one that was
last evaluated for it or taken over, unless it was forgotten since, and the characters that have one are counted. A
report that is not degraded tells what changed since the latest run. What is degraded or refused leaves the store as
it was, and what is done for one character changes nothing for the others; so whatever is evaluated again with
nothing but such calls in between is unchanged. -/
theorem tracker_keeps_latest (evaluator : Evaluator) (calls : List TrackerCall) :
    let store := after evaluator calls
    (∀ characterId, store.current? characterId = latest? evaluator characterId calls) ∧
      (∃ ids : List String, ids.Nodup ∧ (∀ id, id ∈ ids ↔ (latest? evaluator id calls).isSome = true) ∧
        store.size = ids.length) ∧
      (∀ (call : TrackerCall) (report : IntegrityReport),
        (call.make evaluator store).1 = .report report → report.degraded = false →
        ∃ run, call.leaves? evaluator = some (some run) ∧
          report.diff = .between (latest? evaluator call.characterId calls) run) ∧
      (∀ (call : TrackerCall) (report : IntegrityReport),
        (call.make evaluator store).1 = .report report → report.degraded = true →
        call.leaves? evaluator = none ∧ (call.make evaluator store).2 = store) ∧
      (∀ (call : TrackerCall) (fault : StructureError), (call.make evaluator store).1 = .restored (some fault) →
        call.leaves? evaluator = none ∧ (call.make evaluator store).2 = store) ∧
      (∀ (call : TrackerCall) (characterId : String), call.characterId ≠ characterId →
        (call.make evaluator store).2.current? characterId = store.current? characterId) ∧
      ∀ (earlier between : List TrackerCall) (first second : TrackerCall) (snapshot : Snapshot) (moment now : Instant),
        calls = earlier ++ first :: between → first.evaluates? = some (snapshot, moment) →
        second.evaluates? = some (snapshot, now) →
        (∀ call ∈ between, call.characterId = snapshot.characterId → call.leaves? evaluator = none) →
        ∃ report, (second.make evaluator store).1 = .report report ∧
          report.diff = { ViolationDiff.empty with unchanged := report.violations.map Violation.abilityId } := by
  intro store
  have tracks : Tracks evaluator calls store := Tracks.after evaluator calls
  refine ⟨tracks.current?, ?_, ?_, ?_, ?_, ?_, ?_⟩
  · refine ⟨store.assigned.keys, store.assigned.keys_nodup, ?_, (List.length_map _).symm⟩
    intro id
    rw [tracks.sound.mem_keys_iff, tracks.slot?, Option.isSome_map]
  · intro call report reported evaluated
    obtain ⟨run, left, rfl⟩ := tracks.report_eq reported evaluated
    exact ⟨run, left, rfl⟩
  · exact fun call report => make_of_degraded
  · exact fun call fault => make_of_refused
  · intro call characterId other
    rw [(tracks.make call).current?, tracks.current?, latest?_snoc, if_neg other]
  · rintro earlier between first second snapshot moment now rfl evaluated again quiet
    exact tracks.report_again evaluated again quiet

def upstart : Snapshot :=
  (Snapshot.blank "pc").acquire ⟨"feat:mastery", "Mastery", .feat, none, some (.structured (.level 3))⟩

def audits : List TrackerCall :=
  [.reevaluate "pc" upstart ⟨0, 0⟩, .reevaluate "npc" upstart ⟨1, 0⟩, .reevaluateFrom .empty "pc" ⟨2, 0⟩,
    .restore "pc" (.ofList "npc" ⟨0, 0⟩ []), .restore "npc" (.ofList "npc" ⟨0, 0⟩ []), .forget "npc", .current "pc"]

theorem tracker_keeps_latest_upstart :
    (after .standard audits).size = 1 ∧
      ∃ report, ((reevaluate "pc" upstart ⟨3, 0⟩).make .standard (after .standard audits)).1 = .report report ∧
        report.diff = { ViolationDiff.empty with unchanged := ["feat:mastery"] } := by
  have admitted : upstart.fault? = none ∧ upstart.characterId = "pc" := by decide
  have evaluates (now : Instant) : (reevaluate "pc" upstart now).evaluates? = some (upstart, now) := by
    rw [evaluates?, if_pos admitted]
  have quiet : ∀ call ∈ audits.tail, call.characterId = upstart.characterId → call.leaves? .standard = none := by
    decide
  obtain ⟨-, -, -, -, -, -, again⟩ := tracker_keeps_latest .standard audits
  obtain ⟨report, reported, unchanged⟩ := again [] audits.tail _ _ upstart ⟨0, 0⟩ ⟨3, 0⟩ rfl (evaluates ⟨0, 0⟩)
    (evaluates ⟨3, 0⟩) quiet
  refine ⟨by decide, report, reported, unchanged.trans ?_⟩
  have found : report.violations.map Violation.abilityId = ["feat:mastery"] := by
    obtain rfl := TrackerAnswer.report.inj reported
    decide
  rw [found]

end TrackerCall

end Legality
