import Legality.Proofs.Character.Validity
import Legality.Proofs.Integrity.Tracking

/-!
Campaigns. Characters are stored from time to time, and a tracker looks after them. Only snapshots that break no rule are
stored, each under its own id; so what is evaluated for a character that is known is never refused, and it is the snapshot
that was stored last.
-/
namespace Legality

/-- The characters of a campaign, and the latest runs over them. -/
structure Campaign where
  repository : Repository
  store : IntegrityStore

/-- One call on a campaign: a character is stored, a stored character is evaluated, or the tracker is called otherwise. -/
inductive CampaignCall
  | put (snapshot : Snapshot)
  | reevaluateFrom (characterId : String) (now : Instant)
  | track (call : TrackerCall)

inductive CampaignAnswer
  | stored
  | refused (error : RepositoryError)
  | tracked (answer : TrackerAnswer)

namespace CampaignCall

def make (evaluator : Evaluator) (campaign : Campaign) : CampaignCall → CampaignAnswer × Campaign
  | put snapshot =>
    match campaign.repository.put snapshot with
    | .error error => (.refused error, campaign)
    | .ok repository => (.stored, { campaign with repository := repository })
  | reevaluateFrom characterId now =>
    let (answer, store) := (TrackerCall.reevaluateFrom campaign.repository characterId now).make evaluator campaign.store
    (.tracked answer, { campaign with store := store })
  | track call =>
    let (answer, store) := call.make evaluator campaign.store
    (.tracked answer, { campaign with store := store })

def play (evaluator : Evaluator) (campaign : Campaign) : List CampaignCall →
    List (CampaignCall × CampaignAnswer) × Campaign
  | [] => ([], campaign)
  | call :: rest =>
    let (answer, campaign) := call.make evaluator campaign
    let (log, campaign) := play evaluator campaign rest
    ((call, answer) :: log, campaign)

def stored? : CampaignCall × CampaignAnswer → Option Snapshot
  | (put snapshot, .stored) => some snapshot
  | _ => none

def latest? (characterId : String) (log : List (CampaignCall × CampaignAnswer)) : Option Snapshot :=
  (log.filterMap stored?).reverse.find? fun snapshot => snapshot.characterId = characterId

end CampaignCall

/-- Whether a repository holds the last one of some snapshots of each character, and all of them are well-formed. -/
structure Repository.Holds (repository : Repository) (snapshots : List Snapshot) : Prop where
  get? : ∀ id, repository.characters.get? id = snapshots.reverse.find? fun snapshot => snapshot.characterId = id
  wellFormed : ∀ snapshot ∈ snapshots, snapshot.WellFormed

namespace Repository

variable {repository : Repository} {snapshots : List Snapshot} {snapshot : Snapshot} {id : String}

theorem Holds.opening : Repository.empty.Holds [] := ⟨fun _ => rfl, List.forall_mem_nil _⟩

theorem put_of_wellFormed (repository : Repository) (well : snapshot.WellFormed) :
    repository.put snapshot = .ok ⟨repository.characters.insert snapshot.characterId snapshot⟩ := by
  rw [put, Snapshot.fault?_eq_none_iff.mpr well]

theorem put_of_malformed (repository : Repository) (malformed : ¬ snapshot.WellFormed) :
    ∃ fault, snapshot.fault? = some fault ∧ repository.put snapshot = .error (.malformed fault) := by
  rw [← Snapshot.fault?_eq_none_iff] at malformed
  obtain ⟨fault, found⟩ := Option.ne_none_iff_exists'.mp malformed
  exact ⟨fault, found, by rw [put, found]⟩

theorem Holds.put (holds : repository.Holds snapshots) (well : snapshot.WellFormed) :
    Holds ⟨repository.characters.insert snapshot.characterId snapshot⟩ (snapshots ++ [snapshot]) where
  get? := by
    intro id
    rw [SortedMap.get?_insert, List.reverse_concat, List.find?_cons, holds.get?]
    by_cases own : id = snapshot.characterId
    · simp [own]
    · simp [own, Ne.symm own]
  wellFormed := List.forall_mem_append.mpr ⟨holds.wellFormed, List.forall_mem_singleton.mpr well⟩

theorem Holds.sound (holds : repository.Holds snapshots) (found : repository.characters.get? id = some snapshot) :
    snapshot.WellFormed ∧ snapshot.characterId = id := by
  rw [holds.get?] at found
  have member := List.mem_reverse.mp (List.mem_of_find?_eq_some found)
  exact ⟨holds.wellFormed snapshot member, by simpa using List.find?_some found⟩

theorem Holds.unknown_iff (holds : repository.Holds snapshots) :
    repository.characters.get? id = none ↔ ∀ snapshot ∈ snapshots, snapshot.characterId ≠ id := by
  rw [holds.get?, List.find?_eq_none]
  simp only [List.mem_reverse, decide_eq_true_eq, Ne]

end Repository

namespace CampaignCall

variable {evaluator : Evaluator} {campaign : Campaign} {snapshots : List Snapshot} {snapshot : Snapshot}
  {log : List (CampaignCall × CampaignAnswer)}

theorem mem_stored_iff : snapshot ∈ log.filterMap stored? ↔ (put snapshot, .stored) ∈ log := by
  rw [List.mem_filterMap]
  constructor
  · rintro ⟨entry, member, found⟩
    unfold stored? at found
    split at found
    next given => exact Option.some.inj found ▸ member
    next => contradiction
  · exact fun member => ⟨_, member, rfl⟩

theorem make_put (evaluator : Evaluator) (campaign : Campaign) (snapshot : Snapshot) :
    (snapshot.WellFormed ∧ (put snapshot).make evaluator campaign = (.stored, { campaign with
        repository := ⟨campaign.repository.characters.insert snapshot.characterId snapshot⟩ })) ∨
      ∃ fault, snapshot.fault? = some fault ∧
        (put snapshot).make evaluator campaign = (.refused (.malformed fault), campaign) := by
  by_cases well : snapshot.WellFormed
  · exact .inl ⟨well, by rw [make, campaign.repository.put_of_wellFormed well]⟩
  · obtain ⟨fault, found, refused⟩ := campaign.repository.put_of_malformed well
    exact .inr ⟨fault, found, by rw [make, refused]⟩

/-- A call adds to what is held the snapshot that it stored, if it stored one. -/
theorem make_holds (evaluator : Evaluator) (holds : campaign.repository.Holds snapshots) (call : CampaignCall) :
    (call.make evaluator campaign).2.repository.Holds
      (snapshots ++ (stored? (call, (call.make evaluator campaign).1)).toList) := by
  cases call with
  | put snapshot =>
    rcases make_put evaluator campaign snapshot with ⟨well, made⟩ | ⟨fault, -, made⟩
    · rw [made]
      exact holds.put well
    · rw [made]
      exact (List.append_nil snapshots).symm ▸ holds
  | reevaluateFrom characterId now | track call => exact (List.append_nil snapshots).symm ▸ holds

theorem play_holds (evaluator : Evaluator) (holds : campaign.repository.Holds snapshots) (calls : List CampaignCall) :
    (play evaluator campaign calls).2.repository.Holds
      (snapshots ++ (play evaluator campaign calls).1.filterMap stored?) := by
  induction calls generalizing campaign snapshots with
  | nil => exact (List.append_nil snapshots).symm ▸ holds
  | cons call rest ih =>
    have later := ih (make_holds evaluator holds call)
    unfold play
    cases kept : stored? (call, (call.make evaluator campaign).1) with
    | none =>
      rw [List.filterMap_cons_none kept]
      rwa [kept, Option.toList_none, List.append_nil] at later
    | some snapshot =>
      rw [List.filterMap_cons_some kept, List.append_cons]
      rwa [kept, Option.toList_some] at later

theorem reevaluateFrom_unknown {characterId : String} (evaluator : Evaluator)
    (unknown : campaign.repository.characters.get? characterId = none) (now : Instant) :
    (reevaluateFrom characterId now).make evaluator campaign =
      (.tracked (.report (.failed characterId now)), campaign) := by
  simp only [make, TrackerCall.make, Evaluator.reevaluateFrom, Repository.load, unknown]

theorem reevaluateFrom_known {characterId : String} (evaluator : Evaluator)
    (found : campaign.repository.characters.get? characterId = some snapshot) (now : Instant) :
    (reevaluateFrom characterId now).make evaluator campaign =
      (track (.reevaluate characterId snapshot now)).make evaluator campaign := by
  simp only [make, TrackerCall.make, Evaluator.reevaluateFrom, Repository.load, found]

theorem reevaluate_made (evaluator : Evaluator) (campaign : Campaign) (well : snapshot.WellFormed) (now : Instant) :
    ∃ report, ((track (.reevaluate snapshot.characterId snapshot now)).make evaluator campaign).1 =
        .tracked (.report report) ∧ report.degraded = false := by
  have admitted : snapshot.fault? = none := Snapshot.fault?_eq_none_iff.mpr well
  simp only [make, TrackerCall.make, TrackerCall.reevaluate_eq, admitted, and_self, if_true]
  exact ⟨_, rfl, rfl⟩

/-- A tracker that takes its characters out of a repository fails only for those that are not in it. After any calls on a
campaign, which starts without characters and with whatever runs, a snapshot is stored if it breaks no rule; otherwise it
is refused, and the campaign is as it was. A run over a stored character is degraded exactly if no snapshot of that
character has been stored, and then it leaves no trace; otherwise its report, and what it leaves, are those of a run over
the snapshot that was stored last. -/
theorem supplied_runs (evaluator : Evaluator) (store : IntegrityStore) (calls : List CampaignCall) :
    let log := (play evaluator ⟨.empty, store⟩ calls).1
    let campaign := (play evaluator ⟨.empty, store⟩ calls).2
    (∀ snapshot, (snapshot.fault? = none ∧ ((put snapshot).make evaluator campaign).1 = .stored) ∨
        ∃ fault, snapshot.fault? = some fault ∧
          (put snapshot).make evaluator campaign = (.refused (.malformed fault), campaign)) ∧
      ∀ characterId now, ∃ report,
        ((reevaluateFrom characterId now).make evaluator campaign).1 = .tracked (.report report) ∧
        (report.degraded = true ↔ ∀ snapshot, (put snapshot, .stored) ∈ log → snapshot.characterId ≠ characterId) ∧
        (report.degraded = true → ((reevaluateFrom characterId now).make evaluator campaign).2 = campaign) ∧
        (report.degraded = false → ∃ snapshot, latest? characterId log = some snapshot ∧
          (reevaluateFrom characterId now).make evaluator campaign =
            (track (.reevaluate characterId snapshot now)).make evaluator campaign) := by
  intro log campaign
  have opening : (Campaign.mk .empty store).repository.Holds [] := .opening
  have holds : campaign.repository.Holds (log.filterMap stored?) := play_holds evaluator opening calls
  constructor
  · intro snapshot
    rcases make_put evaluator campaign snapshot with ⟨well, made⟩ | refused
    · exact .inl ⟨Snapshot.fault?_eq_none_iff.mpr well, congrArg Prod.fst made⟩
    · exact .inr refused
  · intro characterId now
    have unknown_iff : campaign.repository.characters.get? characterId = none ↔
        ∀ snapshot, (put snapshot, .stored) ∈ log → snapshot.characterId ≠ characterId := by
      rw [holds.unknown_iff]
      simp only [mem_stored_iff]
    cases found : campaign.repository.characters.get? characterId with
    | none =>
      have made := reevaluateFrom_unknown evaluator found now
      refine ⟨.failed characterId now, congrArg Prod.fst made, ?_, fun _ => congrArg Prod.snd made, nofun⟩
      exact iff_of_true rfl (unknown_iff.mp found)
    | some snapshot =>
      obtain ⟨well, rfl⟩ := holds.sound found
      have made := reevaluateFrom_known evaluator found now
      obtain ⟨report, reported, evaluated⟩ := reevaluate_made evaluator campaign well now
      rw [made]
      refine ⟨report, reported, ?_, fun degraded => ?_, fun _ => ⟨snapshot, ?_, rfl⟩⟩
      · rw [← unknown_iff, found, evaluated]
        exact iff_of_false Bool.false_ne_true (Option.some_ne_none snapshot)
      · exact absurd (evaluated.symm.trans degraded) Bool.false_ne_true
      · rw [latest?, ← holds.get?, found]

def adept : Snapshot := { TrackerCall.upstart with level := 3 }

def season : List CampaignCall :=
  [.put TrackerCall.upstart, .reevaluateFrom "pc" ⟨0, 0⟩, .put adept, .put { adept with abilities := .uniform 61 },
    .track (.reevaluate "npc" adept ⟨1, 0⟩)]

/-- The upstart is evaluated at its new level, where nothing is violated any more, and nobody else is. -/
theorem supplied_runs_season :
    let campaign := (play .standard ⟨.empty, .empty⟩ season).2
    (∃ report, ((reevaluateFrom "pc" ⟨2, 0⟩).make .standard campaign).1 = .tracked (.report report) ∧
      report.degraded = false ∧ report.diff.resolved = ["feat:mastery"] ∧
      (reevaluateFrom "pc" ⟨2, 0⟩).make .standard campaign =
        (track (.reevaluate "pc" adept ⟨2, 0⟩)).make .standard campaign) ∧
      ((reevaluateFrom "npc" ⟨2, 0⟩).make .standard campaign).2 = campaign := by
  intro campaign
  obtain ⟨-, supplied⟩ := supplied_runs .standard .empty season
  have last : latest? "pc" (play .standard ⟨.empty, .empty⟩ season).1 = some adept := rfl
  constructor
  · obtain ⟨report, reported, -, -, known⟩ := supplied "pc" ⟨2, 0⟩
    have evaluated : report.degraded = false ∧ report.diff.resolved = ["feat:mastery"] := by
      obtain rfl := TrackerAnswer.report.inj (CampaignAnswer.tracked.inj reported)
      decide
    obtain ⟨snapshot, found, same⟩ := known evaluated.1
    obtain rfl := Option.some.inj (found.symm.trans last)
    exact ⟨report, reported, evaluated.1, evaluated.2, same⟩
  · obtain ⟨report, reported, -, untouched, -⟩ := supplied "npc" ⟨2, 0⟩
    apply untouched
    obtain rfl := TrackerAnswer.report.inj (CampaignAnswer.tracked.inj reported)
    decide

end CampaignCall

end Legality
