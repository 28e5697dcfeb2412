import Legality.Proofs.Governance.Ledger
import Legality.Proofs.Text.Basic
import Mathlib.Data.List.Forall2
import Mathlib.Data.List.Induction

/-!
The audit log explains the governance of a character. Requests that are run one after another leave a log that
leads, by legal changes of mode, from normal enforcement to the present mode, and the audit of the present state is
that of the last record.
-/
namespace Legality

/-- A request as it is made: whether those who take it require reasons, and what the clock says meanwhile. -/
structure GovernanceCall where
  request : GovernanceRequest
  requireReason : Bool
  now : Instant
  deriving DecidableEq, Repr

namespace GovernanceCall

def read (call : GovernanceCall) (ledger : Ledger) : Except GovernanceError GovernanceRequest.Plan :=
  call.request.read Ledger.store call.requireReason call.now ledger

def run (call : GovernanceCall) (ledger : Ledger) : Except GovernanceError GovernanceState × Ledger :=
  call.request.run Ledger.store call.requireReason call.now ledger

structure Made (call : GovernanceCall) (record : TransitionRecord) : Prop where
  character : record.characterId = call.request.characterId
  privileged : call.request.actor.role = .gameMaster ∨ call.request.actor.role = .admin
  asked : ∃ reason, call.request.wish = .mode record.newMode reason ∧ record.reason = Text.trim reason
  trimmed : Text.trim record.reason = record.reason
  reasoned : call.requireReason = true → record.reason ≠ ""
  approvedBy : record.approvedBy = call.request.actor.id
  timestamp : record.timestamp = call.now

end GovernanceCall

structure Answered where
  call : GovernanceCall
  outcome : Except GovernanceError GovernanceState

namespace Answered

def shown? (characterId : String) (answered : Answered) : Option Visibility :=
  match answered.outcome, answered.call.request.wish with
  | .ok _, .visibility target => if answered.call.request.characterId = characterId then some target else none
  | _, _ => none

def change? (characterId : String) (answered : Answered) : Option GovernanceCall :=
  match answered.outcome, answered.call.request.wish with
  | .ok _, .mode _ _ => if answered.call.request.characterId = characterId then some answered.call else none
  | _, _ => none

end Answered

/-- What comes of calls that are run whole, one after another: the ledger, and every call with its answer. -/
structure Proceedings where
  ledger : Ledger
  answers : List Answered

namespace Proceedings

def opening : Proceedings := ⟨.empty, []⟩

def take (proceedings : Proceedings) (call : GovernanceCall) : Proceedings :=
  ⟨(call.run proceedings.ledger).2, proceedings.answers ++ [⟨call, (call.run proceedings.ledger).1⟩]⟩

def ofCalls (calls : List GovernanceCall) : Proceedings := calls.foldl take opening

def changes (proceedings : Proceedings) (characterId : String) : List GovernanceCall :=
  proceedings.answers.filterMap (Answered.change? characterId)

def showings (proceedings : Proceedings) (characterId : String) : List Visibility :=
  proceedings.answers.filterMap (Answered.shown? characterId)

end Proceedings

/-- Whether records lead from one mode to another by legal changes, each from where the one before it led. -/
def Mode.Leads : Mode → List TransitionRecord → Mode → Prop
  | source, [], target => source = target
  | source, record :: rest, target =>
    record.oldMode = source ∧ source.canBecome record.newMode = true ∧ Leads record.newMode rest target

/-- Whether a log explains a state: it leads from normal enforcement to the mode, the changes made its records, and
the audit of the state is that of the last record. The visibility, of which a log says nothing, is the one that was
set last. -/
structure GovernanceState.ExplainedBy (state : GovernanceState) (log : List TransitionRecord)
    (changes : List GovernanceCall) (showings : List Visibility) : Prop where
  leads : Mode.normal.Leads log state.mode
  made : List.Forall₂ GovernanceCall.Made changes log
  approvedBy : state.approvedBy = log.getLast?.map TransitionRecord.approvedBy
  reason : state.reason = log.getLast?.bind fun record => if record.reason = "" then none else some record.reason
  changedAt : state.changedAt = log.getLast?.map TransitionRecord.timestamp
  visibility : state.visibility = showings.getLast?.getD .banner

def Proceedings.Explained (proceedings : Proceedings) (characterId : String) : Prop :=
  (proceedings.ledger.state characterId).ExplainedBy (proceedings.ledger.transitions characterId)
    (proceedings.changes characterId) (proceedings.showings characterId)

namespace Mode

instance instDecidableLeads : (source : Mode) → (records : List TransitionRecord) → (target : Mode) →
    Decidable (source.Leads records target)
  | source, [], target => inferInstanceAs (Decidable (source = target))
  | source, record :: rest, target =>
    have := instDecidableLeads record.newMode rest target
    inferInstanceAs (Decidable (record.oldMode = source ∧ source.canBecome record.newMode = true ∧ _))

theorem Leads.record {source middle : Mode} {records : List TransitionRecord} {record : TransitionRecord}
    (leads : source.Leads records middle) (old : record.oldMode = middle)
    (legal : middle.canBecome record.newMode = true) : source.Leads (records ++ [record]) record.newMode := by
  induction records generalizing source with
  | nil =>
    obtain rfl : source = middle := leads
    exact ⟨old, legal, rfl⟩
  | cons first rest ih =>
    obtain ⟨before, allowed, later⟩ := leads
    exact ⟨before, allowed, ih later⟩

end Mode

namespace GovernanceCall

variable {call : GovernanceCall} {ledger : Ledger} {plan : GovernanceRequest.Plan}

theorem run_of_read_error {error : GovernanceError} (read : call.read ledger = .error error) :
    call.run ledger = (.error error, ledger) := by
  rw [run, GovernanceRequest.run_ledger]
  simp only [show call.request.read Ledger.store call.requireReason call.now ledger = .error error from read]

theorem run_of_read_ok (read : call.read ledger = .ok plan) :
    call.run ledger = (.ok plan.next, ledger.carryOut call.request.characterId plan) := by
  rw [run, GovernanceRequest.run_ledger]
  simp only [show call.request.read Ledger.store call.requireReason call.now ledger = .ok plan from read]

theorem run_ne_conflict (call : GovernanceCall) (ledger : Ledger) (characterId : String) :
    (call.run ledger).1 ≠ .error (.conflict characterId) := by
  cases read : call.read ledger with
  | error error =>
    rw [run_of_read_error read]
    intro conflict
    exact GovernanceRequest.read_ledger_ne_conflict read characterId (Except.error.inj conflict)
  | ok plan =>
    rw [run_of_read_ok read]
    rintro ⟨⟩

theorem run_error {error : GovernanceError} (failed : (call.run ledger).1 = .error error) :
    (call.run ledger).2 = ledger := by
  cases read : call.read ledger with
  | error error => rw [run_of_read_error read]
  | ok plan =>
    rw [run_of_read_ok read] at failed
    contradiction

theorem made_recordOf {current : GovernanceState} {target : Mode} {reason : String}
    (admitted : call.request.refusal? call.requireReason = none) (wish : call.request.wish = .mode target reason) :
    call.Made (call.request.recordOf current target reason call.now) where
  character := rfl
  privileged := GovernanceRequest.privileged_of_admitted admitted
  asked := ⟨reason, wish, rfl⟩
  trimmed := Text.trim_trim reason
  reasoned := GovernanceRequest.reasoned_of_admitted admitted wish
  approvedBy := rfl
  timestamp := rfl

end GovernanceCall

namespace GovernanceState.ExplainedBy

variable {state : GovernanceState} {log : List TransitionRecord} {changes : List GovernanceCall}
  {showings : List Visibility}

theorem normal : ExplainedBy default [] [] [] where
  leads := rfl
  made := List.Forall₂.nil
  approvedBy := rfl
  reason := rfl
  changedAt := rfl
  visibility := rfl

theorem shown (explained : state.ExplainedBy log changes showings) (target : Visibility) :
    ({ state with visibility := target } : GovernanceState).ExplainedBy log changes (showings ++ [target]) where
  leads := explained.leads
  made := explained.made
  approvedBy := explained.approvedBy
  reason := explained.reason
  changedAt := explained.changedAt
  visibility := by rw [List.getLast?_append]; rfl

theorem change (explained : state.ExplainedBy log changes showings) {call : GovernanceCall} {target : Mode}
    {reason : String} (legal : state.mode.canBecome target = true)
    (made : call.Made (call.request.recordOf state target reason call.now)) :
    (call.request.changedMode state target reason call.now).ExplainedBy
      (log ++ [call.request.recordOf state target reason call.now]) (changes ++ [call]) showings where
  leads := explained.leads.record rfl legal
  made := List.rel_append explained.made (List.Forall₂.cons made List.Forall₂.nil)
  approvedBy := by rw [List.getLast?_append]; rfl
  reason := by
    rw [List.getLast?_append]
    simp [GovernanceRequest.changedMode, GovernanceRequest.recordOf]
  changedAt := by rw [List.getLast?_append]; rfl
  visibility := explained.visibility

end GovernanceState.ExplainedBy

namespace Proceedings

variable {proceedings : Proceedings} {characterId : String} {call : GovernanceCall}

theorem ofCalls_snoc (calls : List GovernanceCall) (call : GovernanceCall) :
    ofCalls (calls ++ [call]) = (ofCalls calls).take call := by
  rw [ofCalls, List.foldl_append]
  rfl

theorem take_of_read_error {error : GovernanceError} (read : call.read proceedings.ledger = .error error) :
    proceedings.take call = ⟨proceedings.ledger, proceedings.answers ++ [⟨call, .error error⟩]⟩ := by
  rw [take, GovernanceCall.run_of_read_error read]

theorem take_of_read_ok {plan : GovernanceRequest.Plan} (read : call.read proceedings.ledger = .ok plan) :
    proceedings.take call =
      ⟨proceedings.ledger.carryOut call.request.characterId plan, proceedings.answers ++ [⟨call, .ok plan.next⟩]⟩ := by
  rw [take, GovernanceCall.run_of_read_ok read]

theorem Explained.take_refused {error : GovernanceError} (explained : proceedings.Explained characterId)
    (read : call.read proceedings.ledger = .error error) : (proceedings.take call).Explained characterId := by
  rw [Explained] at explained ⊢
  rw [take_of_read_error read]
  simpa [changes, showings, List.filterMap_cons, Answered.change?, Answered.shown?] using explained

theorem Explained.take_foreign {plan : GovernanceRequest.Plan} (explained : proceedings.Explained characterId)
    (read : call.read proceedings.ledger = .ok plan) (foreign : call.request.characterId ≠ characterId) :
    (proceedings.take call).Explained characterId := by
  have planned := (GovernanceRequest.read_ledger_ok.mp read).2
  have log : (proceedings.ledger.carryOut call.request.characterId plan).transitions characterId =
      proceedings.ledger.transitions characterId := by
    rw [Ledger.transitions_carryOut, GovernanceRequest.recordsOf_plan planned, if_neg foreign, List.append_nil]
  have state : (proceedings.ledger.carryOut call.request.characterId plan).state characterId =
      proceedings.ledger.state characterId := by
    rw [Ledger.state_carryOut, if_neg foreign.symm]
  rw [Explained] at explained ⊢
  rw [take_of_read_ok read]
  cases wish : call.request.wish with
  | visibility target =>
    simpa [changes, showings, Answered.change?, Answered.shown?, wish, foreign, log, state] using explained
  | mode target reason =>
    simpa [changes, showings, Answered.change?, Answered.shown?, wish, foreign, log, state] using explained

theorem Explained.take_own {plan : GovernanceRequest.Plan}
    (explained : proceedings.Explained call.request.characterId) (read : call.read proceedings.ledger = .ok plan) :
    (proceedings.take call).Explained call.request.characterId := by
  obtain ⟨admitted, planned⟩ := GovernanceRequest.read_ledger_ok.mp read
  have log : (proceedings.ledger.carryOut call.request.characterId plan).transitions call.request.characterId =
      proceedings.ledger.transitions call.request.characterId ++ plan.record.toList := by
    rw [Ledger.transitions_carryOut, GovernanceRequest.recordsOf_plan planned, if_pos rfl]
  have state : (proceedings.ledger.carryOut call.request.characterId plan).state call.request.characterId =
      plan.next := by
    rw [Ledger.state_carryOut, if_pos rfl]
  rw [Explained, take_of_read_ok read]
  obtain ⟨target, wish, rfl⟩ | ⟨target, reason, wish, legal, rfl⟩ := GovernanceRequest.plan_cases planned
  · have shown := GovernanceState.ExplainedBy.shown explained target
    simpa [changes, showings, Answered.change?, Answered.shown?, wish, log, state] using shown
  · have changed := GovernanceState.ExplainedBy.change explained legal (GovernanceCall.made_recordOf admitted wish)
    simpa [changes, showings, Answered.change?, Answered.shown?, wish, log, state] using changed

/-- One more call leaves everything explained. Only a call that is not refused, and only for its own character,
changes anything. -/
theorem Explained.take (explained : proceedings.Explained characterId) (call : GovernanceCall) :
    (proceedings.take call).Explained characterId := by
  cases read : call.read proceedings.ledger with
  | error error => exact explained.take_refused read
  | ok plan =>
    by_cases own : call.request.characterId = characterId
    · subst own
      exact explained.take_own read
    · exact explained.take_foreign read own

theorem explained_ofCalls (calls : List GovernanceCall) (characterId : String) :
    (ofCalls calls).Explained characterId := by
  induction calls using List.reverseRecOn with
  | nil => exact GovernanceState.ExplainedBy.normal
  | append_singleton earlier call ih =>
    rw [ofCalls_snoc]
    exact ih.take call

theorem calls_ofCalls (calls : List GovernanceCall) : (ofCalls calls).answers.map Answered.call = calls := by
  induction calls using List.reverseRecOn with
  | nil => rfl
  | append_singleton earlier call ih => rw [ofCalls_snoc, take, List.map_append, ih, List.map_singleton]

theorem answers_ne_conflict (calls : List GovernanceCall) (characterId : String) :
    ∀ answered ∈ (ofCalls calls).answers, answered.outcome ≠ .error (.conflict characterId) := by
  induction calls using List.reverseRecOn with
  | nil => exact fun _ member => absurd member List.not_mem_nil
  | append_singleton earlier call ih =>
    rw [ofCalls_snoc, take]
    intro answered member
    rcases List.mem_append.mp member with before | last
    · exact ih answered before
    · rw [List.mem_singleton.mp last]
      exact call.run_ne_conflict _ characterId

/-- The audit log explains the governance of every character, whatever calls were run one after another and by
whomever. None of the calls found a conflict, and one that fails leaves all states and logs as they were. -/
theorem log_explains_state (calls : List GovernanceCall) :
    (ofCalls calls).answers.map Answered.call = calls ∧
      (∀ characterId, (ofCalls calls).Explained characterId) ∧
      (∀ answered ∈ (ofCalls calls).answers, ∀ characterId, answered.outcome ≠ .error (.conflict characterId)) ∧
      ∀ call error, (call.run (ofCalls calls).ledger).1 = .error error →
        (ofCalls (calls ++ [call])).ledger = (ofCalls calls).ledger := by
  refine ⟨calls_ofCalls calls, explained_ofCalls calls, ?_, ?_⟩
  · intro answered member characterId
    exact answers_ne_conflict calls characterId answered member
  · intro call error failed
    rw [ofCalls_snoc]
    exact GovernanceCall.run_error failed

end Proceedings

end Legality
