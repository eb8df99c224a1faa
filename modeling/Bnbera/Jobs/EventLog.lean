import Bnbera.Jobs.Lifecycle
import Bnbera.Jobs.Memory
import Bnbera.Jobs.Rendering

namespace Bnbera

open Interleaving

def IsChain (start : Option JobState) : List JobEvent → Option JobState → Prop
  | [], last => last = start
  | event :: rest, last => event.previousState = start ∧ IsChain event.nextState rest last

theorem IsChain.append {start last : Option JobState} {events : List JobEvent} {event : JobEvent}
    (chain : IsChain start events last) (links : event.previousState = last) :
    IsChain start (events ++ [event]) event.nextState := by
  induction events generalizing start with
  | nil =>
    cases chain
    exact ⟨links, rfl⟩
  | cons first rest ih => exact ⟨chain.1, ih chain.2⟩

def JobMemory.eventsOf (memory : JobMemory) (jobKey : String) : List JobEvent :=
  memory.events.values.filter fun event => keyFor event.jobKey = jobKey

/-- The history of a job: from its creation, open, to the state in which it is stored. -/
structure IsHistory (events : List JobEvent) (stored : Option JobRecord) : Prop where
  chain : IsChain none events (stored.map (·.state))
  opened : ∀ first, events.head? = some first → first.nextState = some .opened
  present : stored = none → events = []

def SameLog (before after : JobMemory) : Prop :=
  after.jobs = before.jobs ∧ after.events = before.events ∧ after.actions = before.actions

structure Linked (input : CommitInput) : Prop where
  previous : input.event.previousState = input.expectedJob.map (·.state)
  next : input.event.nextState = some input.job.state
  opened : input.expectedJob = none → input.job.state = .opened

def JobAnswer.fresh : JobAnswer → Bool
  | .created _ replayed => !replayed
  | .moved _ _ replayed => !replayed
  | .reconciliation _ => false
  | .worked => false

def PreparedFor (idempotencyKey : String) : Prepared → Prop
  | .replayed answer => answer.fresh = false
  | .commits input answer => answer.fresh = true ∧ input.actionKey = trim idempotencyKey ∧ Linked input

section
variable [Sha256] {repository : JobRepository} {nowUnix : Int} {eventId : Uuid} {memory : JobMemory} {prepared : Prepared}

theorem create_preparedFor {input : CreateJobInput}
    (made : repository.create nowUnix eventId memory input = .ok prepared) :
    PreparedFor input.idempotencyKey prepared := by
  obtain ⟨key, read, rest⟩ := bind_eq_ok.mp made
  obtain ⟨_, _, rest⟩ := bind_eq_ok.mp rest
  obtain ⟨_, _, rest⟩ := bind_eq_ok.mp rest
  obtain ⟨_, _, rest⟩ := bind_eq_ok.mp rest
  obtain ⟨normalized, _, rest⟩ := bind_eq_ok.mp rest
  obtain ⟨opened, rest⟩ := refuseIf_bind_eq_ok.mp rest
  dsimp only at rest
  split at rest
  · obtain ⟨_, rest⟩ := refuseIf_bind_eq_ok.mp rest
    cases Except.ok.inj rest
    rfl
  · obtain ⟨_, _, rest⟩ := bind_eq_ok.mp rest
    obtain ⟨_, _, rest⟩ := bind_eq_ok.mp rest
    obtain ⟨job, parsed, rest⟩ := bind_eq_ok.mp rest
    obtain ⟨_, rest⟩ := refuseIf_bind_eq_ok.mp rest
    obtain ⟨event, noted, rest⟩ := bind_eq_ok.mp rest
    cases Except.ok.inj rest
    have state : job.state = .opened := by
      rw [(JobRecord.parse_eq_ok.mp parsed).2]
      exact not_not.mp opened
    have same := (JobEvent.parse_eq_ok.mp noted).2
    refine ⟨rfl, (parseIdempotencyKeyText_eq_ok.mp read).symm, ?_, ?_, fun _ => state⟩
    · rw [same]
      rfl
    · rw [same]
      exact congrArg some state.symm

theorem transition_preparedFor {input : TransitionInput}
    (made : repository.transition nowUnix eventId memory input = .ok prepared) :
    PreparedFor input.idempotencyKey prepared := by
  obtain ⟨key, read, rest⟩ := bind_eq_ok.mp made
  dsimp only at rest
  split at rest
  · obtain ⟨_, rest⟩ := refuseIf_bind_eq_ok.mp rest
    cases Except.ok.inj rest
    rfl
  · split at rest
    · cases rest
    · rename_i existing _
      obtain ⟨_, rest⟩ := refuseIf_bind_eq_ok.mp rest
      obtain ⟨_, _, rest⟩ := bind_eq_ok.mp rest
      obtain ⟨⟨job, event⟩, accepted, rest⟩ := bind_eq_ok.mp rest
      cases Except.ok.inj rest
      have moved := transitionErc8183Job_accepted accepted
      obtain ⟨_, created⟩ := moved.event
      obtain ⟨_, _, _, _, _, same⟩ := moved.made
      refine ⟨rfl, (parseIdempotencyKeyText_eq_ok.mp read).symm, created.previousState, ?_, nofun⟩
      rw [same]
      exact created.nextState

def JobCall.idempotencyKey : JobCall → Option String
  | .create input => some (trim input.idempotencyKey)
  | .transition input => some (trim input.idempotencyKey)
  | _ => none

theorem prepare_preparedFor {call : JobCall} (made : repository.prepare nowUnix eventId memory call = some (.ok prepared)) :
    ∃ idempotencyKey, call.idempotencyKey = some (trim idempotencyKey) ∧ PreparedFor idempotencyKey prepared := by
  cases call with
  | create input => exact ⟨_, rfl, create_preparedFor (Option.some.inj made)⟩
  | transition input => exact ⟨_, rfl, transition_preparedFor (Option.some.inj made)⟩
  | transaction => cases made
  | enqueue => cases made
  | update => cases made

end

def IsMethodWork (call : JobCall) (work : JobWork) : Prop :=
  ∃ input answer, work = commitThen input answer ∧ answer.fresh = true ∧
    call.idempotencyKey = some input.actionKey ∧ Linked input

structure JobMemory.Logged (memory : JobMemory) : Prop where
  histories : ∀ jobKey, IsHistory (memory.eventsOf jobKey) (memory.jobs.get jobKey)
  owned : ∀ key : String, memory.events.get ("action:" ++ key) = (memory.actions.get key).map (·.event)
  keyed : ∀ eventKey event, memory.events.get eventKey = some event →
    event.eventKey = eventKey ∧ ∃ key : String, eventKey = "action:" ++ key

theorem JobMemory.logged_empty : JobMemory.empty.Logged := by
  refine ⟨fun jobKey => ?_, fun key => rfl, fun eventKey event found => ?_⟩
  · have none : JobMemory.empty.eventsOf jobKey = [] := rfl
    rw [none]
    exact ⟨rfl, fun first head => (nomatch head), fun _ => rfl⟩
  · have absent : JobMemory.empty.events.get eventKey = none := rfl
    rw [absent] at found
    cases found

theorem SameLog.logged {before after : JobMemory} (same : SameLog before after) (logged : before.Logged) :
    after.Logged := by
  obtain ⟨jobs, events, actions⟩ := same
  constructor
  · intro jobKey
    rw [JobMemory.eventsOf, jobs, events]
    exact logged.histories jobKey
  · intro key
    rw [events, actions]
    exact logged.owned key
  · intro eventKey event found
    rw [events] at found
    exact logged.keyed eventKey event found

theorem eventsOf_committed {memory : JobMemory} {action : IdempotencyKey} {input : CommitInput}
    (fresh : memory.events.get input.event.eventKey = none) (own : keyFor input.event.jobKey = input.jobKey)
    (jobKey : String) : (memory.committed action input).eventsOf jobKey =
      memory.eventsOf jobKey ++ if jobKey = input.jobKey then [input.event] else [] := by
  simp only [JobMemory.eventsOf, JobMemory.committed, OrderedMap.values_set_fresh fresh, List.filter_append]
  congr 1
  by_cases same : jobKey = input.jobKey
  · rw [if_pos same, List.filter_cons_of_pos (by simp only [own, same, decide_true]), List.filter_nil]
  · have other : ¬keyFor input.event.jobKey = jobKey := fun reached => same (reached.symm.trans own)
    rw [if_neg same, List.filter_cons_of_neg (by simpa using other), List.filter_nil]

theorem IsHistory.extend {events : List JobEvent} {stored : Option JobRecord} {event : JobEvent} {job : JobRecord}
    (history : IsHistory events stored) (previous : event.previousState = stored.map (·.state))
    (next : event.nextState = some job.state) (opened : stored = none → job.state = .opened) :
    IsHistory (events ++ [event]) (some job) := by
  refine ⟨?_, fun first head => ?_, fun absent => (nomatch absent)⟩
  · have longer := history.chain.append previous
    rwa [next] at longer
  · cases events with
    | nil =>
      cases Option.some.inj head
      have absent : stored = none := Option.map_eq_none_iff.mp history.chain
      rw [next, opened absent]
    | cons other rest => exact history.opened first head

section
variable [Sha256] {repository : JobRepository} {nowUnix : Int} {memory after : JobMemory} {input : CommitInput}

def NoCollision (memory : JobMemory) (input : CommitInput) : Prop :=
  ∀ current expected, memory.jobs.get input.jobKey = some current → input.expectedJob = some expected →
    current.digest = expected.digest → canonicalizeJson current.json = canonicalizeJson expected.json

theorem IsExpected.eq (expected : IsExpected (memory.jobs.get input.jobKey) input.expectedJob)
    (honest : NoCollision memory input) : memory.jobs.get input.jobKey = input.expectedJob := by
  unfold IsExpected at expected
  cases stored : memory.jobs.get input.jobKey with
  | none =>
    rw [stored, Option.map_none] at expected
    exact (Option.map_eq_none_iff.mp expected.symm).symm
  | some current =>
    rw [stored, Option.map_some] at expected
    obtain ⟨job, found, same⟩ := Option.map_eq_some_iff.mp expected.symm
    rw [found, renders_job.2 _ _ (honest current job stored found same.symm)]

theorem JobMemory.Logged.committed (logged : memory.Logged) (linked : Linked input)
    (honest : NoCollision memory input) (committed : repository.commit nowUnix memory input = .ok after) :
    after.Logged := by
  obtain ⟨action, valid, expected, noEvent, noAction, rfl⟩ := commit_eq_ok.mp committed
  have stored := expected.eq honest
  constructor
  · intro jobKey
    rw [eventsOf_committed noEvent valid.ownEvent]
    simp only [JobMemory.committed, OrderedMap.get_set]
    by_cases same : jobKey = input.jobKey
    · rw [if_pos same, if_pos same, same]
      have history := logged.histories input.jobKey
      rw [stored] at history
      exact history.extend linked.previous linked.next linked.opened
    · rw [if_neg same, if_neg same, List.append_nil]
      exact logged.histories jobKey
  · intro key
    simp only [JobMemory.committed, OrderedMap.get_set, valid.eventKey, String.append_right_inj]
    by_cases same : key = action.text
    · rw [if_pos same, if_pos same, Option.map_some]
    · rw [if_neg same, if_neg same]
      exact logged.owned key
  · intro eventKey event found
    simp only [JobMemory.committed, OrderedMap.get_set] at found
    split at found
    · rename_i same
      cases Option.some.inj found
      exact ⟨same.symm, action.text, same.trans valid.eventKey⟩
    · exact logged.keyed eventKey event found

theorem Answers.sameLog {call : JobCall} {result : Except Failure JobAnswer}
    (answered : repository.Answers call memory result after) : SameLog memory after := by
  cases answered <;> exact ⟨rfl, rfl, rfl⟩

def freshKey : JobCall × Except Failure JobAnswer → Option String
  | (call, .ok answer) => if answer.fresh then call.idempotencyKey else none
  | (_, .error _) => none

def finishing : Option (Turn JobMemory JobCall CommitInput (fun _ => Except Failure Unit) (Except Failure JobAnswer)) →
    List (JobCall × Except Failure JobAnswer)
  | some ⟨_, _, ⟨call, .done result⟩⟩ => [(call, result)]
  | _ => []

def freshKeys (s : JobProcess) : List String := (s.returned ++ finishing s.turn).filterMap freshKey

theorem Answers.freshKey {call : JobCall} {result : Except Failure JobAnswer}
    (answered : repository.Answers call memory result after) : freshKey (call, result) = none := by
  cases answered with
  | refused => rfl
  | replayed prepares =>
    obtain ⟨_, _, replay⟩ := prepare_preparedFor prepares
    have stale : _ = false := replay
    simp only [Bnbera.freshKey, stale, Bool.false_eq_true, if_false]
  | enqueued => rfl
  | notEnqueued => rfl
  | updated => rfl
  | notUpdated => rfl

/-- The runs in which the repository's own methods make all transactions, and no two
different jobs that a commit compares have one digest. -/
def MethodRuns (moment : Moment JobCall CommitInput (Except Failure JobAnswer)) (s : JobProcess) : Prop :=
  match moment with
  | .called call => ∀ work, call ≠ .transaction work
  | .acted _ input => NoCollision s.maps input
  | _ => True

end

end Bnbera
