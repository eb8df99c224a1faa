import Bnbera.Interleaving.Serialized
import Bnbera.Payments.Creation

namespace Bnbera.Payments

open Interleaving

/-- A call of `create` or `transition` that has committed: its key, and the attempt it created. -/
structure FreshCall where
  key : String
  created : Option PaymentAttempt

section
variable [UrlParser] [Sha256]

def freshCall : PaymentCall × PaymentResult → Option FreshCall
  | (.create request, .ok (.created attempt false)) => some ⟨trim request.idempotencyKey, some attempt⟩
  | (.transition input, .ok (.moved _ _ false)) => some ⟨trim input.idempotencyKey, none⟩
  | _ => none

/-- Two committed calls share no key, and no attempt or challenge that they created. -/
structure FreshApart (earlier later : FreshCall) : Prop where
  key : earlier.key ≠ later.key
  created : ∀ attempt ∈ earlier.created, ∀ other ∈ later.created,
    attempt.attemptId ≠ other.attemptId ∧ attempt.challenge.challengeId ≠ other.challenge.challengeId

/-- A commit that creates an attempt finds everything unused that `commit` looks up. -/
structure CommitsFresh (memory : PaymentMemory) (input : PaymentCommit) : Prop where
  attempt : memory.attempts.get input.attempt.attemptId = none
  action : memory.actions.get (trim input.actionKey) = none
  event : memory.events.get input.event.eventKey = none
  challenge : ∀ challenge ∈ input.challenge, memory.assertChallengeFree challenge = .ok ()

/-- The runs of `create` and `transition` in which a commit that creates an attempt is not the
second one for its challenge. -/
def ChallengeRuns (moment : Moment PaymentCall PaymentOp PaymentResult) (s : PaymentProcess) : Prop :=
  match moment with
  | .called call => (∃ request, call = .create request) ∨ ∃ input, call = .transition input
  | .acted _ (.commit input) => input.expectedAttempt = none → CommitsFresh s.maps input →
      ∀ attempt ∈ s.maps.attempts.values, attempt.challenge.challengeId ≠ input.attempt.challenge.challengeId
  | _ => True

def SameAttempts (before after : PaymentMemory) : Prop :=
  after.attempts = before.attempts ∧ after.events = before.events ∧ after.actions = before.actions

/-- The committed calls and the maps agree, and no two attempts share a challenge. -/
structure SingleAttempts (calls : List FreshCall) (memory : PaymentMemory) : Prop where
  filed : ∀ attemptId attempt, memory.attempts.get attemptId = some attempt →
    attempt.attemptId = attemptId ∧ attempt.trimmed = attempt
  single : ∀ attemptId other attempt otherAttempt, memory.attempts.get attemptId = some attempt →
    memory.attempts.get other = some otherAttempt →
    attempt.challenge.challengeId = otherAttempt.challenge.challengeId → attemptId = other
  owned : ∀ key : String, memory.events.get ("action:" ++ key) = (memory.actions.get key).map (·.event)
  keyed : ∀ eventKey event, memory.events.get eventKey = some event →
    event.eventKey = eventKey ∧ ∃ key : String, eventKey = "action:" ++ key
  keys : calls.map (·.key) = memory.actions.entries.map Prod.fst
  recorded : ∀ call ∈ calls, ∀ attempt ∈ call.created, ∃ stored, memory.attempts.get attempt.attemptId = some stored ∧
    stored.challenge.challengeId = attempt.challenge.challengeId
  apart : calls.Pairwise FreshApart

/-- The commit of a method. A transition commits what follows from a stored attempt. -/
inductive ReadyCommit (memory : PaymentMemory) : PaymentCall → PaymentCommit → PaymentAnswer → Prop
  | creates {request input} : input.expectedAttempt = none → input.actionKey = trim request.idempotencyKey →
      input.attempt.trimmed = input.attempt →
      ReadyCommit memory (.create request) input (.created input.attempt false)
  | moves {request input event expected stored} : input.expectedAttempt = some expected →
      input.actionKey = trim request.idempotencyKey → input.attempt.trimmed = input.attempt →
      memory.attempts.get input.attempt.attemptId = some stored →
      stored.challenge.challengeId = input.attempt.challenge.challengeId →
      ReadyCommit memory (.transition request) input (.moved input.attempt event false)

def ReadyWork (memory : PaymentMemory) (call : PaymentCall) (work : PaymentWork) : Prop :=
  ∃ input answer, work = commitThen input answer ∧ ReadyCommit memory call input answer

variable {repository : PaymentRepository} {memory after : PaymentMemory} {calls : List FreshCall} {call : PaymentCall}
  {input : PaymentCommit} {nowUnix : Int} {eventId : Uuid}

omit [UrlParser] [Sha256] in
theorem SameAttempts.singleAttempts (same : SameAttempts memory after) (single : SingleAttempts calls memory) :
    SingleAttempts calls after := by
  obtain ⟨attempts, events, actions⟩ := same
  constructor
  · rw [attempts]
    exact single.filed
  · rw [attempts]
    exact single.single
  · rw [events, actions]
    exact single.owned
  · rw [events]
    exact single.keyed
  · rw [actions]
    exact single.keys
  · rw [attempts]
    exact single.recorded
  · exact single.apart

theorem SameAttempts.ready {answer : PaymentAnswer} (same : SameAttempts memory after)
    (ready : ReadyCommit memory call input answer) : ReadyCommit after call input answer := by
  cases ready with
  | creates fresh key whole => exact .creates fresh key whole
  | moves expected key whole found challenge => exact .moves expected key whole (by rw [same.1]; exact found) challenge

omit [UrlParser] [Sha256] in
theorem singleAttempts_empty : SingleAttempts [] PaymentMemory.empty := by
  refine ⟨fun _ _ found => (nomatch found), fun _ _ _ _ found => (nomatch found), fun _ => rfl,
    fun _ _ found => (nomatch found), rfl, fun _ member => (nomatch member), .nil⟩

theorem normalizeAttempt_eq_ok {request normalizedInput : PaymentAttempt} {pin : PaymentPin}
    (normalized : repository.normalizeAttempt request = .ok (normalizedInput, pin)) :
    normalizedInput.idempotencyKey = trim request.idempotencyKey ∧ normalizedInput.status = request.status := by
  obtain ⟨parsedAttempt, read, rest⟩ := bind_eq_ok.mp normalized
  obtain ⟨trustedPin, _, rest⟩ := bind_eq_ok.mp rest
  obtain ⟨challenge, _, rest⟩ := bind_eq_ok.mp rest
  obtain ⟨normal, again, rest⟩ := bind_eq_ok.mp rest
  cases Except.ok.inj rest
  rw [PaymentAttempt.parse_eq_ok again, PaymentAttempt.parse_eq_ok read]
  simp only [PaymentAttempt.trimmed, trim_trim, and_self]

/-- `create` brings a commit for a new attempt. -/
theorem create_ready {request : PaymentAttempt} {answer : PaymentAnswer}
    (prepared : repository.create nowUnix eventId memory request = .ok (.commits input answer)) :
    ReadyCommit after (.create request) input answer := by
  obtain ⟨normalizedInput, _, key, attempt, event, normalized, accepted, rfl, rfl⟩ := create_commits_iff.mp prepared
  obtain ⟨_, _, _, _, parsed⟩ := accepted.created
  refine .creates rfl ?_ (PaymentAttempt.trimmed_of_parse (PaymentAttempt.parse_parse parsed))
  have read := parseIdempotencyKey_eq_ok accepted.read
  rw [(normalizeAttempt_eq_ok normalized).1, trim_trim] at read
  exact read.symm

/-- What `transition` establishes before it commits. -/
structure TransitionPrepared (repository : PaymentRepository) (nowUnix : Int) (eventId : Uuid) (memory : PaymentMemory)
    (request : TransitionInput) (attempt next : PaymentAttempt) (event : PaymentEvent) : Prop where
  stored : memory.attempts.get request.attemptId = some attempt
  status : attempt.status = request.expectedStatus
  clock : ∃ trusted, trustedNowUnix nowUnix = .ok trusted ∧
    transitionPaymentAttempt eventId (repository.paymentTransition trusted.value attempt request) = .ok (next, event)
  unused : memory.actions.get (trim request.idempotencyKey) = none

theorem transition_commits {request : TransitionInput} {answer : PaymentAnswer}
    (prepared : repository.transition nowUnix eventId memory request = .ok (.commits input answer)) :
    ∃ attempt next event, TransitionPrepared repository nowUnix eventId memory request attempt next event ∧
      input = ⟨trim request.idempotencyKey, request.digest.text, some attempt, next, event, none, request.metadata.receipt,
        none⟩ ∧ answer = .moved next event false := by
  obtain ⟨key, read, rest⟩ := bind_eq_ok.mp prepared
  have named := parseIdempotencyKey_eq_ok read
  subst named
  dsimp only at rest
  split at rest
  · cases rest
  · rename_i attempt stored
    split at rest
    · obtain ⟨_, rest⟩ := refuseIf_bind_eq_ok.mp rest
      cases rest
    · rename_i unused
      obtain ⟨status, rest⟩ := refuseIf_bind_eq_ok.mp rest
      obtain ⟨trusted, clock, rest⟩ := bind_eq_ok.mp rest
      obtain ⟨⟨next, event⟩, moved, rest⟩ := bind_eq_ok.mp rest
      cases Except.ok.inj rest
      exact ⟨attempt, next, event, ⟨stored, not_not.mp status, ⟨trusted, clock, moved⟩, unused⟩, rfl, rfl⟩

/-- `transition` brings a commit for a stored attempt. -/
theorem transition_ready {request : TransitionInput} {answer : PaymentAnswer} (single : SingleAttempts calls memory)
    (prepared : repository.transition nowUnix eventId memory request = .ok (.commits input answer)) :
    ReadyCommit memory (.transition request) input answer := by
  obtain ⟨attempt, next, event, accepted, rfl, rfl⟩ := transition_commits prepared
  obtain ⟨_, _, moved⟩ := accepted.clock
  obtain ⟨filed, whole⟩ := single.filed _ _ accepted.stored
  obtain ⟨_, _, _, _, parsed⟩ := transitionPaymentAttempt_eq_ok.mp moved
  have made := PaymentAttempt.parse_eq_ok parsed
  have id : next.attemptId = request.attemptId := by rw [made]; exact filed
  have challenge : attempt.challenge = next.challenge := by
    rw [made]
    exact (congrArg PaymentAttempt.challenge whole).symm
  refine .moves rfl rfl (PaymentAttempt.trimmed_of_parse (PaymentAttempt.parse_parse parsed)) ?_ (congrArg _ challenge)
  rw [id]
  exact accepted.stored

omit [UrlParser] [Sha256] in
theorem SingleAttempts.logged {action : String} (single : SingleAttempts calls memory)
    (eventKey : input.event.eventKey = "action:" ++ action) (noAction : memory.actions.get action = none)
    (sameEvents : after.events = memory.events) (sameActions : after.actions = memory.actions) (created : Option PaymentAttempt) :
    (∀ key : String, (after.committed action input).events.get ("action:" ++ key) =
        ((after.committed action input).actions.get key).map (·.event)) ∧
      (∀ eventKey event, (after.committed action input).events.get eventKey = some event →
        event.eventKey = eventKey ∧ ∃ key : String, eventKey = "action:" ++ key) ∧
      (calls ++ [FreshCall.mk action created]).map (·.key) = (after.committed action input).actions.entries.map Prod.fst := by
  simp only [PaymentMemory.committed, sameEvents, sameActions]
  refine ⟨fun key => ?_, fun found event stored => ?_, ?_⟩
  · simp only [OrderedMap.get_set, eventKey, String.append_right_inj]
    by_cases same : key = action
    · rw [if_pos same, if_pos same, Option.map_some]
    · rw [if_neg same, if_neg same]
      exact single.owned key
  · rw [OrderedMap.get_set] at stored
    split at stored
    · rename_i same
      cases Option.some.inj stored
      exact ⟨same.symm, action, same.trans eventKey⟩
    · exact single.keyed found event stored
  · rw [OrderedMap.keys_set_fresh noAction, List.map_append, single.keys]
    rfl

omit [UrlParser] [Sha256] in
theorem SingleAttempts.unusedKey {action : String} (single : SingleAttempts calls memory)
    (noAction : memory.actions.get action = none) : ∀ call ∈ calls, call.key ≠ action := by
  intro call member same
  have listed : call.key ∈ memory.actions.entries.map Prod.fst := by
    rw [← single.keys]
    exact List.mem_map_of_mem member
  obtain ⟨⟨key, record⟩, entry, rfl⟩ := List.mem_map.mp listed
  have found := OrderedMap.get_eq_some_iff.mpr entry
  rw [same, noAction] at found
  cases found

omit [UrlParser] [Sha256] in
theorem SingleAttempts.refiled {action : String} (single : SingleAttempts calls memory)
    (whole : input.attempt.trimmed = input.attempt) (same : SameAttempts memory after) (attemptId : Uuid)
    (attempt : PaymentAttempt) (found : (after.committed action input).attempts.get attemptId = some attempt) :
    attempt.attemptId = attemptId ∧ attempt.trimmed = attempt := by
  have attempts : (after.committed action input).attempts =
    memory.attempts.set input.attempt.attemptId input.attempt := by rw [← same.1]; rfl
  rw [attempts, OrderedMap.get_set] at found
  split at found
  · rename_i mine
    cases Option.some.inj found
    exact ⟨mine.symm, whole⟩
  · exact single.filed _ _ found

omit [UrlParser] [Sha256] in
/-- One more attempt, for a challenge that no other carries. -/
theorem SingleAttempts.created {action : String} (single : SingleAttempts calls memory)
    (eventKey : input.event.eventKey = "action:" ++ action) (noAction : memory.actions.get action = none)
    (fresh : memory.attempts.get input.attempt.attemptId = none) (whole : input.attempt.trimmed = input.attempt)
    (alone : ∀ attempt ∈ memory.attempts.values, attempt.challenge.challengeId ≠ input.attempt.challenge.challengeId)
    (same : SameAttempts memory after) :
    SingleAttempts (calls ++ [⟨action, some input.attempt⟩]) (after.committed action input) := by
  obtain ⟨owned, keyed, keys⟩ := single.logged eventKey noAction same.2.1 same.2.2 (some input.attempt)
  have attempts : (after.committed action input).attempts =
    memory.attempts.set input.attempt.attemptId input.attempt := by rw [← same.1]; rfl
  have old {attemptId attempt} (found : memory.attempts.get attemptId = some attempt) : attemptId ≠ input.attempt.attemptId := by
    rintro rfl
    rw [fresh] at found
    cases found
  have others {attemptId attempt} (found : memory.attempts.get attemptId = some attempt) :
      attempt.challenge.challengeId ≠ input.attempt.challenge.challengeId :=
    alone _ (OrderedMap.mem_values_iff.mpr ⟨_, found⟩)
  refine ⟨single.refiled whole same, ?_, owned, keyed, keys, ?_, ?_⟩
  · intro attemptId other attempt otherAttempt first second shared
    rw [attempts, OrderedMap.get_set] at first second
    split at first
    · cases Option.some.inj first
      split at second
      · rename_i mine theirs
        exact mine.trans theirs.symm
      · exact absurd shared.symm (others second)
    · split at second
      · cases Option.some.inj second
        exact absurd shared (others first)
      · exact single.single _ _ _ _ first second shared
  · intro call member attempt made
    rw [attempts]
    rcases List.mem_append.mp member with earlier | last
    · obtain ⟨stored, found, challenge⟩ := single.recorded call earlier attempt made
      exact ⟨stored, (OrderedMap.get_set_ne (old found)).trans found, challenge⟩
    · cases List.mem_singleton.mp last
      cases Option.some.inj (Option.mem_def.mp made)
      exact ⟨input.attempt, OrderedMap.get_set_self, rfl⟩
  · refine List.pairwise_append.mpr ⟨single.apart, List.pairwise_singleton _ _, fun earlier member last new => ?_⟩
    cases List.mem_singleton.mp new
    refine ⟨single.unusedKey noAction earlier member, fun attempt made other given => ?_⟩
    cases Option.some.inj (Option.mem_def.mp given)
    obtain ⟨stored, found, challenge⟩ := single.recorded earlier member attempt made
    exact ⟨old found, fun shared => others found (challenge.trans shared)⟩

omit [UrlParser] [Sha256] in
/-- A stored attempt gives way to one for the same challenge. -/
theorem SingleAttempts.moved {action : String} {stored : PaymentAttempt} (single : SingleAttempts calls memory)
    (eventKey : input.event.eventKey = "action:" ++ action) (noAction : memory.actions.get action = none)
    (present : memory.attempts.get input.attempt.attemptId = some stored) (whole : input.attempt.trimmed = input.attempt)
    (challenge : stored.challenge.challengeId = input.attempt.challenge.challengeId) (same : SameAttempts memory after) :
    SingleAttempts (calls ++ [⟨action, none⟩]) (after.committed action input) := by
  obtain ⟨owned, keyed, keys⟩ := single.logged eventKey noAction same.2.1 same.2.2 none
  have attempts : (after.committed action input).attempts =
    memory.attempts.set input.attempt.attemptId input.attempt := by rw [← same.1]; rfl
  have before {attemptId attempt} (found : (after.committed action input).attempts.get attemptId = some attempt) :
      ∃ old, memory.attempts.get attemptId = some old ∧ old.challenge.challengeId = attempt.challenge.challengeId := by
    rw [attempts, OrderedMap.get_set] at found
    split at found
    · rename_i mine
      cases Option.some.inj found
      exact ⟨stored, by rw [mine]; exact present, challenge⟩
    · exact ⟨attempt, found, rfl⟩
  refine ⟨single.refiled whole same, ?_, owned, keyed, keys, ?_, ?_⟩
  · intro attemptId other attempt otherAttempt first second shared
    obtain ⟨old, found, mine⟩ := before first
    obtain ⟨otherOld, otherFound, theirs⟩ := before second
    exact single.single _ _ _ _ found otherFound ((mine.trans shared).trans theirs.symm)
  · intro call member attempt made
    rcases List.mem_append.mp member with earlier | last
    · obtain ⟨old, found, kept⟩ := single.recorded call earlier attempt made
      rw [attempts]
      by_cases mine : attempt.attemptId = input.attempt.attemptId
      · rw [mine, present] at found
        cases Option.some.inj found
        exact ⟨input.attempt, by rw [mine]; exact OrderedMap.get_set_self, challenge.symm.trans kept⟩
      · exact ⟨old, (OrderedMap.get_set_ne mine).trans found, kept⟩
    · cases List.mem_singleton.mp last
      cases made
  · refine List.pairwise_append.mpr ⟨single.apart, List.pairwise_singleton _ _, fun earlier member last new => ?_⟩
    cases List.mem_singleton.mp new
    exact ⟨single.unusedKey noAction earlier member, by rintro _ _ _ ⟨⟩⟩

omit [UrlParser] [Sha256] in
theorem challenged_sameAttempts (memory : PaymentMemory) (input : PaymentCommit) : SameAttempts memory (memory.challenged input) := by
  unfold PaymentMemory.challenged
  cases input.challenge with
  | none => exact ⟨rfl, rfl, rfl⟩
  | some challenge => exact ⟨rfl, rfl, rfl⟩

omit [UrlParser] in
theorem ReceiptApplied.sameAttempts {trusted stored : PaymentReceipt}
    (applied : ReceiptApplied memory trusted stored after) : SameAttempts memory after := by
  cases applied with
  | replayed => exact ⟨rfl, rfl, rfl⟩
  | replaced => exact ⟨rfl, rfl, rfl⟩
  | fresh => exact ⟨rfl, rfl, rfl⟩

theorem CommitOutcome.recorded (outcome : CommitOutcome repository memory input (.ok ()) after) :
    ∃ action recorded, CommitChecked repository memory input action ∧ SameAttempts memory recorded ∧
      after = recorded.committed action input := by
  cases outcome with
  | plain checked => exact ⟨_, _, checked, challenged_sameAttempts memory input, rfl⟩
  | settled checked _ _ applied =>
    have first := challenged_sameAttempts memory input
    have second := applied.sameAttempts
    exact ⟨_, _, checked, ⟨second.1.trans first.1, second.2.1.trans first.2.1, second.2.2.trans first.2.2⟩, rfl⟩

theorem CommitOutcome.unchanged {failure : PaymentFailure}
    (outcome : CommitOutcome repository memory input (.error failure) after) : SameAttempts memory after := by
  cases outcome with
  | refused => exact ⟨rfl, rfl, rfl⟩
  | unrecorded => exact challenged_sameAttempts memory input

theorem ReadyCommit.kept {action : String} {recorded : PaymentMemory} {other : PaymentCommit} {answer : PaymentAnswer}
    (ready : ReadyCommit memory call other answer) (same : SameAttempts memory recorded)
    (challenge : ∀ stored, memory.attempts.get input.attempt.attemptId = some stored →
      stored.challenge.challengeId = input.attempt.challenge.challengeId) :
    ReadyCommit (recorded.committed action input) call other answer := by
  cases ready with
  | creates fresh key whole => exact .creates fresh key whole
  | @moves request _ event expected stored fresh key whole found own =>
    have attempts : (recorded.committed action input).attempts =
      memory.attempts.set input.attempt.attemptId input.attempt := by rw [← same.1]; rfl
    by_cases mine : other.attempt.attemptId = input.attempt.attemptId
    · have shared := challenge stored (by rw [← mine]; exact found)
      refine .moves fresh key whole ?_ (shared.symm.trans own)
      rw [attempts, mine, OrderedMap.get_set_self]
    · refine .moves fresh key whole ?_ own
      rw [attempts, OrderedMap.get_set_ne mine]
      exact found

theorem create_replays {request : PaymentAttempt} {answer : PaymentAnswer}
    (prepared : repository.create nowUnix eventId memory request = .ok (.replayed answer)) :
    ∃ attempt, answer = .created attempt true := by
  obtain ⟨⟨normalizedInput, trustedPin⟩, _, rest⟩ := bind_eq_ok.mp prepared
  obtain ⟨_, _, rest⟩ := bind_eq_ok.mp rest
  dsimp only at rest
  split at rest
  · obtain ⟨_, rest⟩ := refuseIf_bind_eq_ok.mp rest
    cases Except.ok.inj rest
    exact ⟨_, rfl⟩
  · obtain ⟨_, _, rest⟩ := bind_eq_ok.mp rest
    obtain ⟨_, _, rest⟩ := bind_eq_ok.mp rest
    obtain ⟨_, _, rest⟩ := bind_eq_ok.mp rest
    obtain ⟨_, _, rest⟩ := bind_eq_ok.mp rest
    obtain ⟨_, _, rest⟩ := bind_eq_ok.mp rest
    obtain ⟨_, _, rest⟩ := bind_eq_ok.mp rest
    cases Except.ok.inj rest

theorem transition_replays {request : TransitionInput} {answer : PaymentAnswer}
    (prepared : repository.transition nowUnix eventId memory request = .ok (.replayed answer)) :
    ∃ attempt event, answer = .moved attempt event true := by
  obtain ⟨_, _, rest⟩ := bind_eq_ok.mp prepared
  dsimp only at rest
  split at rest
  · cases rest
  · split at rest
    · obtain ⟨_, rest⟩ := refuseIf_bind_eq_ok.mp rest
      cases Except.ok.inj rest
      exact ⟨_, _, rfl⟩
    · obtain ⟨_, rest⟩ := refuseIf_bind_eq_ok.mp rest
      obtain ⟨_, _, rest⟩ := bind_eq_ok.mp rest
      obtain ⟨⟨_, _⟩, _, rest⟩ := bind_eq_ok.mp rest
      cases Except.ok.inj rest

theorem Answers.sameAttempts {result : PaymentResult} (answered : repository.Answers call memory result after) :
    SameAttempts memory after := by
  cases answered with
  | refused => exact ⟨rfl, rfl, rfl⟩
  | replayed => exact ⟨rfl, rfl, rfl⟩
  | unread => exact ⟨rfl, rfl, rfl⟩
  | challenged saved =>
    obtain ⟨_, _, rest⟩ := bind_eq_ok.mp saved
    obtain ⟨_, _, rest⟩ := bind_eq_ok.mp rest
    split at rest
    · obtain ⟨_, rest⟩ := refuseIf_bind_eq_ok.mp rest
      cases Except.ok.inj rest
      exact ⟨rfl, rfl, rfl⟩
    · obtain ⟨_, rest⟩ := refuseIf_bind_eq_ok.mp rest
      cases Except.ok.inj rest
      exact ⟨rfl, rfl, rfl⟩
  | notChallenged => exact ⟨rfl, rfl, rfl⟩
  | enqueued => exact ⟨rfl, rfl, rfl⟩
  | notEnqueued => exact ⟨rfl, rfl, rfl⟩
  | updated => exact ⟨rfl, rfl, rfl⟩
  | notUpdated => exact ⟨rfl, rfl, rfl⟩

theorem Answers.stale {result : PaymentResult} (answered : repository.Answers call memory result after)
    (own : (∃ request, call = .create request) ∨ ∃ input, call = .transition input) :
    SameAttempts memory after ∧ freshCall (call, result) = none := by
  refine ⟨Answers.sameAttempts answered, ?_⟩
  rcases own with ⟨request, rfl⟩ | ⟨request, rfl⟩
  · cases answered with
    | refused => rfl
    | replayed prepared =>
      obtain ⟨_, rfl⟩ := create_replays (Option.some.inj prepared)
      rfl
  · cases answered with
    | refused => rfl
    | replayed prepared =>
      obtain ⟨_, _, rfl⟩ := transition_replays (Option.some.inj prepared)
      rfl

omit [UrlParser] [Sha256] in
theorem commitThen_single (input : PaymentCommit) (answer : PaymentAnswer) : IsSingle (commitThen input answer) := by
  refine ⟨.commit input, _, rfl, fun made => ?_⟩
  cases made with
  | ok => exact ⟨_, rfl⟩
  | error failure => exact ⟨_, rfl⟩

theorem Executes.ends {op : PaymentOp} {answer : op.Answer} {next : op.Answer → PaymentWork} {made : PaymentAnswer}
    {result : PaymentResult} (executed : repository.Executes op memory answer after)
    (work : .call op next = commitThen input made) (finished : next answer = .done result) :
    op = .commit input ∧ ((result = .ok made ∧ CommitOutcome repository memory input (.ok ()) after) ∨
      ∃ failure, result = .error failure ∧ CommitOutcome repository memory input (.error failure) after) := by
  unfold commitThen at work
  cases work
  refine ⟨rfl, ?_⟩
  have outcome := @commit_outcome _ _ repository memory input
  cases executed with
  | commit =>
    cases ended : (repository.commit memory input).1 with
    | ok done =>
      rw [ended] at finished outcome
      cases finished
      exact .inl ⟨rfl, outcome⟩
    | error failure =>
      rw [ended] at finished outcome
      cases finished
      exact .inr ⟨failure, rfl, outcome⟩

/-- A commit that goes through in such a run keeps attempts and challenges single. -/
theorem SingleAttempts.committed {answer : PaymentAnswer} {s : PaymentProcess} (single : SingleAttempts calls s.maps)
    (permitted : ChallengeRuns (.acted call (.commit input)) s) (ready : ReadyCommit s.maps call input answer)
    (outcome : CommitOutcome repository s.maps input (.ok ()) after) :
    SingleAttempts (calls ++ (freshCall (call, .ok answer)).toList) after ∧
      ∀ other work, ReadyWork s.maps other work → ReadyWork after other work := by
  obtain ⟨action, recorded, checked, same, rfl⟩ := outcome.recorded
  cases ready with
  | @creates request _ fresh key whole =>
    have expected := checked.expected
    rw [IsExpected, fresh, Option.map_none, Option.map_eq_none_iff] at expected
    have named : trim input.actionKey = trim request.idempotencyKey := by rw [key, trim_trim]
    have noted : freshCall (.create request, .ok (.created input.attempt false)) = some ⟨action, some input.attempt⟩ := by
      rw [← checked.key, named]
      rfl
    have unused : CommitsFresh s.maps input :=
      ⟨expected, by rw [checked.key]; exact checked.noAction, checked.noEvent, checked.free⟩
    rw [noted]
    refine ⟨single.created checked.eventKey checked.noAction expected whole (permitted fresh unused) same, ?_⟩
    rintro other work ⟨later, made, rfl, waiting⟩
    refine ⟨later, made, rfl, waiting.kept same fun stored found => ?_⟩
    rw [expected] at found
    cases found
  | @moves request _ event before stored _ key whole found challenge =>
    have named : trim input.actionKey = trim request.idempotencyKey := by rw [key, trim_trim]
    have noted : freshCall (.transition request, .ok (.moved input.attempt event false)) = some ⟨action, none⟩ := by
      rw [← checked.key, named]
      rfl
    rw [noted]
    refine ⟨single.moved checked.eventKey checked.noAction found whole challenge same, ?_⟩
    rintro other work ⟨later, made, rfl, waiting⟩
    refine ⟨later, made, rfl, waiting.kept same fun other present => ?_⟩
    rw [found] at present
    cases Option.some.inj present
    exact challenge

/-- The commit of a method goes through, or changes nothing. -/
theorem challengeRuns_committing :
    repository.service.Committing ChallengeRuns freshCall SameAttempts ReadyWork SingleAttempts where
  refl _ := ⟨rfl, rfl, rfl⟩
  symm _ _ same := ⟨same.1.symm, same.2.1.symm, same.2.2.symm⟩
  trans _ _ _ first second :=
    ⟨second.1.trans first.1, second.2.1.trans first.2.1, second.2.2.trans first.2.2⟩
  moves _ _ _ same single := same.singleAttempts single
  stays _ _ _ _ same ready := by
    obtain ⟨input, answer, work, ready⟩ := ready
    exact ⟨input, answer, work, same.ready ready⟩
  failed call result failed := by
    obtain ⟨failure, rfl⟩ := failed
    cases call <;> rfl
  joins s call work calls permitted joined single := by
    rcases permitted with ⟨request, rfl⟩ | ⟨request, rfl⟩
    · cases joined with
      | commits prepared => exact ⟨commitThen_single _ _, _, _, rfl, create_ready (Option.some.inj prepared)⟩
    · cases joined with
      | commits prepared => exact ⟨commitThen_single _ _, _, _, rfl, transition_ready single (Option.some.inj prepared)⟩
  answers s call result maps permitted answered := Answers.stale answered permitted
  refused s call op next answer result maps permitted executed ready finished failed := by
    obtain ⟨failure, rfl⟩ := failed
    obtain ⟨input, made, work, ready⟩ := ready
    obtain ⟨_, ⟨ended, _⟩ | ⟨_, _, outcome⟩⟩ := Executes.ends executed work finished
    · cases ended
    · exact outcome.unchanged
  committed s call op next answer result maps calls permitted executed ready finished passed single := by
    obtain ⟨input, made, work, ready⟩ := ready
    obtain ⟨rfl, ⟨rfl, outcome⟩ | ⟨failure, rfl, _⟩⟩ := Executes.ends executed work finished
    · exact single.committed permitted ready outcome
    · exact absurd ⟨failure, rfl⟩ passed

end

section
attribute [local instance] plainUrls nullSha256

def onceCreated : PaymentMemory := PaymentMemory.empty.withSample buyerAttemptId buyerAttemptId "payment-1" "challenge-1" .challenged

theorem onceCreated_attempts : onceCreated.attempts =
    OrderedMap.empty.set buyerAttemptId (newAttempt buyerAttemptId "payment-1" "challenge-1") := withSample_attempts

end

end Bnbera.Payments
