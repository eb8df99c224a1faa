import Bnbera.Payments.Challenges
import Bnbera.Payments.Receipts

namespace Bnbera.Payments

open Interleaving

section
variable [UrlParser] [Sha256]

/-- An event carries the two transaction hashes of a receipt and its digest. -/
structure EventShows (event : PaymentEvent) (receipt : PaymentReceipt) : Prop where
  payment : event.paymentTransactionHash = receipt.paymentTransactionHash
  settlement : event.settlementTransactionHash = receipt.settlementTransactionHash
  digest : ∃ fields, event.payload = .obj fields ∧
    fieldOf fields "receiptDigest" = some (.str (receiptDigest receipt).text)

/-- The event, and the receipt whose digest it carries, belong to one commit. -/
structure CarriesReceipt (input : PaymentCommit) (receipt : PaymentReceipt) : Prop where
  given : input.receipt = some receipt
  status : receipt.status = .settled

/-- A commit that stores an attempt in settled or delivered, or an event into settled, carries a
settled receipt; the event shows it, and the receipt is given in normal form. -/
structure TrueSettlement (input : PaymentCommit) : Prop where
  settled : input.attempt.status = .settled → input.event.nextStatus = some .settled
  delivered : input.attempt.status = .delivered → (∃ receipt, CarriesReceipt input receipt) ∧
    ∃ old ∈ input.expectedAttempt, old.status = .settled ∨ old.status = .delivered
  event : input.event.nextStatus = some .settled → ∃ receipt, CarriesReceipt input receipt ∧
    EventShows input.event receipt ∧ receipt.trimmed.normalized = receipt

/-- Two attempts, or two receipts, of one digest that a commit compares are the same. -/
structure HonestCommit (memory : PaymentMemory) (input : PaymentCommit) : Prop where
  attempt : ∀ current expected, memory.attempts.get input.attempt.attemptId = some current →
    input.expectedAttempt = some expected → current.digest = expected.digest →
    canonicalizeJson current.json = canonicalizeJson expected.json
  receipt : ∀ receipt trusted prior, input.receipt = some receipt → ReceiptTrusted receipt input.attempt trusted →
    memory.receipts.get trusted.attemptId = some prior → receiptDigest prior = receiptDigest trusted →
    canonicalizeJson prior.json = canonicalizeJson trusted.json

/-- The metadata of a transition names no other transaction hash than its receipt, which is in normal form. -/
structure ShowsReceipt (metadata : PaymentTransitionMetadata) (receipt : PaymentReceipt) : Prop where
  payment : ∀ text, metadata.paymentTransactionHash = some (some text) →
    receipt.paymentTransactionHash.map (·.text) = some text
  settlement : ∀ text, metadata.settlementTransactionHash = some (some text) →
    receipt.settlementTransactionHash.map (·.text) = some text
  normal : receipt.trimmed.normalized = receipt

/-- The runs in which no attempt is created settled or delivered, a transition into settled shows
its receipt, and a transaction of a caller commits only true settlements. -/
def SettlementRuns (moment : Moment PaymentCall PaymentOp PaymentResult) (s : PaymentProcess) : Prop :=
  match moment with
  | .called (.create request) => request.status ≠ .settled ∧ request.status ≠ .delivered
  | .called (.transition input) => input.nextStatus = .settled →
      ∀ receipt ∈ input.metadata.receipt, ShowsReceipt input.metadata receipt
  | .acted call (.commit input) =>
    HonestCommit s.maps input ∧ ((∃ work, call = .transaction work) → TrueSettlement input)
  | _ => True

structure SettledBy (memory : PaymentMemory) (attemptId : Uuid) (attempt : PaymentAttempt) (receipt : PaymentReceipt) :
    Prop where
  stored : memory.receipts.get attemptId = some receipt
  status : receipt.status = .settled
  bound : ReceiptBound receipt attempt.pin attemptId attempt.challenge.challengeId

/-- Settled and delivered attempts have a settled receipt and an event into settled; every such
event shows the stored receipt of its attempt. -/
structure SettlementTrue (memory : PaymentMemory) : Prop where
  filed : ∀ attemptId attempt, memory.attempts.get attemptId = some attempt → attempt.attemptId = attemptId
  attempts : ∀ attemptId attempt, memory.attempts.get attemptId = some attempt →
    attempt.status = .settled ∨ attempt.status = .delivered → (∃ receipt, SettledBy memory attemptId attempt receipt) ∧
      ∃ eventKey event, memory.events.get eventKey = some event ∧ event.attemptId = attemptId ∧
        event.nextStatus = some .settled
  events : ∀ eventKey event, memory.events.get eventKey = some event → event.nextStatus = some .settled →
    ∃ receipt, memory.receipts.get event.attemptId = some receipt ∧ receipt.status = .settled ∧ EventShows event receipt

variable {repository : PaymentRepository} {memory after : PaymentMemory} {input : PaymentCommit}
  {trusted stored receipt : PaymentReceipt} {nowUnix : Int} {eventId : Uuid}

def KeepsSettled (before after : PaymentMemory) : Prop :=
  ∀ attemptId receipt, before.receipts.get attemptId = some receipt → receipt.status = .settled →
    after.receipts.get attemptId = some receipt

omit [UrlParser] in
theorem ReceiptApplied.keepsSettled (applied : ReceiptApplied memory trusted stored after) : KeepsSettled memory after := by
  intro attemptId receipt found settled
  cases applied with
  | replayed => exact found
  | replaced present _ yields =>
    by_cases mine : attemptId = trusted.attemptId
    · rw [mine, present] at found
      cases Option.some.inj found
      rcases yields.1 with unknown | partialFailure
      · rw [settled] at unknown
        cases unknown
      · rw [settled] at partialFailure
        cases partialFailure
    · exact (OrderedMap.get_set_ne mine).trans found
  | fresh absent =>
    have apart : attemptId ≠ trusted.attemptId := by
      rintro rfl
      rw [absent] at found
      cases found
    exact (OrderedMap.get_set_ne apart).trans found

omit [UrlParser] in
theorem ReceiptApplied.stores (applied : ReceiptApplied memory trusted stored after) :
    after.receipts.get trusted.attemptId = some stored ∧ (stored = trusted ∨
      (memory.receipts.get trusted.attemptId = some stored ∧ receiptDigest stored = receiptDigest trusted)) := by
  cases applied with
  | replayed found same => exact ⟨found, .inr ⟨found, same⟩⟩
  | replaced => exact ⟨OrderedMap.get_set_self, .inl rfl⟩
  | fresh => exact ⟨OrderedMap.get_set_self, .inl rfl⟩

theorem SettlementTrue.kept (settlement : SettlementTrue memory) (same : SameAttempts memory after)
    (keeps : KeepsSettled memory after) : SettlementTrue after := by
  refine ⟨by rw [same.1]; exact settlement.filed, fun attemptId attempt found settled => ?_, fun eventKey event found into => ?_⟩
  · rw [same.1] at found
    obtain ⟨⟨receipt, by_⟩, event⟩ := settlement.attempts _ _ found settled
    rw [same.2.1]
    exact ⟨⟨receipt, keeps _ _ by_.stored by_.status, by_.status, by_.bound⟩, event⟩
  · rw [same.2.1] at found
    obtain ⟨receipt, stored, settled, shows⟩ := settlement.events _ _ found into
    exact ⟨receipt, keeps _ _ stored settled, settled, shows⟩

theorem settlementTrue_empty : SettlementTrue PaymentMemory.empty :=
  ⟨fun _ _ found => (nomatch found), fun _ _ found => (nomatch found), fun _ _ found => (nomatch found)⟩

theorem HonestCommit.expected (honest : HonestCommit memory input)
    (expected : IsExpected (memory.attempts.get input.attempt.attemptId) input.expectedAttempt) :
    memory.attempts.get input.attempt.attemptId = input.expectedAttempt := by
  unfold IsExpected at expected
  cases current : memory.attempts.get input.attempt.attemptId with
  | none =>
    rw [current, Option.map_none] at expected
    exact (Option.map_eq_none_iff.mp expected.symm).symm
  | some attempt =>
    rw [current, Option.map_some] at expected
    obtain ⟨other, given, same⟩ := Option.map_eq_some_iff.mp expected.symm
    rw [given, renders_attempt.2 _ _ (honest.attempt attempt other current given same.symm)]

theorem HonestCommit.sameReceipt (honest : HonestCommit memory input) (given : input.receipt = some receipt)
    (valid : ReceiptTrusted receipt input.attempt trusted) (same : memory.receipts = after.receipts)
    (found : after.receipts.get trusted.attemptId = some stored) (digest : receiptDigest stored = receiptDigest trusted) :
    stored = trusted := by
  rw [← same] at found
  exact renders_receipt.2 _ _ (honest.receipt receipt trusted stored given valid found digest)

/-- A true settlement leaves a true memory. -/
theorem SettlementTrue.committed {recorded : PaymentMemory} {action : String} (settlement : SettlementTrue memory)
    (same : SameAttempts memory recorded) (keeps : KeepsSettled memory recorded)
    (checked : CommitChecked repository memory input action) (honest : HonestCommit memory input)
    (truth : TrueSettlement input)
    (stores : ∀ receipt, input.receipt = some receipt → ∃ trusted, ReceiptTrusted receipt input.attempt trusted ∧
      recorded.receipts.get trusted.attemptId = some trusted) :
    SettlementTrue (recorded.committed action input) := by
  have before := settlement.kept same keeps
  have attempts : (recorded.committed action input).attempts =
    recorded.attempts.set input.attempt.attemptId input.attempt := rfl
  have events : (recorded.committed action input).events = recorded.events.set input.event.eventKey input.event := rfl
  have receipts : (recorded.committed action input).receipts = recorded.receipts := rfl
  have noEvent : recorded.events.get input.event.eventKey = none := by rw [same.2.1]; exact checked.noEvent
  have keepsEvent {eventKey event} (found : recorded.events.get eventKey = some event) :
      (recorded.committed action input).events.get eventKey = some event := by
    have apart : eventKey ≠ input.event.eventKey := by
      rintro rfl
      rw [noEvent] at found
      cases found
    rw [events, OrderedMap.get_set_ne apart]
    exact found
  have owned {receipt} (carried : CarriesReceipt input receipt) : ∃ trusted, ReceiptTrusted receipt input.attempt trusted ∧
      SettledBy (recorded.committed action input) input.attempt.attemptId input.attempt trusted := by
    obtain ⟨trusted, valid, stored⟩ := stores receipt carried.given
    obtain ⟨made, bound⟩ := validateReceipt_eq_ok valid
    refine ⟨trusted, valid, ?_, ?_, bound⟩
    · rw [receipts, ← bound.attempt]
      exact stored
    · rw [made]
      simp only [PaymentReceipt.normalized, PaymentReceipt.trimmed, carried.status]
  refine ⟨?_, ?_, ?_⟩
  · intro attemptId attempt found
    rw [attempts, OrderedMap.get_set] at found
    split at found
    · rename_i mine
      cases Option.some.inj found
      exact mine.symm
    · exact before.filed _ _ found
  · intro attemptId attempt found settled
    rw [attempts, OrderedMap.get_set] at found
    split at found
    · rename_i mine
      cases Option.some.inj found
      subst mine
      rcases settled with settled | delivered
      · obtain ⟨receipt, carried, _⟩ := truth.event (truth.settled settled)
        obtain ⟨trusted, _, by_⟩ := owned carried
        refine ⟨⟨trusted, by_⟩, input.event.eventKey, input.event, ?_, checked.ownEvent, truth.settled settled⟩
        rw [events, OrderedMap.get_set_self]
      · obtain ⟨⟨receipt, carried⟩, old, expected, status⟩ := truth.delivered delivered
        obtain ⟨trusted, _, by_⟩ := owned carried
        have present := honest.expected checked.expected
        rw [Option.mem_def.mp expected, ← same.1] at present
        obtain ⟨_, eventKey, event, noted, own, into⟩ := before.attempts _ _ present status
        exact ⟨⟨trusted, by_⟩, eventKey, event, keepsEvent noted, own, into⟩
    · obtain ⟨⟨receipt, by_⟩, eventKey, event, noted, own, into⟩ := before.attempts _ _ found settled
      exact ⟨⟨receipt, by_.stored, by_.status, by_.bound⟩, eventKey, event, keepsEvent noted, own, into⟩
  · intro eventKey event found into
    rw [events, OrderedMap.get_set] at found
    split at found
    · cases Option.some.inj found
      obtain ⟨receipt, carried, shows, normal⟩ := truth.event into
      obtain ⟨trusted, valid, by_⟩ := owned carried
      have same : trusted = receipt := by
        have made := (validateReceipt_eq_ok valid).1
        rw [PaymentReceipt.trimmed_trimmed, normal] at made
        exact made
      rw [checked.ownEvent]
      rw [same] at by_
      exact ⟨receipt, by_.stored, by_.status, shows⟩
    · exact before.events _ _ found into

theorem create_true {request : PaymentAttempt} {answer : PaymentAnswer}
    (open_ : request.status ≠ .settled ∧ request.status ≠ .delivered)
    (prepared : repository.create nowUnix eventId memory request = .ok (.commits input answer)) : TrueSettlement input := by
  obtain ⟨normalizedInput, _, key, attempt, event, normalized, accepted, rfl, rfl⟩ := create_commits_iff.mp prepared
  obtain ⟨_, _, _, _, parsed⟩ := accepted.created
  have status : attempt.status = request.status := by
    rw [PaymentAttempt.parse_eq_ok parsed, ← (normalizeAttempt_eq_ok normalized).2]
    rfl
  have issued : event.nextStatus = some .challenged := by
    have noted := accepted.noted
    unfold PaymentEvent.parse at noted
    dsimp only at noted
    split at noted
    · cases Except.ok.inj noted
      rfl
    · cases noted
  refine ⟨fun settled => ?_, fun delivered => ?_, fun into => ?_⟩
  · exact absurd (status.symm.trans settled) open_.1
  · exact absurd (status.symm.trans delivered) open_.2
  · have into : event.nextStatus = some .settled := into
    rw [issued] at into
    cases into

omit [UrlParser] in
/-- The event that `createPaymentEvent` returns has the status, the payload and the hashes it is given. -/
theorem createPaymentEvent_eq_ok {given : PaymentEventInput} {event : PaymentEvent}
    (made : createPaymentEvent eventId given = .ok event) : event.nextStatus = given.nextStatus ∧
      event.payload = given.payload ∧ event.paymentTransactionHash.map (·.text) = given.paymentTransactionHash ∧
      event.settlementTransactionHash.map (·.text) = given.settlementTransactionHash := by
  obtain ⟨_, _, rest⟩ := bind_eq_ok.mp made
  split at rest
  · rename_i payment settlement _
    cases Except.ok.inj rest
    exact ⟨rfl, rfl, checkNullable_text payment, checkNullable_text settlement⟩
  · cases rest

omit [Sha256] [UrlParser] in
theorem hashOr_receipt {given : Option (Option String)} {hash : PaymentReceipt → Option TransactionHash}
    (same : ∀ text, given = some (some text) → (hash receipt).map (·.text) = some text) :
    hashOr given (some receipt) hash = (hash receipt).map (·.text) := by
  cases given with
  | none => rfl
  | some named =>
    cases named with
    | none => rfl
    | some text => exact (same text rfl).symm

omit [Sha256] [UrlParser] in
theorem canTransitionPayment_delivered {status : PaymentAttemptStatus}
    (moves : canTransitionPayment status .delivered = true) : status = .settled ∨ status = .delivered := by
  cases status <;> first
    | exact .inl rfl
    | exact .inr rfl
    | cases moves

theorem transition_true {request : TransitionInput} {answer : PaymentAnswer}
    (shows : request.nextStatus = .settled → ∀ receipt ∈ request.metadata.receipt, ShowsReceipt request.metadata receipt)
    (prepared : repository.transition nowUnix eventId memory request = .ok (.commits input answer)) :
    TrueSettlement input := by
  obtain ⟨attempt, next, event, accepted, rfl, rfl⟩ := transition_commits prepared
  obtain ⟨trusted, _, moved⟩ := accepted.clock
  obtain ⟨allowed, now, _, noted, parsed⟩ := transitionPaymentAttempt_eq_ok.mp moved
  obtain ⟨nextStatus, payload, payment, settlement⟩ := createPaymentEvent_eq_ok noted
  have status : next.status = request.nextStatus := by
    rw [PaymentAttempt.parse_eq_ok parsed]
    rfl
  have conditions := allowed.conditions
  simp only [assertStatusConditions, bind_eq_ok, refuseIf_eq_ok, exists_const] at conditions
  obtain ⟨_, _, _, _, _, settledReceipt, _, deliveredReceipt, _⟩ := conditions
  have into : event.nextStatus = some request.nextStatus := nextStatus
  refine ⟨fun settled => ?_, fun delivered => ?_, fun reached => ?_⟩
  · have settled : next.status = .settled := settled
    rw [status] at settled
    show event.nextStatus = some .settled
    rw [into, settled]
  · have delivered : next.status = .delivered := delivered
    rw [status] at delivered
    have moves : canTransitionPayment attempt.status request.nextStatus = true := allowed.moves
    rw [delivered] at moves
    have named : ¬(request.nextStatus = .delivered ∧ (request.metadata.receipt.map (·.status) ≠ some .settled ∨
      ¬∃ receipt ∈ request.metadata.receipt, receipt.Successful)) := deliveredReceipt
    simp only [delivered, true_and, not_or, not_not] at named
    obtain ⟨receipt, given, status⟩ := Option.map_eq_some_iff.mp named.1
    exact ⟨⟨receipt, given, status⟩, attempt, rfl, canTransitionPayment_delivered moves⟩
  · have reached : event.nextStatus = some .settled := reached
    rw [into] at reached
    have settled := Option.some.inj reached
    have named : ¬(request.nextStatus = .settled ∧ request.metadata.receipt.map (·.status) ≠ some .settled) := settledReceipt
    simp only [settled, true_and, not_not] at named
    obtain ⟨receipt, given, status⟩ := Option.map_eq_some_iff.mp named
    obtain ⟨samePayment, sameSettlement, normal⟩ := shows settled receipt given
    have payment : event.paymentTransactionHash.map (·.text) = hashOr request.metadata.paymentTransactionHash
      request.metadata.receipt (·.paymentTransactionHash) := payment
    have settlement : event.settlementTransactionHash.map (·.text) = hashOr request.metadata.settlementTransactionHash
      request.metadata.receipt (·.settlementTransactionHash) := settlement
    have payload : event.payload = .obj (eventPayload request.metadata) := payload
    rw [given, hashOr_receipt samePayment] at payment
    rw [given, hashOr_receipt sameSettlement] at settlement
    refine ⟨receipt, ⟨given, status⟩, ⟨?_, ?_, ⟨_, payload, ?_⟩⟩, normal⟩
    · exact Option.map_injective (fun _ _ => Checked.ext) payment
    · exact Option.map_injective (fun _ _ => Checked.ext) settlement
    · simp only [eventPayload, given, Option.map_some, Option.toList_some, List.cons_append, fieldOf_cons, if_true]

def TrueWork (call : PaymentCall) (work : PaymentWork) : Prop :=
  (∃ work, call = .transaction work) ∨ (∃ result, work = .done result) ∨ (∃ receipt, work = saveReceiptThen receipt) ∨
    ∃ input answer, work = commitThen input answer ∧ TrueSettlement input

theorem Joins.trueWork {s : PaymentProcess} {call : PaymentCall} {work : PaymentWork}
    (permitted : SettlementRuns (.called call) s) (joined : repository.Joins call s.maps work) : TrueWork call work := by
  cases joined with
  | commits prepared =>
    refine .inr (.inr (.inr ⟨_, _, rfl, ?_⟩))
    cases call with
    | create request => exact create_true permitted (Option.some.inj prepared)
    | transition request => exact transition_true permitted (Option.some.inj prepared)
    | transaction => cases prepared
    | saveReceipt => cases prepared
    | saveChallenge => cases prepared
    | enqueue => cases prepared
    | update => cases prepared
  | saves => exact .inr (.inr (.inl ⟨_, rfl⟩))
  | transaction => exact .inl ⟨_, rfl⟩

theorem TrueWork.next {call : PaymentCall} {op : PaymentOp} {next : op.Answer → PaymentWork} (answer : op.Answer)
    (work : TrueWork call (.call op next)) : TrueWork call (next answer) := by
  rcases work with raw | ⟨_, done⟩ | ⟨receipt, saves⟩ | ⟨input, made, commits, _⟩
  · exact .inl raw
  · cases done
  · unfold saveReceiptThen at saves
    cases saves
    cases answer with
    | ok => exact .inr (.inl ⟨_, rfl⟩)
    | error => exact .inr (.inl ⟨_, rfl⟩)
  · unfold commitThen at commits
    cases commits
    cases answer with
    | ok => exact .inr (.inl ⟨_, rfl⟩)
    | error => exact .inr (.inl ⟨_, rfl⟩)

def TrueCommits (moment : Moment PaymentCall PaymentOp PaymentResult) (s : PaymentProcess) : Prop :=
  match moment with
  | .acted _ (.commit input) => HonestCommit s.maps input ∧ TrueSettlement input
  | _ => True

theorem Reach.trueCommits {s : PaymentProcess} (reach : repository.service.Reach SettlementRuns (· = .empty) s) :
    repository.service.Reach TrueCommits (· = .empty) s := by
  refine reach.refine fun moment s s' previous permitted step => ?_
  cases step with
  | answered => trivial
  | joined => trivial
  | entered => trivial
  | kept => trivial
  | undone => trivial
  | acted turn executed =>
    rename_i op _ _ _
    have work := previous.turn (fun s call work permitted joined => Joins.trueWork permitted joined)
      (fun call op next answer work => TrueWork.next answer work) _ turn
    cases op with
    | saveReceipt => trivial
    | commit input =>
      rcases work with ⟨raw, rfl⟩ | ⟨_, done⟩ | ⟨_, saves⟩ | ⟨given, answer, commits, truth⟩
      · exact ⟨permitted.1, permitted.2 ⟨raw, rfl⟩⟩
      · cases done
      · unfold saveReceiptThen at saves
        cases saves
      · unfold commitThen at commits
        cases commits
        exact ⟨permitted.1, truth⟩

theorem SettlementTrue.commit (settlement : SettlementTrue memory) (honest : HonestCommit memory input)
    (truth : TrueSettlement input) {result : Except PaymentFailure Unit}
    (outcome : CommitOutcome repository memory input result after) : SettlementTrue after := by
  have same := challenged_sameAttempts memory input
  have receipts := challenged_sameReceipts memory input
  have keeps : KeepsSettled memory (memory.challenged input) := by
    intro attemptId receipt found _
    rw [receipts.1]
    exact found
  cases outcome with
  | refused => exact settlement
  | unrecorded => exact settlement.kept same keeps
  | plain checked none =>
    refine settlement.committed same keeps checked honest truth fun receipt given => ?_
    rw [none] at given
    cases given
  | settled checked given valid applied =>
    have applies := applied.sameAttempts
    have alike : SameAttempts memory _ :=
      ⟨applies.1.trans same.1, applies.2.1.trans same.2.1, applies.2.2.trans same.2.2⟩
    refine settlement.committed alike (fun id receipt found settled =>
      applied.keepsSettled _ _ (keeps _ _ found settled) settled) checked honest truth fun receipt other => ?_
    rw [given] at other
    cases Option.some.inj other
    obtain ⟨stores, found | ⟨present, digest⟩⟩ := applied.stores
    · rw [found] at stores
      exact ⟨_, valid, stores⟩
    · have mine := honest.sameReceipt given valid receipts.1.symm present digest
      rw [mine] at stores
      exact ⟨_, valid, stores⟩

/-- In every run whose settlements show their receipts a settled or delivered attempt has a
settled receipt of its own terms, an event moved it into settled, and each such event carries
the hashes and the digest of the stored receipt. -/
theorem Reach.settlement_true {s : PaymentProcess} {attemptId : Uuid} {attempt : PaymentAttempt}
    (reach : repository.service.Reach SettlementRuns (· = .empty) s)
    (stored : s.maps.attempts.get attemptId = some attempt)
    (settled : attempt.status = .settled ∨ attempt.status = .delivered) :
    ∃ receipt, SettledBy s.maps attemptId attempt receipt ∧
      (∃ eventKey event, s.maps.events.get eventKey = some event ∧ event.attemptId = attemptId ∧
        event.nextStatus = some .settled) ∧
      ∀ eventKey event, s.maps.events.get eventKey = some event → event.attemptId = attemptId →
        event.nextStatus = some .settled → EventShows event receipt := by
  have settlement : SettlementTrue s.maps := by
    refine (@Serialized.Reach.invariant _ _ _ _ _ _ _ _ _ SettlementTrue (Reach.trueCommits reach) ?_ ?_ ?_).1
    · rintro _ rfl
      exact settlementTrue_empty
    · intro s call result maps _ answered settlement
      have same := Answers.sameReceipts answered
      exact settlement.kept (Answers.sameAttempts answered) fun id receipt found _ => by rw [same.1]; exact found
    · intro s call op answer maps permitted executed settlement
      cases executed with
      | commit => exact settlement.commit permitted.1 permitted.2 commit_outcome
      | saved saved =>
        unfold PaymentMemory.saveReceipt at saved
        split at saved
        · cases saved
        · obtain ⟨trusted, valid, applied⟩ := applyReceipt_eq_ok saved
          exact settlement.kept applied.sameAttempts applied.keepsSettled
      | notSaved => exact settlement
  obtain ⟨⟨receipt, by_⟩, event⟩ := settlement.attempts _ _ stored settled
  refine ⟨receipt, by_, event, fun eventKey event found own into => ?_⟩
  obtain ⟨shown, present, _, shows⟩ := settlement.events _ _ found into
  rw [own, by_.stored] at present
  rw [Option.some.inj present]
  exact shows

end

section
variable [UrlParser] [Sha256]

theorem PaymentRepository.commit_receipt {repository : PaymentRepository} {memory recorded stored : PaymentMemory}
    {input : PaymentCommit} {action : String} {receipt kept : PaymentReceipt} {replayed : Bool}
    (passed : (do
      let action ← repository.validateCommit input
      memory.assertUnused action input
      return action : Except PaymentFailure String) = .ok action)
    (challenge : (input.challenge.map memory.withChallenge).getD memory = recorded) (given : input.receipt = some receipt)
    (stores : recorded.applyReceipt receipt input.attempt = .ok (kept, replayed, stored)) :
    repository.commit memory input = (.ok (), stored.committed action input) := by
  simp only [PaymentRepository.commit, passed, given, challenge, stores]

end

section
attribute [local instance] plainUrls nullSha256

def settledReceipt : PaymentReceipt := sampleReceipt buyerAttemptId buyerAttemptId "challenge-1" .settled

def settledEvent : PaymentEvent :=
  { challengeIssuedEvent buyerAttemptId "payment-1" (sampleAttempt buyerAttemptId "payment-1" "challenge-1" .settled) with
    nextStatus := some .settled
    paymentTransactionHash := settledReceipt.paymentTransactionHash
    payload := .obj [("receiptDigest", .str (receiptDigest settledReceipt).text)] }

def settledCommit : PaymentCommit :=
  { sampleCommit buyerAttemptId buyerAttemptId "payment-1" "challenge-1" .settled with
    event := settledEvent, receipt := some settledReceipt }

theorem settledEvent_parse : settledEvent.parse = .ok settledEvent := by
  have requested := sampleRequest.issues ["correlationId"]
  have noted := firstKey.noted.issues ["eventKey"]
  simp only [PaymentEvent.parse, settledEvent, challengeIssuedEvent, sampleAttempt, firstKey.noted.trimmed, sampleRequest.trimmed,
    requested, noted, List.append_nil, if_true]

def settledMemory : PaymentMemory :=
  ((PaymentMemory.empty.withChallenge (sampleChallenge "challenge-1")).withReceipt settledReceipt).committed "payment-1"
    settledCommit

theorem settledCommit_ok : sampleRepository.commit .empty settledCommit = (.ok (), settledMemory) := by
  have room : RoomFor .empty buyerAttemptId "payment-1" "challenge-1" := ⟨rfl, rfl, rfl, rfl⟩
  have passed := @commitChecks_sample _ buyerAttemptId "payment-1" "challenge-1" .settled .empty buyerAttemptId settledEvent
    (some settledReceipt) firstKey firstChallenge room settledEvent_parse rfl rfl settledCommit rfl
  have stores : (PaymentMemory.empty.withChallenge (sampleChallenge "challenge-1")).applyReceipt settledReceipt
      settledCommit.attempt = .ok (settledReceipt, false,
        (PaymentMemory.empty.withChallenge (sampleChallenge "challenge-1")).withReceipt settledReceipt) :=
    applyReceipt_first (sampleReceipt_parse firstChallenge) (validateReceipt_sample firstChallenge) rfl
      ⟨fun owner found => (nomatch found), fun owner found => (nomatch found)⟩
  have given : settledCommit.receipt = some settledReceipt := rfl
  have challenge : (settledCommit.challenge.map PaymentMemory.empty.withChallenge).getD .empty =
    PaymentMemory.empty.withChallenge (sampleChallenge "challenge-1") := rfl
  exact PaymentRepository.commit_receipt passed challenge given stores

/-- A caller's own transaction settles an attempt with its receipt and an event that shows it. -/
theorem Reach.settlement_true_settled : ∃ receipt, SettledBy settledMemory buyerAttemptId
    (sampleAttempt buyerAttemptId "payment-1" "challenge-1" .settled) receipt := by
  have truth : TrueSettlement settledCommit := by
    refine ⟨fun _ => rfl, fun delivered => (nomatch delivered), fun _ => ⟨settledReceipt, ⟨rfl, rfl⟩, ⟨rfl, rfl, _, rfl, ?_⟩, ?_⟩⟩
    · rw [fieldOf_cons, if_pos rfl]
    · have trimmed : settledReceipt.trimmed = settledReceipt := sampleReceipt_trimmed firstChallenge
      rw [trimmed]
      exact sampleReceipt_normalized
  have honest : HonestCommit .empty settledCommit :=
    ⟨fun current expected found => (nomatch found), fun receipt trusted prior _ _ found => (nomatch found)⟩
  have executed := @PaymentRepository.Executes.commit _ _ sampleRepository settledCommit .empty
  rw [settledCommit_ok] at executed
  have start : sampleRepository.service.Reach SettlementRuns (· = .empty) ⟨.empty, [], none, []⟩ := .start rfl
  let work : PaymentWork := .call (.commit settledCommit) fun _ => .done (.ok .worked)
  have joins : sampleRepository.service.joins (.transaction work) .empty work := PaymentRepository.Joins.transaction
  have permitted : SettlementRuns (.called (.transaction work)) ⟨.empty, [], none, []⟩ := trivial
  have joined := start.next permitted (.joined joins)
  have passed : ¬sampleRepository.service.failed (.ok .worked) := fun ⟨_, same⟩ => (nomatch same)
  have reach := joined.served executed rfl passed (fun now => trivial)
    (fun now same => ⟨by rw [same]; exact honest, fun _ => truth⟩) (fun now => trivial)
  have stored : settledMemory.attempts.get buyerAttemptId =
    some (sampleAttempt buyerAttemptId "payment-1" "challenge-1" .settled) := OrderedMap.get_set_self
  obtain ⟨receipt, settled, _⟩ := Reach.settlement_true reach stored (.inl rfl)
  exact ⟨receipt, settled⟩

/-- An attempt is created settled, without any receipt. -/
theorem Reach.created_settled : ∃ s attemptId attempt,
    sampleRepository.service.Reach (fun moment _ => ∀ call, moment = .called call → ∃ request, call = .create request)
      (· = .empty) s ∧
    s.maps.attempts.get attemptId = some attempt ∧ attempt.status = .settled ∧ s.maps.receipts.get attemptId = none := by
  have room : RoomFor .empty buyerAttemptId "payment-1" "challenge-1" := ⟨rfl, rfl, rfl, rfl⟩
  have start : sampleRepository.service.Reach
    (fun moment _ => ∀ call, moment = .called call → ∃ request, call = .create request) (· = .empty)
    ⟨.empty, [], none, []⟩ := .start rfl
  obtain ⟨returned, reach⟩ := createSample_reach buyerAttemptId .settled firstKey firstChallenge
    room (fun attempt member => (nomatch member)) (fun now call same => ⟨_, (Moment.called.inj same).symm⟩)
    (fun now call same => (nomatch same)) (fun call now _ other same => (nomatch same))
    (fun call result now other same => (nomatch same)) start
  refine ⟨_, buyerAttemptId, sampleAttempt buyerAttemptId "payment-1" "challenge-1" .settled, reach, ?_, rfl, ?_⟩
  · rw [withSample_attempts, OrderedMap.get_set_self]
  · rw [withSample_receipts.1]
    rfl

end

end Bnbera.Payments
