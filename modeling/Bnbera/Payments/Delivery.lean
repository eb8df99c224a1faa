import Bnbera.Payments.Challenges
import Bnbera.Payments.Receipts

namespace Bnbera.Payments

open Interleaving

theorem nullableIssues_text {accepts : String → Bool} (path : List String) (message : String)
    (value : Option (Checked accepts)) : nullableIssues accepts path message (value.map (·.text)) = [] := by
  cases value with
  | none => rfl
  | some value => exact if_pos value.accepted

theorem checkNullable_checked {accepts : String → Bool} (value : Option (Checked accepts)) :
    checkNullable accepts (value.map (·.text)) = some value := by
  cases value with
  | none => rfl
  | some value =>
    have found : check accepts value.text = some value := dif_pos value.accepted
    simp only [checkNullable, Option.map_some, found]

section
variable [UrlParser] [Sha256] {repository : PaymentRepository} {memory after : PaymentMemory} {s : PaymentProcess}
  {attemptId : Uuid} {attempt : PaymentAttempt} {receipt trusted stored : PaymentReceipt} {input : PaymentCommit}
  {nowUnix : Int} {eventId : Uuid}

def PaymentReceipt.responded (receipt : PaymentReceipt) (status : Within 100 599) (digest : Option ContentDigest) :
    PaymentReceipt :=
  { receipt with responseStatus := some status, responseDigest := digest }

def delivery (attemptId : Uuid) (receipt : PaymentReceipt) (idempotencyKey correlationId : String) : TransitionInput where
  attemptId := attemptId
  expectedStatus := .settled
  nextStatus := .delivered
  idempotencyKey := idempotencyKey
  correlationId := correlationId
  metadata := { receipt := some receipt }

def PaymentRepository.Delivers (repository : PaymentRepository) (nowUnix : Int) (eventId : Uuid) (memory : PaymentMemory)
    (input : TransitionInput) (receipt : PaymentReceipt) : Prop :=
  ∃ commit answer, repository.transition nowUnix eventId memory input = .ok (.commits commit answer) ∧
    (repository.commit memory commit).1 = .ok () ∧
    (repository.commit memory commit).2.receipts.get input.attemptId = some receipt

/-- A key that no action has used, a correlation and a time that their schemas accept. -/
structure FreshDelivery (memory : PaymentMemory) (idempotencyKey correlationId : String) (nowUnix : Int) : Prop where
  key : PlainKey idempotencyKey
  unused : memory.actions.get idempotencyKey = none
  correlation : PlainIdentifier (trim correlationId)
  time : IsTrustedTime nowUnix

/-- The stored receipt of an attempt is settled, and the attempt accepts it again under its digest. -/
structure StandingReceipt (receipt : PaymentReceipt) (attempt : PaymentAttempt) : Prop where
  settled : receipt.status = .settled
  trusted : ∃ trusted, ReceiptTrusted receipt attempt trusted ∧ receiptDigest receipt = receiptDigest trusted

structure StoredAttempt (repository : PaymentRepository) (attemptId : Uuid) (attempt : PaymentAttempt) : Prop where
  own : attempt.attemptId = attemptId
  read : attempt.parse = .ok attempt.trimmed
  pinned : ∃ pin, validatePaymentPinAgainstSellerConfiguration attempt.pin (some repository.sellerConfiguration) = .ok pin
  digest : assertChallengeDigest attempt.trimmed.challenge = .ok ()

structure Filed (repository : PaymentRepository) (memory : PaymentMemory) : Prop where
  attempts : ∀ attemptId attempt, memory.attempts.get attemptId = some attempt →
    StoredAttempt repository attemptId attempt
  receipts : ∀ attemptId receipt, memory.receipts.get attemptId = some receipt →
    receipt.attemptId = attemptId ∧ trim receipt.challengeId = receipt.challengeId
  events : ∀ eventKey event, memory.events.get eventKey = some event →
    ∃ action, eventKey = "action:" ++ action ∧ memory.actions.get action ≠ none

omit [Sha256] in
theorem PaymentPin.parse_trimmed (pin : PaymentPin) : pin.trimmed.parse = pin.parse := by
  unfold PaymentPin.parse
  rw [PaymentPin.trimmed_trimmed]
  rfl

omit [Sha256] in
theorem validatePaymentPin_trimmed (pin : PaymentPin) : validatePaymentPin pin.trimmed = validatePaymentPin pin := by
  unfold validatePaymentPin
  rw [PaymentPin.parse_trimmed]

theorem pinned_trimmed (pin : PaymentPin) (configuration : Option SellerConfiguration) :
    validatePaymentPinAgainstSellerConfiguration pin.trimmed configuration =
      validatePaymentPinAgainstSellerConfiguration pin configuration := by
  unfold validatePaymentPinAgainstSellerConfiguration
  rw [validatePaymentPin_trimmed]

theorem storedAttempt_of_valid {action : String} (valid : repository.validateCommit input = .ok action) :
    StoredAttempt repository input.attempt.attemptId input.attempt := by
  simp only [PaymentRepository.validateCommit, bind_eq_ok, refuseIf_eq_ok, exists_const, forM_eq_ok] at valid
  obtain ⟨_, _, persisted, read, pin, pinned, _, digest, _⟩ := valid
  cases PaymentAttempt.parse_eq_ok read
  have given : validatePaymentPinAgainstSellerConfiguration input.attempt.pin.trimmed
    (some repository.sellerConfiguration) = .ok pin := pinned
  rw [pinned_trimmed] at given
  exact ⟨rfl, read, ⟨pin, given⟩, digest⟩

theorem commit_validated (done : (repository.commit memory input).1 = .ok ()) :
    ∃ action, repository.validateCommit input = .ok action := by
  unfold PaymentRepository.commit at done
  split at done
  · cases done
  · rename_i action passed
    obtain ⟨_, valid, _⟩ := bind_eq_ok.mp passed
    exact ⟨_, valid⟩

theorem filed_empty : Filed repository PaymentMemory.empty :=
  ⟨fun _ _ found => (nomatch found), fun _ _ found => (nomatch found), fun _ _ found => (nomatch found)⟩

theorem Filed.kept (filed : Filed repository memory) (same : SameAttempts memory after)
    (receipts : after.receipts = memory.receipts) : Filed repository after := by
  obtain ⟨attempts, events, actions⟩ := same
  refine ⟨?_, ?_, ?_⟩
  · rw [attempts]
    exact filed.attempts
  · rw [receipts]
    exact filed.receipts
  · rw [events, actions]
    exact filed.events

theorem ReceiptApplied.filed (applied : ReceiptApplied memory trusted stored after)
    (valid : ReceiptTrusted receipt attempt trusted) (filed : Filed repository memory) : Filed repository after := by
  have whole : trim trusted.challengeId = trusted.challengeId := by
    rw [(validateReceipt_eq_ok valid).1]
    simp only [PaymentReceipt.normalized, PaymentReceipt.trimmed, trim_trim]
  have stores (attemptId : Uuid) (receipt : PaymentReceipt)
      (found : (memory.receipts.set trusted.attemptId trusted).get attemptId = some receipt) :
      receipt.attemptId = attemptId ∧ trim receipt.challengeId = receipt.challengeId := by
    rw [OrderedMap.get_set] at found
    split at found
    · rename_i mine
      cases Option.some.inj found
      exact ⟨mine.symm, whole⟩
    · exact filed.receipts _ _ found
  cases applied with
  | replayed => exact filed
  | replaced => exact ⟨filed.attempts, stores, filed.events⟩
  | fresh => exact ⟨filed.attempts, stores, filed.events⟩

/-- What a commit records is filed. -/
theorem Filed.committed {action : String} (filed : Filed repository memory)
    (eventKey : input.event.eventKey = "action:" ++ action)
    (valid : StoredAttempt repository input.attempt.attemptId input.attempt) :
    Filed repository (memory.committed action input) := by
  refine ⟨fun attemptId attempt found => ?_, filed.receipts, fun key event found => ?_⟩
  · have found : (memory.attempts.set input.attempt.attemptId input.attempt).get attemptId = some attempt := found
    rw [OrderedMap.get_set] at found
    split at found
    · rename_i mine
      cases Option.some.inj found
      rw [mine]
      exact valid
    · exact filed.attempts _ _ found
  · have actions : (memory.committed action input).actions = memory.actions.set action
      ⟨input.actionDigest, input.requestDigest, input.attempt.attemptId, input.attempt, input.event⟩ := rfl
    have found : (memory.events.set input.event.eventKey input.event).get key = some event := found
    rw [OrderedMap.get_set] at found
    rw [actions]
    split at found
    · rename_i mine
      exact ⟨action, mine.trans eventKey, by rw [OrderedMap.get_set_self]; exact Option.some_ne_none _⟩
    · obtain ⟨other, named, known⟩ := filed.events _ _ found
      refine ⟨other, named, ?_⟩
      by_cases mine : other = action
      · rw [mine, OrderedMap.get_set_self]
        exact Option.some_ne_none _
      · rw [OrderedMap.get_set_ne mine]
        exact known

theorem CommitOutcome.filed {result : Except PaymentFailure Unit}
    (outcome : CommitOutcome repository memory input result after) (filed : Filed repository memory)
    (valid : result = .ok () → StoredAttempt repository input.attempt.attemptId input.attempt) :
    Filed repository after := by
  have recorded := filed.kept (challenged_sameAttempts memory input) (challenged_sameReceipts memory input).1
  cases outcome with
  | refused => exact filed
  | unrecorded => exact recorded
  | plain checked => exact recorded.committed checked.eventKey (valid rfl)
  | settled checked _ trusts applied => exact (applied.filed trusts recorded).committed checked.eventKey (valid rfl)

theorem Reach.filed {permits : Moment PaymentCall PaymentOp PaymentResult → PaymentProcess → Prop}
    (reach : repository.service.Reach permits (· = .empty) s) : Filed repository s.maps := by
  refine (@Serialized.Reach.invariant _ _ _ _ _ _ _ _ _ (Filed repository) reach ?_ ?_ ?_).1
  · intro maps empty
    rw [empty]
    exact filed_empty
  · intro s call result maps _ answered filed
    exact filed.kept (Answers.sameAttempts answered) (Answers.sameReceipts answered).1
  · intro s call op answer maps _ executed filed
    cases executed with
    | commit =>
      refine CommitOutcome.filed commit_outcome filed fun done => ?_
      obtain ⟨_, valid⟩ := commit_validated done
      exact storedAttempt_of_valid valid
    | saved saved =>
      unfold PaymentMemory.saveReceipt at saved
      split at saved
      · cases saved
      · obtain ⟨_, trusts, applied⟩ := applyReceipt_eq_ok saved
        exact applied.filed trusts filed
    | notSaved => exact filed

omit [Sha256] in
theorem PaymentReceipt.parse_trimmed (receipt : PaymentReceipt) : receipt.trimmed.parse = receipt.parse := by
  unfold PaymentReceipt.parse
  rw [PaymentReceipt.trimmed_trimmed]
  rfl

omit [Sha256] in
theorem validateReceipt_trimmed (receipt : PaymentReceipt) (pin : PaymentPin) (attemptId : Uuid) (challengeId : String) :
    validateReceipt receipt.trimmed pin attemptId challengeId = validateReceipt receipt pin attemptId challengeId := by
  unfold validateReceipt
  rw [PaymentReceipt.parse_trimmed]

omit [Sha256] in
theorem validateReceipt_pin (receipt : PaymentReceipt) (pin : PaymentPin) (attemptId : Uuid) (challengeId : String) :
    validateReceipt receipt pin.trimmed attemptId challengeId = validateReceipt receipt pin attemptId challengeId := by
  unfold validateReceipt
  rw [validatePaymentPin_trimmed]

/-- Beside a settled receipt no other is stored: what a commit applies has its digest. -/
theorem CommitOutcome.beside {presented : PaymentReceipt} (outcome : CommitOutcome repository memory input (.ok ()) after)
    (given : input.receipt = some presented) (recorded : memory.receipts.get presented.attemptId = some receipt)
    (settled : receipt.status = .settled) : after.receipts = memory.receipts ∧
      ∃ trusted, ReceiptTrusted presented input.attempt trusted ∧ receiptDigest receipt = receiptDigest trusted := by
  cases outcome with
  | plain _ none =>
    rw [given] at none
    cases none
  | @settled _ other trusted _ _ checked shown valid applied =>
    cases Option.some.inj (given.symm.trans shown)
    have receipts : (memory.challenged input).receipts = memory.receipts := (challenged_sameReceipts memory input).1
    have found : (memory.challenged input).receipts.get trusted.attemptId = some receipt := by
      rw [receipts, ReceiptTrusted.attemptId valid]
      exact recorded
    cases applied with
    | replayed prior same =>
      cases Option.some.inj (found.symm.trans prior)
      exact ⟨receipts, trusted, valid, same⟩
    | replaced prior _ yields =>
      cases Option.some.inj (found.symm.trans prior)
      have ambiguous := yields.1
      rw [settled] at ambiguous
      rcases ambiguous with unknown | partialFailure
      · cases unknown
      · cases partialFailure
    | fresh absent =>
      rw [found] at absent
      cases absent

theorem delivery_shown {presented : PaymentReceipt} {idempotencyKey correlationId : String} {answer : PaymentAnswer}
    (held : memory.attempts.get attemptId = some attempt)
    (prepared : repository.transition nowUnix eventId memory
      (delivery attemptId presented idempotencyKey correlationId) = .ok (.commits input answer)) :
    input.receipt = some presented ∧ presented.status = .settled ∧ ∃ trusted, ReceiptTrusted presented attempt trusted := by
  obtain ⟨known, next, event, accepted, rfl, _⟩ := transition_commits prepared
  cases Option.some.inj (held.symm.trans accepted.stored)
  obtain ⟨_, _, moved⟩ := accepted.clock
  obtain ⟨allowed, _⟩ := transitionPaymentAttempt_eq_ok.mp moved
  have conditions := allowed.conditions
  simp only [assertStatusConditions, bind_eq_ok, refuseIf_eq_ok, exists_const] at conditions
  have delivered := conditions.2.2.2.2.2.2.2.1
  simp [delivery, PaymentRepository.paymentTransition] at delivered
  obtain ⟨_, trusted, valid⟩ := allowed.receipt presented rfl
  exact ⟨rfl, delivered.1, trusted, (validateReceipt_trimmed _ _ _ _).trans valid⟩

theorem delivers_recorded {presented : PaymentReceipt} {idempotencyKey correlationId : String}
    (filed : Filed repository memory) (held : memory.attempts.get attemptId = some attempt)
    (recorded : memory.receipts.get attemptId = some receipt) (status : presented.status = receipt.status)
    (delivers : repository.Delivers nowUnix eventId memory (delivery attemptId presented idempotencyKey correlationId)
      presented) : presented = receipt ∧ StandingReceipt receipt attempt := by
  obtain ⟨commit, answer, prepared, done, stored⟩ := delivers
  obtain ⟨given, settled, trusted, valid⟩ := delivery_shown held prepared
  have own : presented.attemptId = attemptId := by
    rw [← ReceiptTrusted.attemptId valid, (validateReceipt_eq_ok valid).2.attempt]
    exact (filed.attempts _ _ held).own
  have outcome := @commit_outcome _ _ repository memory commit
  rw [done] at outcome
  obtain ⟨receipts, other, again, digest⟩ := outcome.beside given (by rw [own]; exact recorded) (status.symm.trans settled)
  rw [receipts] at stored
  have same : presented = receipt := Option.some.inj (stored.symm.trans recorded)
  have one : other = trusted := by rw [(validateReceipt_eq_ok again).1, (validateReceipt_eq_ok valid).1]
  subst one same
  exact ⟨rfl, settled, _, valid, digest⟩

theorem nextAttempt_reads {nextStatus : PaymentAttemptStatus} {metadata : PaymentTransitionMetadata} (now : UnixSeconds)
    (read : attempt.parse = .ok attempt.trimmed) (noCode : metadata.failureCode = none)
    (noText : metadata.sanitizedFailure = none) :
    (nextAttempt attempt nextStatus metadata now).parse = .ok (nextAttempt attempt.trimmed nextStatus metadata now) := by
  obtain ⟨urls, issues, _⟩ := parsed_eq_ok.mp read
  have trimmed : (nextAttempt attempt nextStatus metadata now).trimmed = nextAttempt attempt.trimmed nextStatus metadata now := by
    simp only [nextAttempt, PaymentAttempt.trimmed, noCode, noText, Option.none_or]
  have same : (nextAttempt attempt.trimmed nextStatus metadata now).issues = attempt.trimmed.issues := by
    simp only [nextAttempt, PaymentAttempt.issues, PaymentAttempt.bindingIssues, noCode, noText, Option.none_or]
  refine parsed_eq_ok.mpr ⟨urls, ?_, trimmed.symm⟩
  rw [trimmed, same]
  exact issues

omit [UrlParser] [Sha256] in
theorem receiptDigest_safe (text : String) :
    assertPublicPayloadSafe "payload" (.obj [("receiptDigest", .str text)]) = .ok () := by
  have allowed : isForbiddenField "receiptDigest" = false := by decide +kernel
  simp [assertPublicPayloadSafe, Bnbera.assertPublicPayloadSafe, assertFieldsSafe, allowed]

/-- The event of a transition that shows nothing but a receipt. -/
theorem createPaymentEvent_receipt {request : PaymentTransition} (now : UnixSeconds)
    (only : request.metadata = { receipt := some receipt }) (key : PlainKey request.idempotencyKey)
    (correlation : PlainIdentifier (trim request.correlationId)) :
    ∃ event, createPaymentEvent eventId (request.eventInput now) = .ok event ∧ (∃ parsed, event.parse = .ok parsed) ∧
      event.attemptId = request.attempt.attemptId ∧ event.eventKey = "action:" ++ request.idempotencyKey := by
  have keyed := key.noted.issues ["eventKey"]
  have correlated := correlation.issues ["correlationId"]
  have payment : (request.eventInput now).paymentTransactionHash = receipt.paymentTransactionHash.map (·.text) := by
    simp only [PaymentTransition.eventInput, only, hashOr, Option.join_none, Option.none_or, Option.bind_some]
  have settlement : (request.eventInput now).settlementTransactionHash =
      receipt.settlementTransactionHash.map (·.text) := by
    simp only [PaymentTransition.eventInput, only, hashOr, Option.join_none, Option.none_or, Option.bind_some]
  have payload : (request.eventInput now).payload = .obj [("receiptDigest", .str (receiptDigest receipt).text)] := by
    simp only [PaymentTransition.eventInput, eventPayload, only, Option.map_some, Option.map_none, Option.toList_some,
      Option.toList_none, List.append_nil]
  have issues : (request.eventInput now).issues = [] := by
    unfold PaymentEventInput.issues
    rw [payment, settlement, nullableIssues_text, nullableIssues_text]
    simp only [PaymentTransition.eventInput, key.noted.trimmed, keyed, correlated, List.append_nil]
  have safe : assertPublicPayloadSafe "payload" (request.eventInput now).payload = .ok () := by
    rw [payload]
    exact receiptDigest_safe _
  have noted : trim (request.eventInput now).eventKey = "action:" ++ request.idempotencyKey := key.noted.trimmed
  have trace : trim (request.eventInput now).correlationId = trim request.correlationId := rfl
  have made : ∃ event, createPaymentEvent eventId (request.eventInput now) = .ok event ∧
      event.attemptId = request.attempt.attemptId ∧ event.eventKey = "action:" ++ request.idempotencyKey ∧
      event.correlationId = trim request.correlationId := by
    unfold createPaymentEvent
    rw [payment, settlement, checkNullable_checked, checkNullable_checked, issues, safe]
    exact ⟨_, rfl, rfl, noted, trace⟩
  obtain ⟨event, made, own, named, traced⟩ := made
  have parsed : ∃ parsed, event.parse = .ok parsed := by
    unfold PaymentEvent.parse
    rw [named, traced, key.noted.trimmed, correlation.trimmed, keyed, correlated]
    exact ⟨_, rfl⟩
  exact ⟨event, made, parsed, own, named⟩

/-- The lifecycle lets a settled attempt be delivered with its standing receipt. -/
theorem delivery_allowed {idempotencyKey correlationId : String} (stored : StoredAttempt repository attemptId attempt)
    (whole : trim receipt.challengeId = receipt.challengeId) (settled : attempt.status = .settled)
    (standing : StandingReceipt receipt attempt) (successful : receipt.Successful) (time : IsTrustedTime nowUnix) :
    AllowedTransition
      (repository.paymentTransition nowUnix attempt (delivery attemptId receipt idempotencyKey correlationId)) := by
  obtain ⟨trusted, valid, _⟩ := standing.trusted
  have shown : validateReceipt receipt attempt.pin attempt.attemptId attempt.challenge.challengeId = .ok trusted :=
    (validateReceipt_trimmed _ _ _ _).symm.trans valid
  obtain ⟨parsed, read, _⟩ := bind_eq_ok.mp shown
  obtain ⟨made, bound⟩ := validateReceipt_eq_ok shown
  have moves : canTransitionPayment attempt.status .delivered = true := by
    rw [settled]
    rfl
  have apart : attempt.status ≠ .delivered := by
    rw [settled]
    exact fun same => (nomatch same)
  refine ⟨⟨_, stored.read⟩, time, stored.pinned, fun given member => (nomatch member), fun given member => (nomatch member),
    moves, apart, fun ⟨_, pending⟩ => (nomatch pending), fun _ absent => (nomatch absent), fun given member => ?_, ?_⟩
  · cases Option.some.inj (Option.mem_def.mp member)
    exact ⟨⟨_, safeParse_eq_ok.mp read⟩, trusted, shown⟩
  · have attemptId : receipt.attemptId = attempt.attemptId := (ReceiptTrusted.attemptId valid).symm.trans bound.attempt
    have challengeId : receipt.challengeId = attempt.challenge.challengeId := by
      rw [← bound.challenge, made]
      exact whole.symm
    have delivered : ({ receipt := some receipt } : PaymentTransitionMetadata).receipt = some receipt := rfl
    simp only [PaymentRepository.paymentTransition, delivery, assertStatusConditions, bind_eq_ok, refuseIf_eq_ok,
      exists_const, Option.map_some, standing.settled, attemptId, challengeId, Option.any_some, reduceCtorEq, false_and,
      not_false_eq_true, ne_eq, not_true_eq_false, decide_false, Bool.or_self, or_self, true_and,
      Bool.false_eq_true, Option.mem_def, Option.some.injEq, exists_eq_left', successful]

def deliveryCommit (attempt : PaymentAttempt) (receipt : PaymentReceipt) (idempotencyKey correlationId : String)
    (now : UnixSeconds) (event : PaymentEvent) : PaymentCommit :=
  ⟨idempotencyKey, (delivery attempt.attemptId receipt idempotencyKey correlationId).digest.text, some attempt,
    nextAttempt attempt.trimmed .delivered { receipt := some receipt } now, event, none, some receipt, none⟩

/-- A settled attempt takes a delivery that shows its standing receipt again. -/
theorem delivery_prepared {idempotencyKey correlationId : String} (filed : Filed repository memory)
    (held : memory.attempts.get attemptId = some attempt) (recorded : memory.receipts.get attemptId = some receipt)
    (settled : attempt.status = .settled) (standing : StandingReceipt receipt attempt) (successful : receipt.Successful)
    (fresh : FreshDelivery memory idempotencyKey correlationId nowUnix) :
    ∃ now : UnixSeconds, ∃ event,
      repository.transition nowUnix eventId memory (delivery attemptId receipt idempotencyKey correlationId) =
        .ok (.commits (deliveryCommit attempt receipt idempotencyKey correlationId now event)
          (.moved (nextAttempt attempt.trimmed .delivered { receipt := some receipt } now) event false)) ∧
      (∃ parsed, event.parse = .ok parsed) ∧ event.attemptId = attemptId ∧ event.eventKey = "action:" ++ idempotencyKey := by
  have stored := filed.attempts _ _ held
  obtain ⟨trusted, valid, _⟩ := standing.trusted
  have shown : validateReceipt receipt attempt.pin attempt.attemptId attempt.challenge.challengeId = .ok trusted :=
    (validateReceipt_trimmed _ _ _ _).symm.trans valid
  obtain ⟨made, bound⟩ := validateReceipt_eq_ok shown
  obtain ⟨parsed, read, _⟩ := bind_eq_ok.mp shown
  have time : 1 ≤ nowUnix ∧ nowUnix ≤ maxSafeInteger := fresh.time
  have key : parseIdempotencyKey idempotencyKey = .ok idempotencyKey := by
    have issues : keyIssues [] idempotencyKey = [] := fresh.key.plain.keyIssues fresh.key.long []
    simp only [parseIdempotencyKey, fresh.key.plain.trimmed, issues, if_true]
  obtain ⟨event, noted, eventRead, own, named⟩ := @createPaymentEvent_receipt _ _ receipt eventId
    (repository.paymentTransition nowUnix attempt (delivery attemptId receipt idempotencyKey correlationId))
    ⟨nowUnix, time.1, time.2⟩ rfl fresh.key fresh.correlation
  have moved : transitionPaymentAttempt eventId
      (repository.paymentTransition nowUnix attempt (delivery attemptId receipt idempotencyKey correlationId)) =
        .ok (nextAttempt attempt.trimmed .delivered { receipt := some receipt } ⟨nowUnix, time.1, time.2⟩, event) :=
    transitionPaymentAttempt_eq_ok.mpr ⟨delivery_allowed stored (filed.receipts _ _ recorded).2 settled standing successful fresh.time, _, rfl, noted,
      nextAttempt_reads _ stored.read rfl rfl⟩
  refine ⟨⟨nowUnix, time.1, time.2⟩, event, ?_, eventRead, own.trans stored.own, named⟩
  refine bind_eq_ok.mpr ⟨idempotencyKey, key, ?_⟩
  have present : memory.attempts.get (delivery attemptId receipt idempotencyKey correlationId).attemptId = some attempt := held
  have clock : trustedNowUnix nowUnix = .ok ⟨nowUnix, time.1, time.2⟩ := by
    simp only [trustedNowUnix, within?, dif_pos time]
  simp only [present, fresh.unused]
  refine refuseIf_bind_eq_ok.mpr ⟨fun stale => stale settled, bind_eq_ok.mpr ⟨_, clock, bind_eq_ok.mpr ⟨_, moved, ?_⟩⟩⟩
  rw [deliveryCommit, stored.own]
  rfl

theorem applyReceipt_again (recorded : memory.receipts.get receipt.attemptId = some receipt)
    (valid : ReceiptTrusted receipt attempt trusted) (digest : receiptDigest receipt = receiptDigest trusted) :
    memory.applyReceipt receipt attempt = .ok (receipt, true, memory) := by
  obtain ⟨parsed, read, _⟩ := bind_eq_ok.mp ((validateReceipt_trimmed _ _ _ _).symm.trans valid)
  have read : receipt.parse = .ok receipt.trimmed := by
    rw [← (PaymentReceipt.parse_eq_ok (safeParse_eq_ok.mp read)).1]
    exact safeParse_eq_ok.mp read
  have challenge : attempt.challenge.challengeId = receipt.trimmed.challengeId := by
    rw [← (validateReceipt_eq_ok valid).2.challenge, (validateReceipt_eq_ok valid).1, PaymentReceipt.trimmed_trimmed]
    rfl
  have found : memory.receipts.get trusted.attemptId = some receipt := by
    rw [ReceiptTrusted.attemptId valid]
    exact recorded
  refine bind_eq_ok.mpr ⟨_, read, refuseIf_bind_eq_ok.mpr ⟨fun apart => apart challenge, bind_eq_ok.mpr ⟨_, valid, ?_⟩⟩⟩
  simp only [found, if_pos digest]
  rfl

theorem commit_again {action : String} (valid : repository.validateCommit input = .ok action)
    (unused : memory.assertUnused action input = .ok ()) (unchallenged : input.challenge = none)
    (given : input.receipt = some receipt)
    (applied : memory.applyReceipt receipt input.attempt = .ok (receipt, true, memory)) :
    repository.commit memory input = (.ok (), memory.committed action input) := by
  have checks : (do
      let action ← repository.validateCommit input
      memory.assertUnused action input
      return action : Except PaymentFailure String) = .ok action :=
    bind_eq_ok.mpr ⟨_, valid, bind_eq_ok.mpr ⟨_, unused, rfl⟩⟩
  unfold PaymentRepository.commit
  rw [checks, given, unchallenged]
  simp only [Option.map_none, Option.getD_none, applied]

theorem validateCommit_unchallenged {action : String} {pin : PaymentPin} {parsed : PaymentEvent}
    (key : parseIdempotencyKey input.actionKey = .ok action) (read : input.attempt.parse = .ok input.attempt)
    (pinned : validatePaymentPinAgainstSellerConfiguration input.attempt.pin (some repository.sellerConfiguration) = .ok pin)
    (digest : assertChallengeDigest input.attempt.challenge = .ok ()) (event : input.event.parse = .ok parsed)
    (own : input.event.attemptId = input.attempt.attemptId) (named : input.event.eventKey = "action:" ++ action)
    (unchallenged : input.challenge = none) : repository.validateCommit input = .ok action := by
  simp only [PaymentRepository.validateCommit, bind_eq_ok, refuseIf_eq_ok, exists_const, forM_eq_ok, not_or, not_not]
  refine ⟨action, key, _, read, pin, pinned, (), digest, parsed, event, ⟨own, named⟩, ?_, ?_, rfl⟩
  · rw [unchallenged]
    exact Bool.false_ne_true
  · intro challenge member
    rw [unchallenged] at member
    cases member

omit [UrlParser] in
theorem assertUnused_unchallenged {action : String}
    (expected : memory.attempts.get input.attempt.attemptId = input.expectedAttempt)
    (noEvent : memory.events.get input.event.eventKey = none) (noAction : memory.actions.get action = none)
    (unchallenged : input.challenge = none) : memory.assertUnused action input = .ok () := by
  simp only [PaymentMemory.assertUnused, bind_eq_ok, refuseIf_eq_ok, exists_const, assertExpectedAttempt_eq_ok, noEvent,
    noAction, unchallenged]
  refine ⟨congrArg _ expected, Bool.false_ne_true, Bool.false_ne_true, ?_, rfl⟩
  simp only [Option.isSome_none, Bool.false_eq_true, or_self, not_false_eq_true]

/-- A settled attempt with a standing receipt of a successful response is delivered with it. -/
theorem standing_delivers {idempotencyKey correlationId : String} (filed : Filed repository memory)
    (held : memory.attempts.get attemptId = some attempt) (recorded : memory.receipts.get attemptId = some receipt)
    (settled : attempt.status = .settled) (standing : StandingReceipt receipt attempt) (successful : receipt.Successful)
    (fresh : FreshDelivery memory idempotencyKey correlationId nowUnix) :
    repository.Delivers nowUnix eventId memory (delivery attemptId receipt idempotencyKey correlationId) receipt := by
  obtain ⟨now, event, prepared, ⟨_, eventRead⟩, own, named⟩ :=
    @delivery_prepared _ _ repository memory attemptId attempt receipt nowUnix eventId idempotencyKey correlationId filed
      held recorded settled standing successful fresh
  have stored := filed.attempts _ _ held
  obtain ⟨trusted, trusts, digest⟩ := standing.trusted
  obtain ⟨pin, pinned⟩ := stored.pinned
  obtain ⟨receiptOwn, whole⟩ := filed.receipts _ _ recorded
  have key : parseIdempotencyKey idempotencyKey = .ok idempotencyKey := by
    have issues : keyIssues [] idempotencyKey = [] := fresh.key.plain.keyIssues fresh.key.long []
    simp only [parseIdempotencyKey, fresh.key.plain.trimmed, issues, if_true]
  have next := PaymentAttempt.parse_parse
    (@nextAttempt_reads _ _ attempt .delivered { receipt := some receipt } now stored.read rfl rfl)
  have given : validatePaymentPinAgainstSellerConfiguration attempt.pin.trimmed (some repository.sellerConfiguration) =
    .ok pin := (pinned_trimmed _ _).trans pinned
  have noEvent : memory.events.get event.eventKey = none := by
    rw [named]
    cases found : memory.events.get ("action:" ++ idempotencyKey) with
    | none => rfl
    | some event =>
      obtain ⟨action, same, known⟩ := filed.events _ _ found
      rw [(String.append_right_inj _).mp same] at fresh
      exact absurd fresh.unused known
  have valid := @validateCommit_unchallenged _ _ repository
    (deliveryCommit attempt receipt idempotencyKey correlationId now event) idempotencyKey pin _ key next given stored.digest
    eventRead (own.trans stored.own.symm) named rfl
  have expected : memory.attempts.get attempt.attemptId = some attempt := by
    rw [stored.own]
    exact held
  have unused := @assertUnused_unchallenged _ memory
    (deliveryCommit attempt receipt idempotencyKey correlationId now event) idempotencyKey expected noEvent fresh.unused rfl
  have challenge : trim attempt.challenge.challengeId = attempt.challenge.challengeId := by
    rw [← (validateReceipt_eq_ok trusts).2.challenge, (validateReceipt_eq_ok trusts).1]
    simp only [PaymentReceipt.normalized, PaymentReceipt.trimmed, trim_trim]
  have again : ReceiptTrusted receipt (deliveryCommit attempt receipt idempotencyKey correlationId now event).attempt
      trusted := by
    have kept : validateReceipt receipt.trimmed attempt.pin.trimmed attempt.attemptId
        (trim attempt.challenge.challengeId) = .ok trusted := by
      rw [validateReceipt_pin, challenge]
      exact trusts
    exact kept
  have applied := applyReceipt_again (by rw [receiptOwn]; exact recorded) again digest
  have done := commit_again valid unused rfl rfl applied
  refine ⟨_, _, prepared, ?_⟩
  rw [done]
  exact ⟨rfl, recorded⟩

/-- A delivery of a settled attempt commits and leaves its receipt stored exactly when that receipt
is the stored one, which shows the response already, and stands. -/
theorem Reach.settled_delivers_iff {permits : Moment PaymentCall PaymentOp PaymentResult → PaymentProcess → Prop}
    {idempotencyKey correlationId : String} {status : Within 100 599} {digest : Option ContentDigest}
    (reach : repository.service.Reach permits (· = .empty) s) (held : s.maps.attempts.get attemptId = some attempt)
    (settled : attempt.status = .settled) (recorded : s.maps.receipts.get attemptId = some receipt)
    (answers : 200 ≤ status.value ∧ status.value < 300)
    (fresh : FreshDelivery s.maps idempotencyKey correlationId nowUnix) :
    repository.Delivers nowUnix eventId s.maps
        (delivery attemptId (receipt.responded status digest) idempotencyKey correlationId) (receipt.responded status digest) ↔
      receipt.responded status digest = receipt ∧ StandingReceipt receipt attempt := by
  have filed : Filed repository s.maps := Reach.filed reach
  constructor
  · intro delivers
    exact delivers_recorded filed held recorded rfl delivers
  · rintro ⟨same, standing⟩
    have successful : (receipt.responded status digest).Successful := by
      simp [PaymentReceipt.Successful, PaymentReceipt.responded, answers]
    rw [same] at successful ⊢
    exact standing_delivers filed held recorded settled standing successful fresh

omit [Sha256] in
theorem parse_responded (read : receipt.parse = .ok receipt) (status : Within 100 599) (digest : Option ContentDigest) :
    (receipt.responded status digest).parse = .ok (receipt.responded status digest) := by
  obtain ⟨urls, issues, same⟩ := parsed_eq_ok.mp read
  refine parsed_eq_ok.mpr ⟨urls, issues, ?_⟩
  have trimmed : (receipt.responded status digest).trimmed = receipt.trimmed.responded status digest := rfl
  rw [trimmed, ← same]

omit [Sha256] in
/-- The response does not count for the validation of a receipt. -/
theorem validateReceipt_responded {pin : PaymentPin} {challengeId : String} (read : receipt.parse = .ok receipt)
    (valid : validateReceipt receipt pin attemptId challengeId = .ok receipt) (status : Within 100 599)
    (digest : Option ContentDigest) :
    validateReceipt (receipt.responded status digest) pin attemptId challengeId = .ok (receipt.responded status digest) := by
  obtain ⟨parsed, again, rest⟩ := bind_eq_ok.mp valid
  cases Except.ok.inj (read.symm.trans (safeParse_eq_ok.mp again))
  refine bind_eq_ok.mpr ⟨_, safeParse_eq_ok.mpr (parse_responded read status digest), ?_⟩
  obtain ⟨pinned, found, rest⟩ := bind_eq_ok.mp rest
  refine bind_eq_ok.mpr ⟨pinned, found, ?_⟩
  obtain ⟨owned, rest⟩ := refuseIf_bind_eq_ok.mp rest
  refine refuseIf_bind_eq_ok.mpr ⟨owned, ?_⟩
  obtain ⟨rail, rest⟩ := refuseIf_bind_eq_ok.mp rest
  refine refuseIf_bind_eq_ok.mpr ⟨rail, ?_⟩
  obtain ⟨network, rest⟩ := refuseIf_bind_eq_ok.mp rest
  refine refuseIf_bind_eq_ok.mpr ⟨network, ?_⟩
  obtain ⟨asset, rest⟩ := refuseIf_bind_eq_ok.mp rest
  refine refuseIf_bind_eq_ok.mpr ⟨asset, ?_⟩
  obtain ⟨priced, rest⟩ := refuseIf_bind_eq_ok.mp rest
  refine refuseIf_bind_eq_ok.mpr ⟨priced, ?_⟩
  obtain ⟨expected, rest⟩ := refuseIf_bind_eq_ok.mp rest
  refine refuseIf_bind_eq_ok.mpr ⟨expected, ?_⟩
  obtain ⟨actual, rest⟩ := refuseIf_bind_eq_ok.mp rest
  refine refuseIf_bind_eq_ok.mpr ⟨actual, ?_⟩
  have method : (receipt.responded status digest).method = receipt.method := rfl
  have destination : (receipt.responded status digest).destination = receipt.destination := rfl
  rw [method, destination]
  dsimp only at rest ⊢
  split at rest
  · cases rest
  · rename_i pinnedMethod
    rw [if_neg pinnedMethod]
    obtain ⟨same, routed, rest⟩ := bind_eq_ok.mp rest
    refine bind_eq_ok.mpr ⟨same, routed, ?_⟩
    obtain ⟨equal, rest⟩ := refuseIf_bind_eq_ok.mp rest
    refine refuseIf_bind_eq_ok.mpr ⟨equal, ?_⟩
    obtain ⟨_, evidence, rest⟩ := bind_eq_ok.mp rest
    refine bind_eq_ok.mpr ⟨(), evidence, ?_⟩
    have normalized : (receipt.responded status digest).normalized = receipt.normalized.responded status digest := rfl
    have normal : receipt.normalized = receipt := Except.ok.inj rest
    rw [normalized, normal]
    rfl

end

section
attribute [local instance] plainUrls labelSha256

def createdSettled : PaymentMemory :=
  PaymentMemory.empty.withSample firstReceiptId buyerAttemptId "payment-1" "challenge-1" .settled

def unansweredReceipt : PaymentReceipt := sampleReceipt firstReceiptId buyerAttemptId "challenge-1" .settled

def okStatus : Within 100 599 := ⟨200, by decide, by decide⟩

def paidAttempt : PaymentAttempt := sampleAttempt buyerAttemptId "payment-1" "challenge-1" .settled

variable {receipt : PaymentReceipt}

/-- The methods create a settled attempt and save its receipt. -/
theorem paidAttempt_reach (mine : receipt.attemptId = buyerAttemptId) (read : receipt.parse = .ok receipt)
    (valid : validateReceipt receipt samplePin buyerAttemptId "challenge-1" = .ok receipt) :
    ∃ returned, sampleRepository.service.Reach (fun moment _ => ∀ work, moment ≠ .called (.transaction work)) (· = .empty)
      ⟨createdSettled.withReceipt receipt, [], none, returned⟩ := by
  have methods (moment : Moment PaymentCall PaymentOp PaymentResult) (now : PaymentProcess)
      (first : FirstReceipts moment now) : ∀ work, moment ≠ .called (.transaction work) := by
    rintro work rfl
    exact first
  have room : RoomFor .empty buyerAttemptId "payment-1" "challenge-1" := ⟨rfl, rfl, rfl, rfl⟩
  have start : sampleRepository.service.Reach (fun moment _ => ∀ work, moment ≠ .called (.transaction work)) (· = .empty)
    ⟨.empty, [], none, []⟩ := .start rfl
  obtain ⟨_, created⟩ := createSample_reach firstReceiptId .settled firstKey firstChallenge room
    (fun attempt member => (nomatch member)) (fun now work same => (nomatch same)) (fun now work same => (nomatch same))
    (fun call now _ work same => (nomatch same)) (fun call result now work same => (nomatch same)) start
  have attempts : createdSettled.attempts = OrderedMap.empty.set buyerAttemptId paidAttempt := withSample_attempts
  have known : createdSettled.attempts.get receipt.attemptId = some paidAttempt := by
    rw [attempts, mine, OrderedMap.get_set_self]
  have receipts : createdSettled.receipts = .empty ∧ createdSettled.receiptIds = .empty ∧
    createdSettled.receiptDigests = .empty := withSample_receipts
  have absent : createdSettled.receipts.get receipt.attemptId = none := by
    rw [receipts.1]
    rfl
  have free : ReceiptFree createdSettled receipt := by
    refine ⟨fun owner found => ?_, fun owner found => ?_⟩
    · rw [receipts.2.1] at found
      cases found
    · rw [receipts.2.2] at found
      cases found
  have saved := saveReceipt_first read known valid absent free
  exact saveReceipt_reach read saved methods (fun now _ work same => (nomatch same)) created

theorem paidAttempt_holds (mine : receipt.attemptId = buyerAttemptId) :
    (createdSettled.withReceipt receipt).attempts.get buyerAttemptId = some paidAttempt ∧
      (createdSettled.withReceipt receipt).receipts.get buyerAttemptId = some receipt ∧
      FreshDelivery (createdSettled.withReceipt receipt) "deliver-1" "trace-1" 130 := by
  have attempts : createdSettled.attempts = OrderedMap.empty.set buyerAttemptId paidAttempt := withSample_attempts
  have actions : createdSettled.actions.get "deliver-1" = none := withSample_actions (by decide)
  have kept : (createdSettled.withReceipt receipt).attempts = createdSettled.attempts := rfl
  have unused : (createdSettled.withReceipt receipt).actions.get "deliver-1" = none := actions
  have stored : (createdSettled.withReceipt receipt).receipts = createdSettled.receipts.set receipt.attemptId receipt := rfl
  have key : PlainKey "deliver-1" := .ofList (by decide) (by decide) (by decide)
  have traced : PlainIdentifier "trace-1" := .ofList (by decide)
  refine ⟨?_, ?_, key, unused, traced.trimmed.symm ▸ traced, by decide⟩
  · rw [kept, attempts, OrderedMap.get_set_self]
  · rw [stored, mine, OrderedMap.get_set_self]

/-- A settled attempt is delivered with the stored receipt of a response. -/
theorem Reach.settled_delivers_again : ∃ memory, sampleRepository.Delivers 130 firstReceiptId memory
    (delivery buyerAttemptId (unansweredReceipt.responded okStatus none) "deliver-1" "trace-1")
    (unansweredReceipt.responded okStatus none) := by
  have read : unansweredReceipt.parse = .ok unansweredReceipt := sampleReceipt_parse firstChallenge
  have valid : validateReceipt unansweredReceipt samplePin buyerAttemptId "challenge-1" = .ok unansweredReceipt :=
    validateReceipt_sample firstChallenge
  have answered := validateReceipt_responded read valid okStatus none
  have readAnswered := parse_responded read okStatus none
  obtain ⟨_, reach⟩ := @paidAttempt_reach (unansweredReceipt.responded okStatus none) rfl readAnswered answered
  obtain ⟨held, recorded, fresh⟩ := @paidAttempt_holds (unansweredReceipt.responded okStatus none) rfl
  have standing : StandingReceipt (unansweredReceipt.responded okStatus none) paidAttempt :=
    ⟨rfl, _, (validateReceipt_trimmed _ _ _ _).trans answered, rfl⟩
  exact ⟨_, (@Reach.settled_delivers_iff _ _ _ _ _ _ _ 130 firstReceiptId _ "deliver-1" "trace-1" okStatus none reach held
    rfl recorded (by decide) fresh).mpr ⟨rfl, standing⟩⟩

/-- The response to a payment that was settled before it cannot be recorded. -/
theorem Reach.settled_undeliverable : ∃ s,
    sampleRepository.service.Reach (fun moment _ => ∀ work, moment ≠ .called (.transaction work)) (· = .empty) s ∧
      s.maps.attempts.get buyerAttemptId = some paidAttempt ∧ paidAttempt.status = .settled ∧
      s.maps.receipts.get buyerAttemptId = some unansweredReceipt ∧ unansweredReceipt.responseStatus = none ∧
      FreshDelivery s.maps "deliver-1" "trace-1" 130 ∧ ∀ eventId, ¬sampleRepository.Delivers 130 eventId s.maps
        (delivery buyerAttemptId (unansweredReceipt.responded okStatus none) "deliver-1" "trace-1")
        (unansweredReceipt.responded okStatus none) := by
  have read : unansweredReceipt.parse = .ok unansweredReceipt := sampleReceipt_parse firstChallenge
  have valid : validateReceipt unansweredReceipt samplePin buyerAttemptId "challenge-1" = .ok unansweredReceipt :=
    validateReceipt_sample firstChallenge
  obtain ⟨_, reach⟩ := paidAttempt_reach (show unansweredReceipt.attemptId = buyerAttemptId from rfl) read valid
  obtain ⟨held, recorded, fresh⟩ := paidAttempt_holds (show unansweredReceipt.attemptId = buyerAttemptId from rfl)
  refine ⟨_, reach, held, rfl, recorded, rfl, fresh, fun eventId delivers => ?_⟩
  have status : (unansweredReceipt.responded okStatus none).status = unansweredReceipt.status := rfl
  have filed : Filed sampleRepository (createdSettled.withReceipt unansweredReceipt) := Reach.filed reach
  have same := (delivers_recorded filed held recorded status delivers).1
  have response : some okStatus = none := congrArg PaymentReceipt.responseStatus same
  cases response

end

end Bnbera.Payments
