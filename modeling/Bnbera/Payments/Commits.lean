import Bnbera.Payments.Lifecycle
import Bnbera.Payments.Process

namespace Bnbera.Payments

theorem PaymentPin.trimmed_trimmed (pin : PaymentPin) : pin.trimmed.trimmed = pin.trimmed := by
  simp only [PaymentPin.trimmed, trim_trim]

theorem PaymentChallenge.trimmed_trimmed (challenge : PaymentChallenge) :
    challenge.trimmed.trimmed = challenge.trimmed := by
  simp only [PaymentChallenge.trimmed, trim_trim]

theorem trim_trim_option (text : Option String) : (text.map trim).map trim = text.map trim := by
  rw [Option.map_map]
  exact congrArg (Option.map · text) (funext trim_trim)

theorem PaymentReceipt.trimmed_trimmed (receipt : PaymentReceipt) : receipt.trimmed.trimmed = receipt.trimmed := by
  simp only [PaymentReceipt.trimmed, trim_trim, trim_trim_option]

theorem PaymentAttempt.trimmed_trimmed (attempt : PaymentAttempt) : attempt.trimmed.trimmed = attempt.trimmed := by
  simp only [PaymentAttempt.trimmed, trim_trim, trim_trim_option, PaymentPin.trimmed_trimmed,
    PaymentChallenge.trimmed_trimmed]

section
variable [UrlParser]

theorem PaymentReceipt.parse_eq_ok {receipt result : PaymentReceipt} (read : receipt.parse = .ok result) :
    result = receipt.trimmed ∧ isHttpUrl receipt.destination = true := by
  obtain ⟨_, issues, same⟩ := parsed_eq_ok.mp read
  refine ⟨same, ?_⟩
  by_contra broken
  rw [urlIssues, if_neg broken, List.append_assoc] at issues
  simp at issues

variable [Sha256]

theorem PaymentAttempt.parse_eq_ok {attempt result : PaymentAttempt} (read : attempt.parse = .ok result) :
    result = attempt.trimmed := (parsed_eq_ok.mp read).2.2

theorem PaymentAttempt.parse_parse {attempt result : PaymentAttempt} (read : attempt.parse = .ok result) :
    result.parse = .ok result := by
  obtain ⟨urls, issues, rfl⟩ := parsed_eq_ok.mp read
  refine parsed_eq_ok.mpr ⟨urls, ?_, attempt.trimmed_trimmed.symm⟩
  rw [PaymentAttempt.trimmed_trimmed]
  exact issues

theorem PaymentAttempt.trimmed_of_parse {attempt : PaymentAttempt} (read : attempt.parse = .ok attempt) :
    attempt.trimmed = attempt := (PaymentAttempt.parse_eq_ok read).symm

/-- A receipt that belongs to the attempt and the challenge and shows the terms of the pin. -/
structure ReceiptBound (receipt : PaymentReceipt) (pin : PaymentPin) (attemptId : Uuid) (challengeId : String) :
    Prop where
  attempt : receipt.attemptId = attemptId
  challenge : receipt.challengeId = challengeId
  rail : receipt.rail = pin.rail
  network : receipt.settlementNetwork = pin.settlementNetwork
  asset : receipt.settlementAsset.lowered = pin.settlementAsset.lowered
  decimals : receipt.settlementDecimals = pin.settlementDecimals
  amount : decimalValue receipt.amountAtomic.text = decimalValue pin.amountAtomic.text
  expected : receipt.expectedRecipient.lowered = pin.recipient.lowered
  actual : ∀ recipient ∈ receipt.actualRecipient, recipient.lowered = pin.recipient.lowered
  method : receipt.method = pin.method
  destination : receipt.destination = normalizeHttpUrl (normalizeHttpUrl pin.destination)

omit [Sha256] in
theorem validatePaymentPin_eq_ok {input pin : PaymentPin} (valid : validatePaymentPin input = .ok pin) :
    pin = input.trimmed.normalized := by
  obtain ⟨_, read, rest⟩ := bind_eq_ok.mp valid
  obtain ⟨_, _, rest⟩ := bind_eq_ok.mp rest
  rw [(parsed_eq_ok.mp (safeParse_eq_ok.mp read)).2.2] at rest
  exact (Except.ok.inj rest).symm

omit [Sha256] in
theorem sameUrl_eq_true {left right : String} (same : sameUrl left right = .ok true) :
    normalizeHttpUrl left = normalizeHttpUrl right := by
  obtain ⟨first, left, rest⟩ := bind_eq_ok.mp same
  obtain ⟨second, right, rest⟩ := bind_eq_ok.mp rest
  rw [← (normalizeUrl_eq_ok.mp left).2, ← (normalizeUrl_eq_ok.mp right).2]
  exact of_decide_eq_true (Except.ok.inj rest)

omit [Sha256] in
/-- The receipt that `validateReceipt` returns is the given one, trimmed and normalized, and is bound. -/
theorem validateReceipt_eq_ok {input receipt : PaymentReceipt} {pin : PaymentPin} {attemptId : Uuid} {challengeId : String}
    (valid : validateReceipt input pin attemptId challengeId = .ok receipt) :
    receipt = input.trimmed.normalized ∧ ReceiptBound receipt pin attemptId challengeId := by
  obtain ⟨trimmed, read, rest⟩ := bind_eq_ok.mp valid
  rw [(PaymentReceipt.parse_eq_ok (safeParse_eq_ok.mp read)).1] at rest
  obtain ⟨normalPin, pinned, rest⟩ := bind_eq_ok.mp rest
  rw [validatePaymentPin_eq_ok pinned] at rest
  obtain ⟨owned, rest⟩ := refuseIf_bind_eq_ok.mp rest
  obtain ⟨rail, rest⟩ := refuseIf_bind_eq_ok.mp rest
  obtain ⟨network, rest⟩ := refuseIf_bind_eq_ok.mp rest
  obtain ⟨asset, rest⟩ := refuseIf_bind_eq_ok.mp rest
  obtain ⟨priced, rest⟩ := refuseIf_bind_eq_ok.mp rest
  obtain ⟨expected, rest⟩ := refuseIf_bind_eq_ok.mp rest
  obtain ⟨actual, rest⟩ := refuseIf_bind_eq_ok.mp rest
  simp only [not_or, not_not] at owned priced network asset expected
  dsimp only at rest
  split at rest
  · cases rest
  · rename_i method
    obtain ⟨sameDestination, routed, rest⟩ := bind_eq_ok.mp rest
    obtain ⟨same, rest⟩ := refuseIf_bind_eq_ok.mp rest
    obtain ⟨_, _, rest⟩ := bind_eq_ok.mp rest
    cases Except.ok.inj rest
    simp only [Bool.not_eq_false] at same
    subst same
    refine ⟨rfl, owned.1, owned.2, not_not.mp rail, network, ?_, priced.1, priced.2, ?_, ?_, not_not.mp method, sameUrl_eq_true routed⟩
    · simpa only [PaymentReceipt.normalized, PaymentPin.normalized, PaymentPin.trimmed,
        NonZeroAddress.lowered_lowered] using asset
    · simpa only [PaymentReceipt.normalized, PaymentPin.normalized, PaymentPin.trimmed,
        NonZeroAddress.lowered_lowered] using expected
    · intro recipient member
      obtain ⟨given, present, rfl⟩ := Option.map_eq_some_iff.mp (Option.mem_def.mp member)
      rw [present] at actual
      simpa only [Option.any_some, decide_eq_true_eq, not_not, PaymentPin.normalized, PaymentPin.trimmed,
        NonZeroAddress.lowered_lowered] using actual

structure AllowedTransition (input : PaymentTransition) : Prop where
  parsed : ∃ attempt, input.attempt.parse = .ok attempt
  time : IsTrustedTime input.nowUnix
  pinned : ∃ pin, validatePaymentPinAgainstSellerConfiguration input.attempt.pin input.sellerConfiguration = .ok pin
  authorization : ∀ given ∈ input.metadata.authorization,
    assertAuthorizationBound input.attempt given.authorization = .ok ()
  relay : ∀ given ∈ input.metadata.relayRequest, assertRelayBound input.attempt given.relay = .ok ()
  moves : canTransitionPayment input.attempt.status input.nextStatus = true
  apart : input.attempt.status ≠ input.nextStatus
  reconciled : (input.attempt.status = .unknown ∨ input.attempt.status = .partialFailure) ∧
    input.nextStatus = .settlementPending → assertReconciled input.metadata input.reconcilerAddresses = .ok ()
  evidence : input.nextStatus = .settled ∨ input.nextStatus = .delivered → input.metadata.receipt ≠ none
  receipt : ∀ receipt ∈ input.metadata.receipt, (∃ parsed, receipt.parse = .ok parsed) ∧ ∃ trusted,
    validateReceipt receipt input.attempt.pin input.attempt.attemptId input.attempt.challenge.challengeId = .ok trusted
  conditions : assertStatusConditions input.attempt input.nextStatus input.nowUnix input.metadata = .ok ()

theorem assertPaymentTransition_eq_ok {input : PaymentTransition} {done : Unit} :
    assertPaymentTransition input = .ok done ↔ AllowedTransition input := by
  simp only [assertPaymentTransition, bind_eq_ok, refuseIf_eq_ok, exists_const, forM_eq_ok, checkIf_eq_ok, not_or,
    Bool.not_eq_false, not_and, not_not, Option.isNone_iff_eq_none]
  constructor
  · rintro ⟨_, parsed, time, _, pinned, authorization, relay, moves, reconciled, evidence, receipts, conditions⟩
    refine ⟨⟨_, parsed⟩, time, ⟨_, pinned⟩, authorization, relay, moves.1, moves.2, reconciled, evidence,
      fun receipt given => ?_, conditions⟩
    obtain ⟨_, read, trusted, valid, _⟩ := receipts receipt given
    exact ⟨⟨_, read⟩, trusted, valid⟩
  · intro allowed
    obtain ⟨_, parsed⟩ := allowed.parsed
    obtain ⟨_, pinned⟩ := allowed.pinned
    refine ⟨_, parsed, allowed.time, _, pinned, allowed.authorization, allowed.relay, ⟨allowed.moves, allowed.apart⟩,
      allowed.reconciled, allowed.evidence, fun receipt given => ?_, allowed.conditions⟩
    obtain ⟨⟨_, read⟩, trusted, valid⟩ := allowed.receipt receipt given
    exact ⟨_, read, trusted, valid, rfl⟩

theorem transitionPaymentAttempt_eq_ok {eventId : Uuid} {input : PaymentTransition} {attempt : PaymentAttempt}
    {event : PaymentEvent} : transitionPaymentAttempt eventId input = .ok (attempt, event) ↔
      AllowedTransition input ∧ ∃ nowUnix : UnixSeconds, nowUnix.value = input.nowUnix ∧
        createPaymentEvent eventId (input.eventInput nowUnix) = .ok event ∧
        (nextAttempt input.attempt input.nextStatus input.metadata nowUnix).parse = .ok attempt := by
  simp only [transitionPaymentAttempt, bind_eq_ok, assertPaymentTransition_eq_ok, exists_const]
  refine and_congr_right fun allowed => ?_
  have time : 1 ≤ input.nowUnix ∧ input.nowUnix ≤ maxSafeInteger := allowed.time
  rw [within?, dif_pos time]
  simp only [bind_eq_ok]
  constructor
  · rintro ⟨event, noted, attempt, read, same⟩
    cases Except.ok.inj same
    exact ⟨_, rfl, noted, read⟩
  · rintro ⟨nowUnix, shown, noted, read⟩
    have same : nowUnix = ⟨input.nowUnix, time.1, time.2⟩ := Within.ext shown
    subst same
    exact ⟨event, noted, attempt, read, rfl⟩

theorem nextAttempt_parse {attempt : PaymentAttempt} {nextStatus : PaymentAttemptStatus}
    {metadata : PaymentTransitionMetadata} (nowUnix : UnixSeconds) (read : attempt.parse = .ok attempt)
    (noCode : metadata.failureCode = none) (noText : metadata.sanitizedFailure = none) :
    (nextAttempt attempt nextStatus metadata nowUnix).parse = .ok (nextAttempt attempt nextStatus metadata nowUnix) := by
  obtain ⟨urls, issues, same⟩ := parsed_eq_ok.mp read
  have kept : (nextAttempt attempt nextStatus metadata nowUnix).trimmed = nextAttempt attempt.trimmed nextStatus metadata nowUnix := by
    simp only [nextAttempt, PaymentAttempt.trimmed, noCode, noText, Option.none_or]
  rw [← same] at kept
  refine parsed_eq_ok.mpr ⟨urls, ?_, kept.symm⟩
  rw [kept]
  rw [← same] at issues
  have unchanged : (nextAttempt attempt nextStatus metadata nowUnix).issues = attempt.issues := by
    simp only [nextAttempt, PaymentAttempt.issues, PaymentAttempt.bindingIssues, noCode, noText, Option.none_or]
  rw [unchanged, issues]

end

section
variable [UrlParser] [Sha256] {repository : PaymentRepository} {memory after : PaymentMemory} {input : PaymentCommit}
  {receipt trusted stored : PaymentReceipt} {attempt : PaymentAttempt} {replayed : Bool}

inductive ReceiptApplied (memory : PaymentMemory) (trusted : PaymentReceipt) : PaymentReceipt → PaymentMemory → Prop
  | replayed {prior} : memory.receipts.get trusted.attemptId = some prior →
      receiptDigest prior = receiptDigest trusted → ReceiptApplied memory trusted prior memory
  | replaced {prior} : memory.receipts.get trusted.attemptId = some prior →
      receiptDigest prior ≠ receiptDigest trusted → prior.YieldsTo trusted →
      ReceiptApplied memory trusted trusted ({ memory with
        receiptIds := memory.receiptIds.delete prior.receiptId
        receiptDigests := memory.receiptDigests.delete (receiptDigest prior) : PaymentMemory }.withReceipt trusted)
  | fresh : memory.receipts.get trusted.attemptId = none →
      (∀ owner, memory.receiptIds.get trusted.receiptId = some owner → owner = trusted.attemptId) →
      (∀ owner, memory.receiptDigests.get (receiptDigest trusted) = some owner → owner = trusted.attemptId) →
      ReceiptApplied memory trusted trusted (memory.withReceipt trusted)

/-- `validateReceipt` for an attempt. -/
def ReceiptTrusted (receipt : PaymentReceipt) (attempt : PaymentAttempt) (trusted : PaymentReceipt) : Prop :=
  validateReceipt receipt.trimmed attempt.pin attempt.attemptId attempt.challenge.challengeId = .ok trusted

omit [Sha256] in
theorem ReceiptTrusted.attemptId (valid : ReceiptTrusted receipt attempt trusted) :
    trusted.attemptId = receipt.attemptId := by
  rw [(validateReceipt_eq_ok valid).1]
  simp only [PaymentReceipt.normalized, PaymentReceipt.trimmed]

omit [UrlParser] [Sha256] in
theorem any_ne_eq_false {α β : Type} [DecidableEq β] {found : Option α} {f : α → β} {expected : β} :
    ¬(found.any fun value => decide (f value ≠ expected)) = true ↔ ∀ value ∈ found, f value = expected := by
  cases found with
  | none => exact ⟨fun _ value same => (nomatch same), fun _ => Bool.false_ne_true⟩
  | some value => simp

theorem applyReceipt_eq_ok (applied : memory.applyReceipt receipt attempt = .ok (stored, replayed, after)) :
    ∃ trusted, ReceiptTrusted receipt attempt trusted ∧ ReceiptApplied memory trusted stored after := by
  obtain ⟨parsed, read, rest⟩ := bind_eq_ok.mp applied
  obtain ⟨_, rest⟩ := refuseIf_bind_eq_ok.mp rest
  obtain ⟨trusted, valid, rest⟩ := bind_eq_ok.mp rest
  rw [(PaymentReceipt.parse_eq_ok read).1] at valid
  refine ⟨trusted, valid, ?_⟩
  split at rest
  · rename_i prior found
    split at rest
    · rename_i same
      cases Except.ok.inj rest
      exact .replayed found same
    · rename_i apart
      split at rest
      · rename_i yields
        cases Except.ok.inj rest
        exact .replaced found apart yields
      · cases rest
  · rename_i absent
    obtain ⟨idFree, rest⟩ := refuseIf_bind_eq_ok.mp rest
    obtain ⟨digestFree, rest⟩ := refuseIf_bind_eq_ok.mp rest
    cases Except.ok.inj rest
    exact .fresh absent ((any_ne_eq_false (f := id)).mp idFree) ((any_ne_eq_false (f := id)).mp digestFree)

def IsExpected (current expected : Option PaymentAttempt) : Prop :=
  current.map PaymentAttempt.digest = expected.map PaymentAttempt.digest

structure CommitChecked (repository : PaymentRepository) (memory : PaymentMemory) (input : PaymentCommit)
    (action : String) : Prop where
  key : trim input.actionKey = action
  attempt : ∃ persisted, input.attempt.parse = .ok persisted
  ownEvent : input.event.attemptId = input.attempt.attemptId
  eventKey : input.event.eventKey = "action:" ++ action
  ownChallenge : ∀ challenge ∈ input.challenge, challenge.challengeId = input.attempt.challenge.challengeId
  digest : ∀ challenge ∈ input.challenge, assertChallengeDigest challenge = .ok ()
  expected : IsExpected (memory.attempts.get input.attempt.attemptId) input.expectedAttempt
  noEvent : memory.events.get input.event.eventKey = none
  noAction : memory.actions.get action = none
  free : ∀ challenge ∈ input.challenge, memory.assertChallengeFree challenge = .ok ()

def PaymentMemory.challenged (memory : PaymentMemory) (input : PaymentCommit) : PaymentMemory :=
  (input.challenge.map memory.withChallenge).getD memory

inductive CommitOutcome (repository : PaymentRepository) (memory : PaymentMemory) (input : PaymentCommit) :
    Except PaymentFailure Unit → PaymentMemory → Prop
  | refused {failure} : CommitOutcome repository memory input (.error failure) memory
  | unrecorded {action failure} : CommitChecked repository memory input action →
      CommitOutcome repository memory input (.error failure) (memory.challenged input)
  | plain {action} : CommitChecked repository memory input action → input.receipt = none →
      CommitOutcome repository memory input (.ok ()) ((memory.challenged input).committed action input)
  | settled {action receipt trusted stored after} : CommitChecked repository memory input action →
      input.receipt = some receipt → ReceiptTrusted receipt input.attempt trusted →
      ReceiptApplied (memory.challenged input) trusted stored after →
      CommitOutcome repository memory input (.ok ()) (after.committed action input)

omit [UrlParser] [Sha256] in
theorem parseIdempotencyKey_eq_ok {text action : String} (read : parseIdempotencyKey text = .ok action) :
    trim text = action := by
  simp only [parseIdempotencyKey] at read
  split at read
  · exact Except.ok.inj read
  · cases read

omit [UrlParser] in
theorem assertExpectedAttempt_eq_ok {current expected : Option PaymentAttempt} {done : Unit} :
    assertExpectedAttempt current expected = .ok done ↔ IsExpected current expected := by
  unfold assertExpectedAttempt IsExpected
  cases expected with
  | none =>
    rw [refuseIf_eq_ok]
    cases current <;> simp
  | some expected => rw [refuseIf_eq_ok, not_not, Option.map_some]

theorem commitChecked {action : String} (valid : repository.validateCommit input = .ok action)
    (unused : memory.assertUnused action input = .ok ()) : CommitChecked repository memory input action := by
  simp only [PaymentRepository.validateCommit, bind_eq_ok, refuseIf_eq_ok, exists_const, forM_eq_ok, not_or,
    not_not] at valid
  obtain ⟨_, key, persisted, read, _, _, _, _, _, _, bound, own, digest, same⟩ := valid
  cases Except.ok.inj same
  simp only [PaymentMemory.assertUnused, bind_eq_ok, refuseIf_eq_ok, exists_const, forM_eq_ok, not_or,
    assertExpectedAttempt_eq_ok, Bool.not_eq_true, Option.isSome_eq_false_iff, Option.isNone_iff_eq_none] at unused
  obtain ⟨expected, _, _, absent, free⟩ := unused
  exact ⟨parseIdempotencyKey_eq_ok key, ⟨_, read⟩, bound.1, bound.2, any_ne_eq_false.mp own, digest, expected, absent.1,
    absent.2, free⟩

theorem commit_outcome : CommitOutcome repository memory input (repository.commit memory input).1
    (repository.commit memory input).2 := by
  unfold PaymentRepository.commit
  split
  · exact .refused
  · rename_i action passed
    obtain ⟨_, valid, rest⟩ := bind_eq_ok.mp passed
    obtain ⟨_, unused, same⟩ := bind_eq_ok.mp rest
    cases Except.ok.inj same
    have checked := commitChecked valid unused
    dsimp only
    split
    · rename_i none
      exact .plain checked none
    · rename_i receipt given
      split
      · exact .unrecorded checked
      · rename_i applied
        obtain ⟨trusted, valid, stored⟩ := applyReceipt_eq_ok applied
        exact .settled checked given valid stored

end

end Bnbera.Payments
