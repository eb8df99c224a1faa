import Bnbera.Payments.Configuration

namespace Bnbera.Payments

section
variable [UrlParser]

def assertChallengeTerms (challenge : PaymentChallenge) (pin : PaymentPin) (nowUnix : Int) :
    Except PaymentFailure Unit := do
  refuseIf (challenge.rail ≠ pin.rail) (paymentError .invalidChallenge
    "Payment rail does not match the pinned B402 rail.")
  refuseIf (challenge.settlementNetwork ≠ pin.settlementNetwork) (paymentError .networkMismatch
    "Payment network does not match the pinned settlement network.")
  refuseIf (challenge.settlementAsset.lowered ≠ pin.settlementAsset.lowered) (paymentError .assetMismatch
    "Payment asset does not match the independently pinned asset.")
  refuseIf (challenge.settlementDecimals ≠ pin.settlementDecimals) (paymentError .decimalsMismatch
    "Payment-token decimals do not match the pinned asset.")
  refuseIf (decimalValue challenge.amountAtomic.text ≠ decimalValue pin.amountAtomic.text)
    (paymentError .amountMismatch "Payment amount does not match the independently pinned amount.")
  refuseIf (challenge.recipient.lowered ≠ pin.recipient.lowered) (paymentError .recipientMismatch
    "Payment recipient does not match the independently pinned recipient.")
  refuseIf (challenge.method ≠ pin.method) (paymentError .methodMismatch
    "Payment method is not the pinned B402 method.")
  let sameDestination ← sameUrl challenge.destination pin.destination
  refuseIf (sameDestination = false) (paymentError .destinationMismatch
    "Payment destination does not match the independently pinned route.")
  let sameFacilitator ← sameUrl challenge.facilitatorEndpoint pin.facilitatorEndpoint
  refuseIf (sameFacilitator = false) (paymentError .facilitatorMismatch
    "Facilitator endpoint does not match the independently pinned endpoint.")
  refuseIf (¬IsTrustedTime nowUnix ∨ challenge.expiresAtUnix.value ≤ nowUnix) (paymentError .challengeExpired
    "The payment challenge has expired.")
  refuseIf (nowUnix + pin.maxChallengeLifetimeSeconds.value < challenge.expiresAtUnix.value ∨
      challenge.expiresAtUnix.value ≤ challenge.issuedAtUnix.value)
    (paymentError .invalidExpiry "Payment challenge expiry is outside the pinned lifetime.")
  refuseIf (nowUnix + 60 < challenge.issuedAtUnix.value) (paymentError .invalidExpiry
    "Payment challenge issuance is too far in the future.")

def PaymentChallenge.normalized (challenge : PaymentChallenge) : PaymentChallenge :=
  { challenge with
    settlementAsset := challenge.settlementAsset.lowered
    recipient := challenge.recipient.lowered
    destination := normalizeHttpUrl challenge.destination
    facilitatorEndpoint := normalizeHttpUrl challenge.facilitatorEndpoint }

def PaymentReceipt.normalized (receipt : PaymentReceipt) : PaymentReceipt :=
  { receipt with
    settlementAsset := receipt.settlementAsset.lowered
    expectedRecipient := receipt.expectedRecipient.lowered
    actualRecipient := receipt.actualRecipient.map (·.lowered)
    destination := normalizeHttpUrl receipt.destination }

def PaymentAuthorization.normalized (authorization : PaymentAuthorization) : PaymentAuthorization :=
  { authorization with
    payerAddress := authorization.payerAddress.lowered
    credentialDigest := ⟨lower authorization.credentialDigest.text, isDigest_lower authorization.credentialDigest.accepted⟩ }

variable [Sha256]

def validateChallenge (input : PaymentChallenge) (pinInput : PaymentPin) (nowUnix : Int) :
    Except PaymentFailure PaymentChallenge := do
  let challenge ← safeParse .invalidChallenge input.parse
  let pin ← validatePaymentPin pinInput
  let _ ← parseAtomic challenge.amountAtomic.text "Challenge amount"
  refuseIf ((challengeUnsignedDigest challenge).text ≠ challenge.challengeDigest.text)
    (paymentError .challengeTampered "Payment challenge digest does not match its canonical terms.")
  assertChallengeTerms challenge pin nowUnix
  return challenge.normalized

def validateAuthorization (input : PaymentAuthorization) (challengeInput : PaymentChallenge) (pinInput : PaymentPin)
    (nowUnix : Int) : Except PaymentFailure PaymentAuthorization := do
  let authorization ← safeParse .invalidAuthorization input.parse
  let challenge ← validateChallenge challengeInput pinInput nowUnix
  refuseIf (authorization.challengeId ≠ challenge.challengeId ∨
      authorization.challengeDigest ≠ challenge.challengeDigest)
    (paymentError .challengeTampered "Authorization is bound to a different challenge.")
  refuseIf (authorization.authorizedAtUnix.value < challenge.issuedAtUnix.value ∨
      challenge.expiresAtUnix.value < authorization.authorizedAtUnix.value ∨ authorization.authorizedAtUnix.value ≤ 0)
    (paymentError .invalidExpiry "Payment authorization falls outside the challenge lifetime.")
  return authorization.normalized

/-- An authorization that `validateAuthorization` has returned: the brand of the source. -/
structure ValidatedPaymentAuthorization where
  authorization : PaymentAuthorization
  validated : ∃ input challenge pin nowUnix, validateAuthorization input challenge pin nowUnix = .ok authorization

def validateRelayRequest (input : RelayRequest) (attemptId : Uuid) (validated : ValidatedPaymentAuthorization)
    (pinInput : PaymentPin) (challengeInput : PaymentChallenge) (nowUnix : Int) :
    Except PaymentFailure RelayRequest := do
  let authorization := validated.authorization
  let relay ← safeParse .invalidAuthorization input.parse
  let pin ← validatePaymentPin pinInput
  let challenge ← validateChallenge challengeInput pin nowUnix
  refuseIf (authorization.challengeId ≠ challenge.challengeId ∨
      authorization.challengeDigest ≠ challenge.challengeDigest)
    (paymentError .challengeTampered "Relay authorization is bound to a different challenge.")
  refuseIf (authorization.attemptId ≠ attemptId ∨ relay.attemptId ≠ attemptId ∨
      relay.authorizationDigest.text ≠ (paymentAuthorizationDigest authorization).text)
    (paymentError .invalidAuthorization "Relay request is not bound to the validated authorization.")
  refuseIf (relay.requestId ≠ pin.requestId) (paymentError .requestMismatch
    "Relay request correlation does not match the trusted payment pin.")
  refuseIf (relay.fixedEgressProfile ≠ pin.fixedEgressProfile) (paymentError .egressProfileMismatch
    "Relay request egress profile does not match the trusted payment pin.")
  assertPublicPayloadSafe "requestBody" relay.requestBody
  refuseIf ((canonicalSha256Hex relay.requestBody).text ≠ relay.requestDigest.text) (paymentError .invalidAuthorization
    "Relay request digest does not match its canonical request body.")
  refuseIf (relay.method ≠ pin.method) (paymentError .methodMismatch
    "Relay method does not match the pinned payment method.")
  let sameDestination ← sameUrl relay.destination pin.destination
  refuseIf (sameDestination = false) (paymentError .destinationMismatch
    "Relay destination does not match the pinned route.")
  return { relay with destination := normalizeHttpUrl relay.destination }

/-- A relay request that `validateRelayRequest` has returned. -/
structure ValidatedRelayRequest where
  relay : RelayRequest
  validated : ∃ input attemptId authorization pin challenge nowUnix,
    validateRelayRequest input attemptId authorization pin challenge nowUnix = .ok relay

def assertSettledEvidence (receipt : PaymentReceipt) (pin : PaymentPin) : Except PaymentFailure Unit := do
  refuseIf (receipt.paymentTransactionHash = none ∧ receipt.settlementTransactionHash = none)
    (paymentError .settlementUnverified "A settled receipt requires an on-chain transaction reference.")
  refuseIf (receipt.payoutVerified = false ∨ receipt.actualRecipient = none ∨ receipt.payoutAddress = none)
    (paymentError .payoutMismatch "A settled receipt requires independently verified payout-recipient evidence.")
  refuseIf (receipt.payoutAddress.map (·.lowered) ≠ some pin.payoutAddress.lowered)
    (paymentError .payoutMismatch "Observed payout address does not match the pinned recipient.")
  refuseIf (receipt.settledAtUnix = none)
    (paymentError .settlementUnverified "A settled receipt requires a settlement observation time.")

def validateReceipt (input : PaymentReceipt) (pinInput : PaymentPin) (attemptId : Uuid) (challengeId : String) :
    Except PaymentFailure PaymentReceipt := do
  let receipt ← safeParse .invalidChallenge input.parse
  let pin ← validatePaymentPin pinInput
  refuseIf (receipt.attemptId ≠ attemptId ∨ receipt.challengeId ≠ challengeId)
    (paymentError .settlementUnverified "Receipt is not bound to the payment attempt and challenge.")
  refuseIf (receipt.rail ≠ pin.rail) (paymentError .invalidChallenge
    "Receipt rail does not match the pinned payment rail.")
  refuseIf (receipt.settlementNetwork ≠ pin.settlementNetwork) (paymentError .networkMismatch
    "Receipt network does not match the pinned network.")
  refuseIf (receipt.settlementAsset.lowered ≠ pin.settlementAsset.lowered) (paymentError .assetMismatch
    "Receipt asset does not match the pinned asset.")
  refuseIf (receipt.settlementDecimals ≠ pin.settlementDecimals ∨
      decimalValue receipt.amountAtomic.text ≠ decimalValue pin.amountAtomic.text)
    (paymentError .amountMismatch "Receipt amount or decimals do not match the pinned payment.")
  refuseIf (receipt.expectedRecipient.lowered ≠ pin.recipient.lowered) (paymentError .recipientMismatch
    "Receipt expected recipient does not match the pinned recipient.")
  refuseIf (receipt.actualRecipient.any (fun actual => actual.lowered ≠ pin.recipient.lowered) = true)
    (paymentError .recipientMismatch "Observed settlement recipient does not match the pinned recipient.")
  let sameDestination ← if receipt.method ≠ pin.method then .ok false else sameUrl receipt.destination pin.destination
  refuseIf (sameDestination = false) (paymentError .destinationMismatch
    "Receipt method or destination does not match the pinned terms.")
  checkIf (receipt.status = .settled) (assertSettledEvidence receipt pin)
  return receipt.normalized

end

inductive PaymentEventType
  | challengeIssued
  | paymentAuthorized
  | relayStarted
  | relayCompleted
  | settlementObserved
  | responseDelivered
  | paymentRejected
  | paymentExpired
  | paymentUnknown
  | paymentPartialFailure
  | reconciliationRequested
  | reconciliationSucceeded
  | reconciliationFailed
deriving DecidableEq

structure PaymentEvent where
  eventId : Uuid
  eventKey : String
  attemptId : Uuid
  eventType : PaymentEventType
  previousStatus : Option PaymentAttemptStatus
  nextStatus : Option PaymentAttemptStatus
  paymentTransactionHash : Option TransactionHash
  settlementTransactionHash : Option TransactionHash
  payloadDigest : ContentDigest
  payload : Json
  correlationId : String
  observedAtUnix : UnixSeconds

/-- `paymentEventSchema.parse` -/
def PaymentEvent.parse (event : PaymentEvent) : Except PaymentFailure PaymentEvent :=
  let issues := identifierIssues ["eventKey"] (trim event.eventKey) ++
    identifierIssues ["correlationId"] (trim event.correlationId)
  if issues = [] then .ok { event with eventKey := trim event.eventKey, correlationId := trim event.correlationId }
  else .error (.zod issues)

structure PaymentEventInput where
  eventKey : String
  attemptId : Uuid
  eventType : PaymentEventType
  previousStatus : Option PaymentAttemptStatus
  nextStatus : Option PaymentAttemptStatus
  paymentTransactionHash : Option String
  settlementTransactionHash : Option String
  payload : Json
  correlationId : String
  observedAtUnix : UnixSeconds

def PaymentEventInput.issues (input : PaymentEventInput) : List Issue :=
  identifierIssues ["eventKey"] (trim input.eventKey) ++
  nullableIssues isTransactionHash ["paymentTransactionHash"] "Expected a 32-byte transaction hash"
    input.paymentTransactionHash ++
  nullableIssues isTransactionHash ["settlementTransactionHash"] "Expected a 32-byte transaction hash"
    input.settlementTransactionHash ++
  identifierIssues ["correlationId"] (trim input.correlationId)

def createPaymentEvent [Sha256] (eventId : Uuid) (input : PaymentEventInput) : Except PaymentFailure PaymentEvent := do
  assertPublicPayloadSafe "payload" input.payload
  match checkNullable isTransactionHash input.paymentTransactionHash,
    checkNullable isTransactionHash input.settlementTransactionHash, input.issues with
  | some paymentTransactionHash, some settlementTransactionHash, [] =>
    .ok {
      eventId := eventId
      eventKey := trim input.eventKey
      attemptId := input.attemptId
      eventType := input.eventType
      previousStatus := input.previousStatus
      nextStatus := input.nextStatus
      paymentTransactionHash := paymentTransactionHash
      settlementTransactionHash := settlementTransactionHash
      payloadDigest := .ofDigest (canonicalSha256Hex input.payload)
      payload := input.payload
      correlationId := trim input.correlationId
      observedAtUnix := input.observedAtUnix }
  | _, _, issues => .error (.zod issues)

def allowedTransitions : PaymentAttemptStatus → List PaymentAttemptStatus
  | .challenged => [.authorized, .rejected, .expired]
  | .authorized => [.relayPending, .rejected, .expired]
  | .relayPending => [.relayed, .unknown, .partialFailure]
  | .relayed => [.settlementPending, .unknown, .partialFailure]
  | .settlementPending => [.settled, .unknown, .partialFailure]
  | .settled => [.delivered, .partialFailure]
  | .delivered => []
  | .rejected => []
  | .expired => []
  | .unknown => [.settlementPending, .manualReview]
  | .partialFailure => [.settlementPending, .manualReview]
  | .manualReview => []

def canTransitionPayment (source target : PaymentAttemptStatus) : Bool :=
  source = target || (allowedTransitions source).contains target

def eventTypeFor : PaymentAttemptStatus → PaymentEventType
  | .authorized => .paymentAuthorized
  | .relayPending => .relayStarted
  | .relayed => .relayCompleted
  | .settlementPending => .settlementObserved
  | .settled => .settlementObserved
  | .delivered => .responseDelivered
  | .expired => .paymentExpired
  | .unknown => .paymentUnknown
  | .partialFailure => .paymentPartialFailure
  | .manualReview => .reconciliationFailed
  | .challenged => .paymentRejected
  | .rejected => .paymentRejected

section
variable [UrlParser] [Sha256]

structure PaymentTransitionMetadata where
  authorization : Option ValidatedPaymentAuthorization := none
  relayRequest : Option ValidatedRelayRequest := none
  receipt : Option PaymentReceipt := none
  failureCode : Option String := none
  sanitizedFailure : Option String := none
  paymentTransactionHash : Option (Option String) := none
  settlementTransactionHash : Option (Option String) := none
  reconciliationConfirmed : Option Bool := none
  reconcilerAddress : Option String := none
  payload : Option Json := none

structure PaymentTransition where
  attempt : PaymentAttempt
  sellerConfiguration : Option SellerConfiguration
  nextStatus : PaymentAttemptStatus
  nowUnix : Int
  idempotencyKey : String
  correlationId : String
  metadata : PaymentTransitionMetadata
  reconcilerAddresses : List String

def assertAuthorizationBound (attempt : PaymentAttempt) (authorization : PaymentAuthorization) :
    Except PaymentFailure Unit :=
  refuseIf (authorization.attemptId ≠ attempt.attemptId ∨ authorization.challengeId ≠ attempt.challenge.challengeId ∨
      authorization.challengeDigest ≠ attempt.challengeDigest)
    (paymentError .invalidAuthorization "Authorization is bound to a different payment attempt or challenge.")

def assertRelayBound (attempt : PaymentAttempt) (relay : RelayRequest) : Except PaymentFailure Unit := do
  refuseIf (relay.attemptId ≠ attempt.attemptId ∨ relay.requestId ≠ attempt.requestId ∨
      relay.fixedEgressProfile ≠ attempt.pin.fixedEgressProfile)
    (paymentError .invalidAuthorization
      "Relay request is not bound to the payment attempt's trusted request context.")
  refuseIf (attempt.authorizationDigest ≠ some relay.authorizationDigest)
    (paymentError .invalidAuthorization "Relay request is not bound to the persisted authorization.")
  let sameTerms ← if relay.method ≠ attempt.pin.method then .ok false
    else sameUrl relay.destination attempt.pin.destination
  refuseIf (sameTerms = false)
    (paymentError .invalidAuthorization "Relay request terms do not match the persisted payment pin.")

/-- `candidates.some((candidate) => normalizeAddress(candidate) === reconciler)` -/
def anyReconciler (reconciler : Address) : List String → Except PaymentFailure Bool
  | [] => .ok false
  | candidate :: rest => do
    let address ← normalizeAddress candidate "reconciler address"
    if address = reconciler then .ok true else anyReconciler reconciler rest

def assertReconciled (metadata : PaymentTransitionMetadata) (reconcilerAddresses : List String) :
    Except PaymentFailure Unit := do
  refuseIf (metadata.reconciliationConfirmed ≠ some true) (paymentError .reconciliationRequired
    "An ambiguous payment outcome must be reconciled before settlement is retried." "reconcile_payment")
  match metadata.reconcilerAddress with
  | none => .error (paymentError .invalidAuthorization
      "Settlement reconciliation requires an authenticated system or reconciler.")
  | some text =>
    let reconciler ← normalizeAddress text "reconciler address"
    let trusted ← anyReconciler reconciler reconcilerAddresses
    refuseIf (trusted = false) (paymentError .invalidAuthorization
      "The reconciliation actor is not trusted for settlement recovery.")

def PaymentReceipt.Successful (receipt : PaymentReceipt) : Prop :=
  receipt.responseStatus.any (fun status => 200 ≤ status.value && status.value < 300) = true

instance (receipt : PaymentReceipt) : Decidable receipt.Successful := inferInstanceAs (Decidable (_ = _))

/-- What each next status asks of the attempt, of the time and of the metadata. -/
def assertStatusConditions (attempt : PaymentAttempt) (nextStatus : PaymentAttemptStatus) (nowUnix : Int)
    (metadata : PaymentTransitionMetadata) : Except PaymentFailure Unit := do
  let expiry := attempt.challenge.expiresAtUnix.value
  refuseIf (nextStatus = .authorized ∧ metadata.authorization.isNone) (paymentError .invalidAuthorization
    "A validated authorization is required before a payment attempt can be authorized.")
  refuseIf (nextStatus = .authorized ∧ expiry ≤ nowUnix) (paymentError .challengeExpired
    "Authorization cannot be recorded after the payment challenge has expired.")
  refuseIf (nextStatus = .relayPending ∧ (attempt.authorizationDigest = none ∨ attempt.payerAddress = none))
    (paymentError .invalidAuthorization "A payment attempt must retain validated authorization before relay.")
  refuseIf ((nextStatus = .relayPending ∨ nextStatus = .relayed) ∧ expiry ≤ nowUnix) (paymentError .challengeExpired
    "Relay execution is not valid after the payment challenge has expired.")
  refuseIf (nextStatus = .relayed ∧ metadata.relayRequest.isNone) (paymentError .invalidAuthorization
    "A validated relay request is required before relay completion.")
  refuseIf (nextStatus = .settled ∧ metadata.receipt.map (·.status) ≠ some .settled) (paymentError .settlementUnverified
    "Only a settled receipt can move an attempt to settled.")
  refuseIf (metadata.receipt.any (fun receipt => receipt.attemptId ≠ attempt.attemptId ||
      receipt.challengeId ≠ attempt.challenge.challengeId) = true)
    (paymentError .settlementUnverified "Receipt is bound to another payment attempt.")
  refuseIf (nextStatus = .delivered ∧ (metadata.receipt.map (·.status) ≠ some .settled ∨
      ¬∃ receipt ∈ metadata.receipt, receipt.Successful))
    (paymentError .settlementUnverified
      "A delivered response must follow a settled payment and a successful response.")
  refuseIf (nextStatus = .expired ∧ nowUnix < expiry) (paymentError .challengeExpired
    "A payment attempt cannot expire before its challenge.")
  refuseIf (nextStatus = .unknown ∧ attempt.status = .challenged) (paymentError .illegalTransition
    "A challenge must be authorized before a post-payment outcome can be unknown.")

def assertPaymentTransition (input : PaymentTransition) : Except PaymentFailure Unit := do
  let attempt := input.attempt
  let nextStatus := input.nextStatus
  let metadata := input.metadata
  let _ ← attempt.parse
  refuseIf (¬IsTrustedTime input.nowUnix) (paymentError .invalidExpiry
    "A trusted Unix timestamp is required for a payment transition.")
  let _ ← validatePaymentPinAgainstSellerConfiguration attempt.pin input.sellerConfiguration
  metadata.authorization.forM fun given => assertAuthorizationBound attempt given.authorization
  metadata.relayRequest.forM fun given => assertRelayBound attempt given.relay
  refuseIf (canTransitionPayment attempt.status nextStatus = false ∨ attempt.status = nextStatus)
    (paymentError .illegalTransition
      ("Illegal payment transition: " ++ attempt.status.text ++ " -> " ++ nextStatus.text ++ "."))
  checkIf ((attempt.status = .unknown ∨ attempt.status = .partialFailure) ∧ nextStatus = .settlementPending)
    (assertReconciled metadata input.reconcilerAddresses)
  refuseIf ((nextStatus = .settled ∨ nextStatus = .delivered) ∧ metadata.receipt.isNone)
    (paymentError .settlementUnverified "A receipt is required before marking a payment settled or delivered.")
  metadata.receipt.forM fun receipt => do
    let _ ← receipt.parse
    let _ ← validateReceipt receipt attempt.pin attempt.attemptId attempt.challenge.challengeId
  assertStatusConditions attempt nextStatus input.nowUnix metadata

end

variable [UrlParser] [Sha256]

/-- The attempt with the fields that a transition replaces, before the schema reads it. -/
def nextAttempt (attempt : PaymentAttempt) (nextStatus : PaymentAttemptStatus)
    (metadata : PaymentTransitionMetadata) (nowUnix : UnixSeconds) : PaymentAttempt :=
  { attempt with
    status := nextStatus
    authorizationDigest := match metadata.authorization with
      | none => attempt.authorizationDigest
      | some given => some (.ofDigest (paymentAuthorizationDigest given.authorization))
    payerAddress := match metadata.authorization with
      | none => attempt.payerAddress
      | some given => some given.authorization.payerAddress.lowered
    relayRequestDigest := match metadata.relayRequest with
      | none => attempt.relayRequestDigest
      | some given => some given.relay.requestDigest
    failureCode := metadata.failureCode.or attempt.failureCode
    sanitizedFailure := metadata.sanitizedFailure.or attempt.sanitizedFailure
    updatedAtUnix := nowUnix }

def eventPayload (metadata : PaymentTransitionMetadata) : List (String × Json) :=
  (metadata.receipt.map fun receipt => ("receiptDigest", Json.str (receiptDigest receipt).text)).toList ++
    (metadata.payload.map fun payload => ("details", payload)).toList

/-- `metadata.hash ?? receipt?.hash ?? null` -/
def hashOr (given : Option (Option String)) (receipt : Option PaymentReceipt)
    (hash : PaymentReceipt → Option TransactionHash) : Option String :=
  given.join.or ((receipt.bind hash).map (·.text))

def PaymentTransition.eventInput (input : PaymentTransition) (nowUnix : UnixSeconds) : PaymentEventInput where
  eventKey := "action:" ++ input.idempotencyKey
  attemptId := input.attempt.attemptId
  eventType := eventTypeFor input.nextStatus
  previousStatus := some input.attempt.status
  nextStatus := some input.nextStatus
  paymentTransactionHash :=
    hashOr input.metadata.paymentTransactionHash input.metadata.receipt (·.paymentTransactionHash)
  settlementTransactionHash :=
    hashOr input.metadata.settlementTransactionHash input.metadata.receipt (·.settlementTransactionHash)
  payload := .obj (eventPayload input.metadata)
  correlationId := input.correlationId
  observedAtUnix := nowUnix

def transitionPaymentAttempt (eventId : Uuid) (input : PaymentTransition) :
    Except PaymentFailure (PaymentAttempt × PaymentEvent) := do
  assertPaymentTransition input
  match within? 1 maxSafeInteger input.nowUnix with
  | none => .error (paymentError .invalidExpiry "A trusted Unix timestamp is required for a payment transition.")
  | some nowUnix =>
    let event ← createPaymentEvent eventId (input.eventInput nowUnix)
    let attempt ← (nextAttempt input.attempt input.nextStatus input.metadata nowUnix).parse
    return (attempt, event)

end Bnbera.Payments
