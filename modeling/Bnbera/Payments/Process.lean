import Bnbera.Interleaving.Serialized
import Bnbera.Payments.Memory

namespace Bnbera.Payments

open Interleaving

def trustedNowUnix (nowUnix : Int) : Except PaymentFailure UnixSeconds :=
  match within? 1 maxSafeInteger nowUnix with
  | some time => .ok time
  | none => .error (paymentError .invalidExpiry "The repository trusted clock returned an invalid Unix timestamp.")

inductive PaymentAnswer
  | created (attempt : PaymentAttempt) (replayed : Bool)
  | moved (attempt : PaymentAttempt) (event : PaymentEvent) (replayed : Bool)
  | receipt (receipt : PaymentReceipt) (replayed : Bool)
  | challenge (challenge : PaymentChallenge) (replayed : Bool)
  | reconciliation (record : PaymentReconciliation)
  | worked

inductive Prepared
  | replayed (answer : PaymentAnswer)
  | commits (input : PaymentCommit) (answer : PaymentAnswer)

section
variable [UrlParser] [Sha256]

structure TransitionInput where
  attemptId : Uuid
  expectedStatus : PaymentAttemptStatus
  nextStatus : PaymentAttemptStatus
  idempotencyKey : String
  correlationId : String
  metadata : PaymentTransitionMetadata

omit [UrlParser] in
def creationRequestDigest (attempt : PaymentAttempt) : Digest :=
  canonicalSha256Hex (.obj [("operation", .str "create"), ("attempt", .obj attempt.requestFields)])

/-- The event with which the history of an attempt begins. -/
def challengeIssuedEvent (eventId : Uuid) (idempotencyKey : String) (attempt : PaymentAttempt) : PaymentEvent :=
  let payload : Json := .obj [("challengeDigest", .text attempt.challengeDigest)]
  { eventId := eventId
    eventKey := "action:" ++ idempotencyKey
    attemptId := attempt.attemptId
    eventType := .challengeIssued
    previousStatus := none
    nextStatus := some .challenged
    paymentTransactionHash := none
    settlementTransactionHash := none
    payloadDigest := .ofDigest (canonicalSha256Hex payload)
    payload := payload
    correlationId := attempt.requestId
    observedAtUnix := attempt.createdAtUnix }

def PaymentRepository.normalizeAttempt (repository : PaymentRepository) (attempt : PaymentAttempt) :
    Except PaymentFailure (PaymentAttempt × PaymentPin) := do
  let parsedAttempt ← attempt.parse
  let trustedPin ← validatePaymentPinAgainstSellerConfiguration parsedAttempt.pin (some repository.sellerConfiguration)
  let normalizedChallenge ← validateChallenge parsedAttempt.challenge trustedPin parsedAttempt.challenge.issuedAtUnix.value
  let normalizedInput ← PaymentAttempt.parse { parsedAttempt with
    challenge := normalizedChallenge
    pin := trustedPin
    pinDigest := .ofDigest (paymentPinDigest trustedPin) }
  return (normalizedInput, trustedPin)

/-- What `create` looks up before its transaction. -/
def PaymentMemory.assertNewAttempt (memory : PaymentMemory) (attempt : PaymentAttempt) : Except PaymentFailure Unit := do
  refuseIf (memory.attempts.get attempt.attemptId).isSome
    (idempotencyConflict "A payment attempt already exists with this identifier.")
  refuseIf (memory.attempts.values.any fun existing =>
      existing.challenge.challengeId = attempt.challenge.challengeId)
    (idempotencyConflict "A payment challenge is already associated with another attempt.")
  memory.assertChallengeFree attempt.challenge

/-- `create`, up to its transaction. -/
def PaymentRepository.create (repository : PaymentRepository) (nowUnix : Int) (eventId : Uuid) (memory : PaymentMemory)
    (input : PaymentAttempt) : Except PaymentFailure Prepared := do
  let (normalizedInput, trustedPin) ← repository.normalizeAttempt input
  let idempotencyKey ← parseIdempotencyKey normalizedInput.idempotencyKey
  let requestDigest := (creationRequestDigest normalizedInput).text
  match memory.actions.get idempotencyKey with
  | some prior =>
    refuseIf (prior.requestDigest.getD prior.digest ≠ requestDigest ∨ prior.attemptId ≠ normalizedInput.attemptId)
      keyReused
    return .replayed (.created prior.attempt true)
  | none =>
    let createdAtUnix ← trustedNowUnix nowUnix
    let trustedChallenge ← validateChallenge normalizedInput.challenge trustedPin createdAtUnix.value
    let attempt ← PaymentAttempt.parse { normalizedInput with
      challenge := trustedChallenge
      createdAtUnix := createdAtUnix
      updatedAtUnix := createdAtUnix }
    assertChallengeDigest attempt.challenge
    memory.assertNewAttempt attempt
    let event ← (challengeIssuedEvent eventId idempotencyKey attempt).parse
    return .commits ⟨idempotencyKey, requestDigest, none, attempt, event, some attempt.challenge, none,
      some requestDigest⟩ (.created attempt false)

def PaymentTransitionMetadata.json (metadata : PaymentTransitionMetadata) : Json := .obj <|
  [("authorization", metadata.authorization.map (·.authorization.json)),
    ("relayRequest", metadata.relayRequest.map (·.relay.json)),
    ("receipt", metadata.receipt.map (·.json)),
    ("failureCode", metadata.failureCode.map .str),
    ("sanitizedFailure", metadata.sanitizedFailure.map .str),
    ("paymentTransactionHash", metadata.paymentTransactionHash.map (Json.ofOption .str)),
    ("settlementTransactionHash", metadata.settlementTransactionHash.map (Json.ofOption .str)),
    ("reconciliationConfirmed", metadata.reconciliationConfirmed.map .bool),
    ("reconcilerAddress", metadata.reconcilerAddress.map .str),
    ("payload", metadata.payload)].filterMap fun field => field.2.map (field.1, ·)

def TransitionInput.digest (input : TransitionInput) : Digest := canonicalSha256Hex (.obj [
  ("operation", .str "transition"),
  ("attemptId", .text input.attemptId),
  ("expectedStatus", .str input.expectedStatus.text),
  ("nextStatus", .str input.nextStatus.text),
  ("correlationId", .str input.correlationId),
  ("metadata", input.metadata.json)])

/-- What `transition` asks of the lifecycle for a stored attempt at a trusted time. -/
def PaymentRepository.paymentTransition (repository : PaymentRepository) (nowUnix : Int) (attempt : PaymentAttempt)
    (input : TransitionInput) : PaymentTransition where
  attempt := attempt
  sellerConfiguration := some repository.sellerConfiguration
  nextStatus := input.nextStatus
  nowUnix := nowUnix
  idempotencyKey := input.idempotencyKey
  correlationId := input.correlationId
  metadata := input.metadata
  reconcilerAddresses := repository.reconcilerAddresses.map (·.text)

/-- `transition`, up to its transaction. -/
def PaymentRepository.transition (repository : PaymentRepository) (nowUnix : Int) (eventId : Uuid)
    (memory : PaymentMemory) (input : TransitionInput) : Except PaymentFailure Prepared := do
  let idempotencyKey ← parseIdempotencyKey input.idempotencyKey
  match memory.attempts.get input.attemptId with
  | none => .error (paymentError .unknownAttempt "The payment attempt was not found.")
  | some attempt =>
    let digest := input.digest.text
    match memory.actions.get idempotencyKey with
    | some prior =>
      refuseIf (prior.digest ≠ digest ∨ prior.attemptId ≠ input.attemptId) keyReused
      return .replayed (.moved prior.attempt prior.event true)
    | none =>
      refuseIf (attempt.status ≠ input.expectedStatus) (staleAttempt
        ("Expected payment status " ++ input.expectedStatus.text ++ ", observed " ++ attempt.status.text ++ "."))
      let trusted ← trustedNowUnix nowUnix
      let (next, event) ← transitionPaymentAttempt eventId (repository.paymentTransition trusted.value attempt input)
      return .commits ⟨idempotencyKey, digest, some attempt, next, event, none, input.metadata.receipt, none⟩
        (.moved next event false)

inductive PaymentOp
  | commit (input : PaymentCommit)
  | saveReceipt (receipt : PaymentReceipt)

abbrev PaymentOp.Answer : PaymentOp → Type
  | commit _ => Except PaymentFailure Unit
  | saveReceipt _ => Except PaymentFailure (PaymentReceipt × Bool)

abbrev PaymentResult := Except PaymentFailure PaymentAnswer

abbrev PaymentWork := Program PaymentOp PaymentOp.Answer PaymentResult

/-- The methods; `recordSettlement` is `saveReceipt`. -/
inductive PaymentCall
  | create (attempt : PaymentAttempt)
  | transition (input : TransitionInput)
  | transaction (work : PaymentWork)
  | saveReceipt (receipt : PaymentReceipt)
  | saveChallenge (challenge : PaymentChallenge)
  | enqueue (input : PaymentEnqueueInput)
  | update (input : PaymentReconciliationUpdate)

def PaymentRepository.prepare (repository : PaymentRepository) (nowUnix : Int) (eventId : Uuid)
    (memory : PaymentMemory) : PaymentCall → Option (Except PaymentFailure Prepared)
  | .create attempt => some (repository.create nowUnix eventId memory attempt)
  | .transition input => some (repository.transition nowUnix eventId memory input)
  | _ => none

/-- `this.transaction(async (unit) => unit.commit(input))`, then the answer. -/
def commitThen (input : PaymentCommit) (answer : PaymentAnswer) : PaymentWork :=
  .call (.commit input) fun
    | .ok () => .done (.ok answer)
    | .error failure => .done (.error failure)

/-- `this.transaction(async (unit) => unit.saveReceipt(receipt))` -/
def saveReceiptThen (receipt : PaymentReceipt) : PaymentWork :=
  .call (.saveReceipt receipt) fun
    | .ok (stored, replayed) => .done (.ok (.receipt stored replayed))
    | .error failure => .done (.error failure)

inductive PaymentRepository.Answers (repository : PaymentRepository) :
    PaymentCall → PaymentMemory → PaymentResult → PaymentMemory → Prop
  | refused {call memory nowUnix eventId failure} :
      repository.prepare nowUnix eventId memory call = some (.error failure) →
      Answers repository call memory (.error failure) memory
  | replayed {call memory nowUnix eventId answer} :
      repository.prepare nowUnix eventId memory call = some (.ok (.replayed answer)) →
      Answers repository call memory (.ok answer) memory
  | unread {receipt memory failure} : PaymentReceipt.parse receipt = .error failure →
      Answers repository (.saveReceipt receipt) memory (.error failure) memory
  | challenged {challenge memory stored replayed after} :
      PaymentMemory.saveChallenge memory challenge = .ok (stored, replayed, after) →
      Answers repository (.saveChallenge challenge) memory (.ok (.challenge stored replayed)) after
  | notChallenged {challenge memory failure} : PaymentMemory.saveChallenge memory challenge = .error failure →
      Answers repository (.saveChallenge challenge) memory (.error failure) memory
  | enqueued {input memory reconciliationId record records} :
      enqueueReconciliation memory.reconciliations reconciliationId input = .ok (record, records) →
      Answers repository (.enqueue input) memory (.ok (.reconciliation record))
        { memory with reconciliations := records }
  | notEnqueued {input memory reconciliationId failure} :
      enqueueReconciliation memory.reconciliations reconciliationId input = .error failure →
      Answers repository (.enqueue input) memory (.error failure) memory
  | updated {input memory record records} :
      updateReconciliation repository.reconcilerAddresses memory.reconciliations input = .ok (record, records) →
      Answers repository (.update input) memory (.ok (.reconciliation record))
        { memory with reconciliations := records }
  | notUpdated {input memory failure} :
      updateReconciliation repository.reconcilerAddresses memory.reconciliations input = .error failure →
      Answers repository (.update input) memory (.error failure) memory

inductive PaymentRepository.Joins (repository : PaymentRepository) : PaymentCall → PaymentMemory → PaymentWork → Prop
  | commits {call memory nowUnix eventId input answer} :
      repository.prepare nowUnix eventId memory call = some (.ok (.commits input answer)) →
      Joins repository call memory (commitThen input answer)
  | saves {receipt parsed memory} : PaymentReceipt.parse receipt = .ok parsed →
      Joins repository (.saveReceipt receipt) memory (saveReceiptThen parsed)
  | transaction {memory work} : Joins repository (.transaction work) memory work

inductive PaymentRepository.Executes (repository : PaymentRepository) :
    (op : PaymentOp) → PaymentMemory → op.Answer → PaymentMemory → Prop
  | commit {input memory} :
      Executes repository (.commit input) memory (repository.commit memory input).1 (repository.commit memory input).2
  | saved {receipt memory stored replayed after} :
      PaymentMemory.saveReceipt memory receipt = .ok (stored, replayed, after) →
      Executes repository (.saveReceipt receipt) memory (.ok (stored, replayed)) after
  | notSaved {receipt memory failure} : PaymentMemory.saveReceipt memory receipt = .error failure →
      Executes repository (.saveReceipt receipt) memory (.error failure) memory

def PaymentRepository.service (repository : PaymentRepository) :
    Serialized PaymentMemory PaymentCall PaymentOp PaymentOp.Answer PaymentResult where
  answers := repository.Answers
  joins := repository.Joins
  exec op memory answer after := repository.Executes op memory answer after
  failed result := ∃ failure, result = .error failure

abbrev PaymentProcess := Process PaymentMemory PaymentCall PaymentOp PaymentOp.Answer PaymentResult

def PaymentMemory.empty : PaymentMemory :=
  ⟨.empty, .empty, .empty, .empty, .empty, .empty, .empty, .empty, .empty⟩

end

end Bnbera.Payments
