import Bnbera.Jobs.Validation
import Bnbera.Payments.Boundary
import Bnbera.Payments.Lifecycle

namespace Bnbera.Payments

structure PaymentReconciliation where
  reconciliationId : Uuid
  attemptId : Uuid
  state : ReconciliationState
  reasonCode : String
  attemptCount : Nat
  nextAttemptAtUnix : Option UnixSeconds
  observedPaymentTransactionHash : Option TransactionHash
  observedSettlementTransactionHash : Option TransactionHash
  detailDigest : Option ContentDigest
  createdAtUnix : UnixSeconds
  updatedAtUnix : UnixSeconds
deriving DecidableEq

/-- `paymentReconciliationSchema.parse`, which trims the reason. -/
def PaymentReconciliation.parse (record : PaymentReconciliation) : Except PaymentFailure PaymentReconciliation :=
  let issues := identifierIssues ["reasonCode"] (trim record.reasonCode)
  if issues = [] then .ok { record with reasonCode := trim record.reasonCode } else .error (.zod issues)

structure PaymentEnqueueInput where
  attemptId : Uuid
  reasonCode : String
  nextAttemptAtUnix : Option UnixSeconds
  observedPaymentTransactionHash : Option TransactionHash
  observedSettlementTransactionHash : Option TransactionHash
  detailDigest : Option ContentDigest
  nowUnix : UnixSeconds

structure PaymentReconciliationUpdate where
  reconciliationId : Uuid
  state : ReconciliationState
  nowUnix : UnixSeconds
  nextAttemptAtUnix : Option UnixSeconds
  reconcilerAddress : String
  observedPaymentTransactionHash : Option (Option TransactionHash)
  observedSettlementTransactionHash : Option (Option TransactionHash)
  detailDigest : Option (Option ContentDigest)

abbrev PaymentReconciliations := OrderedMap String PaymentReconciliation

def reconciliationIdentity (attemptId : Uuid) (reasonCode : String) : String := attemptId.text ++ ":" ++ reasonCode

/-- `enqueue`: the record returned and the map it leaves. -/
def enqueueReconciliation (records : PaymentReconciliations) (reconciliationId : Uuid) (input : PaymentEnqueueInput) :
    Except PaymentFailure (PaymentReconciliation × PaymentReconciliations) := do
  let identity := reconciliationIdentity input.attemptId input.reasonCode
  match records.get identity with
  | some prior => return (prior, records)
  | none =>
    let next ← PaymentReconciliation.parse {
      reconciliationId := reconciliationId
      attemptId := input.attemptId
      state := .pending
      reasonCode := input.reasonCode
      attemptCount := 0
      nextAttemptAtUnix := input.nextAttemptAtUnix
      observedPaymentTransactionHash := input.observedPaymentTransactionHash
      observedSettlementTransactionHash := input.observedSettlementTransactionHash
      detailDigest := input.detailDigest
      createdAtUnix := input.nowUnix
      updatedAtUnix := input.nowUnix }
    return (next, records.set identity next)

def assertReconciler (reconcilerAddresses : List Address) (address : String) : Except PaymentFailure Unit := do
  let normalized ← normalizeAddress address "reconciler address"
  refuseIf (normalized ∉ reconcilerAddresses) (paymentError .invalidAuthorization
    "Only an authenticated configured reconciler may update payment reconciliation state.")

/-- `update`: the record is found by its id and written under its own attempt and reason. -/
def updateReconciliation (reconcilerAddresses : List Address) (records : PaymentReconciliations)
    (input : PaymentReconciliationUpdate) : Except PaymentFailure (PaymentReconciliation × PaymentReconciliations) := do
  assertReconciler reconcilerAddresses input.reconcilerAddress
  match records.values.find? (fun entry => entry.reconciliationId = input.reconciliationId) with
  | none => throwPayment .reconciliationRequired "The payment reconciliation record was not found."
  | some prior =>
    refuseIf (prior.state ≠ input.state ∧ input.state ∉ allowedReconciliationTransitions prior.state)
      (paymentError .illegalTransition
        ("Illegal reconciliation transition: " ++ prior.state.text ++ " -> " ++ input.state.text ++ "."))
    let next ← PaymentReconciliation.parse { prior with
      state := input.state
      attemptCount := prior.attemptCount + 1
      nextAttemptAtUnix := input.nextAttemptAtUnix
      observedPaymentTransactionHash :=
        input.observedPaymentTransactionHash.getD prior.observedPaymentTransactionHash
      observedSettlementTransactionHash :=
        input.observedSettlementTransactionHash.getD prior.observedSettlementTransactionHash
      detailDigest := input.detailDigest.getD prior.detailDigest
      updatedAtUnix := input.nowUnix }
    return (next, records.set (reconciliationIdentity prior.attemptId prior.reasonCode) next)

/-- `idempotencyKeySchema.parse` -/
def parseIdempotencyKey (text : String) : Except PaymentFailure String :=
  let issues := keyIssues [] (trim text)
  if issues = [] then .ok (trim text) else .error (.zod issues)

structure PaymentActionRecord where
  digest : String
  requestDigest : Option String
  attemptId : Uuid
  attempt : PaymentAttempt
  event : PaymentEvent

/-- The maps of `InMemoryPaymentRepository`. -/
structure PaymentMemory where
  attempts : OrderedMap Uuid PaymentAttempt
  challenges : OrderedMap String PaymentChallenge
  challengeDigests : OrderedMap ContentDigest String
  events : OrderedMap String PaymentEvent
  actions : OrderedMap String PaymentActionRecord
  receipts : OrderedMap Uuid PaymentReceipt
  receiptIds : OrderedMap Uuid Uuid
  receiptDigests : OrderedMap Digest Uuid
  reconciliations : PaymentReconciliations

structure PaymentRepository where
  sellerConfiguration : SellerConfiguration
  reconcilerAddresses : List Address

structure PaymentCommit where
  actionKey : String
  actionDigest : String
  expectedAttempt : Option PaymentAttempt
  attempt : PaymentAttempt
  event : PaymentEvent
  challenge : Option PaymentChallenge
  receipt : Option PaymentReceipt
  requestDigest : Option String

def idempotencyConflict (message : String) : PaymentFailure := paymentError .idempotencyConflict message

def staleAttempt (message : String) : PaymentFailure :=
  .payment { code := .staleAttempt, message := message, retriable := true, nextAction := "reconcile_payment" }

def keyReused : PaymentFailure := idempotencyConflict "The payment idempotency key was reused with different terms."

section
variable [Sha256]

def SameEvent (left right : PaymentEvent) : Prop :=
  left.eventId = right.eventId ∧ left.eventKey = right.eventKey ∧ left.attemptId = right.attemptId ∧
    left.eventType = right.eventType ∧ left.previousStatus = right.previousStatus ∧
    left.payloadDigest = right.payloadDigest ∧ left.nextStatus = right.nextStatus ∧
    left.paymentTransactionHash = right.paymentTransactionHash ∧
    left.settlementTransactionHash = right.settlementTransactionHash ∧ left.correlationId = right.correlationId ∧
    left.observedAtUnix = right.observedAtUnix ∧ canonicalSha256Hex left.payload = canonicalSha256Hex right.payload

instance (left right : PaymentEvent) : Decidable (SameEvent left right) := by
  unfold SameEvent
  infer_instance

def assertChallengeDigest (challenge : PaymentChallenge) : Except PaymentFailure Unit :=
  refuseIf ((challengeUnsignedDigest challenge).text ≠ challenge.challengeDigest.text) (paymentError .challengeTampered
    "The persisted payment challenge digest does not match its terms.")

def PaymentActionRecord.Conflicts (prior : PaymentActionRecord) (input : PaymentCommit) : Prop :=
  prior.digest ≠ input.actionDigest ∨ prior.attemptId ≠ input.attempt.attemptId ∨
    (input.requestDigest.isSome ∧ prior.requestDigest ≠ input.requestDigest)

instance (prior : PaymentActionRecord) (input : PaymentCommit) : Decidable (prior.Conflicts input) :=
  inferInstanceAs (Decidable (_ ∨ _))

def assertExpectedAttempt (current expected : Option PaymentAttempt) : Except PaymentFailure Unit :=
  match expected with
  | none => refuseIf current.isSome (idempotencyConflict "A payment attempt already exists with this identifier.")
  | some expected => refuseIf (current.map PaymentAttempt.digest ≠ some expected.digest)
      (staleAttempt "The payment attempt changed before the atomic transition committed.")

def PaymentMemory.assertChallengeFree (memory : PaymentMemory) (challenge : PaymentChallenge) :
    Except PaymentFailure Unit := do
  refuseIf ((memory.challenges.get challenge.challengeId).any fun stored =>
      stored.challengeDigest ≠ challenge.challengeDigest)
    (idempotencyConflict "A challenge identifier was reused with different terms.")
  refuseIf ((memory.challengeDigests.get challenge.challengeDigest).any fun owner => owner ≠ challenge.challengeId)
    (idempotencyConflict "A challenge digest was already recorded under another identifier.")

variable [UrlParser]

/-- The checks of `commit` on its input alone. It returns the parsed key. -/
def PaymentRepository.validateCommit (repository : PaymentRepository) (input : PaymentCommit) :
    Except PaymentFailure String := do
  let action ← parseIdempotencyKey input.actionKey
  let persistedAttempt ← input.attempt.parse
  let _ ← validatePaymentPinAgainstSellerConfiguration persistedAttempt.pin (some repository.sellerConfiguration)
  assertChallengeDigest persistedAttempt.challenge
  let _ ← input.event.parse
  refuseIf (input.event.attemptId ≠ input.attempt.attemptId ∨ input.event.eventKey ≠ "action:" ++ action)
    (paymentError .eventConflict "The atomic payment event is not bound to the committed attempt action.")
  refuseIf (input.challenge.any fun challenge => challenge.challengeId ≠ input.attempt.challenge.challengeId)
    (paymentError .eventConflict "The atomic payment challenge is not bound to the committed attempt.")
  input.challenge.forM assertChallengeDigest
  return action

omit [UrlParser] in
/-- The checks of `commit` against what is stored, up to its first write. -/
def PaymentMemory.assertUnused (memory : PaymentMemory) (action : String) (input : PaymentCommit) :
    Except PaymentFailure Unit := do
  assertExpectedAttempt (memory.attempts.get input.attempt.attemptId) input.expectedAttempt
  let previous := memory.events.get input.event.eventKey
  refuseIf (previous.any fun event => ¬SameEvent event input.event)
    (paymentError .eventConflict "A payment event key was reused with different contents.")
  let priorAction := memory.actions.get action
  refuseIf (priorAction.any fun prior => prior.Conflicts input) keyReused
  refuseIf (previous.isSome ∨ priorAction.isSome)
    (idempotencyConflict "The atomic payment action was concurrently committed.")
  input.challenge.forM memory.assertChallengeFree

def PaymentMemory.withChallenge (memory : PaymentMemory) (challenge : PaymentChallenge) : PaymentMemory :=
  { memory with
    challenges := memory.challenges.set challenge.challengeId challenge
    challengeDigests := memory.challengeDigests.set challenge.challengeDigest challenge.challengeId }

def PaymentMemory.withReceipt (memory : PaymentMemory) (receipt : PaymentReceipt) : PaymentMemory :=
  { memory with
    receipts := memory.receipts.set receipt.attemptId receipt
    receiptIds := memory.receiptIds.set receipt.receiptId receipt.attemptId
    receiptDigests := memory.receiptDigests.set (receiptDigest receipt) receipt.attemptId }

def PaymentReceipt.YieldsTo (prior trusted : PaymentReceipt) : Prop :=
  (prior.status = .unknown ∨ prior.status = .partialFailure) ∧ trusted.status = .settled

instance (prior trusted : PaymentReceipt) : Decidable (prior.YieldsTo trusted) := inferInstanceAs (Decidable (_ ∧ _))

/-- `applyReceiptToMaps`: the receipt that is stored, whether it was there, and the maps it leaves. -/
def PaymentMemory.applyReceipt (memory : PaymentMemory) (receipt : PaymentReceipt) (attempt : PaymentAttempt) :
    Except PaymentFailure (PaymentReceipt × Bool × PaymentMemory) := do
  let parsed ← receipt.parse
  refuseIf (attempt.challenge.challengeId ≠ parsed.challengeId) (paymentError .settlementUnverified
    "The payment receipt references a different challenge.")
  let trusted ← validateReceipt parsed attempt.pin attempt.attemptId attempt.challenge.challengeId
  match memory.receipts.get trusted.attemptId with
  | some prior =>
    if receiptDigest prior = receiptDigest trusted then return (prior, true, memory)
    else if prior.YieldsTo trusted then
      return (trusted, false, { memory with
        receiptIds := memory.receiptIds.delete prior.receiptId
        receiptDigests := memory.receiptDigests.delete (receiptDigest prior) : PaymentMemory }.withReceipt trusted)
    else
      throwPayment .eventConflict "A payment attempt was associated with a different receipt."
  | none =>
    refuseIf ((memory.receiptIds.get trusted.receiptId).any fun owner => owner ≠ trusted.attemptId)
      (paymentError .eventConflict "A receipt identifier was reused by another payment attempt.")
    refuseIf ((memory.receiptDigests.get (receiptDigest trusted)).any fun owner => owner ≠ trusted.attemptId)
      (paymentError .eventConflict "A receipt digest was already recorded for another payment attempt.")
    return (trusted, false, memory.withReceipt trusted)

def PaymentMemory.committed (memory : PaymentMemory) (action : String) (input : PaymentCommit) : PaymentMemory :=
  { memory with
    attempts := memory.attempts.set input.attempt.attemptId input.attempt
    events := memory.events.set input.event.eventKey input.event
    actions := memory.actions.set action
      ⟨input.actionDigest, input.requestDigest, input.attempt.attemptId, input.attempt, input.event⟩ }

/-- `unit.commit`. Its challenge is recorded before its receipt is looked at, so a commit that
fails on the receipt leaves the challenge behind until its transaction is rolled back. -/
def PaymentRepository.commit (repository : PaymentRepository) (memory : PaymentMemory) (input : PaymentCommit) :
    Except PaymentFailure Unit × PaymentMemory :=
  match (do
    let action ← repository.validateCommit input
    memory.assertUnused action input
    return action : Except PaymentFailure String) with
  | .error failure => (.error failure, memory)
  | .ok action =>
    let recorded := (input.challenge.map memory.withChallenge).getD memory
    match input.receipt with
    | none => (.ok (), recorded.committed action input)
    | some receipt =>
      match recorded.applyReceipt receipt input.attempt with
      | .error failure => (.error failure, recorded)
      | .ok (_, _, stored) => (.ok (), stored.committed action input)

/-- `unit.saveReceipt` -/
def PaymentMemory.saveReceipt (memory : PaymentMemory) (receipt : PaymentReceipt) :
    Except PaymentFailure (PaymentReceipt × Bool × PaymentMemory) :=
  match memory.attempts.get receipt.attemptId with
  | none => .error (paymentError .unknownAttempt "The payment receipt references an unknown attempt.")
  | some attempt => memory.applyReceipt receipt attempt

/-- `saveChallenge`: the challenge returned, whether it was there, and the maps it leaves. -/
def PaymentMemory.saveChallenge (memory : PaymentMemory) (challenge : PaymentChallenge) :
    Except PaymentFailure (PaymentChallenge × Bool × PaymentMemory) := do
  let parsed ← challenge.parse
  assertChallengeDigest parsed
  match memory.challenges.get parsed.challengeId with
  | some prior =>
    refuseIf (prior.challengeDigest ≠ parsed.challengeDigest) (paymentError .eventConflict
      "A challenge identifier was reused with different terms.")
    return (prior, true, memory)
  | none =>
    refuseIf ((memory.challengeDigests.get parsed.challengeDigest).any fun owner => owner ≠ parsed.challengeId)
      (paymentError .eventConflict "A challenge digest was already recorded under another identifier.")
    return (parsed, false, memory.withChallenge parsed)

end

end Bnbera.Payments
