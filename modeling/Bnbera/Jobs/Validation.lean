import Bnbera.Jobs.Types
import Bnbera.Validation
import Bnbera.OrderedMap

namespace Bnbera

/-- `parseAtomic`: the value of an amount that fits 256 bits. -/
def parseAtomic (value label : String) : Except Failure Nat :=
  if isDecimal value then
    if decimalValue value ≤ maxUint256 then .ok (decimalValue value)
    else throwCommerce .invalidAmount (label ++ " is outside the uint256 range.")
  else throwCommerce .invalidAmount (label ++ " must be a non-negative decimal integer.")

def normalizeJobKey (key : JobKey) : JobKey := { key with commerceContract := key.commerceContract.lowered }

/-- The rules of `erc8183DeploymentPinSchema` that relate two fields of a pin. -/
def EnabledDeploymentPin.Consistent (pin : EnabledDeploymentPin) : Prop :=
  decimalValue pin.minBudgetAtomic.text ≤ decimalValue pin.maxBudgetAtomic.text ∧
    pin.minExpiryLeadSeconds.value ≤ pin.maxExpiryHorizonSeconds.value

instance (pin : EnabledDeploymentPin) : Decidable pin.Consistent := inferInstanceAs (Decidable (_ ∧ _))

def parseEnabledDeploymentPin : DeploymentPin → Except Failure EnabledDeploymentPin
  | .malformed => throwCommerce .commerceDisabled "ERC-8183 deployment configuration is not valid."
  | .disabled _ disabledReason =>
    if lengthIssues ["disabledReason"] 1 500 (trim disabledReason) = [] then
      throwCommerce .commerceDisabled ("ERC-8183 is disabled: " ++ trim disabledReason ++ ".") "verify_standards_lock"
    else throwCommerce .commerceDisabled "ERC-8183 deployment configuration is not valid."
  | .enabled pin =>
    if pin.trimmed.issues [] = [] ∧ pin.Consistent then .ok pin.trimmed.lowered
    else throwCommerce .commerceDisabled "ERC-8183 deployment configuration is not valid."

/-- `erc8183DeploymentPinDigest(pin) === digest` -/
def EnabledDeploymentPin.HasDigest [Sha256] (pin : EnabledDeploymentPin) (digest : ContentDigest) : Prop :=
  (erc8183DeploymentPinDigest pin).text = digest.text

instance [Sha256] (pin : EnabledDeploymentPin) (digest : ContentDigest) : Decidable (pin.HasDigest digest) :=
  inferInstanceAs (Decidable (_ = _))

def ReviewedPricePolicyMigration [Sha256] (persisted trustedPin : EnabledDeploymentPin) : Prop :=
  persisted.chainId = .mainnet ∧ trustedPin.chainId = .mainnet ∧
    persisted.maxBudgetAtomic.text = "10000000000000000" ∧
    trustedPin.maxBudgetAtomic.text = Nat.repr (2 ^ 256 - 2) ∧
    erc8183DeploymentPinDigest { persisted with maxBudgetAtomic := trustedPin.maxBudgetAtomic } =
      erc8183DeploymentPinDigest trustedPin

instance [Sha256] (persisted trustedPin : EnabledDeploymentPin) :
    Decidable (ReviewedPricePolicyMigration persisted trustedPin) := inferInstanceAs (Decidable (_ ∧ _))

def assertDeploymentPinSnapshot [Sha256] (snapshot : EnabledDeploymentPin) (snapshotDigest : ContentDigest)
    (trustedPin : EnabledDeploymentPin) : Except Failure Unit := do
  let persisted ← parseEnabledDeploymentPin (.enabled snapshot)
  if persisted.HasDigest snapshotDigest ∧
      (trustedPin.HasDigest snapshotDigest ∨ ReviewedPricePolicyMigration persisted trustedPin) then .ok ()
  else
    throwCommerce .onchainMismatch
      "The persisted ERC-8183 deployment pin snapshot does not match the enabled standards pin."

def assertPinMatchesJob (terms : JobTerms) (pin : EnabledDeploymentPin) : Except Failure Unit :=
  if terms.chainId ≠ pin.chainId then
    throwCommerce .invalidChain "Job chain does not match the pinned ERC-8183 network."
  else if terms.commerceContract.lowered ≠ pin.commerceContract.lowered then
    throwCommerce .invalidContract "Job commerce contract does not match the pinned deployment."
  else if terms.paymentToken.lowered ≠ pin.paymentToken.lowered then
    throwCommerce .invalidToken "Job payment token does not match the pinned deployment."
  else if terms.paymentDecimals ≠ pin.paymentDecimals then
    throwCommerce .invalidToken "Payment-token decimals do not match the pinned deployment."
  else .ok ()

def erc8183MvpMaxBudgetAtomic : Nat := 10000000000000000

def EnabledDeploymentPin.Admits (pin : EnabledDeploymentPin) (budget : Nat) : Prop :=
  decimalValue pin.minBudgetAtomic.text ≤ budget ∧ budget ≤ decimalValue pin.maxBudgetAtomic.text ∧
    budget < maxUint256 ∧ (pin.chainId = .testnet → budget ≤ erc8183MvpMaxBudgetAtomic)

instance (pin : EnabledDeploymentPin) (budget : Nat) : Decidable (pin.Admits budget) :=
  inferInstanceAs (Decidable (_ ∧ _))

def assertBudgetMatchesPin (budgetAtomic : String) (pin : EnabledDeploymentPin) : Except Failure Unit := do
  let budget ← parseAtomic budgetAtomic "Job budget"
  if pin.Admits budget then .ok ()
  else throwCommerce .invalidAmount "Job budget is outside the pinned min/max range."

def JobTerms.lowered (terms : JobTerms) : JobTerms :=
  { terms with
    commerceContract := terms.commerceContract.lowered
    paymentToken := terms.paymentToken.lowered
    clientAddress := terms.clientAddress.lowered
    providerAddress := terms.providerAddress.map NonZeroAddress.lowered
    evaluatorAddress := terms.evaluatorAddress.lowered
    hookAddress := terms.hookAddress.map NonZeroAddress.lowered }

def normalizeJobTerms (terms : JobTerms) (pin : EnabledDeploymentPin) : Except Failure JobTerms := do
  let enabled ← parseEnabledDeploymentPin (.enabled pin)
  assertPinMatchesJob terms enabled
  assertBudgetMatchesPin terms.budgetAtomic.text enabled
  return terms.lowered

/-- `Number.isSafeInteger(nowUnix) && nowUnix > 0` -/
def IsTrustedTime (nowUnix : Int) : Prop := 1 ≤ nowUnix ∧ nowUnix ≤ maxSafeInteger

instance (nowUnix : Int) : Decidable (IsTrustedTime nowUnix) := inferInstanceAs (Decidable (_ ∧ _))

def validateJobTerms (terms : JobTerms) (pin : EnabledDeploymentPin) (nowUnix : Int) : Except Failure JobTerms := do
  let normalized ← normalizeJobTerms terms pin
  let enabled ← parseEnabledDeploymentPin (.enabled pin)
  if ¬IsTrustedTime nowUnix ∨ normalized.expiresAtUnix.value ≤ nowUnix + enabled.minExpiryLeadSeconds.value then
    throwCommerce .invalidExpiry "Job expiry must leave the configured execution lead time."
  else if nowUnix + enabled.maxExpiryHorizonSeconds.value < normalized.expiresAtUnix.value then
    throwCommerce .invalidExpiry "Job expiry exceeds the pinned maximum horizon."
  else return normalized

inductive JobEventType
  | jobCreated
  | providerSet
  | budgetSet
  | jobFunded
  | jobSubmitted
  | jobCompleted
  | jobRejected
  | jobExpired
  | reconciliationRequested
  | reconciliationSucceeded
  | reconciliationFailed
deriving DecidableEq

inductive ConfirmationState
  | provisional
  | canonical
  | orphaned
deriving DecidableEq

structure JobEvent where
  eventId : Uuid
  eventKey : String
  jobKey : JobKey
  eventType : JobEventType
  previousState : Option JobState
  nextState : Option JobState
  actorAddress : Option NonZeroAddress
  transactionHash : Option TransactionHash
  blockNumber : Option DecimalUint
  blockHash : Option TransactionHash
  logIndex : Option Nat
  confirmationState : ConfirmationState
  payloadDigest : ContentDigest
  payload : Json
  correlationId : String
  observedAtUnix : UnixSeconds

def JobEvent.trimmed (event : JobEvent) : JobEvent :=
  { event with eventKey := trim event.eventKey, correlationId := trim event.correlationId }

def JobEvent.issues (event : JobEvent) : List Issue :=
  lengthIssues ["eventKey"] 1 240 event.eventKey ++ lengthIssues ["correlationId"] 1 160 event.correlationId

/-- `erc8183JobEventSchema.parse` -/
def JobEvent.parse (event : JobEvent) : Except Failure JobEvent :=
  if event.trimmed.issues = [] then .ok event.trimmed else .error (.zod event.trimmed.issues)

structure JobEventInput where
  eventKey : String
  jobKey : JobKey
  eventType : JobEventType
  previousState : Option JobState
  nextState : Option JobState
  actorAddress : Option String
  transactionHash : Option String
  blockNumber : Option String
  blockHash : Option String
  logIndex : Option Int
  payload : Option Json
  correlationId : String
  observedAtUnix : UnixSeconds

/-- `payload ?? {}` -/
def payloadOrEmpty : Option Json → Json
  | none => .obj []
  | some .null => .obj []
  | some payload => payload

def ContentDigest.ofDigest (digest : Digest) : ContentDigest := ⟨digest.text, digest.accepted⟩

def normalizeNullableAddress (label : String) : Option String → Except Failure (Option NonZeroAddress)
  | none => .ok none
  | some text => (normalizeAddress text label).map fun address => some ⟨address.text, address.accepted⟩

def JobEventInput.issues (input : JobEventInput) : List Issue :=
  lengthIssues ["eventKey"] 1 240 (trim input.eventKey) ++
  nullableIssues isTransactionHash ["transactionHash"] "Expected a 32-byte transaction hash" input.transactionHash ++
  nullableIssues isDecimal ["blockNumber"] "Expected a non-negative decimal integer" input.blockNumber ++
  nullableIssues isTransactionHash ["blockHash"] "Expected a 32-byte transaction hash" input.blockHash ++
  issueIf (input.logIndex.any (· < 0)) ["logIndex"] "Number must be greater than or equal to 0" ++
  lengthIssues ["correlationId"] 1 160 (trim input.correlationId)

def createErc8183JobEvent [Sha256] (eventId : Uuid) (input : JobEventInput) : Except Failure JobEvent := do
  let payload := payloadOrEmpty input.payload
  assertPublicPayloadSafe "payload" payload
  let actorAddress ← normalizeNullableAddress "actor address" input.actorAddress
  match checkNullable isTransactionHash input.transactionHash, checkNullable isDecimal input.blockNumber,
    checkNullable isTransactionHash input.blockHash, input.issues with
  | some transactionHash, some blockNumber, some blockHash, [] =>
    .ok {
      eventId := eventId
      eventKey := trim input.eventKey
      jobKey := normalizeJobKey input.jobKey
      eventType := input.eventType
      previousState := input.previousState
      nextState := input.nextState
      actorAddress := actorAddress
      transactionHash := transactionHash
      blockNumber := blockNumber
      blockHash := blockHash
      logIndex := input.logIndex.map Int.toNat
      confirmationState := .canonical
      payloadDigest := .ofDigest (canonicalSha256Hex payload)
      payload := payload
      correlationId := trim input.correlationId
      observedAtUnix := input.observedAtUnix }
  | _, _, _, issues => .error (.zod issues)

inductive ReconciliationState
  | pending
  | inProgress
  | reconciled
  | failed
  | manualReview
deriving DecidableEq

def ReconciliationState.text : ReconciliationState → String
  | pending => "pending"
  | inProgress => "in_progress"
  | reconciled => "reconciled"
  | failed => "failed"
  | manualReview => "manual_review"

def allowedReconciliationTransitions : ReconciliationState → List ReconciliationState
  | .pending => [.inProgress, .reconciled, .failed, .manualReview]
  | .inProgress => [.reconciled, .failed, .manualReview]
  | .reconciled => []
  | .failed => [.inProgress, .manualReview]
  | .manualReview => []

structure Reconciliation where
  reconciliationId : Uuid
  jobKey : JobKey
  state : ReconciliationState
  reasonCode : String
  attemptCount : Nat
  nextAttemptAtUnix : Option UnixSeconds
  lastObservedTransactionHash : Option TransactionHash
  lastObservedBlock : Option DecimalUint
  detailDigest : Option ContentDigest
  createdAtUnix : UnixSeconds
  updatedAtUnix : UnixSeconds
deriving DecidableEq

/-- `erc8183ReconciliationSchema.parse`, which trims the reason. -/
def Reconciliation.parse (record : Reconciliation) : Except Failure Reconciliation :=
  let issues := lengthIssues ["reasonCode"] 1 80 (trim record.reasonCode)
  if issues = [] then .ok { record with reasonCode := trim record.reasonCode } else .error (.zod issues)

def keyFor (key : JobKey) : String :=
  toString key.chainId.number ++ ":" ++ lower key.commerceContract.text ++ ":" ++ key.jobId.text

structure EnqueueInput where
  jobKey : JobKey
  reasonCode : String
  nextAttemptAtUnix : Option UnixSeconds
  lastObservedTransactionHash : Option TransactionHash
  lastObservedBlock : Option DecimalUint
  detailDigest : Option ContentDigest
  nowUnix : UnixSeconds

structure ReconciliationUpdate where
  reconciliationId : Uuid
  state : ReconciliationState
  nowUnix : UnixSeconds
  nextAttemptAtUnix : Option UnixSeconds
  reconcilerAddress : String
  lastObservedTransactionHash : Option (Option TransactionHash)
  lastObservedBlock : Option (Option DecimalUint)
  detailDigest : Option (Option ContentDigest)

abbrev Reconciliations := OrderedMap String Reconciliation

def reconciliationIdentity (jobKey : JobKey) (reasonCode : String) : String := keyFor jobKey ++ ":" ++ reasonCode

/-- `enqueue`: the record returned and the map it leaves. -/
def enqueueReconciliation (records : Reconciliations) (reconciliationId : Uuid) (input : EnqueueInput) :
    Except Failure (Reconciliation × Reconciliations) := do
  let identity := reconciliationIdentity input.jobKey input.reasonCode
  match records.get identity with
  | some existing => return (existing, records)
  | none =>
    let parsed ← Reconciliation.parse {
      reconciliationId := reconciliationId
      jobKey := input.jobKey
      state := .pending
      reasonCode := input.reasonCode
      attemptCount := 0
      nextAttemptAtUnix := input.nextAttemptAtUnix
      lastObservedTransactionHash := input.lastObservedTransactionHash
      lastObservedBlock := input.lastObservedBlock
      detailDigest := input.detailDigest
      createdAtUnix := input.nowUnix
      updatedAtUnix := input.nowUnix }
    return (parsed, records.set identity parsed)

def assertReconciler (reconcilerAddresses : List Address) (address : String) : Except Failure Unit := do
  let normalized ← normalizeAddress address "reconciler address"
  refuseIf (normalized ∉ reconcilerAddresses) (commerceError .unauthorizedActor
    "Only an authenticated configured reconciler may update ERC-8183 reconciliation state.")

/-- `update`: the record is found by its id and written under its own job and reason. -/
def updateReconciliation (reconcilerAddresses : List Address) (records : Reconciliations)
    (input : ReconciliationUpdate) : Except Failure (Reconciliation × Reconciliations) := do
  assertReconciler reconcilerAddresses input.reconcilerAddress
  match records.values.find? (fun candidate => candidate.reconciliationId = input.reconciliationId) with
  | none => throwCommerce .reconciliationRequired "The reconciliation record was not found."
  | some entry =>
    refuseIf (entry.state ≠ input.state ∧ input.state ∉ allowedReconciliationTransitions entry.state)
      (commerceError .illegalTransition
        ("Illegal reconciliation transition: " ++ entry.state.text ++ " -> " ++ input.state.text ++ "."))
    let parsed ← Reconciliation.parse { entry with
      state := input.state
      attemptCount := entry.attemptCount + 1
      nextAttemptAtUnix := input.nextAttemptAtUnix
      lastObservedTransactionHash := input.lastObservedTransactionHash.getD entry.lastObservedTransactionHash
      lastObservedBlock := input.lastObservedBlock.getD entry.lastObservedBlock
      detailDigest := input.detailDigest.getD entry.detailDigest
      updatedAtUnix := input.nowUnix }
    return (parsed, records.set (reconciliationIdentity entry.jobKey entry.reasonCode) parsed)

end Bnbera
