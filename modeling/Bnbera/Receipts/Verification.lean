import Bnbera.Receipts.Events

/-! Whether a receipt proves an operation of a job. -/

namespace Bnbera.Receipts

structure StatedJob extends OnchainJob where
  status : JobState

structure Pin where
  chainId : BscChainId
  commerceContract : Address
  routerContract : Address
  policyContract : Address

/-- What the chain answers: whether the pinned deployment is the verified one, the receipt, and each job. -/
structure ChainReads where
  verifyNetwork : Except Failure Unit
  receipt : Except Failure (Option LoggedReceipt)
  getJob : Nat → Except Failure StatedJob

structure Expectation where
  providerAddress : Option String
  amountAtomic : Option String
  digest : Option String

structure VerificationInput where
  transactionHash : String
  kind : OperationKind
  jobId : Option String
  signerAddress : Option String
  action : Option SettleAction
  expectation : Option Expectation

def kindText : OperationKind → String
  | .create => "create"
  | .register => "register"
  | .setBudget => "set_budget"
  | .approve => "approve"
  | .fund => "fund"
  | .submit => "submit"
  | .settle => "settle"
  | .claimRefund => "claim_refund"
  | .markExpired => "mark_expired"
  | .cancel => "cancel"
  | .reject => "reject"
  | .dispute => "dispute"
  | .vote => "vote"

/-- `ACCEPTED_LATER_STATES` -/
def acceptedLaterStates : JobState → List JobState
  | .opened => [.opened]
  | .funded => [.funded, .submitted, .completed, .rejected, .expired]
  | .submitted => [.submitted, .completed, .rejected, .expired]
  | .completed => [.completed]
  | .rejected => [.rejected]
  | .expired => [.expired]

def acceptsState (actual expected : JobState) : Prop := actual ∈ acceptedLaterStates expected

instance (actual expected : JobState) : Decidable (acceptsState actual expected) := by
  unfold acceptsState
  infer_instance

def assertActor (actual : Option Address) (expected role transactionHash : String) : Except Failure Unit :=
  refuseIf (∀ address ∈ actual, lower address.text ≠ lower expected) (transactionError .unauthorizedActor
    ("The authenticated " ++ role ++ " does not match the persisted protocol actor.") transactionHash "manual_review")

def requireOperationJobId (jobId : Option String) (transactionHash : String) : Except Failure String :=
  match jobId with
  | some id =>
    if isDecimal id then .ok id
    else .error (mismatch "The persisted ERC-8183 operation has no valid protocol job ID." transactionHash "manual_review")
  | none => .error (mismatch "The persisted ERC-8183 operation has no valid protocol job ID." transactionHash "manual_review")

def Pin.commerceEvent (pin : Pin) (eventName : String) (jobId : Option String := none) : EventSearch :=
  ⟨erc8183CommerceEventsAbi, eventName, pin.commerceContract, jobId⟩

def Pin.routerEvent (pin : Pin) (eventName : String) : EventSearch :=
  ⟨erc8183RouterEventsAbi, eventName, pin.routerContract, none⟩

def Pin.policyEvent (pin : Pin) (eventName : String) : EventSearch :=
  ⟨erc8183PolicyEventsAbi, eventName, pin.policyContract, none⟩

def recoverCreatedJobId [EventDecoder] (receipt : LoggedReceipt) (pin : Pin) : Option String :=
  (eventFromReceipt receipt (pin.commerceEvent "JobCreated")).bind fun event =>
    match eventBigInt event.args "jobId" "hire" receipt.transactionHash with
    | .ok value => some (toString value)
    | .error _ => none

def readJob (pin : Pin) (reads : ChainReads) (jobId : String) : Except Failure StatedJob := do
  checkIf (pin.chainId = .mainnet) reads.verifyNetwork
  match bigIntOf jobId with
  | none => throwCommerce .invalidJob "The ERC-8183 job ID must be a decimal integer."
  | some (.negSucc _) => throwCommerce .invalidJob "The ERC-8183 job ID must be non-negative."
  | some (.ofNat numeric) => reads.getJob numeric

def requireReceipt (reads : ChainReads) (hash action : String) : Except Failure LoggedReceipt := do
  match ← reads.receipt with
  | some receipt => return receipt
  | none => .error (transactionError .transactionUnknown
      ("The " ++ action ++ " transaction has no receipt yet; do not resend.") hash "reconcile_transaction")

/-- `assertEventBigInt(eventBigInt(args, name, …), BigInt(expected), …)` -/
def assertIntegerArgument (args : EventArgs) (name action expected label transactionHash : String) :
    Except Failure Unit := do
  let actual ← eventBigInt args name action transactionHash
  let wanted ← toBigInt expected
  assertEventBigInt actual wanted label transactionHash

/-- `assertEventAddress(eventAddress(args, name, …), expected, …)` -/
def assertAddressArgument (args : EventArgs) (name action expected label transactionHash : String) :
    Except Failure Unit := do
  let actual ← eventAddress args name action transactionHash
  assertEventAddress actual.text expected label transactionHash

def assertHireEvents (pin : Pin) (created funded : EventArgs) (jobId : String) (client : Option Address)
    (expectation : Option Expectation) (transactionHash : String) : Except Failure Unit := do
  assertIntegerArgument created "jobId" "hire" jobId "created job ID" transactionHash
  assertIntegerArgument funded "jobId" "hire" jobId "funded job ID" transactionHash
  client.forM fun client =>
    assertAddressArgument created "client" "hire" client.text "created client" transactionHash
  let createdProvider ← eventAddress created "provider" "hire" transactionHash
  let fundedProvider ← eventAddress funded "provider" "hire" transactionHash
  assertEventAddress fundedProvider.text createdProvider.text "funded provider" transactionHash
  (expectation.bind (·.providerAddress)).forM fun provider =>
    assertEventAddress createdProvider.text provider "provider" transactionHash
  assertAddressArgument created "evaluator" "hire" pin.routerContract.text "evaluator" transactionHash
  assertAddressArgument created "hook" "hire" pin.routerContract.text "hook" transactionHash
  (expectation.bind (·.amountAtomic)).forM fun amount =>
    assertIntegerArgument funded "amount" "hire" amount "funding amount" transactionHash
  client.forM fun client =>
    assertAddressArgument funded "client" "hire" client.text "funded client" transactionHash

def assertHireState (job : StatedJob) (expectation : Option Expectation) (transactionHash : String) :
    Except Failure Unit := do
  refuseIf (¬acceptsState job.status .funded)
    (mismatch "The reconciled hire job has not reached FUNDED or a later valid state." transactionHash "manual_review")
  (expectation.bind (·.providerAddress)).forM fun provider =>
    assertEventAddress job.provider.text provider "job provider" transactionHash
  (expectation.bind (·.amountAtomic)).forM fun amount => refuseIf (job.budgetAtomic.text ≠ amount)
    (mismatch "The reconciled hire budget does not match the operation expectation." transactionHash "manual_review")

def assertSubmitEvent (event : EventArgs) (jobId : String) (provider : Option Address) (digest : Option String)
    (transactionHash : String) : Except Failure Unit := do
  assertIntegerArgument event "jobId" "submit" jobId "submitted job ID" transactionHash
  provider.forM fun provider =>
    assertAddressArgument event "provider" "submit" provider.text "provider" transactionHash
  digest.forM fun digest => do
    let deliverable ← eventHash event "deliverable" "submit" transactionHash
    refuseIf (lower deliverable.text ≠ lower digest)
      (mismatch "The submitted deliverable event does not match the committed Keccak digest." transactionHash)

def assertSubmittedJob (job : StatedJob) (digest : Option String) (transactionHash : String) : Except Failure Unit := do
  refuseIf (¬acceptsState job.status .submitted) (mismatch
    "The reconciled submit job has not reached SUBMITTED or a later state." transactionHash "manual_review")
  digest.forM fun digest => refuseIf (lower job.chainDeliverable.text ≠ lower digest) (mismatch
    "The reconciled job deliverable does not match the committed Keccak digest." transactionHash "manual_review")

/-- What is checked of the three events of an approved settlement. -/
def assertApproval (pin : Pin) (settled finalised completed : EventArgs) (jobId : String) (job : StatedJob)
    (transactionHash : String) : Except Failure Unit := do
  assertIntegerArgument settled "jobId" "settle" jobId "settled job ID" transactionHash
  assertAddressArgument settled "policy" "settle" pin.policyContract.text "settlement policy" transactionHash
  let verdict ← eventBigInt settled "verdict" "settle" transactionHash
  refuseIf (verdict ≠ 1)
    (mismatch "The settlement receipt did not contain an approval verdict." transactionHash "manual_review")
  assertIntegerArgument finalised "jobId" "settle" jobId "finalised job ID" transactionHash
  let status ← eventBigInt finalised "status" "settle" transactionHash
  refuseIf (status ≠ 3)
    (mismatch "The settlement receipt did not finalise the job as completed." transactionHash "manual_review")
  assertIntegerArgument completed "jobId" "settle" jobId "completed job ID" transactionHash
  assertAddressArgument completed "evaluator" "settle" job.evaluator.text "completion evaluator" transactionHash
  refuseIf (job.status ≠ .completed)
    (mismatch "The reconciled approval job is not COMPLETED." transactionHash "manual_review")

def assertDispute (disputed : EventArgs) (jobId client : String) (job : StatedJob) (transactionHash : String) :
    Except Failure Unit := do
  assertIntegerArgument disputed "jobId" "dispute" jobId "dispute job ID" transactionHash
  assertAddressArgument disputed "client" "dispute" client "dispute client" transactionHash
  refuseIf (¬acceptsState job.status .submitted)
    (mismatch "The reconciled dispute job is not in a valid post-submit state." transactionHash "manual_review")

def assertRefund (refunded expired : EventArgs) (jobId client : String) (job : StatedJob) (transactionHash : String) :
    Except Failure Unit := do
  assertIntegerArgument refunded "jobId" "claim refund" jobId "refund job ID" transactionHash
  assertAddressArgument refunded "client" "claim refund" client "refund client" transactionHash
  assertIntegerArgument refunded "amount" "claim refund" job.budgetAtomic.text "refund amount" transactionHash
  assertIntegerArgument expired "jobId" "claim refund" jobId "expired job ID" transactionHash

def assertRefundReceipt [EventDecoder] (pin : Pin) (receipt : LoggedReceipt) (jobId client : String) (job : StatedJob) :
    Except Failure Unit := do
  let refunded ← requireReceiptEvent receipt (pin.commerceEvent "Refunded" (some jobId)) "claim refund"
  let expired ← requireReceiptEvent receipt (pin.commerceEvent "JobExpired" (some jobId)) "claim refund"
  assertRefund refunded.args expired.args jobId client job receipt.transactionHash

def requireJob (job : Option StatedJob) (message transactionHash : String) : Except Failure StatedJob :=
  match job with
  | some job => .ok job
  | none => .error (mismatch message transactionHash "manual_review")

/-- What is checked of the receipt and the job of one kind of operation. -/
def verifyKind [EventDecoder] (pin : Pin) (input : VerificationInput) (receipt : LoggedReceipt)
    (signer : Option Address) (recovered : Option String) (job : Option StatedJob) : Except Failure Unit := do
  let hash := input.transactionHash
  match input.kind with
  | .create =>
    let created ← requireReceiptEvent receipt (pin.commerceEvent "JobCreated") "hire"
    let funded ← requireReceiptEvent receipt (pin.commerceEvent "JobFunded") "hire"
    assertHireEvents pin created.args funded.args (recovered.getD "") signer input.expectation hash
    job.forM fun job => assertHireState job input.expectation hash
  | .submit =>
    let id ← requireOperationJobId input.jobId hash
    let event ← requireReceiptEvent receipt (pin.commerceEvent "JobSubmitted") "submit"
    assertSubmitEvent event.args id signer (input.expectation.bind (·.digest)) hash
    let job ← requireJob job "The reconciled submit has no readable protocol job." hash
    assertSubmittedJob job (input.expectation.bind (·.digest)) hash
  | .settle =>
    let id ← requireOperationJobId input.jobId hash
    let job ← requireJob job "The reconciled settlement has no readable protocol job." hash
    assertActor signer job.client.text "client" hash
    match input.action.getD .approve with
    | .approve =>
      let settled ← requireReceiptEvent receipt (pin.routerEvent "JobSettled") "settle"
      let finalised ← requireReceiptEvent receipt (pin.routerEvent "JobFinalised") "settle"
      let completed ← requireReceiptEvent receipt (pin.commerceEvent "JobCompleted") "settle"
      assertApproval pin settled.args finalised.args completed.args id job hash
    | .dispute =>
      let disputed ← requireReceiptEvent receipt (pin.policyEvent "Disputed") "dispute"
      assertDispute disputed.args id (signer.getD job.client).text job hash
  | .claimRefund =>
    let id ← requireOperationJobId input.jobId hash
    let job ← requireJob job "The reconciled refund has no readable protocol job." hash
    assertActor signer job.client.text "client" hash
    assertRefundReceipt pin receipt id (signer.getD job.client).text job
  | kind => .error (mismatch ("Receipt verification is not implemented for " ++ kindText kind ++ "; manual review is required.")
      hash "manual_review")

def assertExpectation (job : StatedJob) (expectation : Expectation) (transactionHash : String) : Except Failure Unit := do
  expectation.providerAddress.forM fun provider => refuseIf (lower job.provider.text ≠ lower provider)
    (mismatch "Reconciled provider does not match the operation expectation." transactionHash "manual_review")
  expectation.amountAtomic.forM fun amount => refuseIf (job.budgetAtomic.text ≠ amount)
    (mismatch "Reconciled budget does not match the operation expectation." transactionHash "manual_review")

def verifyReceiptForOperation [EventDecoder] (pin : Pin) (reads : ChainReads) (input : VerificationInput) :
    Except Failure (LoggedReceipt × Option StatedJob) := do
  let hash := input.transactionHash
  let found ← requireReceipt reads hash "reconciliation"
  let receipt ← assertReceipt found hash "reconciliation"
  let signer ← input.signerAddress.mapM fun signer => normalizeAddress signer "operation signer"
  let recovered := input.jobId.or (if input.kind = .create then recoverCreatedJobId receipt pin else none)
  refuseIf (input.kind = .create ∧ recovered = none)
    (mismatch "The confirmed hire receipt has no recoverable JobCreated identity." hash "manual_review")
  let job ← recovered.mapM (readJob pin reads)
  verifyKind pin input receipt signer recovered job
  job.forM fun job => input.expectation.forM fun expectation => assertExpectation job expectation hash
  return (receipt, job)

end Bnbera.Receipts
