import Bnbera.Coordinator.Definitions

namespace Bnbera

open Interleaving OperationRepository

def EoaStep.text : EoaStep → String
  | create => "create"
  | register => "register"
  | setBudget => "set_budget"
  | approve => "approve"
  | fund => "fund"
  | settle => "settle"
  | dispute => "dispute"
  | claimRefund => "claim_refund"

def EoaStep.ofText (text : String) : Option EoaStep :=
  [.create, .register, .setBudget, .approve, .fund, .settle, .dispute, .claimRefund].find? fun step => step.text == text

/-- `operation.context?.parameters?.[key]` -/
def parameterOf (operation : OperationRecord) (key : String) : Option Json :=
  operation.context.bind fun context => context.parameters.bind fun parameters => fieldOf parameters key

/-- The parameter, when its type is `string`. -/
def textParameter (operation : OperationRecord) (key : String) : Option String :=
  match parameterOf operation key with
  | some (.str text) => some text
  | _ => none

/-- The parameter, when its type is `number`. -/
def numberParameter (operation : OperationRecord) (key : String) : Option String :=
  match parameterOf operation key with
  | some (.num text) => some text
  | _ => none

def eoaStep (operation : OperationRecord) : Option EoaStep :=
  (textParameter operation "eoaStep").bind EoaStep.ofText

def isEarlyEoaStep (step : EoaStep) : Bool := [.create, .register, .setBudget, .approve].contains step

def nextEoaStep : EoaStep → Option EoaStep
  | .create => some .register
  | .register => some .setBudget
  | .setBudget => some .approve
  | .approve => some .fund
  | _ => none

structure EoaStepInput where
  idempotencyKey : String
  step : EoaStep
  requesterAddress : String
  jobId : Option String
  providerAddress : Option String
  task : Option String
  budgetAtomic : Option String
  expiredAtUnix : Option String
  deadlineSeconds : Option String
  commerceJobId : String
  providerBinding : Option Json

/-- The composed server. What rests on the calldata encoder is a parameter: the
preparation of a step, which also parses the provider binding, and the call that the
browser is handed for an operation that may be dispatched. -/
structure CommerceServer where
  chainId : BscChainId
  approvals : Bool
  prepareEoaStep : EoaStepInput → Except Failure PreparedOperation
  buildDispatch : OperationRecord → Except Failure (Option Json)

/-- `operation.context?.dispatchClaimed === true` -/
def OperationRecord.isClaimed (operation : OperationRecord) : Bool :=
  (operation.context.bind fun context => context.dispatchClaimed) == some true

def browserDispatchFor (server : CommerceServer) (operation : OperationRecord) (allowClaimed : Bool := false) :
    Except Failure (Option Json) :=
  if operation.status ≠ .awaitingSignature ∧ ¬(allowClaimed = true ∧ operation.status = .unknown ∧
      operation.transactionHash = none ∧ OperationRecord.isClaimed operation = true) then .ok none
  else if allowClaimed = false ∧ OperationRecord.isClaimed operation = true then .ok none
  else server.buildDispatch operation

/-- `CommerceBrowserIntentResult`, without the job that is read along with it. -/
structure BrowserResult where
  operation : OperationRecord
  replayed : Bool
  dispatch : Option Json

def browserResult (operation : OperationRecord) (replayed : Bool) (dispatch : Except Failure (Option Json))
    (jobId : Option DecimalUint) : Handler BrowserResult := do
  let dispatch ← dispatch
  ExceptT.mk (Program.ask (Call.optionalJob jobId))
  return { operation, replayed, dispatch }

structure ExternalReservation where
  operation : OperationRecord
  replayed : Bool
  dispatchable : Bool

section

variable [Sha256]

def reserveExternal (approvals : Bool) (prepared : PreparedOperation) (idempotencyKey : String) :
    Handler ExternalReservation := do
  assertSettlementApproved approvals prepared
  let (operation, replayed) ← reserve (reserveInput prepared idempotencyKey)
  return {
    operation, replayed
    dispatchable := !replayed && operation.status == .awaitingSignature && !OperationRecord.isClaimed operation }

/-- The steps of `confirmEoa` that store a verified receipt. -/
def recordEoaReceipt (advance : OperationRecord → Option VerifiedEoaReceipt → Handler BrowserResult) (step : EoaStep)
    (operation submitted : OperationRecord) (verified : VerifiedEoaReceipt) : Handler BrowserResult := do
  let confirmed ← (if submitted.status = .confirmed ∨ submitted.status = .reconciled then pure submitted
    else markReceipt operation.id .confirmed verified.receipt.transactionHash.text verified.receipt.blockNumber.text
      verified.receipt.blockHash.text (some verified.logIndex))
  let current ← (if step = .create ∧ confirmed.jobId = none then attachJobId confirmed.id verified.jobId.text
    else pure confirmed)
  performIf (step == .fund) (ExceptT.mk (Program.ask (Call.persistEoaFunding current verified.job verified.receipt)))
  performIf (step == .settle)
    (ExceptT.mk (Program.ask (Call.persistEoaTerminal current verified.job verified.receipt .completed)))
  performIf (step == .claimRefund)
    (ExceptT.mk (Program.ask (Call.persistEoaTerminal current verified.job verified.receipt .expired)))
  advance current (some verified)

def eoaReceiptRequest (step : EoaStep) (operation submitted : OperationRecord) (transactionHash : String) :
    EoaReceiptRequest where
  transactionHash := transactionHash
  step := step
  actorAddress := (operation.context.map (·.signerAddress.text)).getD ""
  jobId := submitted.jobId
  providerAddress := textParameter operation "providerAddress"
  task := textParameter operation "task"
  budgetAtomic := textParameter operation "budgetAtomic"
  expiredAtUnix := numberParameter operation "expiredAtUnix"

/-- The body of the `try` in `confirmEoa`. -/
def verifyEoa (advance : OperationRecord → Option VerifiedEoaReceipt → Handler BrowserResult) (step : EoaStep)
    (operation submitted : OperationRecord) (transactionHash : String) : Handler BrowserResult := do
  let verified ← ExceptT.mk (Program.ask
    (Call.verifyEoaReceipt (eoaReceiptRequest step operation submitted transactionHash)))
  recordEoaReceipt advance step operation submitted verified

def Failure.codeOr (missing : String) : Failure → String
  | .commerce error => error.code.text
  | _ => missing

/-- The `catch` of `confirmEoa`. -/
def confirmEoaFailure (operation : OperationRecord) (transactionHash : String) (cause : Failure) :
    Handler BrowserResult := do
  if cause.hasCode .chainProviderInvalid ∧ (operation.status = .confirmed ∨ operation.status = .reconciled) then
    browserResult operation true (.ok none) operation.jobId
  else if cause.hasCode .transactionUnknown then
    if operation.status = .confirmed ∨ operation.status = .manualReview ∨ operation.status = .reconciled then
      browserResult operation false (.ok none) operation.jobId
    else
      let unknown ← markUnknown operation.id (some "EOA_RECEIPT_PENDING")
      browserResult unknown false (.ok none) unknown.jobId
  else
    let receipt ← (if cause.hasCode .transactionReverted then
      ExceptT.mk (Program.ask (Call.getTransactionReceipt transactionHash)) else pure none)
    match receipt with
    | some receipt =>
      let reverted ← markReceipt operation.id .reverted receipt.transactionHash.text receipt.blockNumber.text
        receipt.blockHash.text none (some "TRANSACTION_REVERTED")
      browserResult reverted false (.ok none) reverted.jobId
    | none =>
      ignoreFailure (markManualReview operation.id (some (cause.codeOr "EOA_RECEIPT_VALIDATION_FAILED")))
      throwThe Failure cause

/-- `confirmEoa`, with the continuation that it calls last. -/
def confirmEoaWith (server : CommerceServer)
    (advance : OperationRecord → Option VerifiedEoaReceipt → Handler BrowserResult) (operation : OperationRecord)
    (suppliedHash : Option String) : Handler BrowserResult := do
  match eoaStep operation with
  | none => failWith {
      code := .onchainMismatch
      message := "The browser operation is not an EOA operation."
      nextAction := "manual_review" }
  | some step =>
    if (operation.status = .confirmed ∨ operation.status = .reconciled) ∧ operation.jobId ≠ none ∧
        isEarlyEoaStep step then
      advance operation none
    else
      match suppliedHash.or (operation.transactionHash.map (·.text)) with
      | none =>
        if operation.status = .awaitingSignature then
          browserResult operation true (browserDispatchFor server operation) operation.jobId
        else
          let unknown ← markUnknown operation.id (some "EOA_TRANSACTION_HASH_MISSING")
          browserResult unknown false (.ok none) unknown.jobId
      | some transactionHash =>
        if operation.transactionHash.any fun stored => stored.text != lower transactionHash then failWith {
          code := .idempotencyConflict
          message := "The browser operation is already bound to a different transaction hash."
          nextAction := "manual_review" }
        else
          let submitted ← (if operation.status = .awaitingSignature ∨ operation.status = .unknown then
            markSubmitted operation.id transactionHash else pure operation)
          tryCatch (verifyEoa advance step operation submitted transactionHash)
            (confirmEoaFailure operation transactionHash)

def nextStepInput (operation : OperationRecord) (nextStep : EoaStep) (jobId : DecimalUint) : EoaStepInput :=
  let commerceJobId := ((textParameter operation "commerceJobId").filter fun text => trim text != "").getD
    operation.idempotencyKey
  { idempotencyKey := "t5-eoa:" ++ commerceJobId ++ ":" ++ nextStep.text
    step := nextStep
    requesterAddress := (operation.context.map (·.signerAddress.text)).getD ""
    jobId := some jobId.text
    providerAddress := textParameter operation "providerAddress"
    task := textParameter operation "task"
    budgetAtomic := textParameter operation "budgetAtomic"
    expiredAtUnix := numberParameter operation "expiredAtUnix"
    deadlineSeconds := numberParameter operation "deadlineSeconds"
    commerceJobId
    providerBinding := parameterOf operation "providerBinding" }

/-- `advanceEoa`: a confirmed step reserves the next one. The chain of steps is
finite; `fuel` bounds it. -/
def advanceEoa (server : CommerceServer) : Nat → OperationRecord → Option VerifiedEoaReceipt → Handler BrowserResult
  | 0, _, _ => throwThe Failure (.foreign "Maximum call stack size exceeded")
  | fuel + 1, operation, verified =>
    let jobId := operation.jobId.or (verified.map (·.jobId))
    match eoaStep operation with
    | none => failWith {
        code := .onchainMismatch
        message := "The browser operation is missing its persisted EOA step."
        nextAction := "manual_review" }
    | some step =>
      match nextEoaStep step, jobId with
      | none, _ => browserResult operation true (.ok none) jobId
      | some _, none => failWith {
          code := .onchainMismatch
          message := "The next browser EOA step has no actual protocol job ID."
          nextAction := "manual_review" }
      | some nextStep, some jobId => do
        let input := nextStepInput operation nextStep jobId
        let prepared ← server.prepareEoaStep input
        let reservation ← reserveExternal server.approvals prepared input.idempotencyKey
        let next := reservation.operation
        if reservation.replayed ∧ (next.status = .confirmed ∨ next.status = .reconciled) then
          if [.fund, .settle, .dispute, .claimRefund].contains nextStep then
            confirmEoaWith server (advanceEoa server fuel) next none
          else advanceEoa server fuel next none
        else if reservation.replayed ∧ next.status = .submitted then
          confirmEoaWith server (advanceEoa server fuel) next none
        else
          browserResult next reservation.replayed
            (if reservation.dispatchable ∨ next.status = .awaitingSignature ∧ OperationRecord.isClaimed next = false then
              browserDispatchFor server next else .ok none) next.jobId

def confirmEoa (server : CommerceServer) (fuel : Nat) (operation : OperationRecord)
    (suppliedHash : Option String := none) : Handler BrowserResult :=
  confirmEoaWith server (advanceEoa server fuel) operation suppliedHash

end

def unknownOperation : CommerceError where
  code := .unknownJob
  message := "The requested commerce operation does not exist."

def assertBrowserOperationActor (operationId : String) : Handler OperationRecord := do
  let identity ← ExceptT.mk (Program.ask Call.identity)
  match ← get operationId with
  | none => failWith unknownOperation
  | some existing =>
    if existing.context.map (·.signerAddress) = some identity.requesterAddress then return existing
    else failWith {
      code := .unauthorizedActor
      message := "The authenticated requester does not match the browser operation actor."
      nextAction := "authenticate_actor" }

def assertParentReservation (existing : OperationRecord) : Handler Unit := do
  let _ ← ExceptT.mk (Program.ask Call.identity)
  match (textParameter existing "commerceJobId").filter fun text => trim text != "" with
  | none => failWith {
      code := .onchainMismatch
      message := "The browser funding operation has no parent commerce reservation."
      nextAction := "manual_review" }
  | some commerceJobId => ExceptT.mk (Program.ask (Call.resolveParentHire commerceJobId))

namespace CommerceServer

variable (server : CommerceServer)

def authorizeClaim (operationId : String) : Handler Unit := do
  let existing ← assertBrowserOperationActor operationId
  match eoaStep existing with
  | none => failWith {
      code := .invalidJob
      message := "The legacy browser relay operation does not support WalletConnect dispatch claims."
      nextAction := "reconcile_transaction" }
  | some step =>
    performIf (step == .fund) (assertParentReservation existing)
    performFor (if server.chainId = .mainnet then existing.context else none) fun context =>
      ExceptT.mk (Program.ask (Call.verifyBrowserPaymentParticipants context.signerAddress step
        (textParameter existing "providerAddress") (textParameter existing "budgetAtomic")))

def claimResult (operation : OperationRecord) (claimed : Bool) : Handler BrowserResult :=
  browserResult operation (!claimed) (if claimed then browserDispatchFor server operation true else .ok none)
    operation.jobId

def claimExternalDispatch (operationId : String) : Handler BrowserResult := do
  server.authorizeClaim operationId
  let (operation, claimed) ← OperationRepository.claimExternalDispatch operationId
  server.claimResult operation claimed

def releaseExternalDispatch (operationId : String) : Handler BrowserResult := do
  let existing ← assertBrowserOperationActor operationId
  match eoaStep existing with
  | none => failWith {
      code := .invalidJob
      message := "The legacy browser relay operation does not support WalletConnect dispatch rejection."
      nextAction := "reconcile_transaction" }
  | some _ =>
    let (operation, released) ← OperationRepository.releaseExternalDispatch operationId
    browserResult operation (!released) (if released then browserDispatchFor server operation else .ok none)
      operation.jobId

variable [Sha256]

/-- The part of `attachExternalExecution` for an operation of the old relay. -/
def attachRelayExecution (fuel : Nat) (operationId : String) (callsId transactionHash : Option String) :
    Handler BrowserResult := do
  match callsId with
  | none => failWith {
      code := .invalidJob
      message := "The legacy browser relay operation requires its public calls ID."
      nextAction := "reconcile_transaction" }
  | some callsId =>
    let result ← Bnbera.attachExternalExecution fuel operationId callsId transactionHash
    performFor result.operation.jobId fun jobId => ExceptT.mk (Program.ask (Call.optionalJob (some jobId)))
    let dispatch ← browserDispatchFor server result.operation
    return { operation := result.operation, replayed := result.replayed, dispatch }

def attachExternalExecution (fuel : Nat) (operationId : String) (callsId transactionHash : Option String) :
    Handler BrowserResult := do
  let existing ← assertBrowserOperationActor operationId
  if (eoaStep existing).isSome then
    match transactionHash with
    | none =>
      let unknown ← (if existing.status = .awaitingSignature ∨ existing.status = .submitted then
        markUnknown existing.id (some "EOA_TRANSACTION_HASH_MISSING") else pure existing)
      browserResult unknown false (.ok none) unknown.jobId
    | some transactionHash => confirmEoa server fuel existing (some transactionHash)
  else server.attachRelayExecution fuel operationId callsId transactionHash

/-- The part of `operationStatus` for an operation of the old relay. -/
def relayStatus (fuel : Nat) (operationId : String) (operation : OperationRecord) : Handler BrowserResult := do
  let current ← (if callsIdOfRecord operation ≠ none ∧
      [.awaitingSignature, .submitted, .unknown].contains operation.status then
    tryCatch (do let result ← Bnbera.reconcile fuel operationId; return result.operation) fun cause =>
      if cause.hasCode .transactionUnknown ∨ cause.hasCode .reconciliationRequired then do
        let latest ← get operationId
        return latest.getD operation
      else throwThe Failure cause
    else pure operation)
  browserResult current true (.ok none) current.jobId

def operationStatus (fuel : Nat) (operationId : String) : Handler BrowserResult := do
  let operation ← assertBrowserOperationActor operationId
  match eoaStep operation with
  | none => relayStatus fuel operationId operation
  | some step =>
    if (operation.status = .confirmed ∨ operation.status = .reconciled) ∧ operation.jobId ≠ none ∧
        isEarlyEoaStep step then
      advanceEoa server fuel operation none
    else if operation.transactionHash ≠ none ∧
        [.submitted, .unknown, .confirmed, .reconciled].contains operation.status then
      confirmEoa server fuel operation
    else if operation.status = .confirmed ∨ operation.status = .reconciled then advanceEoa server fuel operation none
    else
      browserResult operation true
        (if operation.status = .awaitingSignature then browserDispatchFor server operation else .ok none) operation.jobId

/-- The result of the old relay is that of the coordinator; it has no dispatch. -/
def reconcile (fuel : Nat) (operationId : String) : Handler BrowserResult := do
  let identity ← ExceptT.mk (Program.ask Call.identity)
  match ← get operationId with
  | none => failWith unknownOperation
  | some existing =>
    match existing.context with
    | none => failWith {
        code := .unauthorizedActor
        message := "The pending operation has no persisted execution-wallet binding."
        nextAction := "manual_review" }
    | some context =>
      if context.signerAddress ≠ identity.requesterAddress then failWith {
        code := .unauthorizedActor
        message := "The authenticated requester does not match the operation execution wallet."
        nextAction := "authenticate_actor" }
      else if (eoaStep existing).isSome then confirmEoa server fuel existing
      else
        let result ← Bnbera.reconcile fuel operationId
        return { operation := result.operation, replayed := result.replayed, dispatch := none }

end CommerceServer

end Bnbera
