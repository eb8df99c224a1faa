import Bnbera.Operations.Repository
import Bnbera.Operations.Footprint

namespace Bnbera

section

open Interleaving

variable [Sha256]

structure PreparedOperation where
  kind : OperationKind
  signerRole : ChainRole
  chainId : BscChainId
  commerceContract : String
  jobId : Option String
  requestDigest : String
  expectation : Option OperationExpectation
  value : Nat
  target : Option Address
  data : Option HexData
  context : Option OperationContext

structure ConfirmedOperation where
  operation : PreparedOperation
  transactionHash : Hash
  receipt : RpcReceipt
  jobId : Option DecimalUint

structure CoordinatorResult (T : Type) where
  operation : OperationRecord
  result : Option T
  replayed : Bool

/-- `throw new CommerceError(…)` -/
def failWith {α : Type} (error : CommerceError) : Handler α := throwThe Failure (.commerce error)

/-- `if (condition) await handler;` -/
def performIf {α : Type} (condition : Bool) (handler : Handler α) : Handler Unit :=
  if condition then do let _ ← handler else pure ()

/-- `if (value !== null) await handler(value);` -/
def performFor {α β : Type} (value : Option α) (handler : α → Handler β) : Handler Unit :=
  match value with
  | none => pure ()
  | some given => do let _ ← handler given

/-- `try { await handler; } catch { }` -/
def ignoreFailure {α : Type} (handler : Handler α) : Handler Unit :=
  tryCatch (do let _ ← handler) fun _ => pure ()

def authorityAddress (authority : AltanaAuthority) : Except Failure Address :=
  normalizeAddress authority.walletAddress "signer address"

def OperationStatus.isResolved (status : OperationStatus) : Bool :=
  [.confirmed, .reverted, .reconciled].contains status

def assertAuthority (operation : PreparedOperation) (authority : AltanaAuthority) : Except Failure Unit :=
  match operation.context with
  | none => .ok ()
  | some context =>
    match authorityAddress authority with
    | .error failure => .error failure
    | .ok address =>
      if address ≠ context.signerAddress then
        throwCommerce .unauthorizedActor "The authenticated execution wallet does not match the actor persisted for this operation." "authenticate_actor"
      else .ok ()

/-- Settlement, unlike a dispute, needs a persisted buyer approval. `approvals`
tells whether the coordinator was given a reader of approvals. -/
def assertSettlementApproved (approvals : Bool) (operation : PreparedOperation) : Handler Unit :=
  if operation.kind = .settle ∧ (operation.context.bind fun context => context.sdkAction) ≠ some .dispute then
    match operation.jobId, approvals with
    | some jobId, true => ExceptT.mk (Program.ask (Call.assertBuyerApproval operation.chainId jobId))
    | _, _ => throwCommerce .reconciliationRequired "Settlement is disabled until persisted buyer approval is available." "approve_result"
  else pure ()

def reserveInput (operation : PreparedOperation) (idempotencyKey : String) : ReserveInput where
  idempotencyKey := idempotencyKey
  requestDigest := operation.requestDigest
  chainId := operation.chainId
  commerceContract := operation.commerceContract
  jobId := operation.jobId
  kind := operation.kind
  signerRole := operation.signerRole
  context := operation.context

def callsIdOfRecord (operation : OperationRecord) : Option HexData :=
  operation.context.bind fun context => context.callsId.join

/-- What `executeSdk` does for a key that is already reserved. -/
def replayReservation (operation : OperationRecord) : Except Failure (CoordinatorResult AdapterExecution) :=
  if operation.status.isResolved then .ok { operation, result := none, replayed := true }
  else .error (.commerce {
    code := .transactionUnknown
    message := "This idempotency key already has an unresolved chain operation; reconcile it before retrying."
    nextAction := "reconcile_transaction"
    transactionHash := operation.transactionHash.map (·.text)
    relayCallsId := (callsIdOfRecord operation).map (·.text) })

open OperationRepository

/-- The steps after a confirmed SDK result. -/
def recordConfirmation (prepared : PreparedOperation) (operationId : String) (result : AdapterExecution)
    (transactionHash : Hash) (receipt : RpcReceipt) : Handler (CoordinatorResult AdapterExecution) := do
  let _ ← markSubmitted operationId transactionHash.text
  let _ ← markReceipt operationId (if receipt.status = .success then .confirmed else .reverted)
    receipt.transactionHash.text receipt.blockNumber.text receipt.blockHash.text none
    (if receipt.status = .success then none else some "TRANSACTION_REVERTED")
  performIf (result.jobId != "" && prepared.jobId == none) (attachJobId operationId result.jobId)
  match ← get operationId with
  | none => failWith {
      code := .onchainMismatch
      message := "The confirmed operation record could not be reloaded; reconcile before retrying."
      transactionHash := some transactionHash.text
      nextAction := "reconcile_transaction" }
  | some operation =>
    ExceptT.mk (Program.ask (Call.persistCanonicalConfirmation operation result))
    return { operation, result := some result, replayed := false }

def recordUnconfirmed (operationId : String) (result : AdapterExecution) :
    Handler (CoordinatorResult AdapterExecution) := do
  performFor result.transactionHash fun hash => markSubmitted operationId hash.text
  let _ ← markUnknown operationId
    (some (if result.status = .pending then "RELAY_PENDING" else "CONFIRMATION_HASH_MISSING"))
  failWith {
    code := .transactionUnknown
    message := "The Altana operation is not durably confirmed; do not resend before reconciliation."
    nextAction := "reconcile_transaction"
    transactionHash := result.transactionHash.map (·.text)
    relayCallsId := some result.callsId.text }

/-- What `executeSdk` does with the result of the SDK. -/
def recordResult (prepared : PreparedOperation) (operationId : String) (result : AdapterExecution) :
    Handler (CoordinatorResult AdapterExecution) := do
  let _ ← attachCallsId operationId result.callsId.text
  match result.status, result.transactionHash, result.receipt with
  | .confirmed, some hash, some receipt => recordConfirmation prepared operationId result hash receipt
  | _, _, _ => recordUnconfirmed operationId result

/-- The body of the `try` in `executeSdk`. -/
def sendSdk (prepared : PreparedOperation) (operationId : String) : Handler (CoordinatorResult AdapterExecution) := do
  let result ← ExceptT.mk (Program.ask (Call.run operationId))
  recordResult prepared operationId result

/-- The codes of `recordFailure` that leave the operation as it is. -/
def CommerceErrorCode.isPreflight (code : CommerceErrorCode) : Bool :=
  [.commerceDisabled, .invalidAmount, .invalidJob, .invalidAddress, .invalidChain, .invalidContract,
    .invalidToken].contains code

def recordCommerceFailure (operationId : String) (cause : CommerceError) : Handler Unit := do
  performFor cause.relayCallsId (attachCallsId operationId)
  match cause.transactionHash with
  | some transactionHash =>
    let current ← get operationId
    performIf (current.map (·.status) == some .awaitingSignature) (markSubmitted operationId transactionHash)
    let latest ← get operationId
    if latest.map (·.status) = some .submitted ∧ cause.code = .transactionUnknown then
      performIf true (markUnknown operationId (some "SDK_UNKNOWN"))
    else
      performIf ((latest.map fun row => !([.reverted, .reconciled, .manualReview].contains row.status)) == some true)
        (markManualReview operationId (some cause.code.text))
  | none =>
    if cause.code = .transactionUnknown ∧ cause.relayCallsId ≠ none then
      let current ← get operationId
      performIf (current.map (·.status) == some .awaitingSignature) (markUnknown operationId (some "SDK_UNKNOWN"))
    else
      performIf (!cause.code.isPreflight) (markManualReview operationId (some cause.code.text))

def recordFailure (operationId : String) : Failure → Handler Unit
  | .commerce cause => ignoreFailure (recordCommerceFailure operationId cause)
  | _ => ignoreFailure (markManualReview operationId (some "SDK_FAILURE"))

/-- The `try` of `executeSdk` with its `catch`. -/
def sendReserved (prepared : PreparedOperation) (operationId : String) : Handler (CoordinatorResult AdapterExecution) :=
  tryCatch (sendSdk prepared operationId) fun cause => do
    recordFailure operationId cause
    throwThe Failure cause

def executeSdk (approvals : Bool) (prepared : PreparedOperation) (idempotencyKey : String)
    (authority : AltanaAuthority) : Handler (CoordinatorResult AdapterExecution) := do
  assertAuthority prepared authority
  assertSettlementApproved approvals prepared
  let (operation, replayed) ← reserve (reserveInput prepared idempotencyKey)
  if replayed then replayReservation operation else sendReserved prepared operation.id

end

section

open Interleaving OperationRepository

def operationFromRecord (record : OperationRecord) : PreparedOperation where
  kind := record.kind
  signerRole := record.signerRole
  chainId := record.chainId
  commerceContract := record.commerceContract.text
  jobId := record.jobId.map (·.text)
  requestDigest := record.requestDigest.text
  expectation := record.context.bind fun context => context.expectation.join
  value := ((record.context.bind fun context => context.valueAtomic).map fun value => decimalValue value.text).getD 0
  target := record.context.bind fun context => context.target
  data := record.context.bind fun context => context.data
  context := record.context

def receiptRequest (existing : OperationRecord) (transactionHash : Hash) : ReceiptRequest where
  transactionHash := transactionHash
  kind := existing.kind
  jobId := existing.jobId
  signerAddress := existing.context.map (·.signerAddress)
  action := match existing.context.bind fun context => context.sdkAction with
    | some .dispute => some .dispute
    | some .settle => some .approve
    | _ => none
  expectation := existing.context.bind fun context => context.expectation

/-- The last steps of `reconcile`: the canonical projection is repaired, and only then
is the operation reconciled. -/
def persistAndReconcile (operationId : String) (checked : VerifiedReceipt) :
    Handler (CoordinatorResult ConfirmedOperation) := do
  match ← get operationId with
  | none => failWith {
      code := .onchainMismatch
      message := "The reconciled operation could not be reloaded before canonical persistence."
      transactionHash := some checked.receipt.transactionHash.text
      nextAction := "manual_review" }
  | some afterReceipt =>
    ExceptT.mk (Program.ask (Call.persistCanonicalReconciliation afterReceipt checked.job checked.receipt))
    let reconciled ← OperationRepository.reconcile operationId .reconciled
    return {
      operation := reconciled
      result := some {
        operation := operationFromRecord reconciled
        transactionHash := checked.receipt.transactionHash
        receipt := checked.receipt
        jobId := (checked.job.map (·.id)).or reconciled.jobId }
      replayed := false }

/-- The steps of `reconcile` for an accepted receipt. -/
def recordAccepted (operationId : String) (existing : OperationRecord) (checked : VerifiedReceipt) :
    Handler (CoordinatorResult ConfirmedOperation) := do
  let _ ← markReceipt operationId .confirmed checked.receipt.transactionHash.text checked.receipt.blockNumber.text
    checked.receipt.blockHash.text
  performFor (if existing.jobId = none then checked.job else none) fun job => attachJobId operationId job.id.text
  persistAndReconcile operationId checked

/-- The body of the `try` in `reconcile`. -/
def verifyAndReconcile (operationId : String) (existing : OperationRecord) (transactionHash : Hash) :
    Handler (CoordinatorResult ConfirmedOperation) := do
  let checked ← ExceptT.mk (Program.ask (Call.verifyReceiptForOperation (receiptRequest existing transactionHash)))
  recordAccepted operationId existing checked

/-- The `catch` of `reconcile`. -/
def reconcileFailure (operationId : String) (transactionHash : Hash) (cause : Failure) :
    Handler (CoordinatorResult ConfirmedOperation) := do
  if cause.hasCode .transactionUnknown then
    ignoreFailure (markUnknown operationId (some "RECEIPT_PENDING"))
    throwThe Failure cause
  else
    ignoreFailure (markManualReview operationId (some "RECEIPT_VALIDATION_FAILED"))
    match cause with
    | .commerce _ => throwThe Failure cause
    | _ => failWith {
        code := .onchainMismatch
        message := "The persisted receipt could not be validated; manual review is required."
        transactionHash := some transactionHash.text
        nextAction := "manual_review" }

def relayCode (kind : String) (statusCode : Option Int) : String :=
  match statusCode with
  | none => kind
  | some code => kind ++ "_" ++ toString code

/-- The part of `reconcile` for an operation without a hash, which asks the relay.
`again` is the recursive call made after a hash was stored. -/
def reconcileRelay (operationId : String) (existing : OperationRecord)
    (again : Handler (CoordinatorResult ConfirmedOperation)) : Handler (CoordinatorResult ConfirmedOperation) := do
  match callsIdOfRecord existing with
  | none =>
    ignoreFailure (markManualReview operationId (some "RECONCILIATION_CONTEXT_MISSING"))
    failWith {
      code := .reconciliationRequired
      message := "The operation has no persisted transaction hash; manual review is required and no retry is safe."
      nextAction := "manual_review" }
  | some callsId =>
    let relay ← ExceptT.mk (Program.ask (Call.getCallsStatus callsId))
    match relay.status, relay.transactionHash with
    | .confirmed, some hash => do
      let _ ← markSubmitted operationId hash.text
      again
    | .failed, some hash => do
      let _ ← markSubmitted operationId hash.text
      again
    | .failed, none => do
      let failed ← markFailed operationId (some (relayCode "RELAY_FAILED" relay.statusCode))
      return { operation := failed, result := none, replayed := false }
    | _, _ => do
      ignoreFailure (markUnknown operationId (some (relayCode "RELAY_PENDING" relay.statusCode)))
      match ← get operationId with
      | none => failWith {
          code := .unknownJob
          message := "The commerce operation disappeared during relay status recovery." }
      | some pending => return { operation := pending, result := none, replayed := false }

/-- `Erc8183OperationCoordinator.reconcile`. The recursion is bounded by `fuel`; two
rounds are enough, since the second one finds the hash that the first one stored. -/
def reconcile (fuel : Nat) (operationId : String) : Handler (CoordinatorResult ConfirmedOperation) := do
  match fuel with
  | 0 => throwThe Failure (.foreign "Maximum call stack size exceeded")
  | fuel + 1 =>
    match ← get operationId with
    | none => failWith { code := .unknownJob, message := "The requested commerce operation does not exist." }
    | some existing =>
      if existing.status = .reverted ∨ existing.status = .reconciled then
        return { operation := existing, result := none, replayed := true }
      else
        match existing.transactionHash with
        | none => reconcileRelay operationId existing (reconcile fuel operationId)
        | some transactionHash =>
          tryCatch (verifyAndReconcile operationId existing transactionHash)
            (reconcileFailure operationId transactionHash)

def recoverPending (operationId missing : String) (recordPending : Handler Unit) (fuel : Nat) :
    Handler (CoordinatorResult ConfirmedOperation) :=
  tryCatch (reconcile fuel operationId) fun cause =>
    if cause.hasCode .transactionUnknown then do
      recordPending
      match ← get operationId with
      | none => failWith { code := .unknownJob, message := missing }
      | some operation => return { operation, result := none, replayed := false }
    else throwThe Failure cause

def attachExternalExecution (fuel : Nat) (operationId callsId : String) (transactionHash : Option String) :
    Handler (CoordinatorResult ConfirmedOperation) := do
  match ← get operationId with
  | none => failWith { code := .unknownJob, message := "The requested commerce operation does not exist." }
  | some current =>
    if current.status.isResolved then return { operation := current, result := none, replayed := true }
    else
      let _ ← attachCallsId operationId callsId
      match transactionHash with
      | none =>
        match ← get operationId with
        | none => failWith {
            code := .unknownJob
            message := "The commerce operation disappeared during evidence attachment." }
        | some latest =>
          performIf (latest.status == .awaitingSignature || latest.status == .submitted)
            (markUnknown operationId (some "BROWSER_RELAY_PENDING"))
          recoverPending operationId "The commerce operation disappeared during pending-state recording." (pure ()) fuel
      | some transactionHash =>
        let _ ← markSubmitted operationId transactionHash
        let recordPending : Handler Unit := do
          let latest ← get operationId
          performIf (latest.map (·.status) == some .submitted || latest.map (·.status) == some .awaitingSignature)
            (markUnknown operationId (some "RECEIPT_PENDING"))
        recoverPending operationId "The commerce operation disappeared during receipt recovery." recordPending fuel

end

section

open Interleaving

def OperationUpdate.IsRecording (change : OperationUpdate) : Prop :=
  change.method ≠ .claimExternalDispatch ∧ change.method ≠ .releaseExternalDispatch

/-- The calls that record what became of one operation. None of them reserves,
dispatches or sends. -/
inductive Call.Records (operationId : String) : Call → Prop
  | touches {call} : call.Touches operationId OperationUpdate.IsRecording → Records operationId call
  | getCallsStatus {callsId} : Records operationId (.getCallsStatus callsId)
  | verifyReceiptForOperation {request} : Records operationId (.verifyReceiptForOperation request)
  | persistCanonicalConfirmation {operation result} :
      Records operationId (.persistCanonicalConfirmation operation result)
  | persistCanonicalReconciliation {operation job receipt} :
      Records operationId (.persistCanonicalReconciliation operation job receipt)

namespace Handler.Only

variable {α : Type} {allowed : Call → Prop} {operationId : String}

theorem failWith (error : CommerceError) : (Bnbera.failWith error : Handler α).Only allowed := ⟨trivial⟩

theorem performIf {condition : Bool} {handler : Handler α} (only : handler.Only allowed) :
    (Bnbera.performIf condition handler).Only allowed := by
  cases condition with
  | false => exact .pure ()
  | true => exact .bind only fun _ => .pure ()

theorem performFor {β : Type} {value : Option β} {handler : β → Handler α} (only : ∀ given, (handler given).Only allowed) :
    (Bnbera.performFor value handler).Only allowed := by
  cases value with
  | none => exact .pure ()
  | some given => exact .bind (only given) fun _ => .pure ()

theorem ignoreFailure {handler : Handler α} (only : handler.Only allowed) :
    (Bnbera.ignoreFailure handler).Only allowed :=
  .catch' (.bind only fun _ => .pure ()) fun _ => .pure ()

theorem records {method : UpdateMethod} {handler : Handler α}
    (only : handler.Only (Call.Touches operationId (·.method = method)))
    (claim : method ≠ .claimExternalDispatch) (release : method ≠ .releaseExternalDispatch) :
    handler.Only (Call.Records operationId) := by
  refine only.mono fun call touches => .touches (Call.Touches.mono ?_ call touches)
  rintro change rfl
  exact ⟨claim, release⟩

end Handler.Only

variable {operationId : String}

open OperationRepository

theorem get_records : (OperationRepository.get operationId).Only (Call.Records operationId) :=
  get_only.mono fun _ isRead => .touches (.read isRead)

theorem markSubmitted_records {transactionHash : String} {nowUnix : Option Int} :
    (markSubmitted operationId transactionHash nowUnix).Only (Call.Records operationId) :=
  markSubmitted_only.records (by decide) (by decide)

theorem attachJobId_records {jobId : String} :
    (attachJobId operationId jobId).Only (Call.Records operationId) :=
  attachJobId_only.records (by decide) (by decide)

theorem attachCallsId_records {callsId : String} :
    (attachCallsId operationId callsId).Only (Call.Records operationId) :=
  attachCallsId_only.records (by decide) (by decide)

theorem markReceipt_records {status : ReceiptStatus} {hash number block : String} {log : Option Int}
    {failure : Option String} {nowUnix : Option Int} :
    (markReceipt operationId status hash number block log failure nowUnix).Only (Call.Records operationId) := by
  refine markReceipt_only.mono fun call touches => .touches (Call.Touches.mono ?_ call touches)
  intro change receipt
  unfold OperationUpdate.IsRecording
  rw [receipt.method]
  exact ⟨by decide, by decide⟩

theorem markUnknown_records {failure : Option String} {nowUnix : Option Int} :
    (markUnknown operationId failure nowUnix).Only (Call.Records operationId) :=
  markUnknown_only.records (by decide) (by decide)

theorem markFailed_records {failure : Option String} {nowUnix : Option Int} :
    (markFailed operationId failure nowUnix).Only (Call.Records operationId) :=
  markFailed_only.records (by decide) (by decide)

theorem reconcileRow_records {status : ReconciledStatus} {nowUnix : Option Int} :
    (OperationRepository.reconcile operationId status nowUnix).Only (Call.Records operationId) :=
  reconcile_only.records (by decide) (by decide)

theorem markManualReview_records {failure : Option String} {nowUnix : Option Int} :
    (markManualReview operationId failure nowUnix).Only (Call.Records operationId) :=
  markManualReview_only.records (by decide) (by decide)

theorem recordConfirmation_records {prepared : PreparedOperation} {result : AdapterExecution}
    {transactionHash : Hash} {receipt : RpcReceipt} :
    (recordConfirmation prepared operationId result transactionHash receipt).Only (Call.Records operationId) := by
  refine .bind markSubmitted_records fun _ => .bind markReceipt_records fun _ => ?_
  refine .bind (.performIf attachJobId_records) fun _ => .bind get_records ?_
  rintro (_ | operation)
  · exact .failWith _
  · exact .bind ⟨.persistCanonicalConfirmation, fun _ => trivial⟩ fun _ => .pure _

theorem recordUnconfirmed_records {result : AdapterExecution} :
    (recordUnconfirmed operationId result).Only (Call.Records operationId) :=
  .bind (.performFor fun _ => markSubmitted_records) fun _ => .bind markUnknown_records fun _ => .failWith _

theorem recordCommerceFailure_records {cause : CommerceError} :
    (recordCommerceFailure operationId cause).Only (Call.Records operationId) := by
  refine .bind (.performFor fun _ => attachCallsId_records) fun _ => ?_
  split
  · refine .bind get_records fun current => .bind (.performIf markSubmitted_records) fun _ => ?_
    refine .bind get_records fun latest => ?_
    split
    · exact .performIf markUnknown_records
    · exact .performIf markManualReview_records
  · split
    · exact .bind get_records fun current => .performIf markUnknown_records
    · exact .performIf markManualReview_records

theorem recordFailure_records {cause : Failure} :
    (recordFailure operationId cause).Only (Call.Records operationId) := by
  cases cause with
  | commerce cause => exact .ignoreFailure recordCommerceFailure_records
  | zod | foreign => exact .ignoreFailure markManualReview_records

theorem persistAndReconcile_records {checked : VerifiedReceipt} :
    (persistAndReconcile operationId checked).Only (Call.Records operationId) := by
  refine .bind get_records ?_
  rintro (_ | afterReceipt)
  · exact .failWith _
  · refine .bind ⟨.persistCanonicalReconciliation, fun _ => trivial⟩ fun _ => ?_
    exact .bind reconcileRow_records fun _ => .pure _

theorem verifyAndReconcile_records {existing : OperationRecord} {transactionHash : Hash} :
    (verifyAndReconcile operationId existing transactionHash).Only (Call.Records operationId) := by
  refine .bind ⟨.verifyReceiptForOperation, fun _ => trivial⟩ fun checked => .bind markReceipt_records fun _ => ?_
  exact .bind (.performFor fun _ => attachJobId_records) fun _ => persistAndReconcile_records

theorem reconcileFailure_records {transactionHash : Hash} {cause : Failure} :
    (reconcileFailure operationId transactionHash cause).Only (Call.Records operationId) := by
  unfold reconcileFailure
  split
  · exact .bind (.ignoreFailure markUnknown_records) fun _ => .throw _
  · refine .bind (.ignoreFailure markManualReview_records) fun _ => ?_
    split
    · exact .throw _
    · exact .failWith _

theorem reconcileRelay_records {existing : OperationRecord} {again : Handler (CoordinatorResult ConfirmedOperation)}
    (rest : again.Only (Call.Records operationId)) :
    (reconcileRelay operationId existing again).Only (Call.Records operationId) := by
  unfold reconcileRelay
  split
  · exact .bind (.ignoreFailure markManualReview_records) fun _ => .failWith _
  · refine .bind ⟨.getCallsStatus, fun _ => trivial⟩ fun relay => ?_
    split
    · exact .bind markSubmitted_records fun _ => rest
    · exact .bind markSubmitted_records fun _ => rest
    · exact .bind markFailed_records fun _ => .pure _
    · refine .bind (.ignoreFailure markUnknown_records) fun _ => .bind get_records ?_
      rintro (_ | pending)
      · exact .failWith _
      · exact .pure _

theorem reconcile_records (fuel : Nat) : (reconcile fuel operationId).Only (Call.Records operationId) := by
  induction fuel with
  | zero => exact .throw _
  | succ fuel ih =>
    refine .bind get_records ?_
    rintro (_ | existing)
    · exact .failWith _
    · dsimp only
      split
      · exact .pure _
      · split
        · exact reconcileRelay_records ih
        · exact .catch' verifyAndReconcile_records fun _ => reconcileFailure_records

theorem recoverPending_records {missing : String} {recordPending : Handler Unit} {fuel : Nat}
    (pending : recordPending.Only (Call.Records operationId)) :
    (recoverPending operationId missing recordPending fuel).Only (Call.Records operationId) := by
  refine .catch' (reconcile_records fuel) fun cause => ?_
  split
  · refine .bind pending fun _ => .bind get_records ?_
    rintro (_ | operation)
    · exact .failWith _
    · exact .pure _
  · exact .throw _

theorem attachExternalExecution_records {fuel : Nat} {callsId : String} {transactionHash : Option String} :
    (attachExternalExecution fuel operationId callsId transactionHash).Only (Call.Records operationId) := by
  refine .bind get_records ?_
  rintro (_ | current)
  · exact .failWith _
  · dsimp only
    split
    · exact .pure _
    · refine .bind attachCallsId_records fun _ => ?_
      split
      · refine .bind get_records ?_
        rintro (_ | latest)
        · exact .failWith _
        · exact .bind (.performIf markUnknown_records) fun _ => recoverPending_records (.pure ())
      · refine .bind markSubmitted_records fun _ => recoverPending_records ?_
        exact .bind get_records fun latest => .performIf markUnknown_records

end

end Bnbera
