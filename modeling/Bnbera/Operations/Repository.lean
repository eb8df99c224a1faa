import Bnbera.Calls

namespace Bnbera

variable [Sha256]

def assertDigest (value label : String) : Except Failure Digest :=
  match TextFormat.normalize _ value with
  | some digest => .ok digest
  | none => throwCommerce .invalidJob (label ++ " must be a 32-byte SHA-256 digest.")

def assertJobId : Option String → Except Failure (Option DecimalUint)
  | none => .ok none
  | some value =>
    match check isDecimal value with
    | some jobId => .ok (some jobId)
    | none => throwCommerce .invalidJob "Operation job ID must be a decimal integer."

def assertTrustedTime (value : Int) : Except Failure UnixSeconds :=
  match within? 1 maxSafeInteger value with
  | some trusted => .ok trusted
  | none => throwCommerce .invalidJob "Operation timestamps require a trusted Unix time."

/-- `assertNow`, which reads the clock when the caller gives no time. -/
def assertNow : Option Int → Handler UnixSeconds
  | some given => assertTrustedTime given
  | none => do
    let value ← Handler.ask .unixNow
    assertTrustedTime value

/-- `/^[A-Za-z0-9][A-Za-z0-9._:-]*$/u` -/
def isIdempotencyKey (key : String) : Bool :=
  match key.toList with
  | first :: rest => (isLetter first || isDigit first) &&
      rest.all fun c => isLetter c || isDigit c || ['.', '_', ':', '-'].contains c
  | [] => false

/-- The complaints of `idempotencyKeySchema` about a trimmed key. -/
def idempotencyKeyIssues (key : String) : List Issue :=
  let length := (utf16Units key).length
  (if length < 8 then [⟨[], "String must contain at least 8 character(s)"⟩] else []) ++
  (if 160 < length then [⟨[], "String must contain at most 160 character(s)"⟩] else []) ++
  (if isIdempotencyKey key then [] else [⟨[], "Invalid idempotency key"⟩])

/-- `idempotencyKeySchema.parse` -/
def parseIdempotencyKey (value : String) : Except Failure String :=
  match idempotencyKeyIssues (trim value) with
  | [] => .ok (trim value)
  | issues => .error (.zod issues)

def safeFailureCode : Option String → Option String
  | none => none
  | some value =>
    if (trim value).toList.isEmpty then none
    else
      let normalized := (trim value).toList.take 80
      if normalized.all fun c => isLetter c || isDigit c || ['_', '.', ':', '-'].contains c then
        some (String.ofList normalized)
      else some "UNCLASSIFIED_FAILURE"

def assertLogIndex : Option Int → Except Failure (Option Nat)
  | none => .ok none
  | some index =>
    match within? 0 maxSafeInteger index with
    | some trusted => .ok (some trusted.value.toNat)
    | none => throwCommerce .onchainMismatch "The receipt log index is invalid."

structure ReserveInput where
  idempotencyKey : String
  requestDigest : String
  chainId : BscChainId
  commerceContract : String
  jobId : Option String
  kind : OperationKind
  signerRole : ChainRole
  context : Option OperationContext
  nowUnix : Option Int := none

def sameOperationJobId (existing : OperationRecord) (incoming : Option DecimalUint) : Bool :=
  if existing.kind = .create ∧ existing.jobId ≠ none ∧ incoming = none then true
  else existing.jobId == incoming

/-- `canonicalSha256Hex(value ?? null)` of the parameters. -/
def parametersDigest (parameters : Option (List (String × Json))) : Digest :=
  canonicalSha256Hex (nullable .obj parameters)

def expectationDigest (expectation : Option (Option OperationExpectation)) : Digest :=
  canonicalSha256Hex (nullable (fun value => .obj value.fields) expectation.join)

/-- The reasons for which a replay is refused, in the order in which they are checked. -/
def assertReplayIdentity (existing : OperationRecord) (input : ReserveInput) (requestDigest : Digest)
    (commerceContract : Address) (jobId : Option DecimalUint) (context : Option OperationContext) :
    Except Failure Unit :=
  if existing.requestDigest ≠ requestDigest ∨ existing.chainId ≠ input.chainId ∨
      existing.commerceContract ≠ commerceContract ∨ sameOperationJobId existing jobId = false ∨
      existing.kind ≠ input.kind ∨ existing.signerRole ≠ input.signerRole then
    throwCommerce .idempotencyConflict "The idempotency key is bound to a different chain, contract, job, actor role, operation or material commerce input."
  else
    match existing.context, context with
    | none, none => .ok ()
    | some existingContext, some context =>
      if existingContext.signerAddress ≠ context.signerAddress then
        throwCommerce .idempotencyConflict "The idempotency key is bound to a different authenticated execution wallet."
      else if existingContext.sdkAction ≠ context.sdkAction ∨
          parametersDigest existingContext.parameters ≠ parametersDigest context.parameters ∨
          expectationDigest existingContext.expectation ≠ expectationDigest context.expectation then
        throwCommerce .idempotencyConflict "The idempotency key is bound to different SDK action parameters."
      else .ok ()
    | _, _ => throwCommerce .idempotencyConflict "The idempotency key is bound to a different authenticated actor context."

namespace OperationRepository

def getRecord (query : OperationQuery) : Handler (Option OperationRecord) := do
  match ← Handler.statement query with
  | some row => return some (← parseOperationRow row)
  | none => return none

def get (operationId : String) : Handler (Option OperationRecord) := getRecord (.get operationId)

def getByIdempotencyKey (idempotencyKey : String) : Handler (Option OperationRecord) := do
  let key ← parseIdempotencyKey idempotencyKey
  getRecord (.getByIdempotencyKey key)

/-- The second half of `reserve`, for a key that is already taken. -/
def replayReserved (input : ReserveInput) (reservation : Reservation) (context : Option OperationContext) :
    Handler (OperationRecord × Bool) := do
  match ← getByIdempotencyKey reservation.idempotencyKey with
  | none => throwCommerce .idempotencyConflict "The operation reservation disappeared during replay."
  | some existing =>
    assertReplayIdentity existing input reservation.requestDigest reservation.commerceContract reservation.jobId context
    return (existing, true)

def reserve (input : ReserveInput) : Handler (OperationRecord × Bool) := do
  let idempotencyKey ← parseIdempotencyKey input.idempotencyKey
  let requestDigest ← assertDigest input.requestDigest "Operation request digest"
  let commerceContract ← normalizeAddress input.commerceContract "commerce contract"
  let jobId ← assertJobId input.jobId
  let nowUnix ← assertNow input.nowUnix
  let context ← parseContext (input.context.map OperationContext.json)
  let id ← Handler.ask .randomUuid
  let reservation : Reservation :=
    { id, idempotencyKey, requestDigest, chainId := input.chainId, commerceContract, jobId, kind := input.kind,
      signerRole := input.signerRole, context := context.map OperationContext.json, nowUnix }
  match ← Handler.statement (.reserve reservation) with
  | some row => return (← parseOperationRow row, false)
  | none => replayReserved input reservation context

/-- A guarded update. When it does not apply, the call is a replay if the row
already is what the update would have made it, and is refused otherwise. -/
def updateOrReplay (operationId : String) (change : OperationUpdate) (replays : OperationRecord → Bool)
    (refusal : String) : Handler OperationRecord := do
  match ← Handler.statement (.update operationId change) with
  | some row => parseOperationRow row
  | none =>
    match ← get operationId with
    | some existing => if replays existing then return existing else throwCommerce .idempotencyConflict refusal
    | none => throwCommerce .idempotencyConflict refusal

def markSubmitted (operationId transactionHash : String) (nowUnix : Option Int := none) : Handler OperationRecord := do
  let hash ← normalizeHash transactionHash "transaction hash"
  let nowUnix ← assertNow nowUnix
  updateOrReplay operationId (.markSubmitted hash nowUnix)
    (fun existing => existing.status == .submitted && existing.transactionHash == some hash)
    "The operation cannot be submitted from its current state."

def attachJobId (operationId jobId : String) : Handler OperationRecord := do
  match ← assertJobId (some jobId) with
  | none => throwCommerce .invalidJob "A created operation requires a numeric protocol job ID."
  | some jobId =>
    updateOrReplay operationId (.attachJobId jobId) (fun existing => existing.jobId == some jobId)
      "The operation already has a different protocol job ID."

def attachCallsId (operationId callsId : String) : Handler OperationRecord := do
  let callsId ← assertHex (.str callsId) "relay calls ID"
  updateOrReplay operationId (.attachCallsId callsId)
    (fun existing => (existing.context.bind fun context => context.callsId.join) == some callsId)
    "The operation already has a different relay calls ID."

def updateDispatch (operationId : String) (change : OperationUpdate) (missing : String) :
    Handler (OperationRecord × Bool) := do
  match ← Handler.statement (.update operationId change) with
  | some row => return (← parseOperationRow row, true)
  | none =>
    match ← get operationId with
    | some existing => return (existing, false)
    | none => throwCommerce .unknownJob missing

def claimExternalDispatch (operationId : String) (nowUnix : Option Int := none) : Handler (OperationRecord × Bool) := do
  let nowUnix ← assertNow nowUnix
  updateDispatch operationId (.claimExternalDispatch nowUnix)
    "The commerce operation disappeared during dispatch reservation."

def releaseExternalDispatch (operationId : String) (nowUnix : Option Int := none) :
    Handler (OperationRecord × Bool) := do
  let nowUnix ← assertNow nowUnix
  updateDispatch operationId (.releaseExternalDispatch nowUnix)
    "The commerce operation disappeared during dispatch rejection."

def markReceipt (operationId : String) (status : ReceiptStatus) (transactionHash blockNumber blockHash : String)
    (logIndex : Option Int := none) (failureCode : Option String := none) (nowUnix : Option Int := none) :
    Handler OperationRecord := do
  let hash ← normalizeHash transactionHash "transaction hash"
  let blockHash ← normalizeHash blockHash "block hash"
  let blockNumber ← readDecimal "The receipt block number is invalid." (.str blockNumber)
  let logIndex ← assertLogIndex logIndex
  let nowUnix ← assertNow nowUnix
  updateOrReplay operationId (.markReceipt status hash blockNumber blockHash logIndex (safeFailureCode failureCode) nowUnix)
    (fun existing => existing.status == status.status && existing.transactionHash == some hash &&
      existing.blockHash == some blockHash)
    "The operation cannot accept this receipt from its current state."

def markUnknown (operationId : String) (failureCode : Option String := none) (nowUnix : Option Int := none) :
    Handler OperationRecord := do
  let nowUnix ← assertNow nowUnix
  updateOrReplay operationId (.markUnknown (safeFailureCode failureCode) nowUnix)
    (fun existing => existing.status == .unknown) "Only an unresolved operation can become unknown."

def markFailed (operationId : String) (failureCode : Option String := none) (nowUnix : Option Int := none) :
    Handler OperationRecord := do
  let nowUnix ← assertNow nowUnix
  updateOrReplay operationId (.markFailed (safeFailureCode failureCode) nowUnix)
    (fun existing => existing.status == .reverted && existing.transactionHash == none)
    "The operation cannot accept a terminal relay failure from its current state."

def reconcile (operationId : String) (status : ReconciledStatus) (nowUnix : Option Int := none) :
    Handler OperationRecord := do
  let nowUnix ← assertNow nowUnix
  updateOrReplay operationId (.reconcile status nowUnix) (fun existing => existing.status == status.status)
    "Only an unresolved operation can be reconciled."

def markManualReview (operationId : String) (failureCode : Option String := none) (nowUnix : Option Int := none) :
    Handler OperationRecord := do
  let nowUnix ← assertNow nowUnix
  updateOrReplay operationId (.markManualReview (safeFailureCode failureCode) nowUnix)
    (fun existing => existing.status == .manualReview)
    "The operation cannot be moved to manual review from its current state."

end OperationRepository

end Bnbera
