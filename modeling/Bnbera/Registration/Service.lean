import Bnbera.Interleaving.Relying
import Bnbera.Registration.Transactions

namespace Bnbera.Registration

open Creator Interleaving Publication

/-- The calls of the service. Those that start with a time are transactions that began at that time and hold the
advisory lock of the deployment; the last ones go to the registry. -/
inductive RegistrationCall
  | begin
  | ensureIntent (startedAt : Int) (userId : String) (phase : Option CreatorRegistrationPhase)
      (requesterAddress : Option String) (reservePhase : Bool)
  | recordResult (startedAt : Int) (userId : String) (input : CreatorRegistrationResultInput)
      (requesterAddress : Option String) (prepared : CreatorRegistrationIntent)
  | appendReconcile (startedAt : Int) (userId : String) (requesterAddress : Option String) (finding : Finding)
  | appendOperation (startedAt : Int) (userId : String) (requesterAddress : Option String)
      (intent : CreatorRegistrationIntent) (identity : RegistrationIdentity) (transactionHash : Option String) (uriDigest : String)
  | deployment (userId : String)
  | events
  | agentCardEndpoint (publicUrl : String)
  | finalizedIdentity (userId agentId expectedUri : String) (intent : CreatorRegistrationIntent)
  | finalizedBlock
  | receipt (transactionHash : String)
  | findRegistered (owner agentUri : String) (fromBlock toBlock : Int)
  | readAgent (agentId : String) (blockNumber : Int)

/-- What a call returns where it does not throw. -/
@[reducible] def RegistrationCall.Value : RegistrationCall → Type
  | begin => Int
  | ensureIntent .. => Prepared
  | recordResult .. => Option CreatorRegistrationStatus
  | appendReconcile .. => Unit
  | appendOperation .. => Unit
  | deployment _ => Option DeploymentRow
  | events => List EventRow
  | agentCardEndpoint _ => String
  | finalizedIdentity .. => Option FinalizedIdentityRow
  | finalizedBlock => Int
  | receipt _ => Option CreatorRegistrationChainReceipt
  | findRegistered .. => List CreatorRegistrationChainLog
  | readAgent .. => Option CreatorRegistrationChainAgent

abbrev RegistrationCall.Answer : RegistrationCall → Type := fun op => Except RegistrationFailure op.Value

abbrev Work := ExceptT RegistrationFailure (Program RegistrationCall RegistrationCall.Answer)

abbrev ask (op : RegistrationCall) : Work op.Value := Program.attempt op

inductive RegistrationResponse
  | prepared (response : CreatorRegistrationPrepareResponse)
  | status (status : CreatorRegistrationStatus)

section
variable [Sha256] [ByteDigests] [RegistrationSdk] (deploymentId userId : String) (requesterAddress : Option String)

/-- `ensureIntent`, from its `BEGIN`. -/
def ensureIntentCall (phase : Option CreatorRegistrationPhase) (reservePhase : Bool) : Work Prepared := do
  let startedAt ← ask .begin
  ask (.ensureIntent startedAt userId phase requesterAddress reservePhase)

/-- What `prepare` answers. -/
def prepareResponse (phase : CreatorRegistrationPhase) (prepared : Prepared) :
    Except RegistrationFailure CreatorRegistrationPrepareResponse := do
  let status ← statusFromEvents deploymentId prepared.events prepared.intent
  match phase, status.agentId with
  | .mint, _ => return {
      status with
      canMint := prepared.reservedPhase
      phase := some .mint
      registrationFile := prepared.intent.registrationFile
      registrationUri := prepared.intent.registrationUri
      uriDigest := prepared.intent.uriDigest
      agentId := none }
  | .uri, none =>
    throw (.registration "CREATOR_REGISTRATION_MINT_PENDING" "The mint must be finalized before the URI update can be signed.")
  | .uri, some agentId => do
    let file ← finalizedCreatorRegistrationFile prepared.intent.registrationFile agentId
    let registrationUri ← encodedCreatorRegistrationUri file
    return {
      status with
      canSetUri := prepared.reservedPhase
      phase := some .uri
      registrationFile := file
      registrationUri
      uriDigest := creatorRegistrationUriDigest registrationUri
      agentId := some agentId }

def prepare (phase : CreatorRegistrationPhase) : Work CreatorRegistrationPrepareResponse := do
  let prepared ← ensureIntentCall userId requesterAddress (some phase) true
  liftM (prepareResponse deploymentId phase prepared)

def refreshedStatus (intent : CreatorRegistrationIntent) : Work CreatorRegistrationStatus := do
  let events ← ask .events
  liftM (statusFromEvents deploymentId events intent)

/-- The end of `recordResult` behind its transaction. -/
def afterResult (prepared : CreatorRegistrationIntent) : Option CreatorRegistrationStatus → Work CreatorRegistrationStatus
  | some current => return current
  | none => do
    let refreshed ← ask .events
    let stored ← liftM (asIntent refreshed deploymentId)
    liftM (statusFromEvents deploymentId refreshed (stored.getD prepared))

def recordResultCall (input : CreatorRegistrationResultInput) : Work CreatorRegistrationStatus := do
  let prepared ← ensureIntentCall userId requesterAddress (some input.phase) false
  let startedAt ← ask .begin
  let recorded ← ask (.recordResult startedAt userId input requesterAddress prepared.intent)
  afterResult deploymentId prepared.intent recorded

def appendReconcileCall (finding : Finding) : Work Unit := do
  let startedAt ← ask .begin
  ask (.appendReconcile startedAt userId requesterAddress finding)

def conclude (intent : CreatorRegistrationIntent) (finding : Finding) : Work CreatorRegistrationStatus := do
  appendReconcileCall userId requesterAddress finding
  refreshedStatus deploymentId intent

def noted (intent : CreatorRegistrationIntent) (worth : Bool) (finding : Finding) (events : List EventRow)
    (status : CreatorRegistrationStatus) : Work (List EventRow × CreatorRegistrationStatus) :=
  if worth then do
    appendReconcileCall userId requesterAddress finding
    let events ← ask .events
    let status ← liftM (statusFromEvents deploymentId events intent)
    return (events, status)
  else return (events, status)

/-- The last part of `reconcile`: the identity that the index has of the agent. -/
def reconcileIdentity (intent : CreatorRegistrationIntent) (agentId finalUri finalDigest : String)
    (status : CreatorRegistrationStatus) : Work CreatorRegistrationStatus := do
  let row ← ask (.finalizedIdentity userId agentId finalUri intent)
  match row.bind fun row => identityFromRow row intent finalUri finalDigest with
  | none => conclude deploymentId userId requesterAddress intent (.identityPending agentId status.uriTransactionHash finalDigest)
  | some identity => do
    let startedAt ← ask .begin
    ask (.appendOperation startedAt userId requesterAddress intent identity status.uriTransactionHash finalDigest)
    refreshedStatus deploymentId intent

/-- `reconcile`, once the mint is confirmed: the URI that the registry shows. -/
def reconcileUri (intent : CreatorRegistrationIntent) (agentId : String) (chainAgent : CreatorRegistrationChainAgent)
    (events : List EventRow) (status : CreatorRegistrationStatus) : Work CreatorRegistrationStatus := do
  let finalFile ← liftM (finalizedCreatorRegistrationFile intent.registrationFile agentId)
  let finalUri ← liftM (encodedCreatorRegistrationUri finalFile)
  let finalDigest := creatorRegistrationUriDigest finalUri
  let uriIntent := events.any (·.statusMessage = .uriIntent)
  if status.state = .failed ∨ status.state = .mintPending then return status
  else if chainAgent.agentUri ≠ (if uriIntent then finalUri else intent.registrationUri) then
    conclude deploymentId userId requesterAddress intent
      (if uriIntent then .finalUriNotConfirmed agentId status.uriTransactionHash finalDigest
        else .initialUriUnreadable agentId status.uriTransactionHash finalDigest)
  else if !uriIntent then return status
  else do
    let (_, status) ← noted deploymentId userId requesterAddress intent (status.state ≠ .registered)
      (.uriConfirmed agentId status.uriCallsId status.uriTransactionHash finalDigest) events status
    reconcileIdentity deploymentId userId requesterAddress intent agentId finalUri finalDigest status

/-- `reconcile`, once the agent is known: what the registry shows of it. -/
def reconcileAgent (intent : CreatorRegistrationIntent) (finalizedBlock : Int) (agentId : String)
    (mintTransactionHash : Option String) : Work CreatorRegistrationStatus := do
  let chainAgent ← ask (.readAgent agentId finalizedBlock)
  match chainAgent.filter fun agent => lower agent.owner = lower intent.ownerAddress with
  | none => conclude deploymentId userId requesterAddress intent (.agentUnreadable agentId mintTransactionHash)
  | some agent => do
    let events ← ask .events
    let status ← liftM (statusFromEvents deploymentId events intent)
    let (events, status) ← noted deploymentId userId requesterAddress intent
      (status.mintCallsId.isNone || status.agentId ≠ some agentId)
      (.mintConfirmed agentId status.mintCallsId mintTransactionHash intent.uriDigest) events status
    reconcileUri deploymentId userId requesterAddress intent agentId agent events status

def reconcileLogs (intent : CreatorRegistrationIntent) (finalizedBlock scanStartBlock scanCursor scanToBlock : Int)
    (mintTransactionHash : Option String) : List CreatorRegistrationChainLog → Work CreatorRegistrationStatus
  | [] => conclude deploymentId userId requesterAddress intent
      (.mintNotFound mintTransactionHash intent.uriDigest scanStartBlock (scanToBlock + 1))
  | [log] => do
    let _ ← liftM (assertAgentId (some log.agentId))
    let hash := log.transactionHash.or mintTransactionHash
    appendReconcileCall userId requesterAddress
      (.registeredEvent log.agentId hash intent.uriDigest scanStartBlock (log.blockNumber + 1))
    reconcileAgent deploymentId userId requesterAddress intent finalizedBlock log.agentId hash
  | logs => conclude deploymentId userId requesterAddress intent
      (.ambiguous logs.length scanStartBlock scanCursor mintTransactionHash intent.uriDigest)

def scanToBlock (scanCursor finalizedBlock : Int) : Int :=
  if scanCursor + reconcileBlockWindow - 1 > finalizedBlock then finalizedBlock else scanCursor + reconcileBlockWindow - 1

/-- `reconcile`, while no agent is known: the scan for its registration. -/
def reconcileScan (intent : CreatorRegistrationIntent) (status : CreatorRegistrationStatus) (finalizedBlock : Int) :
    Work CreatorRegistrationStatus :=
  match blockNumber status.mintScanStartBlock with
  | none => conclude deploymentId userId requesterAddress intent (.anchorMissing status.mintTransactionHash intent.uriDigest)
  | some scanStartBlock =>
    let scanCursor := (blockNumber status.mintScanCursor).getD scanStartBlock
    if scanCursor ≤ finalizedBlock then do
      let logs ← ask (.findRegistered intent.ownerAddress intent.registrationUri scanCursor (scanToBlock scanCursor finalizedBlock))
      reconcileLogs deploymentId userId requesterAddress intent finalizedBlock scanStartBlock scanCursor
        (scanToBlock scanCursor finalizedBlock) status.mintTransactionHash logs
    else refreshedStatus deploymentId intent

/-- `reconcile`, with the receipt of the mint where one was asked for. -/
def reconcileMint (intent : CreatorRegistrationIntent) (status : CreatorRegistrationStatus) (finalizedBlock : Int)
    (agentId : String) (mintTransactionHash : String) :
    Option CreatorRegistrationChainReceipt → Work CreatorRegistrationStatus
  | none => reconcileAgent deploymentId userId requesterAddress intent finalizedBlock agentId (some mintTransactionHash)
  | some receipt =>
    if receipt.reverted then
      conclude deploymentId userId requesterAddress intent (.mintReverted agentId mintTransactionHash)
    else if receipt.blockNumber > finalizedBlock then
      reconcileScan deploymentId userId requesterAddress intent status finalizedBlock
    else reconcileAgent deploymentId userId requesterAddress intent finalizedBlock agentId (some mintTransactionHash)

def reconcile : Work CreatorRegistrationStatus := do
  let prepared ← ensureIntentCall userId requesterAddress none true
  let events ← ask .events
  let status ← liftM (statusFromEvents deploymentId events prepared.intent)
  let finalizedBlock ← ask .finalizedBlock
  match status.agentId, status.mintTransactionHash with
  | some agentId, some hash => do
    let receipt ← ask (.receipt hash)
    reconcileMint deploymentId userId requesterAddress prepared.intent status finalizedBlock agentId hash receipt
  | some agentId, none =>
    reconcileAgent deploymentId userId requesterAddress prepared.intent finalizedBlock agentId none
  | none, _ => reconcileScan deploymentId userId requesterAddress prepared.intent status finalizedBlock

/-- `buildIntent` outside of a transaction. -/
def buildIntentCall : Work CreatorRegistrationIntent := do
  let row ← ask (.deployment userId)
  let (row, publicUrl, adminWallet, executionWallet) ← liftM (deployment row requesterAddress)
  liftM (refuseIf (row.creatorUserId ≠ userId)
    (RegistrationFailure.registration "DEPLOYMENT_NOT_FOUND" "Creator deployment not found."))
  let endpoint ← ask (.agentCardEndpoint publicUrl)
  liftM (builtIntent deploymentId row adminWallet executionWallet endpoint)

def shownIntent : Option CreatorRegistrationIntent → Work CreatorRegistrationIntent
  | some intent => return intent
  | none => buildIntentCall deploymentId userId requesterAddress

def status : Work CreatorRegistrationStatus := do
  let row ← ask (.deployment userId)
  let _ ← liftM (deployment row requesterAddress)
  let events ← ask .events
  let stored ← liftM (asIntent events deploymentId)
  let intent ← shownIntent deploymentId userId requesterAddress stored
  liftM (statusFromEvents deploymentId events intent)

end

/-- The calls of `CreatorRegistrationService` for one deployment. -/
inductive RegistrationRequest
  | prepare (userId : String) (phase : CreatorRegistrationPhase) (requesterAddress : Option String)
  | recordResult (userId : String) (input : CreatorRegistrationResultInput) (requesterAddress : Option String)
  | reconcile (userId : String) (requesterAddress : Option String)
  | status (userId : String) (requesterAddress : Option String)

abbrev RegistrationOutcome := Except RegistrationFailure RegistrationResponse

def RegistrationRequest.work [Sha256] [ByteDigests] [RegistrationSdk] (deploymentId : String) :
    RegistrationRequest → Work RegistrationResponse
  | prepare userId phase requesterAddress =>
    .prepared <$> Registration.prepare deploymentId userId requesterAddress phase
  | recordResult userId input requesterAddress =>
    .status <$> recordResultCall deploymentId userId requesterAddress input
  | reconcile userId requesterAddress => .status <$> Registration.reconcile deploymentId userId requesterAddress
  | status userId requesterAddress => .status <$> Registration.status deploymentId userId requesterAddress

end Bnbera.Registration
