import Bnbera.Creator.Types
import Bnbera.Interleaving.Relying

namespace Bnbera.Creator

structure CreatorDeploymentBinding where
  deploymentId : String
  draftId : String
  userId : String
  authorityId : String
  configurationDigest : String

/-- The deployments that a worker may claim: queued ones, and unfinished ones whose lease of 30 seconds expired. -/
def isClaimable (now : Int) (row : DeploymentRow) : Bool :=
  (row.state = .queued && row.currentStep = .studioScaffoldPackage) ||
    ([DeploymentState.building, .deployingRuntime, .registeringIdentity, .publishingEvidence,
        .configuringCommerce].contains row.state && row.updatedAt < now - 30000)

/-- The row with what the joins of `claimNextQueuedDeployment` add to it. -/
def bindingOf (now : Int) (tables : Tables) (row : DeploymentRow) : Option CreatorDeploymentBinding := do
  let draft ← tables.draft row.draftId
  let event ← tables.events.find? fun event => event.deploymentId = row.id &&
    "T6 authority accepted".isPrefixOf event.statusMessage && event.references.authorityId.isSome
  let authorityId ← event.references.authorityId
  let authority ← tables.authorities.find? fun authority => authority.id = authorityId && authority.draftId = row.draftId &&
    authority.status = .active && now < authority.expiresAt
  return ⟨row.id, row.draftId, draft.creatorUserId, authority.id, row.configurationDigest⟩

/-- `ORDER BY d."createdAt" ASC, d.id ASC` -/
def isOlder (a b : DeploymentRow) : Bool := a.createdAt < b.createdAt || (a.createdAt = b.createdAt && a.id ≤ b.id)

def DeploymentRow.withLease (row : DeploymentRow) (now : Int) : DeploymentRow :=
  { row with state := if row.state = .queued then .building else row.state, updatedAt := now }

def claimedEvent (row : DeploymentRow) : EventRow where
  deploymentId := row.id
  attempt := row.attempt
  previousState := some .queued
  nextState := .building
  statusMessage := "CREATOR_WORKER_CLAIMED"
  references := { worker := some "creator-worker" }
  retryable := true

/-- `claimNextQueuedDeployment`. Rows that another transaction has locked are skipped. -/
def claimNextQueuedDeployment (now : Int) (locked : String → Bool) (tables : Tables) : Option CreatorDeploymentBinding × Tables :=
  let candidates := tables.deployments.filterMap fun row =>
    if isClaimable now row && !locked row.id then (bindingOf now tables row).map fun binding => (row, binding) else none
  match candidates.insertionSort fun a b => isOlder a.1 b.1 = true with
  | [] => (none, tables)
  | (row, binding) :: _ =>
    let first := row.state = .queued && !tables.hasEvent row.id "CREATOR_WORKER_CLAIMED"
    (some binding, tables.write row.id (·.withLease now) (if first then [claimedEvent row] else []))

structure CreatorBrowserAuthority where
  authorityId : String
  draftId : String
  ownerAddress : String
  walletAddress : String
  sessionPublicAddress : String
  sessionPublicKey : String
  policyDigest : String
  expiresAtUnix : Int
  status : AuthorityStatus
  grantTransactionHash : Option String
  revokeTransactionHash : Option String

def browserAuthorityFromRow (row : AuthorityRow) : CreatorBrowserAuthority where
  authorityId := row.id
  draftId := row.draftId
  ownerAddress := row.adminWallet
  walletAddress := row.executionWallet
  sessionPublicAddress := row.sessionPublicAddress
  sessionPublicKey := row.callsAllowlist.sessionPublicKey
  policyDigest := row.callsAllowlist.policyDigest
  expiresAtUnix := row.expiresAt / 1000
  status := row.status
  grantTransactionHash := row.keystoreRegistrationTx
  revokeTransactionHash := row.callsAllowlist.revocationTransactionHash

def isRevoked (userId authorityId sessionPublicKey : String) (tables : Tables) (row : AuthorityRow) : Bool :=
  row.id = authorityId && row.callsAllowlist.sessionPublicKey = sessionPublicKey &&
    (tables.draft row.draftId).any (·.creatorUserId = userId)

def AuthorityRow.withRevocation (row : AuthorityRow) (transactionHash : Option String) (now : Int) : AuthorityRow :=
  { row with
    status := .revoked
    callsAllowlist := { row.callsAllowlist with
      revocationTransactionHash := transactionHash.or row.callsAllowlist.revocationTransactionHash }
    updatedAt := now }

def recordBrowserRevocation (userId authorityId sessionPublicKey : String) (transactionHash : Option String) (now : Int)
    (tables : Tables) : Except CreatorFailure (CreatorBrowserAuthority × Tables) :=
  match tables.authorities.find? (isRevoked userId authorityId sessionPublicKey tables) with
  | none => .error (.repository "CREATOR_AUTHORITY_NOT_FOUND"
      "The browser authority was not found for this account or public key.")
  | some row =>
    .ok (browserAuthorityFromRow (row.withRevocation transactionHash now),
      { tables with authorities := tables.authorities.map fun other =>
          if isRevoked userId authorityId sessionPublicKey tables other then other.withRevocation transactionHash now else other })

/-- What `load` returns. -/
structure LoadedDeployment where
  stage : CreatorStage
  runtimeName : String
  projectRoot : String
  publicId : Option String
  endpoint : Option String
  publicConfig : CreatorRuntimeConfiguration
  configurationDigest : String

/-- `bnberahf${sha256(draftId).slice(0, 12)}` -/
def runtimeNameOf [Sha256] (draftId : String) : String :=
  "bnberahf" ++ String.ofList ((Sha256.sha256Hex draftId).text.toList.take 12)

def load [Sha256] (projectRoot deploymentId : String) (tables : Tables) : Except CreatorFailure LoadedDeployment :=
  match (tables.deployment deploymentId).bind fun row => (tables.draft row.draftId).map fun draft => (row, draft) with
  | none => .error (.repository "DEPLOYMENT_NOT_FOUND" "Creator deployment was not found or has an unsupported stage.")
  | some (row, draft) =>
    if canonicalRuntimeConfigurationDigest draft.configuration != row.configurationDigest then
      .error (.repository "CREATOR_PUBLIC_CONFIG_DIGEST_MISMATCH"
        "Creator deployment configuration no longer matches its persisted digest.")
    else .ok ⟨row.currentStep, runtimeNameOf row.draftId, projectRoot, row.agentCoreArn, row.publicUrl, draft.configuration,
      row.configurationDigest⟩

structure RecordInput where
  stage : CreatorStage
  publicId : Option String
  endpoint : Option String := none
  operationId : Option String := none
  reasonCode : String

/-- `input.reasonCode === "STUDIO_TEMPLATE_MISMATCH" ? "failed" : stageState[input.stage]` -/
def RecordInput.nextState (input : RecordInput) : DeploymentState :=
  if input.reasonCode = "STUDIO_TEMPLATE_MISMATCH" then .failed else stageState input.stage

def DeploymentRow.withRecord (row : DeploymentRow) (input : RecordInput) (now : Int) : DeploymentRow :=
  { row with
    state := input.nextState
    currentStep := input.stage
    agentCoreArn := input.publicId.or row.agentCoreArn
    publicUrl := input.endpoint.or row.publicUrl
    errorCode := if input.nextState = .failed then some "STUDIO_TEMPLATE_MISMATCH" else row.errorCode
    updatedAt := now }

def recordEvent (prior : DeploymentRow) (input : RecordInput) : EventRow where
  deploymentId := prior.id
  attempt := prior.attempt
  previousState := some prior.state
  nextState := input.nextState
  statusMessage := input.reasonCode
  references := { providerDeploymentId := input.publicId, endpoint := input.endpoint, handoffOperationId := input.operationId }
  retryable := false

/-- `record`, behind the check of its endpoint. -/
def record (deploymentId : String) (input : RecordInput) (now : Int) (tables : Tables) : Except CreatorFailure (Unit × Tables) :=
  match tables.deployment deploymentId with
  | none => .error (.repository "DEPLOYMENT_NOT_FOUND" "Creator deployment was not found.")
  | some prior => .ok ((), tables.write deploymentId (·.withRecord input now) [recordEvent prior input])

inductive IntentClaim
  | claimed
  | reconcile
deriving DecidableEq

def DeploymentRow.withIntent (row : DeploymentRow) (now : Int) : DeploymentRow :=
  { row with state := .deployingRuntime, currentStep := .deployReconcile, attempt := row.attempt + 1, updatedAt := now }

def intentEvent (row : DeploymentRow) : EventRow where
  deploymentId := row.id
  attempt := row.attempt + 1
  previousState := some row.state
  nextState := .deployingRuntime
  statusMessage := "STUDIO_DEPLOY_INTENT"
  references := { operation := some "bag deploy --provider bnb" }
  retryable := true

/-- `recordIntent`. A row that another transaction has locked is skipped. -/
def recordIntent (locked : Bool) (deploymentId : String) (now : Int) (tables : Tables) : IntentClaim × Tables :=
  match if locked then none else tables.deployment deploymentId with
  | none => (.reconcile, tables)
  | some row =>
    if row.agentCoreArn.isSome || tables.hasEvent deploymentId "STUDIO_DEPLOY_INTENT" then (.reconcile, tables)
    else (.claimed, tables.write deploymentId (·.withIntent now) [intentEvent row])

def DeploymentRow.withScaffold (row : DeploymentRow) (now : Int) : DeploymentRow :=
  { row with state := .building, updatedAt := now }

def scaffoldEvent (row : DeploymentRow) : EventRow where
  deploymentId := row.id
  attempt := row.attempt
  previousState := some row.state
  nextState := .building
  statusMessage := "STUDIO_SCAFFOLD_INTENT"
  references := {}
  retryable := true

def recordScaffoldIntent (locked : Bool) (deploymentId : String) (now : Int) (tables : Tables) : IntentClaim × Tables :=
  match if locked then none else tables.deployment deploymentId with
  | none => (.reconcile, tables)
  | some row =>
    if row.currentStep ≠ .studioScaffoldPackage then (.reconcile, tables)
    else if tables.hasEvent deploymentId "STUDIO_SCAFFOLD_INTENT" then (.reconcile, tables)
    else (.claimed, tables.write deploymentId (·.withScaffold now) [scaffoldEvent row])

section

open Interleaving

inductive LockKey
  | browserAuthority (draftId : String)
  | deployment (draftId : String)
  | activeWallet (wallet : String)
deriving DecidableEq

structure CreatorRuntimeAuthority where
  authorityId : String
  policyDigest : String
  secretReference : String
  expiresAt : String

structure CreatorBrowserAuthorityInput where
  walletAddress : String
  sessionPublicAddress : String
  policyDigest : String
  adminAddress : String
  sessionPublicKey : String
  grantIssuedAtUnix : Nat
  expiresAtUnix : Int
  grantTransactionHash : Option String

inductive StudioTemplate
  | ready
  | mismatch
deriving DecidableEq

def StudioTemplate.code : StudioTemplate → String
  | ready => "STUDIO_TEMPLATE_READY"
  | mismatch => "STUDIO_TEMPLATE_MISMATCH"

inductive CommandReason
  | ok
  | failed
  | timeout
  | signal
  | outputOverflow
deriving DecidableEq

def CommandReason.code : CommandReason → String
  | ok => "STUDIO_COMMAND_OK"
  | failed => "STUDIO_COMMAND_FAILED"
  | timeout => "STUDIO_COMMAND_TIMEOUT"
  | signal => "STUDIO_COMMAND_SIGNAL"
  | outputOverflow => "STUDIO_COMMAND_OUTPUT_OVERFLOW"

structure CommandResult where
  exitCode : Int
  reasonCode : CommandReason

structure StudioDeploymentRecord where
  deploymentId : String
  endpoint : Option String

inductive HandoffStatus
  | confirmed
  | pending
  | failed
deriving DecidableEq

structure CreatorHandoffOutcome where
  status : HandoffStatus
  operationId : String

def isConfirmed (outcome : CreatorHandoffOutcome) : Bool := outcome.status = .confirmed && trim outcome.operationId != ""

/-- The calls of the repository's operations and of the worker. Those on a Studio adapter and on the handoffs of an
execution bear the deployment that it is about. -/
inductive CreatorCall
  | lock (key : LockKey)
  | ownDraft (userId draftId : String)
  | activeAuthority (draftId : String)
  | usableWallet (authorityId draftId : String)
  | activeForWallet (wallet draftId : String)
  | priorDeployment (draftId : String)
  | commit
  | commitAuthority (draftId : String) (input : CreatorBrowserAuthorityInput)
  | commitDeployment (draftId : String) (configuration : CreatorRuntimeConfiguration) (authority : CreatorRuntimeAuthority)
      (executionWallet : String)
  | rollback
  | claimNextQueuedDeployment
  | recordBrowserRevocation (userId authorityId sessionPublicKey : String) (transactionHash : Option String)
  | load (projectRoot deploymentId : String)
  | assertPublicEndpoint (endpoint : String)
  | record (deploymentId : String) (input : RecordInput)
  | recordIntent (deploymentId : String)
  | hasDeployIntent (deploymentId : String)
  | recordScaffoldIntent (deploymentId : String)
  | inspect (deploymentId : String) (current : LoadedDeployment)
  | materialize (deploymentId : String) (current : LoadedDeployment)
  | install (deploymentId : String) (command : List String) (cwd : String)
  | run (deploymentId : String) (command : List String) (cwd : String)
  | status (deploymentId : String) (command : List String)
  | verifyEndpoint (deploymentId endpoint : String)
  | recheckAuthority (deploymentId : String)
  | registerAndVerify (deploymentId endpoint : String)
  | publishMarketplace (deploymentId : String)
  | verifyFundedJob (deploymentId endpoint : String) (configuration : CreatorRuntimeConfiguration) (configurationDigest : String)
  | activateCommerce (deploymentId : String)

/-- What a call returns where it does not throw. -/
@[reducible] def CreatorCall.Value : CreatorCall → Type
  | ownDraft .. => Option DraftRow
  | activeAuthority _ => Option AuthorityRow
  | usableWallet .. => Option String
  | activeForWallet .. => Option String
  | priorDeployment _ => Option DeploymentRow
  | commitAuthority .. => AuthorityRow
  | commitDeployment .. => DeploymentRow
  | claimNextQueuedDeployment => Option CreatorDeploymentBinding
  | recordBrowserRevocation .. => CreatorBrowserAuthority
  | load .. => LoadedDeployment
  | recordIntent _ => IntentClaim
  | hasDeployIntent _ => Bool
  | recordScaffoldIntent _ => IntentClaim
  | inspect .. => StudioTemplate
  | materialize .. => StudioTemplate
  | install .. => CommandResult
  | run .. => CommandResult
  | status .. => Option StudioDeploymentRecord
  | verifyEndpoint .. => Bool
  | registerAndVerify .. => CreatorHandoffOutcome
  | publishMarketplace _ => CreatorHandoffOutcome
  | verifyFundedJob .. => CreatorHandoffOutcome
  | activateCommerce _ => CreatorHandoffOutcome
  | _ => Unit

abbrev CreatorCall.Answer : CreatorCall → Type := fun op => Except CreatorFailure op.Value

abbrev CreatorProgram := Program CreatorCall CreatorCall.Answer

abbrev Work := ExceptT CreatorFailure CreatorProgram

def CreatorCall.isTransactional : CreatorCall → Bool
  | lock _ | commit | commitAuthority .. | commitDeployment .. | rollback | activeAuthority _ | usableWallet .. | activeForWallet ..
  | priorDeployment _ => true
  | _ => false

def CreatorCall.isWorkers : CreatorCall → Bool
  | record .. | recordIntent _ | recordScaffoldIntent _ | materialize .. | run .. => true
  | _ => false

abbrev ask (op : CreatorCall) : Work op.Value := Program.attempt op

def orThrow {α : Type} (code message : String) : Option α → Except CreatorFailure α
  | some value => .ok value
  | none => .error (.repository code message)

def inTransaction {α : Type} (body : Work α) : Work α :=
  tryCatch body fun error => do
    ask .rollback
    throw error

def draftNotFound {α : Type} : Option α → Except CreatorFailure α := orThrow "DRAFT_NOT_FOUND" "Creator draft not found."

def isSameAuthority (prior : AuthorityRow) (input : CreatorBrowserAuthorityInput) : Bool :=
  lower prior.callsAllowlist.policyDigest = lower input.policyDigest &&
    lower prior.sessionPublicAddress = lower input.sessionPublicAddress

def persistAuthority (draftId : String) (input : CreatorBrowserAuthorityInput) : Option AuthorityRow → Work CreatorBrowserAuthority
  | some prior =>
    if isSameAuthority prior input then do
      ask .commit
      return browserAuthorityFromRow prior
    else throw (.repository "CREATOR_AUTHORITY_EXISTS" "This draft already has a different active browser authority.")
  | none => do
    let row ← ask (.commitAuthority draftId input)
    return browserAuthorityFromRow row

def recordBrowserAuthority (userId draftId : String) (input : CreatorBrowserAuthorityInput) : Work CreatorBrowserAuthority :=
  inTransaction do
    ask (.lock (.browserAuthority draftId))
    let draft ← ask (.ownDraft userId draftId)
    let _ ← liftM (draftNotFound draft)
    let existing ← ask (.activeAuthority draftId)
    persistAuthority draftId input existing

structure CreatorDraft where
  id : String
  name : String
  slug : String
  status : String
  createdAt : Int
  deploymentId : String
  deploymentState : DeploymentState
  currentStep : CreatorStage
  authorityId : String

def queuedDraft (draft : DraftRow) (deployment : DeploymentRow) (authority : CreatorRuntimeAuthority) : CreatorDraft :=
  ⟨draft.id, draft.name, draft.slug, draft.status, draft.createdAt, deployment.id, deployment.state, deployment.currentStep,
    authority.authorityId⟩

def refuseActiveWallet : Option String → Except CreatorFailure Unit
  | some _ => .error (.repository "CREATOR_ACTIVE_WALLET_EXISTS"
      "That Altana execution wallet already has an active Creator agent.")
  | none => .ok ()

def insertDeployment (draftId : String) (configuration : CreatorRuntimeConfiguration) (authority : CreatorRuntimeAuthority)
    (executionWallet : String) : Option DeploymentRow → Work DeploymentRow
  | some existing => do
    ask .commit
    return existing
  | none => ask (.commitDeployment draftId configuration authority executionWallet)

def queueDeployment (userId draftId : String) (authority : CreatorRuntimeAuthority) : Work CreatorDraft :=
  inTransaction do
    ask (.lock (.deployment draftId))
    let found ← ask (.ownDraft userId draftId)
    let draft ← liftM (draftNotFound found)
    let wallet ← ask (.usableWallet authority.authorityId draftId)
    let executionWallet ← liftM (orThrow "CREATOR_AUTHORITY_WALLET_UNAVAILABLE"
      "An active T6 execution wallet is required before deployment." wallet)
    ask (.lock (.activeWallet (lower executionWallet)))
    let active ← ask (.activeForWallet executionWallet draftId)
    liftM (refuseActiveWallet active)
    let prior ← ask (.priorDeployment draftId)
    let deployment ← insertDeployment draftId draft.configuration authority executionWallet prior
    return queuedDraft draft deployment authority

end

end Bnbera.Creator
