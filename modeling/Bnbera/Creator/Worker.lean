import Bnbera.Creator.Calls

namespace Bnbera.Creator

/-- What an execution of the worker is given beside its store and its adapters. -/
structure StudioStepInput where
  deploymentId : String
  projectRoot : String
  ready : Bool
  canInstall : Bool
  hasHandoffs : Bool

/-- `join(projectRoot, runtimeName)` -/
def LoadedDeployment.workspace (current : LoadedDeployment) : String := current.projectRoot ++ "/" ++ current.runtimeName

def nativeStudioDeployCommand (projectRoot : String) : List String :=
  ["bag", "deploy", "--provider", "bnb", "--project-root", projectRoot, "--yes"]

def nativeStudioInstallCommand (workspaceParent : String) : List String :=
  ["pnpm", "install", "--frozen-lockfile", "--ignore-scripts", "--force", "--store-dir", workspaceParent ++ "/.pnpm-store"]

def nativeStudioStatusCommand (projectRoot : String) : List String :=
  ["bag", "deploy", "status", "--provider", "bnb", "--project-root", projectRoot, "--json", "--no-probe"]

def assertEndpoint : Option String → Work Unit
  | none => return
  | some endpoint => ask (.assertPublicEndpoint endpoint)

/-- `store.record` -/
def storeRecord (deploymentId : String) (input : RecordInput) : Work Unit := do
  assertEndpoint input.endpoint
  ask (.record deploymentId input)

def advanceScaffold (deploymentId readyReason : String) (outcome : StudioTemplate) : Work (Option CreatorStage) := do
  storeRecord deploymentId { stage := .studioScaffoldPackage, publicId := none, reasonCode := outcome.code }
  if outcome = .ready then do
    storeRecord deploymentId { stage := .deployReconcile, publicId := none, reasonCode := readyReason }
    return some .deployReconcile
  else return none

def reconcileScaffold (deploymentId : String) (current : LoadedDeployment) : StudioTemplate → Work StudioTemplate
  | .ready => return .ready
  | .mismatch => ask (.materialize deploymentId current)

def claimedScaffold (deploymentId : String) (current : LoadedDeployment) : IntentClaim → Work (Option CreatorStage)
  | .reconcile => do
    let inspected ← ask (.inspect deploymentId current)
    let reconciled ← reconcileScaffold deploymentId current inspected
    advanceScaffold deploymentId "STUDIO_TEMPLATE_RECONCILED" reconciled
  | .claimed => do
    let materialized ← ask (.materialize deploymentId current)
    advanceScaffold deploymentId "STUDIO_TEMPLATE_READY" materialized

def scaffoldStep (deploymentId : String) (current : LoadedDeployment) : Work (Option CreatorStage) := do
  let claim ← ask (.recordScaffoldIntent deploymentId)
  claimedScaffold deploymentId current claim

def recordHandoff (deploymentId : String) (current : LoadedDeployment) (next : CreatorStage) (pendingReason confirmedReason : String)
    (outcome : CreatorHandoffOutcome) : Work (Option CreatorStage) :=
  if isConfirmed outcome then do
    storeRecord deploymentId { stage := next, publicId := current.publicId, endpoint := current.endpoint
                               operationId := some outcome.operationId, reasonCode := confirmedReason }
    return some next
  else do
    storeRecord deploymentId { stage := current.stage, publicId := current.publicId, endpoint := current.endpoint
                               operationId := some outcome.operationId, reasonCode := pendingReason }
    return none

def registerStep (input : StudioStepInput) (current : LoadedDeployment) : Work (Option CreatorStage) :=
  match current.endpoint, input.hasHandoffs with
  | some endpoint, true => do
    let result ← ask (.registerAndVerify input.deploymentId endpoint)
    recordHandoff input.deploymentId current .marketplacePublish "ERC8004_BROWSER_SIGNATURE_OR_FINALIZED_READ_PENDING"
      "G1_REGISTRATION_CONFIRMED" result
  | _, _ => return none

def publishStep (input : StudioStepInput) (current : LoadedDeployment) : Work (Option CreatorStage) :=
  match input.hasHandoffs with
  | true => do
    let publication ← ask (.publishMarketplace input.deploymentId)
    recordHandoff input.deploymentId current .g2FundedJobReconcile "G1_PUBLICATION_RECONCILIATION_PENDING"
      "G1_PUBLICATION_CONFIRMED" publication
  | false => return none

def fundedJobStep (input : StudioStepInput) (current : LoadedDeployment) : Work (Option CreatorStage) :=
  match input.hasHandoffs, current.endpoint with
  | true, some endpoint => do
    let funded ← ask (.verifyFundedJob input.deploymentId endpoint current.publicConfig current.configurationDigest)
    recordHandoff input.deploymentId current .g2ActivationReconcile "G2_FUNDED_JOB_RECONCILIATION_PENDING"
      "G2_FUNDED_JOB_CONFIRMED" funded
  | _, _ => return none

def activationStep (input : StudioStepInput) (current : LoadedDeployment) : Work (Option CreatorStage) :=
  match input.hasHandoffs, current.endpoint with
  | true, some _ => do
    let activation ← ask (.activateCommerce input.deploymentId)
    recordHandoff input.deploymentId current .completed "G2_ACTIVATION_OFFER_RECONCILIATION_PENDING"
      "G1_PUBLICATION_G2_FUNDED_JOB_AND_ACTIVATION_CONFIRMED" activation
  | _, _ => return none

/-- `recorded.endpoint !== null && await verifyEndpoint(recorded.endpoint)` -/
def verifyRecorded (deploymentId : String) : Option String → Work Bool
  | none => return false
  | some endpoint => ask (.verifyEndpoint deploymentId endpoint)

def confirmDeployed (deploymentId : String) (current : LoadedDeployment) (endpoint : Option String) (verified : Bool) :
    Work (Option CreatorStage) :=
  if verified then do
    storeRecord deploymentId { stage := .erc8004RegisterReconcile, publicId := current.publicId, endpoint := endpoint
                               reasonCode := "STUDIO_DEPLOYMENT_CONFIRMED" }
    return some .erc8004RegisterReconcile
  else do
    storeRecord deploymentId { stage := .deployReconcile, publicId := current.publicId, endpoint := current.endpoint
                               reasonCode := "STUDIO_ENDPOINT_UNVERIFIED" }
    return none

def reconcileNamed (deploymentId publicId : String) (current : LoadedDeployment) : Work (Option CreatorStage) := do
  let recorded ← ask (.status deploymentId (nativeStudioStatusCommand current.workspace))
  match recorded with
  | none => return none
  | some found =>
    if found.deploymentId = publicId then do
      let verified ← verifyRecorded deploymentId found.endpoint
      confirmDeployed deploymentId current found.endpoint verified
    else return none

def reconcileProviderStatus (deploymentId : String) (current : LoadedDeployment) : Work (Option CreatorStage) := do
  let recorded ← ask (.status deploymentId (nativeStudioStatusCommand current.workspace))
  storeRecord deploymentId { stage := .deployReconcile, publicId := recorded.map (·.deploymentId)
                             endpoint := recorded.bind (·.endpoint)
                             reasonCode := if recorded.isNone then "STUDIO_DEPLOYMENT_UNKNOWN" else "STUDIO_DEPLOYMENT_RECORDED" }
  return none

def unlessPending (deploymentId : String) (current : LoadedDeployment) (otherwise : Work (Option CreatorStage)) :
    Work (Option CreatorStage) := do
  let pending ← ask (.hasDeployIntent deploymentId)
  if pending then reconcileProviderStatus deploymentId current else otherwise

def recordUnready (deploymentId reasonCode : String) : Work (Option CreatorStage) := do
  storeRecord deploymentId { stage := .deployReconcile, publicId := none, reasonCode }
  return none

def installFailure : CommandReason → String
  | .timeout => "STUDIO_DEPENDENCY_INSTALL_TIMEOUT"
  | .outputOverflow => "STUDIO_DEPENDENCY_INSTALL_OUTPUT_OVERFLOW"
  | .signal => "STUDIO_DEPENDENCY_INSTALL_SIGNAL"
  | _ => "STUDIO_DEPENDENCY_INSTALL_FAILED"

def deploy (deploymentId : String) (current : LoadedDeployment) : Work (Option CreatorStage) := do
  ask (.recheckAuthority deploymentId)
  let result ← ask (.run deploymentId (nativeStudioDeployCommand current.workspace) current.workspace)
  let recorded ← ask (.status deploymentId (nativeStudioStatusCommand current.workspace))
  let verified ← verifyRecorded deploymentId (recorded.bind (·.endpoint))
  storeRecord deploymentId { stage := .deployReconcile, publicId := recorded.map (·.deploymentId)
                             endpoint := if verified then recorded.bind (·.endpoint) else none
                             reasonCode := if recorded.isNone then result.reasonCode.code
                               else if verified then "STUDIO_DEPLOYMENT_RECORDED" else "STUDIO_ENDPOINT_UNVERIFIED" }
  return none

def claimedDeploy (deploymentId : String) (current : LoadedDeployment) : IntentClaim → Work (Option CreatorStage)
  | .reconcile => unlessPending deploymentId current (reconcileProviderStatus deploymentId current)
  | .claimed => deploy deploymentId current

def claimDeploy (deploymentId : String) (current : LoadedDeployment) : Work (Option CreatorStage) := do
  let claim ← ask (.recordIntent deploymentId)
  claimedDeploy deploymentId current claim

def afterInstall (deploymentId : String) (current : LoadedDeployment) (installed : CommandResult) : Work (Option CreatorStage) :=
  if installed.exitCode = 0 then do
    let inspected ← ask (.inspect deploymentId current)
    match inspected with
    | .ready => claimDeploy deploymentId current
    | .mismatch => recordUnready deploymentId StudioTemplate.mismatch.code
  else recordUnready deploymentId (installFailure installed.reasonCode)

def install (deploymentId : String) (current : LoadedDeployment) : Work CommandResult :=
  tryCatch (ask (.install deploymentId (nativeStudioInstallCommand current.projectRoot) current.workspace)) fun _ =>
    return ⟨1, .failed⟩

def prepareDeploy (input : StudioStepInput) (current : LoadedDeployment) : StudioTemplate → Work (Option CreatorStage)
  | .mismatch => unlessPending input.deploymentId current (recordUnready input.deploymentId StudioTemplate.mismatch.code)
  | .ready =>
    if input.canInstall then do
      let installed ← install input.deploymentId current
      afterInstall input.deploymentId current installed
    else claimDeploy input.deploymentId current

def inspectDeploy (input : StudioStepInput) (current : LoadedDeployment) : Work (Option CreatorStage) := do
  let inspected ← ask (.inspect input.deploymentId current)
  prepareDeploy input current inspected

def deployStep (input : StudioStepInput) (current : LoadedDeployment) : Work (Option CreatorStage) :=
  match current.publicId with
  | some publicId => reconcileNamed input.deploymentId publicId current
  | none => unlessPending input.deploymentId current (inspectDeploy input current)

def stageStep (input : StudioStepInput) (current : LoadedDeployment) : Work (Option CreatorStage) :=
  match current.stage with
  | .studioScaffoldPackage => scaffoldStep input.deploymentId current
  | .erc8004RegisterReconcile => registerStep input current
  | .marketplacePublish => publishStep input current
  | .g2FundedJobReconcile => fundedJobStep input current
  | .g2ActivationReconcile => activationStep input current
  | .deployReconcile => deployStep input current
  | .validate | .authorityReady | .completed => return none

/-- `runCreatorStudioStep` over `workerStore(projectRoot)` -/
def runCreatorStudioStep (input : StudioStepInput) : Work (Option CreatorStage) := do
  let current ← ask (.load input.projectRoot input.deploymentId)
  if input.ready then stageStep input current else return none

section

open Interleaving

abbrev CreatorEntry := Answered CreatorCall CreatorCall.Answer

/-- The tables beside the advisory locks and the threads that hold them. A thread whose connection is lost has
lost its locks with it. -/
structure CreatorState where
  tables : Tables
  now : Int
  held : List (LockKey × Nat)
  lost : List Nat
  log : List (Nat × CreatorEntry)

def released (i : Nat) (held : List (LockKey × Nat)) : List (LockKey × Nat) := held.filter fun lock => lock.2 ≠ i

namespace Tables

def ownDraft (userId draftId : String) (tables : Tables) : Option DraftRow :=
  tables.drafts.find? fun row => row.id = draftId && row.creatorUserId = userId

def activeAuthority (draftId : String) (tables : Tables) : Option AuthorityRow :=
  ((tables.authorities.filter fun row => row.draftId = draftId && row.status = .active).insertionSort
    fun a b => b.updatedAt ≤ a.updatedAt).head?

def usableWallet (authorityId draftId : String) (now : Int) (tables : Tables) : Option String :=
  (tables.authorities.find? fun row =>
    row.id = authorityId && row.draftId = draftId && row.status = .active && now < row.expiresAt).map (·.executionWallet)

def activeForWallet (wallet draftId : String) (tables : Tables) : Option String :=
  (tables.deployments.find? fun row => row.draftId ≠ draftId && row.state.isLive &&
    tables.authorities.any fun authority => authority.draftId = row.draftId && lower authority.executionWallet = lower wallet).map
      (·.id)

def priorDeployment (draftId : String) (tables : Tables) : Option DeploymentRow :=
  ((tables.deployments.filter fun row => row.draftId = draftId).insertionSort fun a b => b.createdAt ≤ a.createdAt).head?

end Tables

/-- `creator-browser:${draftId}:${sessionPublicAddress.slice(2, 14).toLowerCase()}` -/
def browserSessionId (draftId sessionPublicAddress : String) : String :=
  "creator-browser:" ++ draftId ++ ":" ++ lower (String.ofList ((sessionPublicAddress.toList.drop 2).take 12))

def authorityRow (id draftId : String) (input : CreatorBrowserAuthorityInput) (now : Int) : AuthorityRow where
  id := id
  draftId := draftId
  adminWallet := input.adminAddress
  executionWallet := input.walletAddress
  sessionPublicAddress := input.sessionPublicAddress
  callsAllowlist := ⟨browserSessionId draftId input.sessionPublicAddress, input.policyDigest, input.sessionPublicKey,
    input.grantIssuedAtUnix, "browser-sdk-grant-confirmed", none⟩
  expiresAt := input.expiresAtUnix * 1000
  keystoreRegistrationTx := input.grantTransactionHash
  status := .active
  updatedAt := now

def InsertsAuthority (draftId : String) (input : CreatorBrowserAuthorityInput) (now : Int) (tables : Tables)
    (row : AuthorityRow) (after : Tables) : Prop :=
  (∀ other ∈ tables.authorities, other.id ≠ row.id) ∧ row = authorityRow row.id draftId input now ∧
    after = { tables with authorities := tables.authorities ++ [row] }

def deploymentRow [Sha256] (id draftId : String) (configuration : CreatorRuntimeConfiguration) (now : Int) : DeploymentRow where
  id := id
  draftId := draftId
  agentCoreArn := none
  publicUrl := none
  configurationDigest := canonicalRuntimeConfigurationDigest configuration
  state := .queued
  currentStep := .studioScaffoldPackage
  attempt := 0
  errorCode := none
  createdAt := now
  updatedAt := now

def acceptedEvent [Sha256] (deploymentId draftId : String) (authority : CreatorRuntimeAuthority) (executionWallet : String) :
    EventRow where
  deploymentId := deploymentId
  attempt := 0
  previousState := none
  nextState := .queued
  statusMessage := acceptedMessage
  references := {
    runtimeName := some (runtimeNameOf draftId), authorityId := some authority.authorityId
    policyDigest := some authority.policyDigest, secretReference := some authority.secretReference
    authorityExpiresAt := some authority.expiresAt, agentWallet := some executionWallet }
  retryable := false

def InsertsDeployment [Sha256] (draftId : String) (configuration : CreatorRuntimeConfiguration)
    (authority : CreatorRuntimeAuthority) (executionWallet : String) (now : Int) (tables : Tables) (row : DeploymentRow) (after : Tables) : Prop :=
  (∀ other ∈ tables.deployments, other.id ≠ row.id) ∧ row = deploymentRow row.id draftId configuration now ∧
    after = { tables with
      deployments := tables.deployments ++ [row]
      events := tables.events ++
        if tables.events.any fun event => event.deploymentId = row.id && event.nextState = .queued then []
        else [acceptedEvent row.id draftId authority executionWallet] }

section
variable {α : Type}

/-- A statement of an open transaction; it sees what is committed. Where the connection is lost it fails. -/
def Reads (i : Nat) (value : α) (s : CreatorState) (answer : Except CreatorFailure α) (s' : CreatorState) : Prop :=
  s'.tables = s.tables ∧ s'.held = s.held ∧ (i ∉ s.lost ∧ answer = .ok value ∨ ∃ error, answer = .error error)

def Commits (i : Nat) (outcome : α → Tables → Prop) (s : CreatorState) (answer : Except CreatorFailure α) (s' : CreatorState) :
    Prop :=
  (i ∉ s.lost ∧ s'.held = released i s.held ∧
    ∃ value, outcome value s'.tables ∧ (answer = .ok value ∨ ∃ error, answer = .error error)) ∨
  s'.tables = s.tables ∧ s'.held = s.held ∧ ∃ error, answer = .error error

/-- A transaction that is one call: it holds the row that it is about from its first statement to its end. -/
def Writes (result : Except CreatorFailure (α × Tables)) (s : CreatorState) (answer : Except CreatorFailure α) (s' : CreatorState) :
    Prop :=
  s'.held = s.held ∧
    ((∃ value, result = .ok (value, s'.tables) ∧ (answer = .ok value ∨ ∃ error, answer = .error error)) ∨
      s'.tables = s.tables ∧ ∃ error, answer = .error error)

def Outside (s s' : CreatorState) : Prop := s'.tables = s.tables ∧ s'.held = s.held

end

def CreatorCall.exec [Sha256] (i : Nat) : Semantics CreatorCall CreatorCall.Answer CreatorState
  | .lock key, s, answer, s' => s'.tables = s.tables ∧
    ((i ∉ s.lost ∧ (∀ j, (key, j) ∈ s.held → j = i) ∧ s'.held = (key, i) :: s.held ∧ answer = .ok ()) ∨
      s'.held = s.held ∧ ∃ error, answer = .error error)
  | .ownDraft userId draftId, s, answer, s' => Reads i (s.tables.ownDraft userId draftId) s answer s'
  | .activeAuthority draftId, s, answer, s' => Reads i (s.tables.activeAuthority draftId) s answer s'
  | .usableWallet authorityId draftId, s, answer, s' => Reads i (s.tables.usableWallet authorityId draftId s.now) s answer s'
  | .activeForWallet wallet draftId, s, answer, s' => Reads i (s.tables.activeForWallet wallet draftId) s answer s'
  | .priorDeployment draftId, s, answer, s' => Reads i (s.tables.priorDeployment draftId) s answer s'
  | .commit, s, answer, s' => Commits i (fun _ after => after = s.tables) s answer s'
  | .commitAuthority draftId input, s, answer, s' => Commits i (InsertsAuthority draftId input s.now s.tables) s answer s'
  | .commitDeployment draftId configuration authority executionWallet, s, answer, s' =>
    Commits i (InsertsDeployment draftId configuration authority executionWallet s.now s.tables) s answer s'
  | .rollback, s, _, s' => s'.tables = s.tables ∧ s'.held = released i s.held
  | .claimNextQueuedDeployment, s, answer, s' =>
    ∃ locked, Writes (.ok (Creator.claimNextQueuedDeployment s.now locked s.tables)) s answer s'
  | .recordBrowserRevocation userId authorityId sessionPublicKey transactionHash, s, answer, s' =>
    Writes (Creator.recordBrowserRevocation userId authorityId sessionPublicKey transactionHash s.now s.tables) s answer s'
  | .load projectRoot deploymentId, s, answer, s' =>
    Outside s s' ∧ (answer = Creator.load projectRoot deploymentId s.tables ∨ ∃ error, answer = .error error)
  | .record deploymentId input, s, answer, s' => Writes (Creator.record deploymentId input s.now s.tables) s answer s'
  | .recordIntent deploymentId, s, answer, s' =>
    ∃ locked, Writes (.ok (Creator.recordIntent locked deploymentId s.now s.tables)) s answer s'
  | .hasDeployIntent deploymentId, s, answer, s' =>
    Outside s s' ∧ (answer = .ok (s.tables.hasEvent deploymentId "STUDIO_DEPLOY_INTENT") ∨ ∃ error, answer = .error error)
  | .recordScaffoldIntent deploymentId, s, answer, s' =>
    ∃ locked, Writes (.ok (Creator.recordScaffoldIntent locked deploymentId s.now s.tables)) s answer s'
  | _, s, _, s' => Outside s s'

inductive CreatorRequest
  | recordBrowserAuthority (userId draftId : String) (input : CreatorBrowserAuthorityInput)
  | recordBrowserRevocation (userId authorityId sessionPublicKey : String) (transactionHash : Option String)
  | queueDeployment (userId draftId : String) (authority : CreatorRuntimeAuthority)
  | claimNextQueuedDeployment
  | record (deploymentId : String) (input : RecordInput)
  | recordIntent (deploymentId : String)
  | studioStep (input : StudioStepInput)

inductive CreatorResponse
  | authority (authority : CreatorBrowserAuthority)
  | draft (draft : CreatorDraft)
  | binding (binding : Option CreatorDeploymentBinding)
  | recorded
  | intent (claim : IntentClaim)
  | stage (next : Option CreatorStage)

abbrev CreatorOutcome := Except CreatorFailure CreatorResponse

/-- `workerStore` refuses a workspace parent that is not absolute. -/
def overWorkerStore (input : StudioStepInput) : Work (Option CreatorStage) :=
  if "/".isPrefixOf input.projectRoot then runCreatorStudioStep input
  else throw (.repository "STUDIO_PROJECT_ROOT_INVALID" "Creator Studio workspace parent must be absolute.")

def CreatorRequest.work : CreatorRequest → Work CreatorResponse
  | recordBrowserAuthority userId draftId input => .authority <$> Creator.recordBrowserAuthority userId draftId input
  | recordBrowserRevocation userId authorityId sessionPublicKey transactionHash =>
    .authority <$> ask (.recordBrowserRevocation userId authorityId sessionPublicKey transactionHash)
  | queueDeployment userId draftId authority => .draft <$> Creator.queueDeployment userId draftId authority
  | claimNextQueuedDeployment => .binding <$> ask .claimNextQueuedDeployment
  | record deploymentId input => (fun _ => .recorded) <$> storeRecord deploymentId input
  | recordIntent deploymentId => .intent <$> ask (.recordIntent deploymentId)
  | studioStep input => .stage <$> overWorkerStore input

/-- The world beside the calls: time passes, drafts come and change, and a connection may be lost. -/
structure Elsewhere (before after : CreatorState) : Prop where
  tables : after.tables = { before.tables with drafts := after.tables.drafts }
  clock : before.now ≤ after.now
  connections : after.lost = before.lost ∧ after.held = before.held ∨
    ∃ i, after.lost = i :: before.lost ∧ after.held = released i before.held
  log : after.log = before.log

abbrev Circumstance := Nat → CreatorCall → CreatorState → Prop

def creatorExec [Sha256] (permits : Circumstance) (i : Nat) (_ : CreatorRequest) :
    Semantics CreatorCall CreatorCall.Answer CreatorState :=
  fun op s answer s' => permits i op s ∧ op.exec i s answer s' ∧ s'.now = s.now ∧ s'.lost = s.lost ∧
    s'.log = s.log ++ [(i, ⟨op, answer⟩)]

def creatorSystem [Sha256] (admits : CreatorRequest → Prop) (permits : Circumstance) :
    System CreatorRequest CreatorCall CreatorCall.Answer CreatorOutcome CreatorState where
  handler request := request.work.run
  exec := creatorExec permits
  environment := Elsewhere
  mayStart _ request := admits request

abbrev CreatorPool := Pool CreatorRequest CreatorCall CreatorCall.Answer CreatorOutcome CreatorState

structure Blank (s : CreatorState) : Prop where
  authorities : s.tables.authorities = []
  deployments : s.tables.deployments = []
  events : s.tables.events = []
  held : s.held = []
  log : s.log = []

abbrev CreatorReach [Sha256] (admits : CreatorRequest → Prop) (permits : Circumstance) (pool : CreatorPool) : Prop :=
  (creatorSystem admits permits).Reach Blank pool

def anyTime : Circumstance := fun _ _ _ => True

theorem creator_logs [Sha256] (admits : CreatorRequest → Prop) (permits : Circumstance) :
    (creatorSystem admits permits).Logs CreatorState.log where
  exec _ _ _ _ _ _ called := called.2.2.2.2
  environment _ _ moved := moved.log

end

end Bnbera.Creator
