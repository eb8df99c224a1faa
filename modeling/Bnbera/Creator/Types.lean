import Bnbera.CanonicalJson.Stringify
import Bnbera.Domain

namespace Bnbera.Creator

inductive TradingPair
  | tbnbCake
  | tbnbBusd
deriving DecidableEq

def TradingPair.text : TradingPair → String
  | tbnbCake => "tbnb-cake"
  | tbnbBusd => "tbnb-busd"

/-- `creatorRuntimeConfigurationSchema`. Every text and number is one of those that the schema admits. -/
structure CreatorRuntimeConfiguration where
  tradingPair : TradingPair
  inputAmountWei : Nat
  slippageBps : Nat
  quoteMaxAgeSeconds : Nat
  deadlineSeconds : Nat
  amount_admitted : inputAmountWei ∈ [100000000000000, 500000000000000, 1000000000000000] := by decide
  slippage_admitted : slippageBps ∈ [10, 25, 50] := by decide
  age_admitted : quoteMaxAgeSeconds ∈ [30, 60] := by decide
  deadline_admitted : deadlineSeconds ∈ [60, 120] := by decide
deriving DecidableEq

def CreatorRuntimeConfiguration.json (configuration : CreatorRuntimeConfiguration) : Json :=
  .obj [("protocol", .str "pancakeswap-v2"), ("tradingPair", .str configuration.tradingPair.text),
    ("inputAmountWei", .str (Nat.repr configuration.inputAmountWei)), ("slippageBps", .nat configuration.slippageBps),
    ("quoteMaxAgeSeconds", .nat configuration.quoteMaxAgeSeconds), ("deadlineSeconds", .nat configuration.deadlineSeconds)]

def canonicalRuntimeConfigurationDigest [Sha256] (configuration : CreatorRuntimeConfiguration) : String :=
  (Sha256.sha256Hex (stringifyJson configuration.json)).text

/-- `deployment_state` -/
inductive DeploymentState
  | draft
  | awaitingAuthority
  | authorityConfirming
  | queued
  | validating
  | building
  | provisioningSecrets
  | deployingRuntime
  | configuringIngress
  | healthChecking
  | registeringIdentity
  | configuringCommerce
  | executingCanary
  | publishingEvidence
  | verifying
  | listed
  | failed
  | paused
  | revoked
  | destroying
  | destroyed
deriving DecidableEq

def DeploymentState.isTerminal : DeploymentState → Bool
  | failed | revoked | destroyed | listed => true
  | _ => false

/-- `state NOT IN ('failed','revoked','destroyed')` -/
def DeploymentState.isLive : DeploymentState → Bool
  | failed | revoked | destroyed => false
  | _ => true

/-- `creatorStages` -/
inductive CreatorStage
  | validate
  | authorityReady
  | studioScaffoldPackage
  | deployReconcile
  | erc8004RegisterReconcile
  | marketplacePublish
  | g2FundedJobReconcile
  | g2ActivationReconcile
  | completed
deriving DecidableEq

namespace CreatorStage

/-- The place of a stage in `creatorStages`. -/
def index : CreatorStage → Nat
  | validate => 0
  | authorityReady => 1
  | studioScaffoldPackage => 2
  | deployReconcile => 3
  | erc8004RegisterReconcile => 4
  | marketplacePublish => 5
  | g2FundedJobReconcile => 6
  | g2ActivationReconcile => 7
  | completed => 8

theorem index_injective {a b : CreatorStage} (same : a.index = b.index) : a = b := by
  cases a <;> cases b <;> first | rfl | cases same

instance : LE CreatorStage := ⟨fun a b => a.index ≤ b.index⟩

instance (a b : CreatorStage) : Decidable (a ≤ b) := inferInstanceAs (Decidable (a.index ≤ b.index))

theorem le_refl (stage : CreatorStage) : stage ≤ stage := Nat.le_refl _

theorem le_trans {a b c : CreatorStage} (first : a ≤ b) (second : b ≤ c) : a ≤ c := Nat.le_trans first second

end CreatorStage

def stageState : CreatorStage → DeploymentState
  | .validate => .validating
  | .authorityReady => .queued
  | .studioScaffoldPackage => .building
  | .deployReconcile => .deployingRuntime
  | .erc8004RegisterReconcile => .registeringIdentity
  | .marketplacePublish => .publishingEvidence
  | .g2FundedJobReconcile => .configuringCommerce
  | .g2ActivationReconcile => .configuringCommerce
  | .completed => .listed

/-- `authority_status` -/
inductive AuthorityStatus
  | none
  | active
  | expired
  | revoked
deriving DecidableEq

/-- A `CreatorRepositoryError`, or what something else threw. -/
inductive CreatorFailure
  | repository (code message : String)
  | foreign (message : String)
deriving DecidableEq

/-- The columns of `agent_drafts` that these operations read. -/
structure DraftRow where
  id : String
  creatorUserId : String
  name : String
  slug : String
  status : String
  createdAt : Int
  configuration : CreatorRuntimeConfiguration

/-- `calls_allowlist`, as `recordBrowserAuthority` writes it. -/
structure AuthorityMetadata where
  sessionId : String
  policyDigest : String
  sessionPublicKey : String
  grantedAtUnix : Nat
  source : String
  revocationTransactionHash : Option String

structure AuthorityRow where
  id : String
  draftId : String
  adminWallet : String
  executionWallet : String
  sessionPublicAddress : String
  callsAllowlist : AuthorityMetadata
  expiresAt : Int
  keystoreRegistrationTx : Option String
  status : AuthorityStatus
  updatedAt : Int

structure DeploymentRow where
  id : String
  draftId : String
  agentCoreArn : Option String
  publicUrl : Option String
  configurationDigest : String
  state : DeploymentState
  currentStep : CreatorStage
  attempt : Nat
  errorCode : Option String
  createdAt : Int
  updatedAt : Int

/-- `external_resource_references` -/
structure EventReferences where
  runtimeName : Option String := none
  authorityId : Option String := none
  policyDigest : Option String := none
  secretReference : Option String := none
  authorityExpiresAt : Option String := none
  agentWallet : Option String := none
  worker : Option String := none
  operation : Option String := none
  providerDeploymentId : Option String := none
  endpoint : Option String := none
  handoffOperationId : Option String := none

structure EventRow where
  deploymentId : String
  attempt : Nat
  previousState : Option DeploymentState
  nextState : DeploymentState
  statusMessage : String
  references : EventReferences
  retryable : Bool

structure Tables where
  drafts : List DraftRow
  authorities : List AuthorityRow
  deployments : List DeploymentRow
  events : List EventRow

def acceptedMessage : String := "T6 authority accepted; Studio scaffold is queued."

namespace Tables

def draft (tables : Tables) (draftId : String) : Option DraftRow := tables.drafts.find? (·.id = draftId)

def deployment (tables : Tables) (deploymentId : String) : Option DeploymentRow :=
  tables.deployments.find? (·.id = deploymentId)

/-- `SELECT 1 FROM deployment_events WHERE deployment_id=$1 AND status_message=$2` -/
def hasEvent (tables : Tables) (deploymentId statusMessage : String) : Bool :=
  tables.events.any fun event => event.deploymentId = deploymentId && event.statusMessage = statusMessage

def accepted (tables : Tables) (deploymentId : String) : Option EventRow :=
  tables.events.find? fun event => event.deploymentId = deploymentId && event.statusMessage = acceptedMessage

def queuedWallet (tables : Tables) (deploymentId : String) : Option String :=
  (tables.accepted deploymentId).bind (·.references.agentWallet)

/-- An `UPDATE` of one deployment, and the events that go with it. -/
def write (tables : Tables) (deploymentId : String) (change : DeploymentRow → DeploymentRow) (events : List EventRow) : Tables :=
  { tables with
    deployments := tables.deployments.map fun row => if row.id = deploymentId then change row else row
    events := tables.events ++ events }

end Tables

end Bnbera.Creator
