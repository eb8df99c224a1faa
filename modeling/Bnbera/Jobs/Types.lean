import Bnbera.Domain
import Bnbera.Operations.Table

namespace Bnbera

/-- The states of an ERC-8183 job; `opened` is `open`. -/
inductive JobState
  | opened
  | funded
  | submitted
  | completed
  | rejected
  | expired
deriving DecidableEq

def JobState.text : JobState → String
  | opened => "open"
  | funded => "funded"
  | submitted => "submitted"
  | completed => "completed"
  | rejected => "rejected"
  | expired => "expired"

inductive JobAction
  | create
  | setProvider
  | setBudget
  | fund
  | submit
  | complete
  | reject
  | claimRefund
  | reconcile
deriving DecidableEq

def JobAction.text : JobAction → String
  | create => "create"
  | setProvider => "set_provider"
  | setBudget => "set_budget"
  | fund => "fund"
  | submit => "submit"
  | complete => "complete"
  | reject => "reject"
  | claimRefund => "claim_refund"
  | reconcile => "reconcile"

structure JobKey where
  chainId : BscChainId
  commerceContract : NonZeroAddress
  jobId : DecimalUint
deriving DecidableEq

/-- An enabled standards-lock entry. The two texts are trimmed by the schema. -/
structure EnabledDeploymentPin where
  chainId : BscChainId
  specRevision : String
  commerceContract : NonZeroAddress
  paymentToken : NonZeroAddress
  paymentDecimals : Within 0 255
  abiHash : ContentDigest
  evaluatorProfile : String
  confirmationThreshold : Within 1 1000000
  minExpiryLeadSeconds : Within 1 604800
  maxExpiryHorizonSeconds : Within 1 31536000
  minBudgetAtomic : DecimalUint
  maxBudgetAtomic : PositiveDecimalUint
deriving DecidableEq

inductive DeploymentPin
  | malformed
  | disabled (chainId : BscChainId) (disabledReason : String)
  | enabled (pin : EnabledDeploymentPin)

structure JobTerms where
  chainId : BscChainId
  commerceContract : NonZeroAddress
  paymentToken : NonZeroAddress
  paymentDecimals : Within 0 255
  clientAddress : NonZeroAddress
  providerAddress : Option NonZeroAddress
  evaluatorAddress : NonZeroAddress
  hookAddress : Option NonZeroAddress
  budgetAtomic : DecimalUint
  descriptionDigest : ContentDigest
  expiresAtUnix : UnixSeconds
deriving DecidableEq

/-- Explicit buyer approval for the exact deliverable submitted by a provider. -/
structure BuyerApproval where
  buyerAddress : NonZeroAddress
  resultDigest : ContentDigest
  approvedAtUnix : UnixSeconds
deriving DecidableEq

/-- The field `namespace` is `identityNamespace` here. -/
structure Erc8004Identity where
  identityNamespace : String
  chainId : Within 1 2147483647
  identityRegistry : EvmAddress
  agentId : AgentId
deriving DecidableEq

structure ProviderBinding where
  identity : Erc8004Identity
  agentVersionId : Uuid
  agentVersion : Within 1 maxSafeInteger
deriving DecidableEq

structure JobRecord where
  jobKey : JobKey
  terms : JobTerms
  deploymentPin : EnabledDeploymentPin
  deploymentPinDigest : ContentDigest
  state : JobState
  createdAtUnix : UnixSeconds
  updatedAtUnix : UnixSeconds
  deliverableDigest : Option ContentDigest
  providerBinding : Option ProviderBinding
  buyerApproval : Option BuyerApproval
  fundingTransactionHash : Option TransactionHash
  submissionTransactionHash : Option TransactionHash
  completionTransactionHash : Option TransactionHash
  rejectionTransactionHash : Option TransactionHash
  refundTransactionHash : Option TransactionHash
  lastObservedBlock : Option DecimalUint
  lastObservedBlockHash : Option TransactionHash
  lastObservedAtUnix : Option UnixSeconds
deriving DecidableEq

def BscChainId.json (chainId : BscChainId) : Json := .nat chainId.number

def JobKey.json (key : JobKey) : Json := .obj [
  ("chainId", key.chainId.json),
  ("commerceContract", .text key.commerceContract),
  ("jobId", .text key.jobId)]

def EnabledDeploymentPin.json (pin : EnabledDeploymentPin) : Json := .obj [
  ("enabled", .bool true),
  ("chainId", pin.chainId.json),
  ("specRevision", .str pin.specRevision),
  ("commerceContract", .text pin.commerceContract),
  ("paymentToken", .text pin.paymentToken),
  ("paymentDecimals", .whole pin.paymentDecimals),
  ("abiHash", .text pin.abiHash),
  ("evaluatorProfile", .str pin.evaluatorProfile),
  ("confirmationThreshold", .whole pin.confirmationThreshold),
  ("minExpiryLeadSeconds", .whole pin.minExpiryLeadSeconds),
  ("maxExpiryHorizonSeconds", .whole pin.maxExpiryHorizonSeconds),
  ("minBudgetAtomic", .text pin.minBudgetAtomic),
  ("maxBudgetAtomic", .text pin.maxBudgetAtomic)]

def JobTerms.json (terms : JobTerms) : Json := .obj [
  ("chainId", terms.chainId.json),
  ("commerceContract", .text terms.commerceContract),
  ("paymentToken", .text terms.paymentToken),
  ("paymentDecimals", .whole terms.paymentDecimals),
  ("clientAddress", .text terms.clientAddress),
  ("providerAddress", .ofOption .text terms.providerAddress),
  ("evaluatorAddress", .text terms.evaluatorAddress),
  ("hookAddress", .ofOption .text terms.hookAddress),
  ("budgetAtomic", .text terms.budgetAtomic),
  ("descriptionDigest", .text terms.descriptionDigest),
  ("expiresAtUnix", .whole terms.expiresAtUnix)]

def BuyerApproval.json (approval : BuyerApproval) : Json := .obj [
  ("buyerAddress", .text approval.buyerAddress),
  ("resultDigest", .text approval.resultDigest),
  ("approvedAtUnix", .whole approval.approvedAtUnix)]

def Erc8004Identity.json (identity : Erc8004Identity) : Json := .obj [
  ("namespace", .str identity.identityNamespace),
  ("chainId", .whole identity.chainId),
  ("identityRegistry", .text identity.identityRegistry),
  ("agentId", .text identity.agentId)]

def ProviderBinding.json (binding : ProviderBinding) : Json := .obj [
  ("identity", binding.identity.json),
  ("agentVersionId", .text binding.agentVersionId),
  ("agentVersion", .whole binding.agentVersion)]

/-- The fields of a record without its two server-generated times. -/
def JobRecord.requestFields (job : JobRecord) : List (String × Json) := [
  ("jobKey", job.jobKey.json),
  ("terms", job.terms.json),
  ("deploymentPin", job.deploymentPin.json),
  ("deploymentPinDigest", .text job.deploymentPinDigest),
  ("state", .str job.state.text),
  ("deliverableDigest", .ofOption .text job.deliverableDigest),
  ("providerBinding", .ofOption ProviderBinding.json job.providerBinding),
  ("buyerApproval", .ofOption BuyerApproval.json job.buyerApproval),
  ("fundingTransactionHash", .ofOption .text job.fundingTransactionHash),
  ("submissionTransactionHash", .ofOption .text job.submissionTransactionHash),
  ("completionTransactionHash", .ofOption .text job.completionTransactionHash),
  ("rejectionTransactionHash", .ofOption .text job.rejectionTransactionHash),
  ("refundTransactionHash", .ofOption .text job.refundTransactionHash),
  ("lastObservedBlock", .ofOption .text job.lastObservedBlock),
  ("lastObservedBlockHash", .ofOption .text job.lastObservedBlockHash),
  ("lastObservedAtUnix", .ofOption .whole job.lastObservedAtUnix)]

def JobRecord.json (job : JobRecord) : Json :=
  .obj (("createdAtUnix", .whole job.createdAtUnix) :: ("updatedAtUnix", .whole job.updatedAtUnix) ::
    job.requestFields)

def EnabledDeploymentPin.lowered (pin : EnabledDeploymentPin) : EnabledDeploymentPin :=
  { pin with commerceContract := pin.commerceContract.lowered, paymentToken := pin.paymentToken.lowered }

def erc8183DeploymentPinDigest [Sha256] (pin : EnabledDeploymentPin) : Digest := canonicalSha256Hex pin.lowered.json

/-- `z.string().trim().min(low).max(high)`, on the trimmed text. -/
def lengthIssues (path : List String) (low high : Nat) (text : String) : List Issue :=
  let length := (utf16Units text).length
  (if length < low then [⟨path, "String must contain at least " ++ toString low ++ " character(s)"⟩] else []) ++
  (if high < length then [⟨path, "String must contain at most " ++ toString high ++ " character(s)"⟩] else [])

theorem lengthIssues_eq_nil {path : List String} {low high : Nat} {text : String} :
    lengthIssues path low high text = [] ↔ low ≤ (utf16Units text).length ∧ (utf16Units text).length ≤ high := by
  simp only [lengthIssues, List.append_eq_nil_iff, ite_eq_right_iff, List.cons_ne_nil, imp_false, Nat.not_lt]

def EnabledDeploymentPin.trimmed (pin : EnabledDeploymentPin) : EnabledDeploymentPin :=
  { pin with specRevision := trim pin.specRevision, evaluatorProfile := trim pin.evaluatorProfile }

def EnabledDeploymentPin.issues (path : List String) (pin : EnabledDeploymentPin) : List Issue :=
  lengthIssues (path ++ ["specRevision"]) 1 160 pin.specRevision ++
    lengthIssues (path ++ ["evaluatorProfile"]) 1 160 pin.evaluatorProfile

def isNamespace (text : String) : Bool :=
  !text.toList.isEmpty && text.toList.all fun c => isLetter c || isDigit c || c == '.' || c == '_' || c == '-'

def ProviderBinding.trimmed (binding : ProviderBinding) : ProviderBinding :=
  { binding with identity := { binding.identity with identityNamespace := trim binding.identity.identityNamespace } }

def ProviderBinding.issues (path : List String) (binding : ProviderBinding) : List Issue :=
  lengthIssues (path ++ ["identity", "namespace"]) 1 128 binding.identity.identityNamespace ++
    if isNamespace binding.identity.identityNamespace then []
    else [⟨path ++ ["identity", "namespace"], "Namespace contains unsupported characters"⟩]

def JobRecord.trimmed (job : JobRecord) : JobRecord :=
  { job with deploymentPin := job.deploymentPin.trimmed, providerBinding := job.providerBinding.map ProviderBinding.trimmed }

def issueIf (fails : Prop) [Decidable fails] (path : List String) (message : String) : List Issue :=
  if fails then [⟨path, message⟩] else []

theorem issueIf_eq_nil {fails : Prop} [Decidable fails] {path : List String} {message : String} :
    issueIf fails path message = [] ↔ ¬fails := by
  simp only [issueIf, ite_eq_right_iff, List.cons_ne_nil, imp_false]

/-- The rules of `superRefine` about a stored approval. -/
def BuyerApproval.issues (job : JobRecord) (approval : BuyerApproval) : List Issue :=
  issueIf (job.state ≠ .submitted ∧ job.state ≠ .completed) ["buyerApproval"]
    "Buyer approval is only valid for a submitted or completed job." ++
  issueIf (lower approval.buyerAddress.text ≠ lower job.terms.clientAddress.text) ["buyerApproval", "buyerAddress"]
    "Buyer approval must be issued by the job client." ++
  issueIf (job.deliverableDigest.map (lower ·.text) ≠ some (lower approval.resultDigest.text))
    ["buyerApproval", "resultDigest"] "Buyer approval must bind to the submitted deliverable digest."

/-- Everything `erc8183JobRecordSchema` finds wrong with a trimmed record. -/
def JobRecord.issues [Sha256] (job : JobRecord) : List Issue :=
  job.deploymentPin.issues ["deploymentPin"] ++
  (job.providerBinding.map (ProviderBinding.issues ["providerBinding"])).getD [] ++
  issueIf (job.jobKey.chainId ≠ job.terms.chainId) ["jobKey", "chainId"] "Job key chain must match the job terms." ++
  issueIf (lower job.jobKey.commerceContract.text ≠ lower job.terms.commerceContract.text) ["jobKey", "commerceContract"]
    "Job key commerce contract must match the job terms." ++
  issueIf ((erc8183DeploymentPinDigest job.deploymentPin).text ≠ job.deploymentPinDigest.text) ["deploymentPinDigest"]
    "The persisted ERC-8183 deployment pin digest does not match its terms." ++
  (job.buyerApproval.map (BuyerApproval.issues job)).getD [] ++
  (job.providerBinding.map fun binding =>
    issueIf (binding.identity.chainId.value ≠ (job.terms.chainId.number : Int)) ["providerBinding", "identity", "chainId"]
      "Provider identity chain must match the ERC-8183 job chain.").getD []

/-- `erc8183JobRecordSchema.parse` -/
def JobRecord.parse [Sha256] (job : JobRecord) : Except Failure JobRecord :=
  if job.trimmed.issues = [] then .ok job.trimmed else .error (.zod job.trimmed.issues)

end Bnbera
