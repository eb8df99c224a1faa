import Bnbera.Auth.Ports
import Bnbera.Base64
import Bnbera.CanonicalJson.Reordered
import Bnbera.Creator.Types
import Bnbera.Publication.Types

namespace Bnbera.Registration

open Creator Publication

/-- A `CreatorRegistrationError`, or what something else threw. -/
inductive RegistrationFailure
  | registration (code message : String)
  | foreign (message : String)
deriving DecidableEq

inductive CreatorRegistrationPhase
  | mint
  | uri
deriving DecidableEq

def CreatorRegistrationPhase.text : CreatorRegistrationPhase → String
  | mint => "mint"
  | uri => "uri"

inductive CreatorRegistrationResultStatus
  | confirmed
  | pending
  | failed
  | unknown
deriving DecidableEq

def CreatorRegistrationResultStatus.text : CreatorRegistrationResultStatus → String
  | confirmed => "CONFIRMED"
  | pending => "PENDING"
  | failed => "FAILED"
  | unknown => "UNKNOWN"

inductive CreatorRegistrationState
  | notStarted
  | mintIntent
  | mintPending
  | mintConfirmed
  | uriIntent
  | uriPending
  | registered
  | failed
deriving DecidableEq

/-- `state.endsWith("pending")` -/
def CreatorRegistrationState.isPending : CreatorRegistrationState → Bool
  | mintPending | uriPending => true
  | _ => false

/-- `status_message`: the `CREATOR_ERC8004_BROWSER_…` messages, or one of another part of the service. -/
inductive StatusMessage
  | operation
  | intent
  | mintIntent
  | mintResult
  | uriIntent
  | uriResult
  | reconcile
  | other (text : String)
deriving DecidableEq

abbrev EventReference := List (String × Json)

structure EventRow where
  statusMessage : StatusMessage
  externalResourceReferences : Json
  transactionHash : Option String
  retryable : Bool
  createdAt : Int
  id : Nat

/-- The row that the query for a deployment joins from the deployment, its draft and its active authority. -/
structure DeploymentRow where
  creatorUserId : String
  publicUrl : Option String
  name : String
  description : String
  configuration : Json
  configurationDigest : String
  adminWallet : Option String
  executionWallet : Option String

structure CreatorRegistrationIntent where
  deploymentId : String
  operationId : String
  ownerAddress : String
  agentWallet : String
  endpoint : String
  name : String
  description : String
  configuration : CreatorRuntimeConfiguration
  configurationDigest : String
  registrationFile : Json
  registrationUri : String
  uriDigest : String

/-- The finalized identity of an agent; its namespace is `eip155` and its chain 97. -/
structure RegistrationIdentity where
  identityRegistry : String
  agentId : String
  agentVersionId : String
  endpoint : String
  ownerAddress : String
  agentWallet : String
deriving DecidableEq

structure CreatorRegistrationStatus where
  deploymentId : String
  state : CreatorRegistrationState
  phase : Option CreatorRegistrationPhase
  canMint : Bool
  canSetUri : Bool
  mintOutcomeRecorded : Bool
  uriOutcomeRecorded : Bool
  pendingReason : Option String
  operationId : String
  mintCallsId : Option String
  mintTransactionHash : Option String
  mintScanStartBlock : Option String
  mintScanCursor : Option String
  uriCallsId : Option String
  uriTransactionHash : Option String
  agentId : Option String
  ownerAddress : String
  agentWallet : String
  endpoint : String
  name : String
  initialUriDigest : String
  finalUriDigest : Option String
  identity : Option RegistrationIdentity
  tradingPair : TradingPair
  configurationDigest : String

/-- The status, with the phase and the agent of the request, and what the browser is to sign. -/
structure CreatorRegistrationPrepareResponse extends CreatorRegistrationStatus where
  registrationFile : Json
  registrationUri : String
  uriDigest : String

structure CreatorRegistrationResultInput where
  phase : CreatorRegistrationPhase
  callsId : Option String
  transactionHash : Option String
  status : CreatorRegistrationResultStatus
  agentId : Option String
  uriDigest : Option String

structure CreatorRegistrationChainAgent where
  owner : String
  agentUri : String

structure CreatorRegistrationChainReceipt where
  reverted : Bool
  blockNumber : Int

structure CreatorRegistrationChainLog where
  agentId : String
  agentUri : String
  owner : String
  transactionHash : Option String
  blockNumber : Int

structure FinalizedIdentityRow where
  identityRegistry : String
  agentId : String
  ownerAddress : Option String
  agentWallet : Option String
  agentUri : Option String
  contentDigest : Option String
  agentVersionId : String
  versionPublicMetadata : Json
  serviceUrl : String

def creatorErc8004ChainId : Nat := 97

def creatorErc8004Registry : String := "0x8004a818bfb912233c491871b3d84c89a494bd9e"

/-- `Number.MAX_SAFE_INTEGER` -/
def maxRegistrationAgentId : Nat := 9007199254740991

def reconcileBlockWindow : Int := 2000

def asObject : Option Json → Option EventReference
  | some (.obj fields) => some fields
  | _ => none

def asString : Option Json → Option String
  | some (.str text) => if text = "" then none else some text
  | _ => none

/-- `refs?.[key]` -/
def refsField (refs : Option EventReference) (key : String) : Option Json := refs.bind fun fields => fieldOf fields key

/-- `asString(refs?.[key])` -/
def refsText (refs : Option EventReference) (key : String) : Option String := asString (refsField refs key)

/-- `value === "text"` -/
def isText (text : String) : Option Json → Bool
  | some (.str found) => found = text
  | _ => false

/-- `value === 97`, for a number that is written so. -/
def isNumber (number : Nat) : Option Json → Bool
  | some (.num found) => found = Nat.repr number
  | _ => false

def assertTransactionHash : Option String → Except RegistrationFailure (Option String)
  | none => .ok none
  | some value =>
    if isHash value then .ok (some value)
    else .error (.registration "CREATOR_REGISTRATION_RESULT_INVALID" "The browser returned an invalid transaction hash.")

/-- `/^0x[0-9a-f]{1,128}$/iu` -/
def isCallsId (text : String) : Bool :=
  match text.toList with
  | '0' :: x :: digits => x.toLower == 'x' && 1 ≤ digits.length && digits.length ≤ 128 && digits.all isHexDigit
  | _ => false

def assertCallsId : Option String → Except RegistrationFailure (Option String)
  | none => .ok none
  | some value =>
    if isCallsId value then .ok (some value)
    else .error (.registration "CREATOR_REGISTRATION_RESULT_INVALID" "The browser returned an invalid operation ID.")

def assertAgentId : Option String → Except RegistrationFailure (Option String)
  | none => .ok none
  | some value =>
    if !isDecimal value then
      .error (.registration "CREATOR_REGISTRATION_RESULT_INVALID" "The browser returned an invalid ERC-8004 agent ID.")
    else if decimalValue value > maxRegistrationAgentId then
      .error (.registration "CREATOR_REGISTRATION_RESULT_INVALID" "The ERC-8004 agent ID is outside the browser SDK's safe range.")
    else .ok (some value)

def assertUriDigest : Option String → Except RegistrationFailure (Option String)
  | none => .ok none
  | some value =>
    if isDigest value then .ok (some (lower value))
    else .error (.registration "CREATOR_REGISTRATION_RESULT_INVALID" "The browser returned an invalid URI digest.")

def blockNumberString : Option Json → Option String
  | some (.str text) => if isDecimal text then some text else none
  | _ => none

/-- `BigInt(value)` of a decimal text. -/
def blockNumber (value : Option String) : Option Int := value.map fun text => (decimalValue text : Int)

def dataUriPrefix : String := "data:application/json;base64,"

/-- `[A-Za-z0-9+/=_-]` -/
def isBase64Char (c : Char) : Bool :=
  isAlphanumeric c || c == '+' || c == '/' || c == '=' || c == '_' || c == '-'

def base64Payload (uri : String) : Option (List Char) :=
  if dataUriPrefix.toList.isPrefixOf uri.toList then
    let payload := uri.toList.drop dataUriPrefix.toList.length
    if !payload.isEmpty && payload.all isBase64Char then some payload else none
  else none

section
variable [ByteDigests]

def creatorRegistrationUriDigest (uri : String) : String :=
  match base64Payload uri with
  | none => (ByteDigests.sha256Hex (utf8 uri)).text
  | some payload =>
    (ByteDigests.sha256Hex (Base64.decode (payload.map fun c => if c == '-' then '+' else if c == '_' then '/' else c))).text

def operationIdFor (deploymentId : String) : String :=
  "creator:erc8004:" ++ String.ofList ((ByteDigests.sha256Hex (utf8 deploymentId)).text.toList.take 32)

end

end Bnbera.Registration
