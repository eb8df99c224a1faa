import Bnbera.Domain
import Bnbera.Validation
import Bnbera.OrderedMap

namespace Bnbera.Ingestion

inductive IngestionErrorCode
  | ingestionInputInvalid
  | ingestionSourceUnsupported
  | identityConflict
  | duplicateChainLogConflict
  | checkpointConflict
  | reorgReconciliationRequired
  | claimOwnerMismatch
  | claimProofInvalid
  | claimNotActive
  | claimConflict
  | claimAuthorizationRequired
  | chainProviderUnavailable
  | registrySyncConfigInvalid
  | registrySyncEventLimitExceeded
  | registryFinalityUnresolved
  | registryReaderNotConfigured
  | repositoryFailure
  | categoryClassificationFailed
deriving DecidableEq

/-- The `AppError`s of ingestion. -/
structure IngestionError where
  code : IngestionErrorCode
  safeMessage : String
  nextAction : String
  retriable : Bool
deriving DecidableEq

/-- Everything ingestion may throw. `foreign` is an error of a schema, of the domain package or
of what is behind a port. -/
inductive IngestionFailure
  | app (error : IngestionError)
  | foreign (message : String)
deriving DecidableEq

def ingestionError (code : IngestionErrorCode) (safeMessage nextAction : String) (retriable : Bool := false) :
    IngestionFailure :=
  .app ⟨code, safeMessage, nextAction, retriable⟩

/-- `/^[A-Za-z0-9._-]+$/` with a length of 1 to 128. -/
def isNamespace (text : String) : Bool :=
  1 ≤ text.toList.length && text.toList.length ≤ 128 &&
    text.toList.all fun c => isAlphanumeric c || c == '.' || c == '_' || c == '-'

/-- An address as `normalizeEvmAddress` returns it. -/
def isNormalAddress (text : String) : Bool := isEvmAddress text && lower text == text

abbrev NormalAddress := Checked isNormalAddress

/-- An identity as `normalizeErc8004Identity` returns it. The field `namespace` is
`identityNamespace` here. -/
structure Erc8004Identity where
  identityNamespace : Checked isNamespace
  chainId : Within 1 2147483647
  identityRegistry : NormalAddress
  agentId : AgentId
deriving DecidableEq

structure IdentityInput where
  identityNamespace : String
  chainId : Int
  identityRegistry : String
  agentId : String
deriving DecidableEq

def checkAddress (text : String) : Option NormalAddress :=
  if isEvmAddress text then check isNormalAddress (lower text) else none

/-- `erc8004IdentitySchema.safeParse` and the normal form of what it accepts. -/
def parseErc8004Identity (input : IdentityInput) : Option Erc8004Identity := do
  let identityNamespace ← check isNamespace (trim input.identityNamespace)
  let chainId ← within? 1 2147483647 input.chainId
  let identityRegistry ← checkAddress input.identityRegistry
  let agentId ← check isAgentId input.agentId
  return ⟨identityNamespace, chainId, identityRegistry, agentId⟩

def normalizeErc8004Identity (input : IdentityInput) : Except IngestionFailure Erc8004Identity :=
  match parseErc8004Identity input with
  | some identity => .ok identity
  | none => .error (.foreign "erc8004IdentitySchema")

abbrev IdentityKey := String

def erc8004IdentityKey (identity : Erc8004Identity) : IdentityKey :=
  identity.identityNamespace.text ++ ":" ++ toString identity.chainId.value ++ ":" ++ identity.identityRegistry.text ++ ":" ++
    identity.agentId.text

inductive IngestionSource
  | scan8004
  | registryEvent
  | manual
  | creator
deriving DecidableEq

inductive ChainObservationState
  | provisional
  | canonical
  | orphaned
deriving DecidableEq

/-- `String.prototype.localeCompare` of the platform. -/
class Collation where
  localeCompare : String → String → Ordering

@[reducible] def codePoints : Collation := ⟨compare⟩

end Bnbera.Ingestion
