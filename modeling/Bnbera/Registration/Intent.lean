import Bnbera.Registration.Types
import Bnbera.Validation

namespace Bnbera.Registration

section

open Creator

def eventStatus : Option Json → Option CreatorRegistrationResultStatus
  | some (.str "CONFIRMED") => some .confirmed
  | some (.str "PENDING") => some .pending
  | some (.str "FAILED") => some .failed
  | some (.str "UNKNOWN") => some .unknown
  | _ => none

structure Progress where
  mintIntent : Option EventReference := none
  mintResult : Option EventReference := none
  reconciledMintResult : Option EventReference := none
  uriIntent : Option EventReference := none
  uriResult : Option EventReference := none
  reconciledUriResult : Option EventReference := none
  mintScanStartBlock : Option String := none
  mintScanCursor : Option String := none
  identity : Option RegistrationIdentity := none
  pendingReason : Option String := none

def textField (fields : EventReference) (key : String) : Option String :=
  match fieldOf fields key with
  | some (.str text) => some text
  | _ => none

/-- The `erc8004Identity` of an event, where it has every field. -/
def identityOf (refs : Option EventReference) : Option RegistrationIdentity := do
  let candidate ← asObject (refsField refs "erc8004Identity")
  if isText "eip155" (fieldOf candidate "namespace") && isNumber creatorErc8004ChainId (fieldOf candidate "chainId") then
    let identityRegistry ← textField candidate "identityRegistry"
    let agentId ← textField candidate "agentId"
    let agentVersionId ← textField candidate "agentVersionId"
    let endpoint ← textField candidate "endpoint"
    let ownerAddress ← textField candidate "ownerAddress"
    let agentWallet ← textField candidate "agentWallet"
    some ⟨identityRegistry, agentId, agentVersionId, endpoint, ownerAddress, agentWallet⟩
  else none

/-- One round of the loop over the events. -/
def observe (progress : Progress) (event : EventRow) : Progress :=
  let refs := asObject (some event.externalResourceReferences)
  match event.statusMessage with
  | .mintIntent => { progress with mintIntent := refs }
  | .mintResult => { progress with mintResult := refs }
  | .uriIntent => { progress with uriIntent := refs }
  | .uriResult => { progress with uriResult := refs }
  | .reconcile =>
    let settled := (eventStatus (refsField refs "status")).isSome
    let ofMint := isText "mint" (refsField refs "phase")
    let ofUri := isText "uri" (refsField refs "phase")
    { progress with
      pendingReason := refsText refs "reason"
      reconciledMintResult := if ofMint && settled then refs else progress.reconciledMintResult
      mintScanStartBlock :=
        if ofMint then (blockNumberString (refsField refs "scanStartBlock")).or progress.mintScanStartBlock
        else progress.mintScanStartBlock
      mintScanCursor :=
        if ofMint then (blockNumberString (refsField refs "scanCursor")).or progress.mintScanCursor
        else progress.mintScanCursor
      reconciledUriResult := if ofUri && settled then refs else progress.reconciledUriResult }
  | .operation => { progress with identity := (identityOf refs).or progress.identity }
  | .intent | .other _ => progress

namespace Progress

def effectiveMintResult (progress : Progress) : Option EventReference :=
  progress.reconciledMintResult.or progress.mintResult

def effectiveUriResult (progress : Progress) : Option EventReference :=
  progress.reconciledUriResult.or progress.uriResult

def mintStatus (progress : Progress) : Option String := refsText progress.effectiveMintResult "status"

def uriStatus (progress : Progress) : Option String := refsText progress.effectiveUriResult "status"

def hasIntent (progress : Progress) : Bool :=
  progress.mintIntent.isSome || progress.mintResult.isSome || progress.uriIntent.isSome || progress.uriResult.isSome

def agentId (progress : Progress) : Option String :=
  (refsText progress.effectiveUriResult "agentId").or (refsText progress.effectiveMintResult "agentId")

def scanStartBlock (progress : Progress) : Option String :=
  progress.mintScanStartBlock.or (blockNumberString (refsField progress.mintIntent "scanStartBlock"))

def scanCursor (progress : Progress) : Option String :=
  progress.mintScanCursor.or (blockNumberString (refsField progress.mintIntent "scanCursor"))

def state (progress : Progress) : CreatorRegistrationState :=
  let mintStatus := progress.mintStatus
  let uriStatus := progress.uriStatus
  if mintStatus = some "FAILED" then .failed
  else if progress.hasIntent ∧ (mintStatus = some "PENDING" ∨ mintStatus = some "UNKNOWN" ∨
      progress.effectiveMintResult.isNone) then .mintPending
  else if mintStatus = some "CONFIRMED" then
    if progress.uriIntent.isNone then .mintConfirmed
    else if uriStatus = none ∨ uriStatus = some "PENDING" ∨ uriStatus = some "UNKNOWN" then .uriPending
    else if uriStatus = some "FAILED" then .failed
    else if uriStatus = some "CONFIRMED" ∧ progress.identity.isSome then .registered
    else .uriPending
  else if progress.hasIntent then .mintIntent
  else .notStarted

def phase (progress : Progress) : Option CreatorRegistrationPhase :=
  if progress.mintStatus = some "CONFIRMED" ∧ progress.uriIntent.isSome then some .uri
  else if progress.hasIntent then some .mint
  else none

def reason (progress : Progress) : Option String :=
  if progress.state.isPending then progress.pendingReason.or (some "FINALIZED_REGISTRY_OR_G1_READ_PENDING")
  else if progress.state = .failed then progress.pendingReason
  else none

def canMint (progress : Progress) : Bool :=
  progress.mintIntent.isNone && progress.mintResult.isNone && progress.reconciledMintResult.isNone

def canSetUri (progress : Progress) : Bool :=
  progress.mintStatus = some "CONFIRMED" && progress.uriIntent.isNone && progress.uriResult.isNone &&
    progress.reconciledUriResult.isNone

end Progress

def progressOf (events : List EventRow) : Progress := events.foldl observe {}

def statusFromEvents (deploymentId : String) (events : List EventRow) (intent : CreatorRegistrationIntent) :
    Except RegistrationFailure CreatorRegistrationStatus := do
  let progress := progressOf events
  let agentId ← assertAgentId progress.agentId
  return {
    deploymentId
    state := progress.state
    phase := progress.phase
    canMint := progress.canMint
    canSetUri := progress.canSetUri
    mintOutcomeRecorded := progress.effectiveMintResult.isSome
    uriOutcomeRecorded := progress.effectiveUriResult.isSome
    pendingReason := progress.reason
    operationId := intent.operationId
    mintCallsId := (refsText progress.effectiveMintResult "callsId").or (refsText progress.mintIntent "callsId")
    mintTransactionHash :=
      (refsText progress.effectiveMintResult "transactionHash").or (refsText progress.mintResult "transactionHash")
    mintScanStartBlock := progress.scanStartBlock
    mintScanCursor := progress.scanCursor
    uriCallsId := (refsText progress.effectiveUriResult "callsId").or (refsText progress.uriIntent "callsId")
    uriTransactionHash :=
      (refsText progress.effectiveUriResult "transactionHash").or (refsText progress.uriResult "transactionHash")
    agentId
    ownerAddress := intent.ownerAddress
    agentWallet := intent.agentWallet
    endpoint := intent.endpoint
    name := intent.name
    initialUriDigest := (refsText progress.mintIntent "uriDigest").getD intent.uriDigest
    finalUriDigest := (refsText progress.uriIntent "uriDigest").or (refsText progress.effectiveUriResult "uriDigest")
    identity := progress.identity
    tradingPair := intent.configuration.tradingPair
    configurationDigest := intent.configurationDigest }

end

section

open Creator Publication

/-- What a registration takes from elsewhere: the digest of the template's files, and the registration of an agent
in a file, as the SDK makes it. -/
class RegistrationSdk where
  templateArtifactDigest : String
  withErc8004Registration : Json → Nat → Nat → Except RegistrationFailure Json

def encodeErc8004AgentUri (file : Json) : String :=
  dataUriPrefix ++ String.ofList (Base64.encode (utf8 (stringifyJson file)))

def encodedCreatorRegistrationUri (file : Json) : Except RegistrationFailure String :=
  let uri := encodeErc8004AgentUri file
  if !dataUriPrefix.toList.isPrefixOf uri.toList then
    .error (.registration "CREATOR_REGISTRATION_URI_INVALID" "The ERC-8004 registration URI was not encoded as a data URI.")
  else if (utf16Units uri).length > 2000 then
    .error (.registration "CREATOR_REGISTRATION_URI_INVALID"
      "The ERC-8004 registration URI exceeds the reviewed public URI limit.")
  else .ok uri

def creatorTemplateSlug : String := "pancakeswap-one-shot-swap"

def creatorTemplateVersion : String := "1.1.0"

section
variable [Sha256] [ByteDigests] [RegistrationSdk]

def creatorRegistrationFile (name description endpoint : String) (configuration : CreatorRuntimeConfiguration)
    (configurationDigest : String) : Json :=
  let pair := configuration.tradingPair.text
  .obj [("type", .str "https://eips.ethereum.org/EIPS/eip-8004#registration-v1"),
    ("name", .str name),
    ("description", .str
      (description ++ " BNBEra bounded runtime: " ++ pair ++ "; configuration digest: " ++ configurationDigest ++ ".")),
    ("services", .arr [.obj [("name", .str "A2A"), ("endpoint", .str endpoint), ("protocolVersion", .str "0.3.0")]]),
    ("registrations", .arr []),
    ("x-bnbera", .obj [("template", .str (creatorTemplateSlug ++ "@" ++ creatorTemplateVersion)),
      ("templateDigest", .str RegistrationSdk.templateArtifactDigest),
      ("configurationDigest", .str configurationDigest), ("tradingPair", .str pair)])]

def finalizedCreatorRegistrationFile (file : Json) (agentId : String) : Except RegistrationFailure Json := do
  match ← assertAgentId (some agentId) with
  | none => throw (.registration "CREATOR_REGISTRATION_RESULT_INVALID" "An ERC-8004 agent ID is required to complete the URI.")
  | some numericId => RegistrationSdk.withErc8004Registration file (decimalValue numericId) creatorErc8004ChainId

def literalNumber (admitted : List Nat) (value : Option Json) : Option { number : Nat // number ∈ admitted } :=
  admitted.attach.find? fun number => isNumber number.1 value

def literalText (admitted : List Nat) (value : Option Json) : Option { number : Nat // number ∈ admitted } :=
  admitted.attach.find? fun number => isText (Nat.repr number.1) value

def literalPair (value : Option Json) : Option TradingPair :=
  [TradingPair.tbnbCake, .tbnbBusd].find? fun pair => isText pair.text value

/-- The fields of `creatorRuntimeConfigurationSchema`. -/
def configurationKeys : List String :=
  ["protocol", "tradingPair", "inputAmountWei", "slippageBps", "quoteMaxAgeSeconds", "deadlineSeconds"]

/-- `canonicalRuntimeConfiguration`, which throws where this is nothing. -/
def canonicalRuntimeConfiguration (configuration : Option Json) : Option CreatorRuntimeConfiguration := do
  let fields ← asObject configuration
  guard (fields.all fun field => configurationKeys.contains field.1)
  guard (isText "pancakeswap-v2" (fieldOf fields "protocol"))
  let tradingPair ← literalPair (fieldOf fields "tradingPair")
  let amount ← literalText [100000000000000, 500000000000000, 1000000000000000] (fieldOf fields "inputAmountWei")
  let slippage ← literalNumber [10, 25, 50] (fieldOf fields "slippageBps")
  let age ← literalNumber [30, 60] (fieldOf fields "quoteMaxAgeSeconds")
  let deadline ← literalNumber [60, 120] (fieldOf fields "deadlineSeconds")
  return ⟨tradingPair, amount.1, slippage.1, age.1, deadline.1, amount.2, slippage.2, age.2, deadline.2⟩

def assertConfiguration (configuration : Option Json) (expectedDigest : String) :
    Except RegistrationFailure CreatorRuntimeConfiguration :=
  match canonicalRuntimeConfiguration configuration with
  | none => .error (.registration "CREATOR_REGISTRATION_CONFIG_INVALID"
      "The persisted Creator configuration is not an audited bounded configuration.")
  | some parsed =>
    if canonicalRuntimeConfigurationDigest parsed ≠ expectedDigest then
      .error (.registration "CREATOR_REGISTRATION_CONFIG_DIGEST_MISMATCH"
        "The persisted Creator configuration digest does not match its selected trading pair and limits.")
    else .ok parsed

def deploymentEventRefs (intent : CreatorRegistrationIntent) : EventReference :=
  [("operationId", .str intent.operationId), ("phase", .str "intent"), ("chainId", .nat creatorErc8004ChainId),
    ("identityRegistry", .str creatorErc8004Registry), ("ownerAddress", .str intent.ownerAddress),
    ("agentWallet", .str intent.agentWallet), ("endpoint", .str intent.endpoint), ("name", .str intent.name),
    ("configuration", intent.configuration.json), ("configurationDigest", .str intent.configurationDigest),
    ("registrationFile", intent.registrationFile), ("uriDigest", .str intent.uriDigest),
    ("tradingPair", .str intent.configuration.tradingPair.text)]

def intentRefs (intent : CreatorRegistrationIntent) : EventReference :=
  deploymentEventRefs intent ++ [("description", .str intent.description), ("registrationUri", .str intent.registrationUri)]

def eventRefs (value : Json) : EventReference := (asObject (some value)).getD []

/-- Whether the stored file encodes to the stored URI, and that has the stored digest; a file that cannot be encoded
does not. -/
def encodesTo (file : Json) (registrationUri uriDigest : String) : Bool :=
  match encodedCreatorRegistrationUri file with
  | .error _ => false
  | .ok uri => uri == registrationUri && creatorRegistrationUriDigest registrationUri == lower uriDigest

/-- The rest of `asIntent`, behind the check of the configuration. -/
def boundIntent (refs : EventReference) (deploymentId : String) (file : EventReference) (configurationDigest : String)
    (configuration : CreatorRuntimeConfiguration) : Option CreatorRegistrationIntent := do
  let extension ← asObject (fieldOf file "x-bnbera")
  guard (isText configuration.tradingPair.text (fieldOf extension "tradingPair"))
  guard (isText configurationDigest (fieldOf extension "configurationDigest"))
  let operationId := (asString (fieldOf refs "operationId")).getD (operationIdFor deploymentId)
  let endpoint ← asString (fieldOf refs "endpoint")
  let ownerAddress ← asString (fieldOf refs "ownerAddress")
  let agentWallet ← asString (fieldOf refs "agentWallet")
  let name ← asString (fieldOf refs "name")
  let registrationUri ← asString (fieldOf refs "registrationUri")
  let uriDigest ← asString (fieldOf refs "uriDigest")
  guard (encodesTo (.obj file) registrationUri uriDigest)
  return {
    deploymentId, operationId, ownerAddress, agentWallet, endpoint, name
    description := (asString (fieldOf refs "description")).getD ""
    configuration, configurationDigest
    registrationFile := .obj file
    registrationUri, uriDigest }

def lastIntent (events : List EventRow) : Option EventRow := events.reverse.find? (·.statusMessage = .intent)

def asIntent (events : List EventRow) (deploymentId : String) :
    Except RegistrationFailure (Option CreatorRegistrationIntent) :=
  match lastIntent events with
  | none => .ok none
  | some event =>
    let refs := eventRefs event.externalResourceReferences
    match asString (fieldOf refs "configurationDigest"), asObject (fieldOf refs "registrationFile") with
    | some configurationDigest, some file => do
      let configuration ← assertConfiguration (fieldOf refs "configuration") configurationDigest
      return boundIntent refs deploymentId file configurationDigest configuration
    | _, _ => .ok none

def resultRefs (input : CreatorRegistrationResultInput) (expectedUriDigest : Option String) : EventReference :=
  [("phase", .str input.phase.text), ("callsId", Json.ofOption .str input.callsId),
    ("transactionHash", Json.ofOption .str input.transactionHash), ("status", .str input.status.text),
    ("agentId", Json.ofOption .str input.agentId),
    ("uriDigest", Json.ofOption .str (input.uriDigest.or expectedUriDigest))]

/-- `deployment`: the row of the query, where it may be used. -/
def deployment (row : Option DeploymentRow) (requesterAddress : Option String) :
    Except RegistrationFailure (DeploymentRow × String × String × String) :=
  match row with
  | none => .error (.registration "DEPLOYMENT_NOT_FOUND" "Creator deployment not found.")
  | some row =>
    match row.publicUrl with
    | none => .error (.registration "CREATOR_REGISTRATION_ENDPOINT_UNAVAILABLE"
        "The managed Studio HTTPS A2A card is not available yet.")
    | some publicUrl =>
      match row.adminWallet, row.executionWallet with
      | some adminWallet, some executionWallet =>
        if requesterAddress.any fun address => lower adminWallet ≠ lower address then
          .error (.registration "CREATOR_REGISTRATION_OWNER_MISMATCH"
            "The authenticated Creator wallet does not control this deployment's server-resolved owner.")
        else .ok (row, publicUrl, adminWallet, executionWallet)
      | _, _ => .error (.registration "CREATOR_REGISTRATION_OWNER_UNAVAILABLE"
          "The active Creator authority wallet is not available.")

/-- `buildIntent` of a row, once the endpoint of its card is known. -/
def builtIntent (deploymentId : String) (row : DeploymentRow) (ownerAddress agentWallet endpoint : String) :
    Except RegistrationFailure CreatorRegistrationIntent := do
  let configuration ← assertConfiguration (some row.configuration) row.configurationDigest
  let file := creatorRegistrationFile row.name row.description endpoint configuration row.configurationDigest
  let registrationUri ← encodedCreatorRegistrationUri file
  return {
    deploymentId
    operationId := operationIdFor deploymentId
    ownerAddress, agentWallet, endpoint
    name := row.name
    description := row.description
    configuration
    configurationDigest := row.configurationDigest
    registrationFile := file
    registrationUri
    uriDigest := creatorRegistrationUriDigest registrationUri }

/-- `buildIntent`, with the row of its query and what the check of the public address answers. -/
def buildIntent (userId deploymentId : String) (row : Option DeploymentRow) (requesterAddress : Option String)
    (agentCardEndpoint : String → Except RegistrationFailure String) : Except RegistrationFailure CreatorRegistrationIntent := do
  let (row, publicUrl, adminWallet, executionWallet) ← deployment row requesterAddress
  refuseIf (row.creatorUserId ≠ userId) (.registration "DEPLOYMENT_NOT_FOUND" "Creator deployment not found.")
  let endpoint ← agentCardEndpoint publicUrl
  builtIntent deploymentId row adminWallet executionWallet endpoint

def configurationMetadataMatches (metadata : Json) (intent : CreatorRegistrationIntent) : Bool :=
  match asObject (some metadata) with
  | none => false
  | some record =>
    let extension := asObject (fieldOf record "x-bnbera")
    let digest := (refsText extension "configurationDigest").or (asString (fieldOf record "configurationDigest"))
    let tradingPair := (refsText extension "tradingPair").or (asString (fieldOf record "tradingPair"))
    digest.map lower = some (lower intent.configurationDigest) && tradingPair = some intent.configuration.tradingPair.text

def identityFromRow (row : FinalizedIdentityRow) (intent : CreatorRegistrationIntent) (expectedUri expectedDigest : String) :
    Option RegistrationIdentity := do
  guard (lower row.identityRegistry = lower creatorErc8004Registry)
  let ownerAddress ← row.ownerAddress
  let agentWallet ← row.agentWallet
  let agentUri ← row.agentUri
  guard (lower ownerAddress = lower intent.ownerAddress && lower agentWallet = lower intent.agentWallet &&
    row.serviceUrl = intent.endpoint)
  guard (agentUri = expectedUri)
  guard (lower (creatorRegistrationUriDigest agentUri) = lower expectedDigest &&
    row.contentDigest.all fun digest => lower digest = lower expectedDigest)
  guard (configurationMetadataMatches row.versionPublicMetadata intent)
  return ⟨row.identityRegistry, row.agentId, row.agentVersionId, row.serviceUrl, ownerAddress, agentWallet⟩

end

end

end Bnbera.Registration
