import Bnbera.Registration.Intent

namespace Bnbera.Registration

open Creator Publication

/-- What a `jsonb` column gives back of the values that are written to it. -/
structure JsonbColumn where
  read : Json → Json
  same : ∀ value, SameJson value (read value)

/-- What a transaction meets: the time at which it started, the ids of its rows by the number of rows before them,
the row of its deployment, and the answers to the calls that it makes to other services. -/
structure Transaction where
  startedAt : Int
  newId : Nat → Nat
  row : Option DeploymentRow
  agentCardEndpoint : String → Except RegistrationFailure String
  finalizedBlock : Except RegistrationFailure Int

/-- `ORDER BY "createdAt" ASC, id ASC` -/
def EventRow.Precedes (a b : EventRow) : Prop := a.createdAt < b.createdAt ∨ a.createdAt = b.createdAt ∧ a.id ≤ b.id

instance : DecidableRel EventRow.Precedes := fun a b =>
  inferInstanceAs (Decidable (a.createdAt < b.createdAt ∨ a.createdAt = b.createdAt ∧ a.id ≤ b.id))

def eventsOf (table : List EventRow) : List EventRow := table.insertionSort EventRow.Precedes

structure Prepared where
  intent : CreatorRegistrationIntent
  events : List EventRow
  reservedPhase : Bool

/-- What `reconcile` finds out, at each place where it appends an event. -/
inductive Finding
  | mintReverted (agentId transactionHash : String)
  | anchorMissing (transactionHash : Option String) (uriDigest : String)
  | ambiguous (count : Nat) (scanStartBlock scanCursor : Int) (transactionHash : Option String) (uriDigest : String)
  | registeredEvent (agentId : String) (transactionHash : Option String) (uriDigest : String) (scanStartBlock scanCursor : Int)
  | mintNotFound (transactionHash : Option String) (uriDigest : String) (scanStartBlock scanCursor : Int)
  | agentUnreadable (agentId : String) (transactionHash : Option String)
  | mintConfirmed (agentId : String) (callsId transactionHash : Option String) (uriDigest : String)
  | finalUriNotConfirmed (agentId : String) (transactionHash : Option String) (uriDigest : String)
  | initialUriUnreadable (agentId : String) (transactionHash : Option String) (uriDigest : String)
  | uriConfirmed (agentId : String) (callsId transactionHash : Option String) (uriDigest : String)
  | identityPending (agentId : String) (transactionHash : Option String) (uriDigest : String)

namespace Finding

def reason : Finding → String
  | mintReverted .. => "REGISTRY_MINT_REVERTED"
  | anchorMissing .. => "MINT_SCAN_ANCHOR_MISSING"
  | ambiguous .. => "AMBIGUOUS_REGISTERED_EVENT"
  | registeredEvent .. => "REGISTERED_EVENT_RECONCILED"
  | mintNotFound .. => "FINALIZED_MINT_NOT_FOUND"
  | agentUnreadable .. => "REGISTRY_OWNER_OR_AGENT_UNREADABLE"
  | mintConfirmed .. => "MINT_CONFIRMED_FROM_FINALIZED_REGISTRY"
  | finalUriNotConfirmed .. => "FINAL_URI_NOT_CONFIRMED"
  | initialUriUnreadable .. => "REGISTRY_INITIAL_URI_UNREADABLE"
  | uriConfirmed .. => "URI_CONFIRMED_FROM_FINALIZED_REGISTRY"
  | identityPending .. => "G1_FINALIZED_IDENTITY_VERSION_OR_SERVICE_PENDING"

def rowHash : Finding → Option String
  | mintReverted _ hash => some hash
  | anchorMissing .. | ambiguous .. | mintNotFound .. => none
  | registeredEvent _ hash .. | agentUnreadable _ hash | mintConfirmed _ _ hash _ | finalUriNotConfirmed _ hash _
  | initialUriUnreadable _ hash _ | uriConfirmed _ _ hash _ | identityPending _ hash _ => hash

def textOrNull (value : Option String) : Json := Json.ofOption .str value

def blockText (block : Int) : Json := .str (toString block)

/-- The references that are passed on to `appendReconcile`. -/
def refs : Finding → EventReference
  | mintReverted agentId hash =>
    [("phase", .str "mint"), ("status", .str "FAILED"), ("agentId", .str agentId), ("transactionHash", .str hash)]
  | anchorMissing hash uriDigest =>
    [("phase", .str "mint"), ("status", .str "UNKNOWN"), ("transactionHash", textOrNull hash), ("uriDigest", .str uriDigest)]
  | ambiguous count scanStartBlock scanCursor hash uriDigest =>
    [("phase", .str "mint"), ("status", .str "UNKNOWN"), ("matches", .nat count), ("scanStartBlock", blockText scanStartBlock),
      ("scanCursor", blockText scanCursor), ("transactionHash", textOrNull hash), ("uriDigest", .str uriDigest)]
  | registeredEvent agentId hash uriDigest scanStartBlock scanCursor =>
    [("phase", .str "mint"), ("status", .str "CONFIRMED"), ("agentId", .str agentId), ("transactionHash", textOrNull hash),
      ("uriDigest", .str uriDigest), ("scanStartBlock", blockText scanStartBlock), ("scanCursor", blockText scanCursor)]
  | mintNotFound hash uriDigest scanStartBlock scanCursor =>
    [("phase", .str "mint"), ("status", .str "PENDING"), ("transactionHash", textOrNull hash), ("uriDigest", .str uriDigest),
      ("scanStartBlock", blockText scanStartBlock), ("scanCursor", blockText scanCursor)]
  | agentUnreadable agentId hash =>
    [("phase", .str "mint"), ("status", .str "UNKNOWN"), ("agentId", .str agentId), ("transactionHash", textOrNull hash)]
  | mintConfirmed agentId callsId hash uriDigest =>
    [("phase", .str "mint"), ("status", .str "CONFIRMED"), ("agentId", .str agentId), ("callsId", textOrNull callsId),
      ("transactionHash", textOrNull hash), ("uriDigest", .str uriDigest)]
  | finalUriNotConfirmed agentId hash uriDigest | initialUriUnreadable agentId hash uriDigest =>
    [("phase", .str "uri"), ("status", .str "UNKNOWN"), ("agentId", .str agentId), ("transactionHash", textOrNull hash),
      ("uriDigest", .str uriDigest)]
  | uriConfirmed agentId callsId hash uriDigest =>
    [("phase", .str "uri"), ("status", .str "CONFIRMED"), ("agentId", .str agentId), ("callsId", textOrNull callsId),
      ("transactionHash", textOrNull hash), ("uriDigest", .str uriDigest)]
  | identityPending agentId _ uriDigest => [("agentId", .str agentId), ("uriDigest", .str uriDigest)]

end Finding

def phaseIntent : CreatorRegistrationPhase → StatusMessage
  | .mint => .mintIntent
  | .uri => .uriIntent

def phaseResult : CreatorRegistrationPhase → StatusMessage
  | .mint => .mintResult
  | .uri => .uriResult

/-- `hasMintOutcome` and `hasUriOutcome` -/
def hasOutcome (phase : CreatorRegistrationPhase) (events : List EventRow) : Bool :=
  events.any fun event => event.statusMessage = phaseResult phase ||
    (event.statusMessage = .reconcile && isText phase.text (fieldOf (eventRefs event.externalResourceReferences) "phase"))

/-- What a result is refused for, once none of its phase is recorded. -/
def checkResult (input : CreatorRegistrationResultInput) (currentAgentId callsId agentId uriDigest : Option String) :
    Except RegistrationFailure Unit :=
  if input.phase = .uri ∧ currentAgentId.isSome ∧ agentId.isSome ∧ input.agentId ≠ currentAgentId then
    .error (.registration "CREATOR_REGISTRATION_AGENT_MISMATCH"
      "The browser URI update agent ID does not match the persisted mint.")
  else if input.status = .confirmed ∧ input.phase = .mint ∧ (agentId.isNone ∨ callsId.isNone) then
    .error (.registration "CREATOR_REGISTRATION_RESULT_INVALID" "A confirmed mint must include its calls ID and agent ID.")
  else if input.status = .confirmed ∧ input.phase = .uri ∧ (currentAgentId.isNone ∨ callsId.isNone ∨ uriDigest.isNone) then
    .error (.registration "CREATOR_REGISTRATION_RESULT_INVALID"
      "A confirmed URI update must include its calls ID, agent ID and URI digest.")
  else if input.phase = .uri ∧ currentAgentId.isNone then
    .error (.registration "CREATOR_REGISTRATION_MINT_PENDING" "The mint must be finalized before recording a URI update.")
  else .ok ()

def identityJson (identity : RegistrationIdentity) : Json :=
  .obj [("namespace", .str "eip155"), ("chainId", .nat creatorErc8004ChainId),
    ("identityRegistry", .str identity.identityRegistry), ("agentId", .str identity.agentId),
    ("agentVersionId", .str identity.agentVersionId), ("endpoint", .str identity.endpoint),
    ("ownerAddress", .str identity.ownerAddress), ("agentWallet", .str identity.agentWallet)]

section
variable [Sha256] [ByteDigests] [RegistrationSdk] (column : JsonbColumn) (transaction : Transaction)

def recordEvent (table : List EventRow) (statusMessage : StatusMessage) (refs : EventReference)
    (transactionHash : Option String) (retryable : Bool) : List EventRow :=
  table ++ [{
    statusMessage
    externalResourceReferences := column.read (.obj refs)
    transactionHash, retryable
    createdAt := transaction.startedAt
    id := transaction.newId table.length }]

def storedIntent (userId deploymentId : String) (requesterAddress : Option String) (table : List EventRow) :
    Except RegistrationFailure (CreatorRegistrationIntent × List EventRow) := do
  match ← asIntent (eventsOf table) deploymentId with
  | some intent => return (intent, table)
  | none => do
    let intent ← buildIntent userId deploymentId transaction.row requesterAddress transaction.agentCardEndpoint
    return (intent, recordEvent column transaction table .intent (intentRefs intent) none true)

def mintIntentRefs (intent : CreatorRegistrationIntent) (scanStartBlock : Int) : EventReference :=
  setField (deploymentEventRefs intent) "phase" (.str "mint-intent") ++
    [("registrationUri", .str intent.registrationUri), ("scanStartBlock", Finding.blockText scanStartBlock),
      ("scanCursor", Finding.blockText scanStartBlock)]

def uriIntentRefs (intent : CreatorRegistrationIntent) (agentId : String) (finalFile : Json) (finalUri : String) :
    EventReference :=
  [("operationId", .str intent.operationId), ("phase", .str "uri-intent"), ("agentId", .str agentId),
    ("registrationFile", finalFile), ("registrationUri", .str finalUri),
    ("uriDigest", .str (creatorRegistrationUriDigest finalUri)), ("configurationDigest", .str intent.configurationDigest),
    ("tradingPair", .str intent.configuration.tradingPair.text)]

def reserveMint (intent : CreatorRegistrationIntent) (canMint : Bool) (table : List EventRow) :
    Except RegistrationFailure (Bool × List EventRow) :=
  if canMint then do
    let scanStartBlock ← transaction.finalizedBlock
    refuseIf (scanStartBlock < 0) (.registration "CREATOR_REGISTRATION_FINALITY_UNAVAILABLE"
      "The registry did not return a valid finalized block for mint reconciliation.")
    return (true, recordEvent column transaction table .mintIntent (mintIntentRefs intent scanStartBlock) none true)
  else return (false, table)

def reserveUri (intent : CreatorRegistrationIntent) (canSetUri : Bool) (agentId : Option String) (table : List EventRow) :
    Except RegistrationFailure (Bool × List EventRow) :=
  match canSetUri, agentId with
  | true, some agentId => do
    let finalFile ← finalizedCreatorRegistrationFile intent.registrationFile agentId
    let finalUri ← encodedCreatorRegistrationUri finalFile
    return (true, recordEvent column transaction table .uriIntent (uriIntentRefs intent agentId finalFile finalUri) none true)
  | _, _ => return (false, table)

def reserve (phase : Option CreatorRegistrationPhase) (reservePhase : Bool) (intent : CreatorRegistrationIntent)
    (status : CreatorRegistrationStatus) (table : List EventRow) : Except RegistrationFailure (Bool × List EventRow) :=
  match phase, reservePhase with
  | some .mint, true => reserveMint column transaction intent status.canMint table
  | some .uri, true => reserveUri column transaction intent status.canSetUri status.agentId table
  | _, _ => .ok (false, table)

def ensureIntent (userId deploymentId : String) (phase : Option CreatorRegistrationPhase) (requesterAddress : Option String)
    (reservePhase : Bool) (table : List EventRow) : Except RegistrationFailure (Prepared × List EventRow) := do
  let _ ← deployment transaction.row requesterAddress
  let (intent, table) ← storedIntent column transaction userId deploymentId requesterAddress table
  let status ← statusFromEvents deploymentId (eventsOf table) intent
  let (reservedPhase, table) ← reserve column transaction phase reservePhase intent status table
  return (⟨intent, eventsOf table, reservedPhase⟩, table)

def expectedUriDigest (phase : CreatorRegistrationPhase) (intent : CreatorRegistrationIntent) (agentId : Option String) :
    Except RegistrationFailure (Option String) :=
  match phase, agentId with
  | .mint, _ => .ok (some intent.uriDigest)
  | .uri, none => .ok none
  | .uri, some agentId => do
    let finalFile ← finalizedCreatorRegistrationFile intent.registrationFile agentId
    let finalUri ← encodedCreatorRegistrationUri finalFile
    return some (creatorRegistrationUriDigest finalUri)

/-- The transaction of `recordResult`: the status where an outcome was recorded before. -/
def recordResult (deploymentId : String) (input : CreatorRegistrationResultInput)
    (requesterAddress : Option String) (prepared : CreatorRegistrationIntent) (table : List EventRow) :
    Except RegistrationFailure (Option CreatorRegistrationStatus × List EventRow) := do
  let _ ← deployment transaction.row requesterAddress
  let events := eventsOf table
  let stored ← asIntent events deploymentId
  let intent := stored.getD prepared
  let current ← statusFromEvents deploymentId events intent
  refuseIf (!events.any (·.statusMessage = phaseIntent input.phase)) (.registration "CREATOR_REGISTRATION_INTENT_REQUIRED"
    "A browser signing reservation is required before recording its public result.")
  let callsId ← assertCallsId input.callsId
  let transactionHash ← assertTransactionHash input.transactionHash
  let agentId ← assertAgentId input.agentId
  let uriDigest ← assertUriDigest input.uriDigest
  let expectedDigest ← expectedUriDigest input.phase intent current.agentId
  refuseIf (uriDigest.any fun digest => expectedDigest.any fun expected => lower digest ≠ lower expected)
    (.registration "CREATOR_REGISTRATION_URI_MISMATCH"
      "The browser URI digest does not match the server-resolved registration file.")
  if hasOutcome input.phase events then return (some current, table)
  else do
    checkResult input current.agentId callsId agentId uriDigest
    let refs := resultRefs ⟨input.phase, callsId, transactionHash, input.status,
      if input.phase = .uri then current.agentId else agentId, uriDigest⟩ expectedDigest
    return (none, recordEvent column transaction table (phaseResult input.phase) refs transactionHash (input.status ≠ .confirmed))

def appendReconcile (requesterAddress : Option String) (finding : Finding) (table : List EventRow) :
    Except RegistrationFailure (Unit × List EventRow) := do
  let _ ← deployment transaction.row requesterAddress
  return ((), recordEvent column transaction table .reconcile (("reason", .str finding.reason) :: finding.refs) finding.rowHash true)

def operationRefs (intent : CreatorRegistrationIntent) (identity : RegistrationIdentity) (uriDigest : String) : EventReference :=
  [("operationId", .str intent.operationId), ("phase", .str "registered"), ("chainId", .nat creatorErc8004ChainId),
    ("identityRegistry", .str creatorErc8004Registry), ("tradingPair", .str intent.configuration.tradingPair.text),
    ("configurationDigest", .str intent.configurationDigest), ("uriDigest", .str uriDigest),
    ("erc8004Identity", identityJson identity)]

def appendOperation (requesterAddress : Option String) (intent : CreatorRegistrationIntent) (identity : RegistrationIdentity)
    (transactionHash : Option String) (uriDigest : String) (table : List EventRow) :
    Except RegistrationFailure (Unit × List EventRow) := do
  let _ ← deployment transaction.row requesterAddress
  if table.any (·.statusMessage = .operation) then return ((), table)
  return ((), recordEvent column transaction table .operation (operationRefs intent identity uriDigest) transactionHash false)

end

end Bnbera.Registration
