import Bnbera.Publication.Publisher

namespace Bnbera.Publication

open Interleaving

def UnknownCreate (record : PublicationAttemptRecord) : Prop :=
  record.state = .createFailed ∧ record.lastErrorCode = some .createUnknown

instance (record : PublicationAttemptRecord) : Decidable (UnknownCreate record) := inferInstanceAs (Decidable (_ ∧ _))

def withError (record : PublicationAttemptRecord) (code : PublicationFailureCode) (message : String) :
    Work PublicationAttemptRecord := do
  let completedAt ← Work.ask .clock
  let updatedAt ← Work.ask .clock
  return { record with
    lastErrorCode := some code
    lastErrorMessage := some message
    retryable := false
    completedAt := some completedAt
    updatedAt := updatedAt }

def environmentMismatch : PublicationFailure :=
  providerError .invalidArtifact "Artifact environment does not match trusted configuration"

namespace EvidencePublisher

def providerLabel (publisher : EvidencePublisher) : PublicationProvider → SafeLabel
  | .ipfs => publisher.configuration.ipfsProviderLabel
  | .greenfield => publisher.configuration.greenfieldProviderLabel

def configuredNetwork (publisher : EvidencePublisher) : PublicationProvider → SafeLabel
  | .ipfs => publisher.configuration.ipfsNetwork
  | .greenfield => publisher.configuration.greenfieldNetwork

def configuredBucket (publisher : EvidencePublisher) : PublicationProvider → Option SafeBucket
  | .ipfs => none
  | .greenfield => some publisher.configuration.greenfieldBucket

section
variable [ByteDigests] (publisher : EvidencePublisher)

def newRecord (idempotencyKey : String) (digest : ArtifactDigest) (provider : PublicationProvider)
    (state : PublicationAttemptState) : Work PublicationAttemptRecord := do
  let timestamp ← Work.ask .clock
  let _ ← refuseIf (digest.artifact.environment ≠ publisher.configuration.environment) environmentMismatch
  let objectName ← deterministicObjectName digest.artifact
  let objectName ← assertImmutableObjectName objectName
  let recordKey ← parseText 256 (providerIdempotencyKey idempotencyKey provider)
  return {
    attemptId := deterministicAttemptId (providerIdempotencyKey idempotencyKey provider) provider
    idempotencyKey := recordKey
    provider := provider
    providerLabel := publisher.providerLabel provider
    configurationDigest := publicationConfigurationDigest publisher.configuration
    configuredNetwork := publisher.configuredNetwork provider
    configuredBucket := publisher.configuredBucket provider
    artifactId := digest.artifact.artifactId
    artifactType := digest.artifact.artifactType
    artifactVersion := digest.artifact.version
    objectName := objectName
    sha256Digest := digest.sha256Digest
    keccak256Digest := digest.keccak256Digest
    sizeBytes := digest.sizeBytes
    state := state
    revision := 0
    leaseOwner := none
    leaseExpiresAt := none
    providerReference := none
    creationTransactionHash := none
    sealTransactionHash := none
    locator := none
    verification := none
    retryCount := 0
    lastErrorCode := none
    lastErrorMessage := none
    retryable := false
    submittedAt := none
    startedAt := none
    completedAt := none
    createdAt := timestamp
    updatedAt := timestamp }

def assertCurrentConfiguration (record : PublicationAttemptRecord) (provider : PublicationProvider) :
    Except PublicationFailure Unit :=
  refuseIf (record.configurationDigest ≠ publicationConfigurationDigest publisher.configuration ∨
      record.providerLabel ≠ publisher.providerLabel provider ∨
      record.configuredNetwork ≠ publisher.configuredNetwork provider ∨
      record.configuredBucket ≠ publisher.configuredBucket provider)
    (providerError .configurationChanged
      "Publication attempt was created under a different trusted storage configuration")

end

section
variable [UriParser] [ByteDigests] (publisher : EvidencePublisher)

/-- An attempt that is taken up again: it is retried from `pending` on. -/
def startOver (initial : PublicationAttemptRecord) (patch : RecordPatch) (digest : ArtifactDigest)
    (provider : PublicationProvider) : Work PublicationAttemptRecord := do
  let retrying ← transition initial .retrying patch
  let pending ← transition retrying .pending {}
  publisher.runProvider digest provider pending

def reconcileUnknownCreate (initial : PublicationAttemptRecord) (digest : ArtifactDigest) :
    Work (Option PublicationAttemptRecord) := do
  if publisher.greenfield = false ∨ publisher.reconcileCreate = false then return none
  else match ← Work.ask (.reconcileCreate (objectInput initial digest)) with
    | .error _ => return none
    | .ok reconciliation =>
      if reconciliation.status = .unknown then return none
      else if reconciliation.status = .present ∧
          (reconciliation.objectReference = none ∨ reconciliation.creationTransactionHash = none) then return none
      else some <$> publisher.startOver initial {
        retryCount := some (initial.retryCount + 1)
        lastErrorCode := some none
        lastErrorMessage := some none
        retryable := some false
        providerReference := some none
        creationTransactionHash := some none
        sealTransactionHash := some none
        locator := some none
        verification := some none } digest .greenfield

/-- How the `try` of `publishProvider` ends: it returns a record there, or goes on with an outcome. -/
inductive Attempted
  | returned (record : PublicationAttemptRecord)
  | finished (outcome : PublicationAttemptRecord)

def Attempted.carried : Attempted → PublicationAttemptRecord
  | returned record => record
  | finished outcome => outcome

def Attempted.outcome (found : Option PublicationAttemptRecord) : Attempted → PublicationAttemptRecord
  | returned record => record
  | finished outcome => found.getD outcome

/-- The `try` of `publishProvider`, with the record that was read and the one that was leased. -/
def attempt (existing : PublicationAttemptRecord) (created : Bool) (digest : ArtifactDigest)
    (provider : PublicationProvider) (initial : PublicationAttemptRecord) : Work Attempted := do
  if created = false ∧ existing.state ∈ terminalStates then
    if UnknownCreate existing then do
      let reconciled ← publisher.reconcileUnknownCreate initial digest
      return .returned (reconciled.getD initial)
    else if existing.retryable = false then return .returned existing
    else Attempted.finished <$> publisher.startOver initial {
      retryCount := some (existing.retryCount + 1)
      lastErrorCode := some none
      lastErrorMessage := some none
      retryable := some false
      verification := some none } digest provider
  else if created = false ∧ initial.state = .retrying then do
    let pending ← transition initial .pending {}
    Attempted.finished <$> publisher.runProvider digest provider pending
  else Attempted.finished <$> publisher.runProvider digest provider initial

/-- The `finally` of `publishProvider`: the lease is released, and a record that was not returned
before is read again. -/
def conclude (attemptId leaseToken : String) (ended : Except PublicationFailure Attempted) :
    Work PublicationAttemptRecord := do
  let now ← Work.ask .clock
  let released ← Work.ask (.releaseLease attemptId leaseToken now)
  let found ← match released with
    | some record => pure (some record)
    | none => Work.ask (.findByAttemptId attemptId)
  let attempted ← ended
  return attempted.outcome found

def lease (existing : PublicationAttemptRecord) (created : Bool) (digest : ArtifactDigest)
    (provider : PublicationProvider) : Work PublicationAttemptRecord := do
  let leaseToken ← Work.ask .randomUUID
  let now ← Work.ask .clock
  match ← Work.ask (.acquireLease existing.attemptId leaseToken now publisher.configuration.leaseDurationMs) with
  | (true, some initial) => do
    let ended ← (publisher.attempt existing created digest provider initial).outcome
    conclude existing.attemptId leaseToken ended
  | _ => do
    let found ← Work.ask (.findByAttemptId existing.attemptId)
    return found.getD existing

def Settled (existing : PublicationAttemptRecord) (created : Bool) : Prop :=
  existing.state = .verified ∨
    created = false ∧ existing.retryable = false ∧ existing.state ∈ terminalStates ∧ ¬UnknownCreate existing

instance (existing : PublicationAttemptRecord) (created : Bool) : Decidable (Settled existing created) :=
  inferInstanceAs (Decidable (_ ∨ _))

def publishProvider (idempotencyKey : String) (digest : ArtifactDigest) (provider : PublicationProvider) :
    Work PublicationAttemptRecord := do
  let candidate ← publisher.newRecord idempotencyKey digest provider .pending
  let (existing, created) ← Work.ask (.createOrGet candidate)
  if existing.provider ≠ provider ∨ existing.sha256Digest ≠ digest.sha256Digest ∨
      existing.keccak256Digest ≠ digest.keccak256Digest then do
    let duplicate ← publisher.newRecord idempotencyKey digest provider .duplicate
    withError duplicate .duplicateIdempotencyKey "Idempotency key is bound to different content"
  else do
    let _ ← publisher.assertCurrentConfiguration existing provider
    let _ ← assertDurablePublicationAttempt existing
    if Settled existing created then return existing
    else publisher.lease existing created digest provider

def appendRefusal (idempotencyKey : String) (provider : PublicationProvider) (code : PublicationFailureCode)
    (message : String) : Work Unit := do
  let createdAt ← Work.ask .clock
  Work.ask (.appendAudit ⟨deterministicAttemptId (providerIdempotencyKey idempotencyKey provider) provider,
    providerIdempotencyKey idempotencyKey provider, code, message, createdAt⟩)

def publishDigest (idempotencyKey : String) (digest : ArtifactDigest) (provider : PublicationProvider) :
    Work PublicationAttemptRecord := do
  if digest.artifact.environment ≠ publisher.configuration.environment then do
    appendRefusal idempotencyKey provider .invalidArtifact environmentMismatch.message
    throw environmentMismatch
  else publisher.publishProvider idempotencyKey digest provider

/-- What `publish` does for one of the enabled providers; it does so for all of them at once. -/
def publish (artifact : Except PublicationFailure CanonicalArtifact) (idempotencyKey : String)
    (provider : PublicationProvider) : Work PublicationAttemptRecord := do
  match artifact with
  | .error error => do
    appendRefusal idempotencyKey provider (errorCode error .invalidArtifact) (errorMessage error)
    throw error
  | .ok artifact => publisher.publishDigest idempotencyKey (digestArtifact artifact) provider

def reconcile (artifact : Except PublicationFailure CanonicalArtifact) (idempotencyKey : String)
    (provider : PublicationProvider) : Work PublicationAttemptRecord := do
  let _ ← refuseIf (provider ∉ publisher.configuration.enabledProviders)
    (providerError .unsupportedProvider "Provider is not enabled by trusted configuration")
  let artifact ← artifact
  publisher.publishDigest idempotencyKey (digestArtifact artifact) provider

end

end EvidencePublisher

/-- A request: the method, and the outcome of normalizing the artifact that it was given. -/
inductive PublicationMethod
  | publish
  | reconcile

structure PublicationRequest where
  publisher : EvidencePublisher
  method : PublicationMethod
  artifact : Except PublicationFailure CanonicalArtifact
  idempotencyKey : String
  provider : PublicationProvider

namespace PublicationRequest
variable [UriParser] [ByteDigests] (request : PublicationRequest)

def work : Work PublicationAttemptRecord :=
  match request.method with
  | .publish => request.publisher.publish request.artifact request.idempotencyKey request.provider
  | .reconcile => request.publisher.reconcile request.artifact request.idempotencyKey request.provider

def handler : Program PublisherCall PublisherCall.Answer (Except PublicationFailure PublicationAttemptRecord) :=
  request.work.run

end PublicationRequest

end Bnbera.Publication
