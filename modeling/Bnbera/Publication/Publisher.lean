import Bnbera.Publication.Store

namespace Bnbera.Publication

open Interleaving

/-- What the constructor fixes: the configuration and which adapters there are, with their optional methods. -/
structure EvidencePublisher where
  configuration : PublicationConfiguration
  ipfs : Bool
  greenfield : Bool
  inspectObject : Bool
  reconcileCreate : Bool

def illegalTransition (source target : PublicationAttemptState) : PublicationFailure :=
  ⟨none, "Illegal publication state transition: " ++ source.text ++ " -> " ++ target.text⟩

def stamped (record : PublicationAttemptRecord) (nextState : PublicationAttemptState) (startedAt completedAt : Option Int)
    (updatedAt : Int) : PublicationAttemptRecord :=
  { record with
    state := nextState
    revision := record.revision + 1
    startedAt := startedAt
    completedAt := completedAt
    updatedAt := updatedAt }

/-- `transition`: the schema reads the patched record, and a compare-and-set stores it. -/
def transition (record : PublicationAttemptRecord) (nextState : PublicationAttemptState) (patch : RecordPatch) :
    Work PublicationAttemptRecord := do
  Work.ask (.requestMove record.state nextState)
  if ¬Permitted record.state nextState then throw (illegalTransition record.state nextState)
  else match record.leaseOwner with
    | none => throw (providerError .leaseLost "Publication attempt is not held by a worker")
    | some leaseToken => do
      let startedAt ← Work.clockIf (record.startedAt = none ∧ nextState = .validating) record.startedAt
      let completedAt ← Work.clockIf (nextState ∈ terminalStates) record.completedAt
      let updatedAt ← Work.ask .clock
      let updated ← patch.apply (stamped record nextState startedAt completedAt updatedAt)
      let now ← Work.ask .clock
      let saved ← Work.ask (.save updated record.revision leaseToken now)
      let _ ← saved
      return updated

/-- `fail`: a failure state with its code, and an audit event where validation failed. -/
def fail (record : PublicationAttemptRecord) (state : PublicationAttemptState) (code : PublicationFailureCode)
    (message : String) (verification : Option VerificationResult) : Work PublicationAttemptRecord := do
  let failed ← transition record state {
    verification := verification.map some
    lastErrorCode := some (some code)
    lastErrorMessage := some (some message)
    retryable := some (isRetryable code) }
  if state = .validationFailed then
    Work.ask (.appendAudit ⟨failed.attemptId, failed.idempotencyKey.text, code, message, failed.updatedAt⟩)
  return failed

/-- `fail` with what was caught. -/
def failWith (record : PublicationAttemptRecord) (state : PublicationAttemptState) (error : PublicationFailure)
    (fallback : PublicationFailureCode) : Work PublicationAttemptRecord :=
  fail record state (errorCode error fallback) (errorMessage error) none

def checkedNetwork (actual expected provider : String) : Except PublicationFailure Unit :=
  refuseIf (actual ≠ expected)
    (providerError .providerFailed (provider ++ " adapter reported an unexpected configured network"))

section
variable [ByteDigests]

def readbackVerification (checkedAt : Int) (sealConfirmed : Option Bool) (digest : ArtifactDigest) (bytes : Bytes) :
    VerificationResult :=
  let bytesMatch := bytes = digest.canonicalBytes
  let reason : PublicationFailureCode := if bytes.length = digest.sizeBytes then .hashMismatch else .sizeMismatch
  createVerificationResult checkedAt sealConfirmed digest
    ⟨some (ByteDigests.sha256Hex bytes), some (ByteDigests.keccak256Hex bytes), some bytes.length⟩
    (if bytesMatch then .matched else .corrupt) (if bytesMatch then none else some reason)

/-- The last step of `verifyReadback`. -/
def storeVerified (record : PublicationAttemptRecord) (verification : VerificationResult) :
    Work PublicationAttemptRecord := do
  match record.locator with
  | none => transition record .verified { verification := some (some verification), locator := some none }
  | some locator => do
    let verifiedAt ← Work.ask .clock
    transition record .verified {
      verification := some (some verification)
      locator := some (some { locator with verifiedAt := some verifiedAt }) }

/-- `verifyReadback`: only the canonical bytes themselves verify a record. -/
def verifyReadback (record : PublicationAttemptRecord) (digest : ArtifactDigest) (read : Work Bytes)
    (sealConfirmed : Option Bool) : Work PublicationAttemptRecord := do
  match ← read.outcome with
  | .error error => do
    let code := errorCode error .missingObject
    let readbackStatus := match code with
      | .timeout => .timeout
      | .missingObject => .missing
      | _ => .providerFailed
    let checkedAt ← Work.ask .clock
    fail record .readbackFailed code (errorMessage error)
      (some (createVerificationResult checkedAt sealConfirmed digest ⟨none, none, none⟩ readbackStatus (some code)))
  | .ok bytes => do
    let checkedAt ← Work.ask .clock
    let verification := readbackVerification checkedAt sealConfirmed digest bytes
    if verification.status ≠ .verified then
      fail record (if verification.readbackStatus = .corrupt then .hashMismatch else .readbackFailed)
        (if verification.reasonCode = some .sizeMismatch then .sizeMismatch else .hashMismatch)
        "Readback content does not match canonical bytes" (some verification)
    else storeVerified record verification

end

namespace EvidencePublisher

def validateSizeBounds (publisher : EvidencePublisher) (record : PublicationAttemptRecord) (digest : ArtifactDigest) :
    Work (Option PublicationAttemptRecord) :=
  if publisher.configuration.maxArtifactBytes < digest.sizeBytes then
    some <$> fail record .validationFailed .artifactTooLarge "Canonical artifact exceeds the configured size limit" none
  else if publisher.configuration.maxObjectBytes < digest.sizeBytes then
    some <$> fail record .validationFailed .objectTooLarge "Published object exceeds the configured size limit" none
  else pure none

def uploadInput (record : PublicationAttemptRecord) (digest : ArtifactDigest) : PublicationUploadInput where
  objectName := record.objectName
  bytes := digest.canonicalBytes
  sha256Digest := digest.sha256Digest
  keccak256Digest := digest.keccak256Digest
  sizeBytes := digest.sizeBytes

def objectInput (record : PublicationAttemptRecord) (digest : ArtifactDigest) : ObjectInput where
  objectName := record.objectName
  canonicalBytes := digest.canonicalBytes
  sizeBytes := digest.sizeBytes

section
variable [UriParser] [ByteDigests] (publisher : EvidencePublisher)

/-- The `try` of `runIpfs`: upload, and store where the object is. -/
def uploadIpfs (digest : ArtifactDigest) (record : PublicationAttemptRecord) :
    Work (IpfsUploadReceipt × PublicationAttemptRecord) := do
  let uploaded ← Work.ask (.ipfsUpload (uploadInput record digest))
  let receipt ← uploaded
  let _ ← checkedNetwork receipt.network publisher.configuration.ipfsNetwork.text "ipfs"
  let locator ← createEvidenceLocator {
    provider := .ipfs
    providerLabel := publisher.configuration.ipfsProviderLabel
    network := publisher.configuration.ipfsNetwork
    uri := receipt.uri
    bucket := none
    objectName := none
    providerReference := receipt.providerReference
    digest := digest }
  let next ← transition record .readingBack {
    providerReference := some receipt.providerReference
    locator := some (some locator) }
  return (receipt, next)

def readIpfs (uri : String) : Work Bytes := do
  let bytes ← Work.ask (.ipfsRead uri)
  let bytes ← bytes
  return bytes

def readGreenfield (objectReference : String) : Work Bytes := do
  let bytes ← Work.ask (.readObject objectReference)
  let bytes ← bytes
  return bytes

def runIpfs (digest : ArtifactDigest) (initial : PublicationAttemptRecord) : Work PublicationAttemptRecord := do
  if publisher.ipfs = false then
    fail initial .providerFailed .unsupportedProvider "IPFS adapter is not configured" none
  else if initial.state = .readingBack then
    match initial.locator with
    | none => fail initial .readbackFailed .missingObject "IPFS readback has no durable locator" none
    | some locator => verifyReadback initial digest (readIpfs locator.uri.text) none
  else do
    let record ← transition initial .uploading {}
    match ← (publisher.uploadIpfs digest record).outcome with
    | .error error => failWith record .uploadFailed error .uploadFailed
    | .ok (receipt, next) =>
      verifyReadback next digest (readIpfs ((next.locator.map (·.uri.text)).getD receipt.uri)) none

/-- One answer of `waitForSeal`: sealed, with the record that now reads back, or not yet. -/
def pollSeal (record : PublicationAttemptRecord) (objectReference : String) (attempt : Nat) :
    Work (PublicationAttemptRecord ⊕ SealStatus) := do
  let polled ← Work.ask (.waitForSeal objectReference attempt)
  let receipt ← polled
  let sealTransactionHash ← checkedTransactionHash receipt.sealTransactionHash "Greenfield seal transaction"
  if receipt.status = .sealed then
    let next ← transition record .readingBack { sealTransactionHash := some sealTransactionHash }
    return .inl next
  else return .inr receipt.status

/-- `awaitSeal`, from a poll on, with the number of polls that remain. -/
def awaitSeal (digest : ArtifactDigest) (objectReference : String) (attempt : Nat) :
    Nat → PublicationAttemptRecord → Work PublicationAttemptRecord
  | 0, record => fail record .sealTimeout .timeout "Greenfield seal was not confirmed within the polling bound" none
  | remaining + 1, record => do
    match ← (pollSeal record objectReference attempt).outcome with
    | .error error => failWith record .providerFailed error .providerFailed
    | .ok (.inl next) => verifyReadback next digest (readGreenfield objectReference) (some true)
    | .ok (.inr .missing) =>
      fail record .readbackFailed .missingObject "Greenfield object is missing while awaiting seal" none
    | .ok (.inr _) =>
      if remaining = 0 then awaitSeal digest objectReference (attempt + 1) remaining record
      else do
        let next ← transition record .awaitingSeal {}
        let backoff := publisher.configuration.sealBackoffMs
        let delay := (backoff[min (attempt - 1) (backoff.length - 1)]?).getD 0
        if 0 < delay then Work.ask (.sleep delay)
        awaitSeal digest objectReference (attempt + 1) remaining next

def greenfieldLocator (digest : ArtifactDigest) (record : PublicationAttemptRecord) (uri providerReference : String) :
    Except PublicationFailure EvidenceLocator := createEvidenceLocator {
  provider := .greenfield
  providerLabel := publisher.configuration.greenfieldProviderLabel
  network := publisher.configuration.greenfieldNetwork
  uri := uri
  bucket := some publisher.configuration.greenfieldBucket
  objectName := some record.objectName
  providerReference := some providerReference
  digest := digest }

/-- How a part of `runGreenfield` ends: it returns a record, or the rest goes on with a record and an object reference. -/
inductive Progress
  | returned (record : PublicationAttemptRecord)
  | continued (record : PublicationAttemptRecord) (objectReference : Option String)

/-- What follows an inspection that found the object. -/
def recoverObject (digest : ArtifactDigest) (record : PublicationAttemptRecord) (inspected : GreenfieldInspectReceipt) :
    Work Progress := do
  match inspected.objectReference with
  | none =>
    Progress.returned <$> fail record .createFailed .createFailed
      "Greenfield inspection found an object without a provider reference" none
  | some objectReference => do
    let creationTransactionHash ← checkedTransactionHash inspected.creationTransactionHash "Greenfield creation transaction"
    if creationTransactionHash = none then
      Progress.returned <$> fail record .createFailed .createFailed
        "Greenfield inspection found an object without its creation transaction hash" none
    else if inspected.status = .sealed then do
      let locator ← publisher.greenfieldLocator digest record
        ("greenfield://" ++ publisher.configuration.greenfieldBucket.text ++ "/" ++ record.objectName) objectReference
      let sealTransactionHash ← checkedTransactionHash inspected.sealTransactionHash "Greenfield seal transaction"
      let next ← transition record .awaitingSeal {
        providerReference := some (some objectReference)
        creationTransactionHash := some creationTransactionHash
        sealTransactionHash := some sealTransactionHash
        locator := some (some locator) }
      Progress.returned <$> publisher.awaitSeal digest objectReference 1 publisher.configuration.maxSealPolls next
    else do
      let next ← transition record .uploading {
        providerReference := some (some objectReference)
        creationTransactionHash := some creationTransactionHash }
      return .continued next (some objectReference)

/-- The `try` around `createObject`. -/
def createOnce (digest : ArtifactDigest) (record : PublicationAttemptRecord) :
    Work (PublicationAttemptRecord × Option String) := do
  Work.ask (.createObject (objectInput record digest))
  let answered ← Work.ask .createReturned
  let created ← answered
  let creationTransactionHash ← checkedTransactionHash created.creationTransactionHash "Greenfield creation transaction"
  let submittedAt ← Work.clockIf (created.status = .submitted) none
  let next ← transition record (if created.status = .submitted then .submitted else .uploading) {
    providerReference := some created.objectReference
    creationTransactionHash := some creationTransactionHash
    submittedAt := some submittedAt }
  return (next, created.objectReference)

def createObject (digest : ArtifactDigest) (record : PublicationAttemptRecord) : Work Progress := do
  match ← (createOnce digest record).outcome with
  | .error error => Progress.returned <$> failWith record .createFailed error .createFailed
  | .ok (next, none) =>
    Progress.returned <$> fail next .createFailed .createFailed "Provider did not return an object reference" none
  | .ok (next, some objectReference) => return .continued next (some objectReference)

def inspectOrCreate (digest : ArtifactDigest) (record : PublicationAttemptRecord) : Work Progress := do
  if publisher.inspectObject = false then createObject digest record
  else do
    let answered ← Work.ask (.inspectObject (objectInput record digest))
    match answered with
    | .error error => Progress.returned <$> failWith record .providerFailed error .providerFailed
    | .ok inspected =>
      if inspected.status = .missing then createObject digest record
      else publisher.recoverObject digest record inspected

/-- The `try` around `uploadObject`. -/
def uploadGreenfield (digest : ArtifactDigest) (record : PublicationAttemptRecord) (objectReference : String) :
    Work PublicationAttemptRecord := do
  let uploaded ← Work.ask (.uploadObject (uploadInput record digest) objectReference record.creationTransactionHash)
  let receipt ← uploaded
  let _ ← checkedNetwork receipt.network publisher.configuration.greenfieldNetwork.text "greenfield"
  let _ ← refuseIf (receipt.bucket ≠ publisher.configuration.greenfieldBucket.text)
    (providerError .providerFailed "Greenfield adapter reported an unconfigured bucket")
  match UriParser.parse receipt.uri with
  | none => throw ⟨none, "Invalid URL"⟩
  | some uri => do
    let _ ← refuseIf (uri.hostname ≠ publisher.configuration.greenfieldBucket.text)
      (providerError .providerFailed "Greenfield URI does not identify the configured bucket")
    let locator ← publisher.greenfieldLocator digest record receipt.uri receipt.providerReference
    transition record .awaitingSeal {
      providerReference := some (some objectReference)
      locator := some (some locator) }

/-- The part of `runGreenfield` for an object whose upload has begun. -/
def storeObject (digest : ArtifactDigest) (record : PublicationAttemptRecord) (objectReference : String) :
    Work PublicationAttemptRecord := do
  if record.locator = none then
    match ← (publisher.uploadGreenfield digest record objectReference).outcome with
    | .error error => failWith record .uploadFailed error .uploadFailed
    | .ok next => publisher.awaitSeal digest objectReference 1 publisher.configuration.maxSealPolls next
  else do
    let next ← transition record .awaitingSeal { providerReference := some (some objectReference) }
    publisher.awaitSeal digest objectReference 1 publisher.configuration.maxSealPolls next

/-- The part of `runGreenfield` for a created object. -/
def uploadObject (digest : ArtifactDigest) (record : PublicationAttemptRecord) (objectReference : Option String) :
    Work PublicationAttemptRecord := do
  match objectReference with
  | none => fail record .createFailed .createFailed "Submitted attempt has no object reference" none
  | some objectReference =>
    if record.state = .submitted then do
      let next ← transition record .uploading {}
      publisher.storeObject digest next objectReference
    else publisher.storeObject digest record objectReference

/-- The last part of `runGreenfield`. -/
def resumeUpload (digest : ArtifactDigest) (record : PublicationAttemptRecord) (objectReference : Option String) :
    Work PublicationAttemptRecord :=
  if record.state = .submitted ∨ record.state = .uploading then publisher.uploadObject digest record objectReference
  else fail record .providerFailed .providerFailed "Greenfield attempt cannot be reconciled from its durable state" none

/-- The part of `runGreenfield` for a record without an object reference. -/
def createFirst (digest : ArtifactDigest) (record : PublicationAttemptRecord) : Work PublicationAttemptRecord := do
  match ← publisher.inspectOrCreate digest record with
  | .returned record => return record
  | .continued next objectReference => publisher.resumeUpload digest next objectReference

def runGreenfield (digest : ArtifactDigest) (record : PublicationAttemptRecord) : Work PublicationAttemptRecord := do
  let objectReference := record.providerReference.map (·.text)
  if publisher.greenfield = false then
    fail record .providerFailed .unsupportedProvider "Greenfield adapter is not configured" none
  else if record.state = .readingBack then
    match objectReference with
    | none => fail record .readbackFailed .missingObject "Greenfield readback has no durable object reference" none
    | some objectReference => verifyReadback record digest (readGreenfield objectReference) (some true)
  else if record.state = .awaitingSeal then
    match objectReference, record.locator with
    | some objectReference, some _ =>
      publisher.awaitSeal digest objectReference 1 publisher.configuration.maxSealPolls record
    | _, _ => fail record .providerFailed .providerFailed "Awaiting-seal attempt is missing durable object metadata" none
  else if (record.state = .validating ∨ record.state = .creatingObject) ∧ objectReference = none then
    if record.state = .creatingObject then publisher.createFirst digest record
    else do
      let next ← transition record .creatingObject {}
      publisher.createFirst digest next
  else publisher.resumeUpload digest record objectReference

/-- The `catch` of `runProvider`. -/
def recoverFrom (record : PublicationAttemptRecord) (error : PublicationFailure) : Work PublicationAttemptRecord :=
  if record.state ≠ .providerFailed ∧ .providerFailed ∉ stateTransitions record.state then throw error
  else failWith record .providerFailed error .providerFailed

/-- The part of `runProvider` after the move to validating. -/
def publishValidated (digest : ArtifactDigest) (provider : PublicationProvider) (record : PublicationAttemptRecord) :
    Work PublicationAttemptRecord := do
  match ← (publisher.validateSizeBounds record digest).outcome with
  | .error error => recoverFrom record error
  | .ok (some failed) => return failed
  | .ok none =>
    match provider with
    | .ipfs => publisher.runIpfs digest record
    | .greenfield => publisher.runGreenfield digest record

/-- `runProvider`. Its `catch` sees the move to validating and the size check only: what the
providers' parts throw is returned before it is awaited. -/
def runProvider (digest : ArtifactDigest) (provider : PublicationProvider) (initial : PublicationAttemptRecord) :
    Work PublicationAttemptRecord := do
  if initial.state = .pending ∨ initial.state = .retrying then
    match ← (transition initial .validating {}).outcome with
    | .error error => recoverFrom initial error
    | .ok record => publisher.publishValidated digest provider record
  else publisher.publishValidated digest provider initial

end

end EvidencePublisher

end Bnbera.Publication
