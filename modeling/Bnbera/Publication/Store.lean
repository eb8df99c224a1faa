import Bnbera.Validation
import Bnbera.Publication.Types
import Bnbera.OrderedMap
import Bnbera.Interleaving.Traces

namespace Bnbera.Publication

structure Uri where
  username : String
  password : String
  hostname : String

class UriParser where
  parse : String → Option Uri

/-- `z.string().trim().min(1).max(high)` -/
def parseText (high : Nat) (text : String) : Except PublicationFailure (Checked (isTrimmedText high)) :=
  match check (isTrimmedText high) (trim text) with
  | some value => .ok value
  | none => .error zodError

structure EvidenceLocator where
  provider : PublicationProvider
  providerLabel : SafeLabel
  network : SafeLabel
  uri : LocatorUri
  bucket : Option SafeBucket
  objectName : Option String
  providerReference : Option ProviderReference
  version : Nat
  sha256Digest : Digest
  keccak256Digest : Digest
  sizeBytes : Nat
  verifiedAt : Option Int
deriving DecidableEq

def locatorSchemes : PublicationProvider → List String
  | .ipfs => ["ipfs://"]
  | .greenfield => ["greenfield://", "gnfd://"]

/-- `/^scheme:\/\/[^\s]+$/` for a scheme of the provider. -/
def uriForProvider (provider : PublicationProvider) (value : String) : Bool :=
  (locatorSchemes provider).any fun scheme => scheme.toList.isPrefixOf value.toList &&
    scheme.toList.length < value.toList.length && (value.toList.drop scheme.toList.length).all fun c => !isTrimmed c

def uriHasCredentials [UriParser] (value : String) : Bool :=
  (UriParser.parse value).any fun uri => uri.username != "" || uri.password != ""

structure LocatorInput where
  provider : PublicationProvider
  providerLabel : SafeLabel
  network : SafeLabel
  uri : String
  bucket : Option SafeBucket
  objectName : Option String
  providerReference : Option String
  digest : ArtifactDigest

def createEvidenceLocator [UriParser] (input : LocatorInput) : Except PublicationFailure EvidenceLocator := do
  let uri ← parseText 2000 input.uri
  let providerReference ← input.providerReference.mapM (parseText 512)
  refuseIf (uriForProvider input.provider uri.text = false ∨ uriHasCredentials uri.text = true) zodError
  return {
    provider := input.provider
    providerLabel := input.providerLabel
    network := input.network
    uri := uri
    bucket := input.bucket
    objectName := input.objectName
    providerReference := providerReference
    version := input.digest.artifact.version
    sha256Digest := input.digest.sha256Digest
    keccak256Digest := input.digest.keccak256Digest
    sizeBytes := input.digest.sizeBytes
    verifiedAt := none }

inductive VerificationStatus
  | notVerified
  | verified
  | failed
deriving DecidableEq

inductive ReadbackStatus
  | notAttempted
  | matched
  | missing
  | corrupt
  | timeout
  | providerFailed
deriving DecidableEq

structure VerificationResult where
  status : VerificationStatus
  checkedAt : Int
  sealConfirmed : Option Bool
  readbackStatus : ReadbackStatus
  expectedSha256Digest : Digest
  observedSha256Digest : Option Digest
  expectedKeccak256Digest : Digest
  observedKeccak256Digest : Option Digest
  expectedSizeBytes : Nat
  observedSizeBytes : Option Nat
  hashesMatch : Bool
  sizeMatches : Bool
  reasonCode : Option PublicationFailureCode
deriving DecidableEq

structure Observed where
  sha256Digest : Option Digest
  keccak256Digest : Option Digest
  sizeBytes : Option Nat

def createVerificationResult (checkedAt : Int) (sealConfirmed : Option Bool) (digest : ArtifactDigest)
    (observed : Observed) (readbackStatus : ReadbackStatus) (reasonCode : Option PublicationFailureCode) :
    VerificationResult :=
  let hashesMatch := observed.sha256Digest = some digest.sha256Digest ∧ observed.keccak256Digest = some digest.keccak256Digest
  let sizeMatches := observed.sizeBytes = some digest.sizeBytes
  { status := if readbackStatus = .matched ∧ sealConfirmed ≠ some false ∧ hashesMatch ∧ sizeMatches then .verified
      else .failed
    checkedAt := checkedAt
    sealConfirmed := sealConfirmed
    readbackStatus := readbackStatus
    expectedSha256Digest := digest.sha256Digest
    observedSha256Digest := observed.sha256Digest
    expectedKeccak256Digest := digest.keccak256Digest
    observedKeccak256Digest := observed.keccak256Digest
    expectedSizeBytes := digest.sizeBytes
    observedSizeBytes := observed.sizeBytes
    hashesMatch := hashesMatch
    sizeMatches := sizeMatches
    reasonCode := reasonCode }

/-- `/^0x0{64}$/` -/
def isZeroHash (text : String) : Bool := text.toList == '0' :: 'x' :: List.replicate 64 '0'

abbrev ProviderHash := Checked fun text => isTransactionHash text && !isZeroHash text

def checkedTransactionHash (value : Option String) (field : String) : Except PublicationFailure (Option ProviderHash) :=
  match value with
  | none => .ok none
  | some text =>
    let normalized := lower (trim text)
    if isTransactionHash normalized then .ok (check _ normalized)
    else .error (providerError .malformedTransaction (field ++ " hash is malformed"))

/-- `publicationAttemptRecordSchema` -/
structure PublicationAttemptRecord where
  attemptId : String
  idempotencyKey : AttemptKey
  provider : PublicationProvider
  providerLabel : SafeLabel
  configurationDigest : Digest
  configuredNetwork : SafeLabel
  configuredBucket : Option SafeBucket
  artifactId : String
  artifactType : String
  artifactVersion : Nat
  objectName : String
  sha256Digest : Digest
  keccak256Digest : Digest
  sizeBytes : Nat
  state : PublicationAttemptState
  revision : Nat
  leaseOwner : Option String
  leaseExpiresAt : Option Int
  providerReference : Option ProviderReference
  creationTransactionHash : Option ProviderHash
  sealTransactionHash : Option ProviderHash
  locator : Option EvidenceLocator
  verification : Option VerificationResult
  retryCount : Nat
  lastErrorCode : Option PublicationFailureCode
  lastErrorMessage : Option String
  retryable : Bool
  submittedAt : Option Int
  startedAt : Option Int
  completedAt : Option Int
  createdAt : Int
  updatedAt : Int
deriving DecidableEq

/-- The fields that a transition sets beside the state; the times of a patch are overwritten. A
provider reference is as the provider returned it. -/
structure RecordPatch where
  providerReference : Option (Option String) := none
  creationTransactionHash : Option (Option ProviderHash) := none
  sealTransactionHash : Option (Option ProviderHash) := none
  locator : Option (Option EvidenceLocator) := none
  verification : Option (Option VerificationResult) := none
  retryCount : Option Nat := none
  lastErrorCode : Option (Option PublicationFailureCode) := none
  lastErrorMessage : Option (Option String) := none
  retryable : Option Bool := none
  submittedAt : Option (Option Int) := none

/-- `publicationAttemptRecordSchema.parse({ ...record, ...patch })` -/
def RecordPatch.apply (patch : RecordPatch) (record : PublicationAttemptRecord) :
    Except PublicationFailure PublicationAttemptRecord := do
  let providerReference ← match patch.providerReference with
    | none => pure record.providerReference
    | some given => given.mapM (parseText 512)
  return { record with
    providerReference := providerReference
    creationTransactionHash := patch.creationTransactionHash.getD record.creationTransactionHash
    sealTransactionHash := patch.sealTransactionHash.getD record.sealTransactionHash
    locator := patch.locator.getD record.locator
    verification := patch.verification.getD record.verification
    retryCount := patch.retryCount.getD record.retryCount
    lastErrorCode := patch.lastErrorCode.getD record.lastErrorCode
    lastErrorMessage := patch.lastErrorMessage.getD record.lastErrorMessage
    retryable := patch.retryable.getD record.retryable
    submittedAt := patch.submittedAt.getD record.submittedAt }

structure LocatorFits (record : PublicationAttemptRecord) (locator : EvidenceLocator) : Prop where
  provider : locator.provider = record.provider
  providerLabel : locator.providerLabel = record.providerLabel
  network : locator.network = record.configuredNetwork
  bucket : locator.bucket = record.configuredBucket
  version : locator.version = record.artifactVersion
  sha256Digest : locator.sha256Digest = record.sha256Digest
  keccak256Digest : locator.keccak256Digest = record.keccak256Digest
  sizeBytes : locator.sizeBytes = record.sizeBytes

structure VerificationFits (record : PublicationAttemptRecord) (verification : VerificationResult) : Prop where
  status : verification.status = .verified
  readbackStatus : verification.readbackStatus = .matched
  hashesMatch : verification.hashesMatch = true
  sizeMatches : verification.sizeMatches = true
  expectedSha256Digest : verification.expectedSha256Digest = record.sha256Digest
  observedSha256Digest : verification.observedSha256Digest = some record.sha256Digest
  expectedKeccak256Digest : verification.expectedKeccak256Digest = record.keccak256Digest
  observedKeccak256Digest : verification.observedKeccak256Digest = some record.keccak256Digest
  expectedSizeBytes : verification.expectedSizeBytes = record.sizeBytes
  observedSizeBytes : verification.observedSizeBytes = some record.sizeBytes

instance (record : PublicationAttemptRecord) (locator : EvidenceLocator) : Decidable (LocatorFits record locator) :=
  decidable_of_iff (locator.provider = record.provider ∧ locator.providerLabel = record.providerLabel ∧
      locator.network = record.configuredNetwork ∧ locator.bucket = record.configuredBucket ∧
      locator.version = record.artifactVersion ∧ locator.sha256Digest = record.sha256Digest ∧
      locator.keccak256Digest = record.keccak256Digest ∧ locator.sizeBytes = record.sizeBytes)
    ⟨fun ⟨a, b, c, d, e, f, g, h⟩ => ⟨a, b, c, d, e, f, g, h⟩, fun ⟨a, b, c, d, e, f, g, h⟩ => ⟨a, b, c, d, e, f, g, h⟩⟩

instance (record : PublicationAttemptRecord) (verification : VerificationResult) :
    Decidable (VerificationFits record verification) :=
  decidable_of_iff (verification.status = .verified ∧ verification.readbackStatus = .matched ∧
      verification.hashesMatch = true ∧ verification.sizeMatches = true ∧
      verification.expectedSha256Digest = record.sha256Digest ∧
      verification.observedSha256Digest = some record.sha256Digest ∧
      verification.expectedKeccak256Digest = record.keccak256Digest ∧
      verification.observedKeccak256Digest = some record.keccak256Digest ∧
      verification.expectedSizeBytes = record.sizeBytes ∧ verification.observedSizeBytes = some record.sizeBytes)
    ⟨fun ⟨a, b, c, d, e, f, g, h, i, j⟩ => ⟨a, b, c, d, e, f, g, h, i, j⟩,
      fun ⟨a, b, c, d, e, f, g, h, i, j⟩ => ⟨a, b, c, d, e, f, g, h, i, j⟩⟩

def assertDurablePublicationAttempt (record : PublicationAttemptRecord) : Except PublicationFailure Unit :=
  if record.state ≠ .verified then .ok ()
  else do
    refuseIf (¬((∃ locator ∈ record.locator, LocatorFits record locator ∧ locator.verifiedAt ≠ none) ∧
        ∃ verification ∈ record.verification, VerificationFits record verification))
      (providerError .durableGraphInvalid "Verified publication is missing matching locator or readback evidence")
    refuseIf (record.provider = .greenfield ∧
        ((∃ hash ∈ record.sealTransactionHash, isZeroHash hash.text = true) ∨
          record.verification.bind (·.sealConfirmed) ≠ some true))
      (providerError .durableGraphInvalid "Verified Greenfield publication is missing canonical seal confirmation")

structure PublicationAuditEvent where
  attemptId : String
  idempotencyKey : String
  reasonCode : PublicationFailureCode
  message : String
  createdAt : Int

/-- The maps of `InMemoryPublicationStore`. -/
structure PublicationStore where
  records : OrderedMap String PublicationAttemptRecord
  audits : List PublicationAuditEvent

namespace PublicationStore

def empty : PublicationStore := ⟨.empty, []⟩

def write (store : PublicationStore) (record : PublicationAttemptRecord) : PublicationStore :=
  { store with records := store.records.set record.idempotencyKey.text record }

def findByAttemptId (store : PublicationStore) (attemptId : String) : Option PublicationAttemptRecord :=
  store.records.values.find? (·.attemptId = attemptId)

def createOrGet (store : PublicationStore) (record : PublicationAttemptRecord) :
    PublicationAttemptRecord × Bool × PublicationStore :=
  match store.records.get record.idempotencyKey.text with
  | some existing => (existing, false, store)
  | none => (record, true, store.write record)

def assertCurrent (existing record : PublicationAttemptRecord) (expectedRevision : Nat) (leaseToken : String) (now : Int) :
    Except PublicationFailure Unit := do
  refuseIf (existing.sha256Digest ≠ record.sha256Digest ∨ existing.keccak256Digest ≠ record.keccak256Digest)
    (providerError .duplicateIdempotencyKey "Publication idempotency key is already bound to different content")
  refuseIf (existing.revision ≠ expectedRevision ∨ record.revision ≠ expectedRevision + 1)
    (providerError .concurrentUpdate "Publication attempt revision is stale")
  refuseIf (existing.leaseOwner ≠ some leaseToken ∨ record.leaseOwner ≠ some leaseToken ∨
      existing.leaseExpiresAt.all (· ≤ now) = true)
    (providerError .leaseLost "Publication attempt lease is not owned or has expired")

def save (store : PublicationStore) (record : PublicationAttemptRecord) (expectedRevision : Nat) (leaseToken : String)
    (now : Int) : Except PublicationFailure PublicationStore :=
  match store.records.get record.idempotencyKey.text with
  | none => .error (providerError .concurrentUpdate "Publication attempt disappeared during compare-and-set")
  | some existing => do
    assertCurrent existing record expectedRevision leaseToken now
    return store.write record

def HeldByOther (record : PublicationAttemptRecord) (leaseToken : String) (now : Int) : Prop :=
  (∃ owner ∈ record.leaseOwner, owner ≠ leaseToken) ∧ ∃ expiry ∈ record.leaseExpiresAt, now < expiry

instance (record : PublicationAttemptRecord) (leaseToken : String) (now : Int) :
    Decidable (HeldByOther record leaseToken now) := inferInstanceAs (Decidable (_ ∧ _))

def leased (record : PublicationAttemptRecord) (leaseToken : String) (now : Int) (durationMs : Nat) :
    PublicationAttemptRecord :=
  { record with
    revision := record.revision + 1
    leaseOwner := some leaseToken
    leaseExpiresAt := some (now + durationMs)
    updatedAt := now }

def acquireLease (store : PublicationStore) (attemptId leaseToken : String) (now : Int) (durationMs : Nat) :
    (Bool × Option PublicationAttemptRecord) × PublicationStore :=
  match store.findByAttemptId attemptId with
  | none => ((false, none), store)
  | some current =>
    if HeldByOther current leaseToken now then ((false, some current), store)
    else ((true, some (leased current leaseToken now durationMs)), store.write (leased current leaseToken now durationMs))

def released (record : PublicationAttemptRecord) (now : Int) : PublicationAttemptRecord :=
  { record with
    revision := record.revision + 1
    leaseOwner := none
    leaseExpiresAt := none
    updatedAt := now }

def releaseLease (store : PublicationStore) (attemptId leaseToken : String) (now : Int) :
    Option PublicationAttemptRecord × PublicationStore :=
  match store.findByAttemptId attemptId with
  | none => (none, store)
  | some current =>
    if current.leaseOwner = some leaseToken then (some (released current now), store.write (released current now))
    else (none, store)

end PublicationStore

section

open Interleaving

structure IpfsUploadReceipt where
  uri : String
  network : String
  providerReference : Option String

inductive CreateStatus
  | submitted
  | confirmed
deriving DecidableEq

structure GreenfieldCreateReceipt where
  objectReference : Option String
  creationTransactionHash : Option String
  status : CreateStatus

structure GreenfieldUploadReceipt where
  uri : String
  network : String
  bucket : String
  providerReference : String

inductive SealStatus
  | sealed
  | pending
  | missing
deriving DecidableEq

structure GreenfieldSealReceipt where
  status : SealStatus
  sealTransactionHash : Option String

inductive InspectStatus
  | missing
  | created
  | sealed
deriving DecidableEq

structure GreenfieldInspectReceipt where
  status : InspectStatus
  objectReference : Option String
  creationTransactionHash : Option String
  sealTransactionHash : Option String

inductive ReconciliationStatus
  | missing
  | present
  | unknown
deriving DecidableEq

structure GreenfieldCreateReconciliation where
  status : ReconciliationStatus
  objectReference : Option String
  creationTransactionHash : Option String
  sealTransactionHash : Option String

structure ObjectInput where
  objectName : String
  canonicalBytes : Bytes
  sizeBytes : Nat

structure PublicationUploadInput where
  objectName : String
  bytes : Bytes
  sha256Digest : Digest
  keccak256Digest : Digest
  sizeBytes : Nat

/-- The calls of the publisher. `requestMove` marks the move that `transition` asks the table for;
a create is awaited apart from its start. -/
inductive PublisherCall
  | createOrGet (record : PublicationAttemptRecord)
  | acquireLease (attemptId leaseToken : String) (now : Int) (durationMs : Nat)
  | findByAttemptId (attemptId : String)
  | save (record : PublicationAttemptRecord) (expectedRevision : Nat) (leaseToken : String) (now : Int)
  | releaseLease (attemptId leaseToken : String) (now : Int)
  | appendAudit (event : PublicationAuditEvent)
  | clock
  | randomUUID
  | requestMove (source target : PublicationAttemptState)
  | ipfsUpload (input : PublicationUploadInput)
  | ipfsRead (uri : String)
  | inspectObject (input : ObjectInput)
  | reconcileCreate (input : ObjectInput)
  | createObject (input : ObjectInput)
  | createReturned
  | uploadObject (input : PublicationUploadInput) (objectReference : String) (creationTransactionHash : Option ProviderHash)
  | waitForSeal (objectReference : String) (attempt : Nat)
  | readObject (objectReference : String)
  | sleep (milliseconds : Nat)

abbrev PublisherCall.Answer : PublisherCall → Type
  | createOrGet _ => PublicationAttemptRecord × Bool
  | acquireLease _ _ _ _ => Bool × Option PublicationAttemptRecord
  | findByAttemptId _ => Option PublicationAttemptRecord
  | save _ _ _ _ => Except PublicationFailure Unit
  | releaseLease _ _ _ => Option PublicationAttemptRecord
  | appendAudit _ => Unit
  | clock => Int
  | randomUUID => String
  | requestMove _ _ => Unit
  | ipfsUpload _ => Except PublicationFailure IpfsUploadReceipt
  | ipfsRead _ => Except PublicationFailure Bytes
  | inspectObject _ => Except PublicationFailure GreenfieldInspectReceipt
  | reconcileCreate _ => Except PublicationFailure GreenfieldCreateReconciliation
  | createObject _ => Unit
  | createReturned => Except PublicationFailure GreenfieldCreateReceipt
  | uploadObject _ _ _ => Except PublicationFailure GreenfieldUploadReceipt
  | waitForSeal _ _ => Except PublicationFailure GreenfieldSealReceipt
  | readObject _ => Except PublicationFailure Bytes
  | sleep _ => Unit

abbrev Work := ExceptT PublicationFailure (Program PublisherCall PublisherCall.Answer)

abbrev Calls := History PublisherCall PublisherCall.Answer

namespace Work

variable {α : Type}

def ask (call : PublisherCall) : Work call.Answer := ExceptT.lift (Program.ask call)

def clockIf (asked : Prop) [Decidable asked] (otherwise : Option Int) : Work (Option Int) :=
  if asked then some <$> ask .clock else pure otherwise

/-- A `try` whose `catch` or `finally` looks at the outcome. -/
def outcome (work : Work α) : Work (Except PublicationFailure α) := ExceptT.lift work.run

end Work

end

end Bnbera.Publication
