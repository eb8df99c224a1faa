import Bnbera.Domain

namespace Bnbera.Publication

inductive PublicationProvider
  | ipfs
  | greenfield
deriving DecidableEq

def PublicationProvider.text : PublicationProvider → String
  | ipfs => "ipfs"
  | greenfield => "greenfield"

inductive PublicationAttemptState
  | pending
  | validating
  | creatingObject
  | submitted
  | uploading
  | awaitingSeal
  | readingBack
  | verified
  | validationFailed
  | createFailed
  | uploadFailed
  | sealTimeout
  | readbackFailed
  | hashMismatch
  | duplicate
  | providerFailed
  | retrying
deriving DecidableEq

def PublicationAttemptState.text : PublicationAttemptState → String
  | pending => "pending"
  | validating => "validating"
  | creatingObject => "creating_object"
  | submitted => "submitted"
  | uploading => "uploading"
  | awaitingSeal => "awaiting_seal"
  | readingBack => "reading_back"
  | verified => "verified"
  | validationFailed => "validation_failed"
  | createFailed => "create_failed"
  | uploadFailed => "upload_failed"
  | sealTimeout => "seal_timeout"
  | readbackFailed => "readback_failed"
  | hashMismatch => "hash_mismatch"
  | duplicate => "duplicate"
  | providerFailed => "provider_failed"
  | retrying => "retrying"

def stateTransitions : PublicationAttemptState → List PublicationAttemptState
  | .pending => [.validating, .retrying, .duplicate]
  | .validating => [.creatingObject, .uploading, .validationFailed, .providerFailed]
  | .creatingObject => [.submitted, .uploading, .createFailed, .providerFailed]
  | .submitted => [.uploading, .createFailed, .providerFailed]
  | .uploading => [.awaitingSeal, .readingBack, .uploadFailed, .providerFailed]
  | .awaitingSeal => [.awaitingSeal, .readingBack, .sealTimeout, .providerFailed]
  | .readingBack => [.verified, .readbackFailed, .hashMismatch, .providerFailed]
  | .verified => []
  | .validationFailed => [.retrying]
  | .createFailed => [.retrying]
  | .uploadFailed => [.retrying]
  | .sealTimeout => [.retrying]
  | .readbackFailed => [.retrying]
  | .hashMismatch => [.retrying]
  | .duplicate => []
  | .providerFailed => [.retrying]
  | .retrying => [.pending]

/-- What `transition` lets through: a move of the table, or none. -/
def Permitted (source target : PublicationAttemptState) : Prop := source = target ∨ target ∈ stateTransitions source

instance (source target : PublicationAttemptState) : Decidable (Permitted source target) :=
  inferInstanceAs (Decidable (_ ∨ _))

def terminalStates : List PublicationAttemptState :=
  [.verified, .validationFailed, .createFailed, .uploadFailed, .sealTimeout, .readbackFailed, .hashMismatch, .duplicate,
    .providerFailed]

inductive PublicationFailureCode
  | invalidArtifact
  | forbiddenPublicField
  | artifactTooLarge
  | objectTooLarge
  | createFailed
  | createUnknown
  | uploadFailed
  | providerFailed
  | malformedTransaction
  | timeout
  | missingObject
  | hashMismatch
  | sizeMismatch
  | duplicateIdempotencyKey
  | unsupportedProvider
  | configurationChanged
  | durableGraphInvalid
  | sealTransactionMissing
  | concurrentUpdate
  | leaseLost
deriving DecidableEq

/-- What was thrown: its message, and its code where it has one of `publicationFailureCodes`. -/
structure PublicationFailure where
  code : Option PublicationFailureCode
  message : String
deriving DecidableEq

def providerError (code : PublicationFailureCode) (message : String) : PublicationFailure := ⟨some code, message⟩

def zodError : PublicationFailure := ⟨none, "ZodError"⟩

def errorCode (error : PublicationFailure) (fallback : PublicationFailureCode) : PublicationFailureCode :=
  error.code.getD fallback

/-- The fixed text of a code. -/
def fixedMessage : PublicationFailureCode → String
  | .invalidArtifact => "Canonical evidence artifact is invalid"
  | .forbiddenPublicField => "Canonical evidence artifact contains a forbidden public field"
  | .artifactTooLarge => "Canonical evidence artifact exceeds the configured size limit"
  | .objectTooLarge => "Published evidence object exceeds the configured size limit"
  | .createFailed => "Greenfield object creation failed"
  | .createUnknown => "Greenfield object creation outcome is unknown and requires reconciliation"
  | .uploadFailed => "Greenfield object upload failed"
  | .providerFailed => "Greenfield provider operation failed"
  | .malformedTransaction => "Provider returned a malformed transaction hash"
  | .timeout => "Greenfield provider operation timed out"
  | .missingObject => "Greenfield object is unavailable"
  | .hashMismatch => "Greenfield readback hash did not match canonical bytes"
  | .sizeMismatch => "Greenfield readback size did not match canonical bytes"
  | .duplicateIdempotencyKey => "Publication idempotency key is already bound"
  | .unsupportedProvider => "Greenfield provider is not supported by trusted configuration"
  | .configurationChanged => "Publication configuration changed"
  | .durableGraphInvalid => "Durable evidence graph is invalid"
  | .sealTransactionMissing => "Greenfield seal transaction hash is missing"
  | .concurrentUpdate => "Publication state was concurrently updated"
  | .leaseLost => "Publication lease is no longer held"

def errorMessage (error : PublicationFailure) : String := fixedMessage (errorCode error .providerFailed)

/-- Whether a failure with this code may be retried. -/
def isRetryable : PublicationFailureCode → Bool
  | .duplicateIdempotencyKey => false
  | .missingObject => false
  | .artifactTooLarge => false
  | .objectTooLarge => false
  | .createUnknown => false
  | .invalidArtifact => false
  | .forbiddenPublicField => false
  | .malformedTransaction => false
  | .sealTransactionMissing => false
  | .configurationChanged => false
  | .durableGraphInvalid => false
  | .concurrentUpdate => false
  | .leaseLost => false
  | _ => true

inductive EvidenceEnvironment
  | development
  | preview
  | hackathon
  | production
deriving DecidableEq

def EvidenceEnvironment.text : EvidenceEnvironment → String
  | development => "development"
  | preview => "preview"
  | hackathon => "hackathon"
  | production => "production"

/-- `/^[A-Za-z0-9][A-Za-z0-9._:-]*$/` with at most 128 characters. -/
def isSafeLabel (text : String) : Bool :=
  match text.toList with
  | first :: rest => isAlphanumeric first && rest.length ≤ 127 &&
      rest.all fun c => isAlphanumeric c || "._:-".toList.contains c
  | [] => false

/-- `/^[A-Za-z0-9][A-Za-z0-9._-]*$/` with at most 128 characters. -/
def isSafeBucket (text : String) : Bool :=
  match text.toList with
  | first :: rest => isAlphanumeric first && rest.length ≤ 127 &&
      rest.all fun c => isAlphanumeric c || "._-".toList.contains c
  | [] => false

/-- A text that `z.string().trim().min(1).max(high)` returns. -/
@[irreducible] def isTrimmedText (high : Nat) (text : String) : Bool :=
  trim text == text && 1 ≤ (utf16Units text).length && (utf16Units text).length ≤ high

abbrev SafeLabel := Checked isSafeLabel
abbrev SafeBucket := Checked isSafeBucket
abbrev AttemptKey := Checked (isTrimmedText 256)
abbrev ProviderReference := Checked (isTrimmedText 512)
abbrev LocatorUri := Checked (isTrimmedText 2000)

/-- `publicationConfigurationSchema` -/
structure PublicationConfiguration where
  environment : EvidenceEnvironment
  enabledProviders : List PublicationProvider
  ipfsNetwork : SafeLabel
  ipfsProviderLabel : SafeLabel
  greenfieldNetwork : SafeLabel
  greenfieldProviderLabel : SafeLabel
  greenfieldBucket : SafeBucket
  maxArtifactBytes : Nat
  maxObjectBytes : Nat
  maxSealPolls : Nat
  sealBackoffMs : List Nat
  leaseDurationMs : Nat
  polls : 0 < maxSealPolls
  duration : 0 < leaseDurationMs

def PublicationConfiguration.json (configuration : PublicationConfiguration) : Json := .obj [
  ("environment", .str configuration.environment.text),
  ("enabledProviders", .arr (configuration.enabledProviders.map fun provider => .str provider.text)),
  ("ipfs", .obj [("network", .text configuration.ipfsNetwork), ("providerLabel", .text configuration.ipfsProviderLabel)]),
  ("greenfield", .obj [
    ("network", .text configuration.greenfieldNetwork),
    ("providerLabel", .text configuration.greenfieldProviderLabel),
    ("bucket", .text configuration.greenfieldBucket)]),
  ("maxArtifactBytes", .nat configuration.maxArtifactBytes),
  ("maxObjectBytes", .nat configuration.maxObjectBytes),
  ("maxSealPolls", .nat configuration.maxSealPolls),
  ("sealBackoffMs", .arr (configuration.sealBackoffMs.map .nat)),
  ("leaseDurationMs", .nat configuration.leaseDurationMs)]

abbrev Bytes := List UInt8

class ByteDigests where
  sha256Hex : Bytes → Digest
  keccak256Hex : Bytes → Digest

def utf8 (text : String) : Bytes := text.toUTF8.toList

section
variable [ByteDigests]

def publicationConfigurationDigest (configuration : PublicationConfiguration) : Digest :=
  ByteDigests.sha256Hex (utf8 (canonicalizeJson configuration.json))

/-- `deterministicUuid`: the first 32 hexadecimal digits with version and variant set. -/
def deterministicUuid (seed : String) : String :=
  let hex := ((ByteDigests.sha256Hex (utf8 seed)).text.toList.take 32).set 12 '5'
  let variant := match hex[16]? with
    | some '0' | some '4' | some '8' | some 'c' => '8'
    | some '1' | some '5' | some '9' | some 'd' => '9'
    | some '2' | some '6' | some 'a' | some 'e' => 'a'
    | some '3' | some '7' | some 'b' | some 'f' => 'b'
    | _ => '8'
  let hex := hex.set 16 variant
  let part (start stop : Nat) := String.ofList ((hex.take stop).drop start)
  part 0 8 ++ "-" ++ part 8 12 ++ "-" ++ part 12 16 ++ "-" ++ part 16 20 ++ "-" ++ part 20 32

def deterministicAttemptId (idempotencyKey : String) (provider : PublicationProvider) : String :=
  deterministicUuid ("bnbera.publication-attempt:" ++ provider.text ++ ":" ++ idempotencyKey)

def providerIdempotencyKey (idempotencyKey : String) (provider : PublicationProvider) : String :=
  idempotencyKey ++ ":" ++ provider.text

/-- What the publisher reads of a normalized artifact, with its canonical JSON text. -/
structure CanonicalArtifact where
  environment : EvidenceEnvironment
  artifactType : String
  artifactId : String
  version : Nat
  canonicalJson : String

structure ArtifactDigest where
  artifact : CanonicalArtifact
  canonicalBytes : Bytes
  sha256Digest : Digest
  keccak256Digest : Digest
  sizeBytes : Nat

/-- `digestArtifact`, of an artifact that was normalized. -/
def digestArtifact (artifact : CanonicalArtifact) : ArtifactDigest where
  artifact := artifact
  canonicalBytes := utf8 artifact.canonicalJson
  sha256Digest := ByteDigests.sha256Hex (utf8 artifact.canonicalJson)
  keccak256Digest := ByteDigests.keccak256Hex (utf8 artifact.canonicalJson)
  sizeBytes := (utf8 artifact.canonicalJson).length

end

def hexDigit (value : Nat) : Char := "0123456789ABCDEF".toList.getD value '0'

def encodeURIComponent (text : String) : String := String.ofList (text.toList.flatMap fun c =>
  if isAlphanumeric c || "-_.!~*'()".toList.contains c then [c]
  else (utf8 (String.singleton c)).flatMap fun byte => ['%', hexDigit (byte.toNat / 16), hexDigit (byte.toNat % 16)])

def pathSegment (value : String) : Except PublicationFailure String :=
  let encoded := encodeURIComponent value
  if encoded = "" ∨ encoded = "." ∨ encoded = ".." then .error ⟨none, "Invalid immutable evidence path segment"⟩
  else .ok encoded

def deterministicObjectName (artifact : CanonicalArtifact) : Except PublicationFailure String := do
  let environment ← pathSegment artifact.environment.text
  let artifactId ← pathSegment artifact.artifactId
  return "evidence/" ++ environment ++ "/" ++ artifact.artifactType ++ "/" ++ artifactId ++ "/versions/" ++
    toString artifact.version ++ "/" ++ artifact.artifactType ++ ".json"

def assertImmutableObjectName (value : String) : Except PublicationFailure String :=
  let segments := value.toList.splitOn '/'
  let invalid := value = "" || 1024 < (utf16Units value).length || value.toList.contains '\\' ||
    segments.any (fun segment => segment = [] || segment = ".".toList || segment = "..".toList) ||
    value.toList.any fun c => c.toNat ≤ 0x1f || c.toNat = 0x7f
  if invalid then .error (providerError .invalidArtifact "Invalid immutable evidence object name") else .ok value

end Bnbera.Publication
