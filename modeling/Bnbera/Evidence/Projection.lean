import Bnbera.Domain
import Bnbera.Validation

/-! The fields of an evidence graph, which may hold any value, and what is read of them. -/

namespace Bnbera.Evidence

/-- A value of unknown type. A finite number is a rational, a date its milliseconds unless it is invalid. -/
inductive Value
  | undefined
  | null
  | bool (value : Bool)
  | number (value : Rat)
  | notFinite
  | bigint (value : Int)
  | str (value : String)
  | date (time : Option Int)
  | other
deriving DecidableEq

/-- `value ?? fallback` -/
def Value.orElse (value fallback : Value) : Value :=
  match value with
  | undefined => fallback
  | null => fallback
  | value => value

structure ParsedUrl where
  protocol : String
  username : String
  password : String
  hostname : String
  pathname : String
  search : String
  hash : String
  origin : String
  href : String
deriving DecidableEq

/-- The URL parser of the platform: `new URL(text)` and `new URL(text, base)`. -/
class UrlParser where
  parse : String → Option ParsedUrl
  resolve : String → String → Option ParsedUrl

/-- The documented behaviour of the parser: the text of an `https:` URL is a text of the same URL. -/
def ReparsedUrls [UrlParser] : Prop :=
  ∀ {text url}, UrlParser.parse text = some url → url.protocol = "https:" → UrlParser.parse url.href = some url

/-- `toISOString` of a date, and the texts that `z.string().datetime({ offset: true })` admits. -/
class Timestamps where
  toISOString : Int → String
  isDatetime : String → Bool

/-- `toLowerCase`, of a text that is compared with a text in ASCII: no character but the letters
of ASCII and the Kelvin sign has its lower case there. -/
def foldCase (text : String) : String :=
  String.ofList (text.toList.map fun c => if c.toNat = 0x212a then 'k' else c.toLower)

section
variable [UrlParser]

def isSafeHttps (url : ParsedUrl) : Bool :=
  url.protocol == "https:" && url.username == "" && url.password == "" && url.hostname != ""

def safeHttpsUrl (value : String) : Option String :=
  ((UrlParser.parse value).filter isSafeHttps).map (·.href)

def safeOrigin (value : String) : Option String := do
  let url ← safeHttpsUrl value
  let parsed ← UrlParser.parse url
  return parsed.origin

def allowlistedGreenfieldReadUrl (value : Value) (allowedOrigins : List String) : Option String :=
  match value with
  | .str text => do
    let candidate ← safeHttpsUrl (trim text)
    let parsed ← UrlParser.parse candidate
    if (allowedOrigins.filterMap fun entry => safeOrigin (trim entry)).contains parsed.origin then some candidate else none
  | _ => none

def isControl (c : Char) : Bool := c.toNat ≤ 0x1f || c.toNat == 0x7f

def segments (text : String) : List (List Char) := text.toList.splitOn '/'

def isGreenfieldUrl (candidate : String) (url : ParsedUrl) : Bool :=
  url.protocol == "greenfield:" && url.username == "" && url.password == "" && url.hostname != "" && url.search == "" &&
    url.hash == "" && !candidate.toList.any (fun c => isControl c || c == '\\') &&
    !(segments url.pathname).any fun segment => segment == ['.'] || segment == ['.', '.']

def safeGreenfieldText (candidate : String) : Option String :=
  if "greenfield://".toList.isPrefixOf candidate.toList && "greenfield://".toList.length < (utf16Units candidate).length &&
      (UrlParser.parse candidate).any (isGreenfieldUrl candidate) then some candidate else none

def safeGreenfieldLocator (value : Value) : Option String :=
  match value with
  | .str text => safeGreenfieldText (trim text)
  | _ => none

end

/-- `value.replace(/^0x/iu, "")` -/
def withoutHexPrefix (text : String) : String :=
  match text.toList with
  | '0' :: 'x' :: rest => String.ofList rest
  | '0' :: 'X' :: rest => String.ofList rest
  | _ => text

def digest (value : Value) : Option String :=
  match value with
  | .str text => if isDigest (withoutHexPrefix (trim text)) then some (lower (withoutHexPrefix (trim text))) else none
  | _ => none

/-- `/^0x0{64}$/u` -/
def isZeroTransactionHash (text : String) : Bool :=
  match text.toList with
  | '0' :: 'x' :: digits => digits.length == 64 && digits.all (· == '0')
  | _ => false

/-- The normal form of an optional transaction hash; `none` where the value is not valid. -/
def optionalTxHashText (text : String) : Option (Option String) :=
  let candidate := trim text
  if candidate = "" ∨ isZeroTransactionHash candidate = true then some none
  else if isTransactionHash candidate then some (some (lower candidate))
  else none

def normalizedOptionalTxHash (value : Value) : Option (Option String) :=
  match value with
  | .undefined => some none
  | .null => some none
  | .str text => optionalTxHashText text
  | _ => none

def timestamp [Timestamps] (value : Value) : Option String :=
  match value with
  | .date (some time) => some (Timestamps.toISOString time)
  | .str text => if Timestamps.isDatetime text then some text else none
  | _ => none

/-- A number, a big integer or a decimal text within the safe integers. What is rounded on the way
to a number is outside of them. -/
def nonNegativeInteger (value : Value) : Option Int :=
  let candidate : Option Int :=
    match value with
    | .bigint value => some value
    | .number value => if value.den = 1 then some value.num else none
    | .str text => if isDecimal (trim text) then some (decimalValue (trim text)) else none
    | _ => none
  candidate.filter fun candidate => candidate ≤ maxSafeInteger && 0 ≤ candidate

def positiveInteger (value : Value) : Option Int := (nonNegativeInteger value).filter (0 < ·)

def isPlainText (text : String) (maximum : Nat) : Bool :=
  0 < (utf16Units text).length && (utf16Units text).length ≤ maximum && !text.toList.any isControl

def text (value : Value) (maximum : Nat) : Option String :=
  match value with
  | .str text => if isPlainText (trim text) maximum then some (trim text) else none
  | _ => none

def uuid (value : Value) : Option String :=
  match value with
  | .str text => if isUuid (lower (trim text)) then some (lower (trim text)) else none
  | _ => none

end Bnbera.Evidence

/-! The projection of an evidence graph to the two artifacts that are shown publicly. -/

namespace Bnbera.Evidence

inductive ArtifactType
  | agentProfile
  | runBundle
deriving DecidableEq

inductive EvidenceStatus
  | verified
  | pending
  | failed
  | unavailable
deriving DecidableEq

structure EvidenceArtifact where
  artifactType : ArtifactType
  artifactId : Option String
  jobId : Option String
  version : Option Int
  status : EvidenceStatus
  summary : String
  provider : Option String
  readUrl : Option String
  locator : Option String
  sha256Digest : Option String
  keccak256Digest : Option String
  sizeBytes : Option Int
  sealTransactionHash : Option String
  verifiedAt : Option String
  reason : Option String
deriving DecidableEq

structure EvidenceProjection where
  currentVersion : Option Int
  profile : EvidenceArtifact
  runBundle : EvidenceArtifact
deriving DecidableEq

structure LocatorInput where
  provider : Value
  uri : Value
  bucket : Value
  objectName : Value
  providerReference : Value
  version : Value
  sha256Digest : Value
  keccak256Digest : Value
  sizeBytes : Value
  immutable : Value
  verifiedAt : Value
  publicationAttemptId : Value

structure VerificationInput where
  status : Value
  sealConfirmed : Value
  readbackStatus : Value
  expectedSha256Digest : Value
  observedSha256Digest : Value
  expectedKeccak256Digest : Value
  observedKeccak256Digest : Value
  expectedSizeBytes : Value
  observedSizeBytes : Value
  hashesMatch : Value
  sizeMatches : Value
  checkedAt : Value
  publicationAttemptId : Value

structure GraphInput where
  artifactType : Value
  artifactId : Value
  version : Value
  objectState : Value
  objectSha256Digest : Value
  objectKeccak256Digest : Value
  objectSizeBytes : Value
  objectSealTransactionHash : Value
  objectReadbackVerifiedAt : Value
  locator : Option LocatorInput
  verification : Option VerificationInput
  readUrl : Value
  jobId : Value

structure ProjectionOptions where
  currentVersion : Option Int
  allowedReadUrlOrigins : Option (List String)
  readUrlBase : Option String

def defaultArtifact (type : ArtifactType) (reason : String) : EvidenceArtifact where
  artifactType := type
  artifactId := none
  jobId := none
  version := none
  status := .unavailable
  summary := "No verified Greenfield publication is available."
  provider := none
  readUrl := none
  locator := none
  sha256Digest := none
  keccak256Digest := none
  sizeBytes := none
  sealTransactionHash := none
  verifiedAt := none
  reason := some reason

def artifactType (value : Value) : Option ArtifactType :=
  if value = .str "agent_profile" then some .agentProfile
  else if value = .str "run_bundle" then some .runBundle
  else none

def isOneOf (value : Value) (states : List String) : Bool :=
  match value with
  | .str text => states.contains (foldCase (trim text))
  | _ => false

def failureState (value : Value) : Bool :=
  isOneOf value ["validation_failed", "create_failed", "upload_failed", "seal_timeout", "readback_failed", "hash_mismatch",
    "failed", "rejected"]

def pendingState (value : Value) : Bool :=
  isOneOf value ["pending", "validating", "creating_object", "uploading", "awaiting_seal", "reading_back", "submitted",
    "uploaded", "sealed"]

/-- `encodeURIComponent(segment)` -/
def encodeURIComponent (segment : List Char) : String :=
  let plain (c : Char) := isLetter c || isDigit c || "-_.!~*'()".toList.contains c
  let hex (n : Nat) := (Nat.digitChar n).toUpper
  String.ofList (segment.flatMap fun c =>
    if plain c then [c] else (String.singleton c).toUTF8.toList.flatMap fun byte => ['%', hex (byte.toNat / 16), hex (byte.toNat % 16)])

section
variable [UrlParser]

def locatorValue (input : GraphInput) : Option String := do
  let locator ← input.locator
  match safeGreenfieldLocator locator.uri with
  | some direct => some direct
  | none =>
    let bucket ← text locator.bucket 128
    let objectName ← text locator.objectName 2000
    if (bucket ++ "/" ++ objectName).toList.any (fun c => isControl c || c == '\\') ||
        (segments objectName).contains ['.', '.'] then none
    else safeGreenfieldLocator (.str ("greenfield://" ++ bucket ++ "/" ++ objectName))

structure VerifiedGraph where
  sha256Digest : String
  keccak256Digest : String
  sizeBytes : Int
  version : Int
  verifiedAt : String
  locator : String
  sealTransactionHash : Option String

def verifiedGraph [Timestamps] (input : GraphInput) : Option VerifiedGraph := do
  let locator ← input.locator
  let verification ← input.verification
  guard (locator.provider = .str "greenfield" ∧ locator.immutable = .bool true ∧ verification.status = .str "verified" ∧
    verification.readbackStatus = .str "matched" ∧ verification.sealConfirmed = .bool true ∧
    verification.hashesMatch = .bool true ∧ verification.sizeMatches = .bool true)
  let locatorAttempt ← uuid locator.publicationAttemptId
  let verificationAttempt ← uuid verification.publicationAttemptId
  guard (locatorAttempt = verificationAttempt)
  let version ← positiveInteger input.version
  guard (positiveInteger locator.version = some version)
  let objectSha256Digest ← digest input.objectSha256Digest
  let objectKeccak256Digest ← digest input.objectKeccak256Digest
  let objectSizeBytes ← nonNegativeInteger input.objectSizeBytes
  let locatorSha256Digest ← digest locator.sha256Digest
  let locatorKeccak256Digest ← digest locator.keccak256Digest
  let locatorSizeBytes ← nonNegativeInteger locator.sizeBytes
  let expectedSha256Digest ← digest verification.expectedSha256Digest
  let observedSha256Digest ← digest verification.observedSha256Digest
  let expectedKeccak256Digest ← digest verification.expectedKeccak256Digest
  let observedKeccak256Digest ← digest verification.observedKeccak256Digest
  let expectedSizeBytes ← nonNegativeInteger verification.expectedSizeBytes
  let observedSizeBytes ← nonNegativeInteger verification.observedSizeBytes
  let sealTransactionHash ← normalizedOptionalTxHash input.objectSealTransactionHash
  let verifiedAt ← (timestamp locator.verifiedAt).or ((timestamp input.objectReadbackVerifiedAt).or
    (timestamp verification.checkedAt))
  let located ← locatorValue input
  guard (objectSha256Digest = locatorSha256Digest ∧ objectKeccak256Digest = locatorKeccak256Digest ∧
    objectSizeBytes = locatorSizeBytes ∧ objectSha256Digest = expectedSha256Digest ∧
    expectedSha256Digest = observedSha256Digest ∧ objectKeccak256Digest = expectedKeccak256Digest ∧
    expectedKeccak256Digest = observedKeccak256Digest ∧ objectSizeBytes = expectedSizeBytes ∧
    expectedSizeBytes = observedSizeBytes)
  return ⟨objectSha256Digest, objectKeccak256Digest, objectSizeBytes, version, verifiedAt, located, sealTransactionHash⟩

def readUrlFromBase (input : GraphInput) (base : Option String) : Option String := do
  let base ← base
  let locator ← input.locator
  let bucket ← text locator.bucket 128
  let objectName ← text locator.objectName 2000
  guard (¬((segments objectName).any (fun segment => segment == ['.'] || segment == ['.', '.']) ∨
    (bucket ++ "/" ++ objectName).toList.any fun c => isControl c || c == '\\' || c == '?' || c == '#'))
  let parsedBase ← safeHttpsUrl (trim base)
  let baseUrl ← UrlParser.parse parsedBase
  let basePath := if baseUrl.pathname.endsWith "/" then baseUrl.pathname else baseUrl.pathname ++ "/"
  let encodedPath := bucket ++ "/" ++ "/".intercalate ((segments objectName).map encodeURIComponent)
  let resolved ← UrlParser.resolve (basePath ++ encodedPath) baseUrl.origin
  return resolved.href

def offeredReadUrl (input : GraphInput) (options : ProjectionOptions) : Option String :=
  let ofOption (value : Option String) : Value := (value.map Value.str).getD .null
  let providerReference : Value :=
    match input.locator.map LocatorInput.providerReference with
    | some (.str reference) => if "https:".toList.isPrefixOf (trim reference).toList then .str reference else .null
    | _ => .null
  let candidate := input.readUrl.orElse (providerReference.orElse (ofOption (readUrlFromBase input options.readUrlBase)))
  let allowedOrigins := ((options.allowedReadUrlOrigins.filter (· ≠ [])).or (options.readUrlBase.map ([·]))).getD []
  allowlistedGreenfieldReadUrl candidate allowedOrigins

variable [Timestamps]

def zodIssue (fails : Prop) [Decidable fails] (path : List String) (message : String) : List Issue :=
  if fails then [⟨path, message⟩] else []

def Option.issues {α : Type} (value : Option α) (check : α → List Issue) : List Issue := (value.map check).getD []

/-- `z.string().trim().min(1).max(maximum)` -/
def boundedTextIssues (path : List String) (maximum : Nat) (text : String) : List Issue :=
  zodIssue ((utf16Units (trim text)).length < 1) path "String must contain at least 1 character(s)" ++
    zodIssue (maximum < (utf16Units (trim text)).length) path
      ("String must contain at most " ++ maximum.repr ++ " character(s)")

def normalizedSchemaTxHash (value : Option String) : Option String :=
  match value with
  | none => none
  | some text => (optionalTxHashText text).getD (some text)

/-- What `marketplaceEvidenceArtifactSchema` finds wrong with an artifact. -/
def EvidenceArtifact.issues (artifact : EvidenceArtifact) (path : List String) : List Issue :=
  Option.issues artifact.artifactId (boundedTextIssues (path ++ ["artifactId"]) 160) ++
  Option.issues artifact.jobId (fun id => zodIssue (isUuid id = false) (path ++ ["jobId"]) "Invalid uuid") ++
  Option.issues artifact.version (fun version => zodIssue (version ≤ 0) (path ++ ["version"]) "Number must be greater than 0") ++
  boundedTextIssues (path ++ ["summary"]) 500 artifact.summary ++
  Option.issues artifact.provider (fun provider => zodIssue (provider ≠ "greenfield") (path ++ ["provider"])
    "Invalid literal value, expected \"greenfield\"") ++
  Option.issues artifact.readUrl (fun url => zodIssue (UrlParser.parse url = none) (path ++ ["readUrl"]) "Invalid url") ++
  Option.issues artifact.sha256Digest (fun digest => zodIssue (isDigest digest = false) (path ++ ["sha256Digest"]) "Invalid") ++
  Option.issues artifact.keccak256Digest (fun digest => zodIssue (isDigest digest = false) (path ++ ["keccak256Digest"])
    "Invalid") ++
  Option.issues artifact.sizeBytes (fun size => zodIssue (size < 0) (path ++ ["sizeBytes"])
    "Number must be greater than or equal to 0") ++
  Option.issues (normalizedSchemaTxHash artifact.sealTransactionHash) (fun hash =>
    zodIssue (isTransactionHash hash = false) (path ++ ["sealTransactionHash"]) "Invalid") ++
  Option.issues artifact.verifiedAt (fun time => zodIssue (Timestamps.isDatetime time = false) (path ++ ["verifiedAt"])
    "Invalid datetime") ++
  Option.issues artifact.reason (boundedTextIssues (path ++ ["reason"]) 500) ++
  Option.issues artifact.readUrl (fun url => zodIssue (safeHttpsUrl url ≠ some url) (path ++ ["readUrl"])
    "Evidence read URLs must be canonical HTTPS URLs without credentials") ++
  Option.issues artifact.locator (fun locator => zodIssue (safeGreenfieldLocator (.str locator) ≠ some locator)
    (path ++ ["locator"]) "Evidence locators must be internal greenfield:// references") ++
  if artifact.status = .verified then
    zodIssue (artifact.provider ≠ some "greenfield" ∨ artifact.readUrl = none ∨ artifact.locator = none ∨
      artifact.sha256Digest = none ∨ artifact.keccak256Digest = none ∨ artifact.sizeBytes = none ∨
      artifact.verifiedAt = none) (path ++ ["status"])
      "Verified Greenfield evidence must include a safe read URL, locator, matching digests/size, seal confirmation, and verification time" ++
    zodIssue (artifact.reason ≠ none) (path ++ ["reason"]) "Verified evidence cannot carry a failure reason"
  else
    zodIssue (artifact.readUrl ≠ none ∨ artifact.locator ≠ none) (path ++ ["readUrl"])
      "Unverified evidence cannot expose a Greenfield locator or link" ++
    zodIssue (artifact.reason = none) (path ++ ["reason"]) "Unverified evidence must explain why the link is unavailable"

def EvidenceArtifact.trimmed (artifact : EvidenceArtifact) : EvidenceArtifact :=
  { artifact with
    artifactId := artifact.artifactId.map trim
    summary := trim artifact.summary
    sealTransactionHash := normalizedSchemaTxHash artifact.sealTransactionHash
    reason := artifact.reason.map trim }

/-- `marketplaceEvidenceArtifactSchema.parse(artifact)` -/
def EvidenceArtifact.parse (artifact : EvidenceArtifact) : Except Failure EvidenceArtifact :=
  if artifact.issues [] = [] then .ok artifact.trimmed else .error (.zod (artifact.issues []))

/-- `marketplaceEvidenceProjectionSchema.parse(projection)` -/
def EvidenceProjection.parse (projection : EvidenceProjection) : Except Failure EvidenceProjection :=
  let issues := Option.issues projection.currentVersion (fun version => zodIssue (version ≤ 0) ["currentVersion"]
      "Number must be greater than 0") ++
    projection.profile.issues ["profile"] ++ projection.runBundle.issues ["runBundle"]
  if issues = [] then
    .ok ⟨projection.currentVersion, projection.profile.trimmed, projection.runBundle.trimmed⟩
  else .error (.zod issues)

def provenGraph (input : GraphInput) (type : ArtifactType) : Option VerifiedGraph :=
  if type = .runBundle ∧ uuid input.jobId = none then none else verifiedGraph input

/-- The artifact of a proven publication with an allowed link. -/
def verifiedArtifact (input : GraphInput) (type : ArtifactType) (graph : VerifiedGraph) (readUrl : String) : EvidenceArtifact where
  artifactType := type
  artifactId := text input.artifactId 160
  jobId := uuid input.jobId
  version := some graph.version
  status := .verified
  summary := "Verified Greenfield publication with matching read-back hash, size, and seal."
  provider := some "greenfield"
  readUrl := some readUrl
  locator := some graph.locator
  sha256Digest := some graph.sha256Digest
  keccak256Digest := some graph.keccak256Digest
  sizeBytes := some graph.sizeBytes
  sealTransactionHash := graph.sealTransactionHash
  verifiedAt := some graph.verifiedAt
  reason := none

def isFailed (input : GraphInput) : Bool :=
  failureState input.objectState || input.verification.any (·.status = .str "failed")

def isPending (input : GraphInput) : Bool :=
  let status := (input.verification.map (·.status)).getD .undefined
  pendingState input.objectState || status = .str "not_verified" || status = .undefined || status = .null

/-- The artifact of a publication that is not proven, or has no allowed link. -/
def unverifiedArtifact (input : GraphInput) (type : ArtifactType) (proven : Bool) : EvidenceArtifact :=
  let provider := (input.locator.map (·.provider)).getD .undefined
  let reason :=
    if isFailed input then "GREENFIELD_PUBLICATION_FAILED"
    else if proven then "GREENFIELD_READ_URL_UNAVAILABLE"
    else if provider ≠ .undefined ∧ provider ≠ .null ∧ provider ≠ .str "greenfield" then "GREENFIELD_PROVIDER_UNAVAILABLE"
    else if isPending input then "GREENFIELD_VERIFICATION_PENDING"
    else "GREENFIELD_PUBLICATION_UNAVAILABLE"
  let status : EvidenceStatus := if isFailed input then .failed else if isPending input then .pending else .unavailable
  { artifactType := type
    artifactId := text input.artifactId 160
    jobId := uuid input.jobId
    version := positiveInteger input.version
    status := status
    summary :=
      match status with
      | .pending => "Greenfield publication is pending seal/read-back verification; no link is exposed yet."
      | .failed => "Greenfield publication failed verification; no link is exposed."
      | _ => "No verified Greenfield publication is available; browsing and hiring remain available."
    provider := none
    readUrl := none
    locator := none
    sha256Digest := none
    keccak256Digest := none
    sizeBytes := none
    sealTransactionHash := none
    verifiedAt := none
    reason := some reason }

def artifactOf (input : GraphInput) (options : ProjectionOptions) (type : ArtifactType) : EvidenceArtifact :=
  match provenGraph input type, offeredReadUrl input options with
  | some graph, some readUrl => verifiedArtifact input type graph readUrl
  | graph, _ => unverifiedArtifact input type graph.isSome

def projectGreenfieldEvidence (input : GraphInput) (options : ProjectionOptions) : Except Failure EvidenceArtifact :=
  match artifactType input.artifactType with
  | none => .ok (defaultArtifact .agentProfile "EVIDENCE_ARTIFACT_TYPE_UNAVAILABLE")
  | some type => (artifactOf input options type).parse

def prefer (current next : EvidenceArtifact) : EvidenceArtifact :=
  let currentVersion := current.version.getD 0
  let nextVersion := next.version.getD 0
  if (next.status = .verified ∧ current.status ≠ .verified) ∨ (next.status = current.status ∧ currentVersion < nextVersion) ∨
      (current.status ≠ .verified ∧ next.status = .pending ∧ currentVersion < nextVersion) then next
  else current

def EvidenceProjection.shown (projection : EvidenceProjection) : ArtifactType → EvidenceArtifact
  | .agentProfile => projection.profile
  | .runBundle => projection.runBundle

def EvidenceProjection.showing (projection : EvidenceProjection) (type : ArtifactType) (artifact : EvidenceArtifact) :
    EvidenceProjection :=
  match type with
  | .agentProfile => { projection with profile := artifact }
  | .runBundle => { projection with runBundle := artifact }

def projectStep (options : ProjectionOptions) (output : EvidenceProjection) (input : GraphInput) :
    Except Failure EvidenceProjection :=
  match artifactType input.artifactType with
  | none => .ok output
  | some type => do
    let projected ← projectGreenfieldEvidence input options
    return output.showing type (prefer (output.shown type) projected)

def projectEvidenceProjection (inputs : List GraphInput) (options : ProjectionOptions) : Except Failure EvidenceProjection := do
  let output ← inputs.foldlM (projectStep options) ⟨options.currentVersion,
    defaultArtifact .agentProfile "AGENT_PROFILE_UNAVAILABLE", defaultArtifact .runBundle "RUN_BUNDLE_UNAVAILABLE"⟩
  output.parse

end

end Bnbera.Evidence
