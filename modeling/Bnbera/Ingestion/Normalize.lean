import Bnbera.Ingestion.Types

namespace Bnbera.Ingestion

def inputInvalid (safeMessage nextAction : String) : IngestionFailure :=
  ingestionError .ingestionInputInvalid safeMessage nextAction

def foldCase (c : Char) : Char :=
  if c.toNat = 0x17f then 's' else if c.toNat = 0x212a then 'k' else c.toLower

def sensitiveWords : List String := [
  "privatekey", "private_key", "private-key", "secret", "password", "mnemonic", "seed phrase", "accesstoken", "access_token",
  "access-token", "apikey", "api_key", "api-key", "authorization", "credential"]

/-- `sensitiveKey.test(key)` -/
def isSensitiveKey (key : String) : Bool :=
  (key.toList.map foldCase).tails.any fun rest => sensitiveWords.any (·.toList.isPrefixOf rest)

/-- `/[\u0000-\u001f\u007f]/u.test(text)` -/
def hasControlCharacter (text : String) : Bool := text.toList.any fun c => c.toNat ≤ 0x1f || c.toNat == 0x7f

def nonFinite : List String := ["NaN", "Infinity", "-Infinity"]

def countedNode (depth nodes : Nat) : Except IngestionFailure Nat := do
  refuseIf (8 < depth ∨ 2048 < nodes) (inputInvalid "The public metadata is too deeply nested or large." "reduce_metadata")
  return nodes + 1

mutual

/-- `assertSafePublicValue`; it returns the number of values it has visited. -/
def assertSafePublicValue (depth nodes : Nat) : Json → Except IngestionFailure Nat
  | .null => countedNode depth nodes
  | .bool _ => countedNode depth nodes
  | .num text => do
    let nodes ← countedNode depth nodes
    refuseIf (text ∈ nonFinite) (inputInvalid "The public metadata contains an invalid number." "fix_metadata")
    return nodes
  | .str text => do
    let nodes ← countedNode depth nodes
    refuseIf (10000 < (utf16Units text).length)
      (inputInvalid "The public metadata contains an oversized string." "reduce_metadata")
    return nodes
  | .arr items => do
    let nodes ← countedNode depth nodes
    refuseIf (128 < items.length) (inputInvalid "The public metadata contains too many array items." "reduce_metadata")
    assertSafeItems (depth + 1) nodes items
  | .obj fields => do
    let nodes ← countedNode depth nodes
    assertSafeFields (depth + 1) nodes fields

def assertSafeItems (depth nodes : Nat) : List Json → Except IngestionFailure Nat
  | [] => .ok nodes
  | item :: rest => do assertSafeItems depth (← assertSafePublicValue depth nodes item) rest

def assertSafeFields (depth nodes : Nat) : List (String × Json) → Except IngestionFailure Nat
  | [] => .ok nodes
  | (key, child) :: rest => do
    refuseIf (isSensitiveKey key)
      (inputInvalid "Credential-bearing fields are not accepted as public agent metadata." "remove_sensitive_fields")
    assertSafeFields depth (← assertSafePublicValue depth nodes child) rest

end

def assertSafe (value : Json) : Except IngestionFailure Unit := do
  let _ ← assertSafePublicValue 0 0 value

def isWithin (low high : Nat) (text : String) : Bool := low ≤ (utf16Units text).length && (utf16Units text).length ≤ high

def normalizeSourceReference (value : String) : Except IngestionFailure String := do
  let reference := trim value
  refuseIf (isWithin 1 500 reference = false ∨ hasControlCharacter reference)
    (inputInvalid "A stable source reference is required." "provide_source_reference")
  return reference

def normalizeDigest (value : Option String) (fieldName : String := "digest") : Except IngestionFailure (Option String) :=
  match value with
  | none => .ok none
  | some text => do
    refuseIf (isDigest text = false) (inputInvalid s!"The {fieldName} must be a SHA-256 digest." "fix_digest")
    return some (lower text)

def normalizeIdentity (input : IdentityInput) : Except IngestionFailure Erc8004Identity :=
  match parseErc8004Identity input with
  | some identity => .ok identity
  | none => .error (inputInvalid "The ERC-8004 identity is invalid." "fix_identity")

/-- A candidate as an adapter gives it. A source that is none of the supported ones and a date
that is not valid are `none`. -/
structure IdentityCandidate where
  identity : IdentityInput
  source : Option IngestionSource
  sourceReference : String
  observedAt : Option Int
  rawResponseDigest : Option String
  normalizedIngestionVersion : String
  metadata : Option Json
  services : Option (List Json)
  capabilityManifest : Option Json

/-- What `normalizeCandidate` makes of the fields that the index of identities keeps. -/
structure NormalizedCandidate where
  identity : Erc8004Identity
  source : IngestionSource
  sourceReference : String
  observedAt : Int
  rawResponseDigest : Option String
  normalizedIngestionVersion : String

def required {α : Type} (value : Option α) (error : IngestionFailure) : Except IngestionFailure α :=
  match value with
  | some present => .ok present
  | none => .error error

/-- `publicObjectSchema.parse(value)` -/
def assertPublicObject : Json → Except IngestionFailure Unit
  | .obj _ => .ok ()
  | _ => .error (.foreign "publicObjectSchema")

def normalizeCandidate (input : IdentityCandidate) : Except IngestionFailure NormalizedCandidate := do
  let identity ← normalizeIdentity input.identity
  let source ← required input.source (ingestionError .ingestionSourceUnsupported
    "The discovery source is not supported by this ingestion boundary." "review_discovery_source")
  let sourceReference ← normalizeSourceReference input.sourceReference
  let observedAt ← required input.observedAt (inputInvalid "The discovery timestamp is invalid." "fix_timestamp")
  input.metadata.forM fun metadata => do
    assertPublicObject metadata
    assertSafe metadata
  input.services.forM fun services => assertSafe (.arr services)
  input.capabilityManifest.forM assertSafe
  let rawResponseDigest ← normalizeDigest input.rawResponseDigest "raw response digest"
  let normalizedIngestionVersion := trim input.normalizedIngestionVersion
  refuseIf (isWithin 1 64 normalizedIngestionVersion = false)
    (inputInvalid "The ingestion version is invalid." "fix_ingestion_version")
  return ⟨identity, source, sourceReference, observedAt, rawResponseDigest, normalizedIngestionVersion⟩

end Bnbera.Ingestion
