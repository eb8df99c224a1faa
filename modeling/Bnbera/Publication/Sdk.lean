import Bnbera.Evidence.Projection
import Bnbera.Interleaving.Relying
import Bnbera.Publication.Store

/-! The adapter of the Greenfield SDK: how an object and the canary bucket are created. -/

namespace Bnbera.Publication.Sdk

open Interleaving Evidence

inductive Value
  | undefined
  | null
  | bool (value : Bool)
  | number (value : Rat)
  | notFinite
  | bigint (value : Int)
  | str (text : String)
  | arr (items : List Value)
  | obj (fields : List (String × Value))
  | other

abbrev Record := List (String × Value)

/-- `source[name]` -/
def Record.field (source : Record) (name : String) : Value := (source.lookup name).getD .undefined

/-- `value ?? fallback` -/
def Value.orElse (value fallback : Value) : Value :=
  match value with
  | undefined => fallback
  | null => fallback
  | value => value

def isUndefined : Value → Bool
  | .undefined => true
  | _ => false

/-- `Number(text)` where it is finite, the bytes of base64, a message without its secrets, and whether the pattern of
`notFoundError` is found in a message. -/
class Platform where
  number : String → Option Rat
  base64ToBytes : String → Bytes
  redact : String → String
  saysNotFound : String → Bool

/-- A `PublicationProviderError`. -/
structure ProviderFailure where
  code : PublicationFailureCode
  message : String
  retryable : Bool
deriving DecidableEq

/-- What the client throws: a value, with the message that it has as an `Error`. -/
structure Foreign where
  error : Value
  message : Option String

inductive Thrown
  | provider (failure : ProviderFailure)
  | foreign (error : Foreign)

def refusal (code : PublicationFailureCode) (message : String) (retryable : Bool := false) : Thrown :=
  .provider ⟨code, message, retryable⟩

structure GreenfieldStorageProviderPin where
  providerLabel : String
  endpoint : String
  operatorAddress : String
deriving DecidableEq

structure TransactionOptions where
  denom : String
  gasLimit : Option Value
  gasPrice : Option String
  granter : Option String

/-- The publisher with its options, and which parts of the SDK's client there are. -/
structure GreenfieldSdkPublisher where
  bucket : SafeBucket
  creator : String
  providerPins : List GreenfieldStorageProviderPin
  providerLabel : Option String
  spEndpoint : Option String
  transaction : Option TransactionOptions
  /-- The Reed-Solomon encoder, or why there is none. -/
  encode : Except String (Bytes → Except String (List String))
  headObject : Bool
  getSPUrlByBucket : Bool
  createBucket : Bool
  headBucket : Bool
  getBucketMeta : Bool
  getGlobalVirtualGroupFamily : Bool
  getStorageProviders : Bool

/-- A transaction of the SDK that may be broadcast, and whether it can be simulated. -/
structure GreenfieldSdkTxResponse where
  simulates : Bool

structure BroadcastOptions where
  denom : String
  gasLimit : Rat
  gasPrice : String
  payer : String
  granter : String
  privateKey : String

/-- The calls of the SDK's client and of the secret loader, and what the instance remembers of the canary bucket. -/
inductive SdkCall
  | getSPUrlByBucket
  | getObjectMeta (endpoint objectName : String)
  | headObject (objectName : String)
  | createObject (objectName : String) (payloadSize : Nat) (expectChecksums : List Bytes)
  | simulate
  | loadSecret
  | broadcast (options : BroadcastOptions)
  | headBucket
  | getGlobalVirtualGroupFamily (familyId : Rat)
  | getStorageProviders
  | getBucketMeta (endpoint : String)
  | createBucket (primarySpAddress : String)
  | markCanaryBucket (unknown : Bool)

def SdkCall.Answer : SdkCall → Type
  | getSPUrlByBucket => Except Foreign Value
  | getObjectMeta _ _ => Except Foreign Record
  | headObject _ => Except Foreign Record
  | createObject _ _ _ => Except Foreign GreenfieldSdkTxResponse
  | simulate => Except Foreign Record
  | loadSecret => Except Thrown Value
  | broadcast _ => Except Foreign Record
  | headBucket => Except Foreign Record
  | getGlobalVirtualGroupFamily _ => Except Foreign Value
  | getStorageProviders => Except Foreign Value
  | getBucketMeta _ => Except Foreign Record
  | createBucket _ => Except Foreign GreenfieldSdkTxResponse
  | markCanaryBucket _ => Unit

abbrev SdkProgram := ExceptT Thrown (Program SdkCall SdkCall.Answer)

abbrev SdkHistory := History SdkCall SdkCall.Answer

abbrev SdkEntry := Answered SdkCall SdkCall.Answer

def ask (call : SdkCall) : SdkProgram call.Answer := ExceptT.lift (Program.ask call)

section
variable [Platform]

def safeMessage (error : Option String) : String :=
  let message := Platform.redact (error.getD "Greenfield provider operation failed")
  if message = "" then "Greenfield provider operation failed" else message

def providerFailure (code : PublicationFailureCode) : Thrown → Thrown
  | .provider failure => .provider failure
  | .foreign error => refusal code (safeMessage error.message) true

/-- `try { … } catch (error) { throw providerFailure(error, code); }` -/
def orProviderFailure {α : Type} (code : PublicationFailureCode) (result : Except Thrown α) : Except Thrown α :=
  result.mapError (providerFailure code)

def numericField : Value → Option Rat
  | .number value => some value
  | .bigint value => if 0 ≤ value ∧ value ≤ maxSafeInteger then some value else none
  | .str text => if trim text = "" then none else Platform.number text
  | _ => none

def integerText (text : String) : Option Int :=
  match text.toList with
  | '-' :: digits => if digits ≠ [] ∧ digits.all isDigit = true then some (-(decimalValue (String.ofList digits) : Int)) else none
  | digits => if digits ≠ [] ∧ digits.all isDigit = true then some (decimalValue (String.ofList digits)) else none

/-- `responseCode`; `none` is no finite number. -/
def responseCode (response : Record) : Option Rat :=
  match response.field "code" with
  | .number value => some value
  | .notFinite => none
  | .str text => some ((integerText text).getD 0)
  | _ => some 0

def responseStatus (response : Record) : Option Rat := numericField (response.field "statusCode")

end

def hashOrNull : Value → Option String
  | .str text =>
    let normalized := lower (trim text)
    if isTransactionHash normalized = true ∧ normalized ≠ "0x" ++ String.ofList (List.replicate 64 '0') then some normalized
    else none
  | _ => none

def stringField : Value → Option String
  | .str text => if text = "" then none else some text
  | _ => none

def objectLike : Value → Option Record
  | .obj fields => some fields
  | .arr _ => some []
  | _ => none

def recordValue : Value → Option Record
  | .obj fields => some fields
  | _ => none

def firstField (source : Option Record) (names : List String) : Value :=
  match source with
  | none => .undefined
  | some record => ((names.map record.field).find? fun value => !isUndefined value).getD .undefined

def checksumList : Value → List String
  | .arr items => items.filterMap fun item => match item with
    | .str text => some text
    | _ => none
  | .str text => if text = "" then [] else [text]
  | _ => []

def isNumber (value : Value) (number : Rat) : Bool :=
  match value with
  | .number found => found = number
  | _ => false

def isText (value : Value) (text : String) : Bool :=
  match value with
  | .str found => found = text
  | _ => false

def isFalse : Value → Bool
  | .bool false => true
  | _ => false

def officialMissingObjectError (error : Foreign) : Bool :=
  match recordValue error.error with
  | some source => isNumber (source.field "statusCode") 404 && isText (source.field "code") "90010"
  | none => false

def metadataObject (response : Record) : Option Record := do
  let body ← objectLike (response.field "body")
  let envelope ← objectLike (body.field "GfSpGetObjectMetaResponse")
  let object ← objectLike (envelope.field "Object")
  let _ ← objectLike (object.field "ObjectInfo")
  return object

def isSafeInteger (value : Rat) : Bool := value.isInt && -maxSafeInteger ≤ value && value ≤ maxSafeInteger

/-! ### Objects -/

def validateObjectName (objectName : String) : Except Thrown Unit :=
  let parts := objectName.toList.splitOn '/'
  refuseIf (objectName = "" ∨ objectName.toList.any (fun c => c = '\\' || c.toNat ≤ 0x1f || c.toNat = 0x7f) = true ∨
      1024 < (utf16Units objectName).length ∨
      parts.any (fun part => part = [] || part = ".".toList || part = "..".toList) = true)
    (refusal .providerFailed "Greenfield object name is invalid")

structure InspectInput where
  objectName : String
  sizeBytes : Option Nat
  canonicalBytes : Option Bytes
  expectedChecksums : Option (List Bytes)

structure CreateInput where
  objectName : String
  sizeBytes : Nat
  canonicalBytes : Option Bytes
  expectedChecksums : Option (List Bytes)

namespace GreenfieldSdkPublisher

variable [Platform] [UrlParser] (publisher : GreenfieldSdkPublisher)

def computedChecksums (canonicalBytes : Option Bytes) : Except Thrown (List Bytes) := do
  let bytes := canonicalBytes.getD []
  refuseIf (bytes = [])
    (refusal .createFailed "Greenfield create requires canonical bytes or precomputed Reed-Solomon checksums")
  let encode ← publisher.encode.mapError fun message => refusal .unsupportedProvider message
  match encode bytes with
  | .error message => .error (refusal .createFailed (safeMessage (some message)) true)
  | .ok encoded => do
    refuseIf (encoded = [] ∨ encoded.any (· = "") = true)
      (refusal .createFailed "Greenfield Reed-Solomon encoding returned no checksums")
    return encoded.map Platform.base64ToBytes

def checksumsFor (canonicalBytes : Option Bytes) (expectedChecksums : Option (List Bytes)) : Except Thrown (List Bytes) :=
  match expectedChecksums with
  | some supplied => do
    refuseIf (supplied = [] ∨ supplied.any (· = []) = true)
      (refusal .createFailed "Greenfield Reed-Solomon checksums are empty")
    match canonicalBytes with
    | none => return supplied
    | some bytes => do
      let computed ← publisher.computedChecksums (some bytes)
      refuseIf (computed ≠ supplied) (refusal .createFailed "Greenfield checksums do not match canonical bytes")
      return supplied
  | none => publisher.computedChecksums canonicalBytes

def greenfieldObjectReference (objectName : String) : String := publisher.bucket.text ++ "/" ++ objectName

end GreenfieldSdkPublisher

section
variable [UrlParser]

def canonicalHttpsUrl (value field : String) : Except Thrown String :=
  match UrlParser.parse value with
  | none => .error (refusal .unsupportedProvider ("Greenfield " ++ field ++ " is not a valid URL"))
  | some parsed => do
    refuseIf (parsed.protocol ≠ "https:" ∨ parsed.username ≠ "" ∨ parsed.password ≠ "" ∨ parsed.hash ≠ "")
      (refusal .unsupportedProvider ("Greenfield " ++ field ++ " must be an HTTPS URL without credentials"))
    return if parsed.href.endsWith "/" then (parsed.href.dropEnd 1).toString else parsed.href

end

namespace GreenfieldSdkPublisher

variable [Platform] [UrlParser] (publisher : GreenfieldSdkPublisher)

def assertAllowlistedEndpoint (endpoint : String) : Except Thrown String := do
  let normalized ← canonicalHttpsUrl endpoint "storage provider endpoint"
  refuseIf (publisher.providerPins.any (fun provider => provider.endpoint = normalized) = false)
    (refusal .unsupportedProvider "Greenfield storage provider is not standards-allowlisted")
  return normalized

def resolvedEndpoint (answer : Except Foreign Value) : Except Thrown String :=
  orProviderFailure .providerFailed do
    match ← answer.mapError .foreign with
    | .str text => do
      refuseIf (text = "") (.foreign ⟨.undefined, some "storage provider returned no endpoint"⟩)
      publisher.assertAllowlistedEndpoint text
    | _ => .error (.foreign ⟨.undefined, some "storage provider returned no endpoint"⟩)

def resolveEndpoint : SdkProgram String :=
  match publisher.spEndpoint with
  | some endpoint => liftM (publisher.assertAllowlistedEndpoint endpoint)
  | none =>
    if publisher.getSPUrlByBucket then do
      let answer : Except Foreign Value ← ask .getSPUrlByBucket
      liftM (publisher.resolvedEndpoint answer)
    else throw (refusal .providerFailed "Greenfield SDK cannot resolve a storage provider")

/-- What a response to `getObjectMeta` says: no object, or its metadata. -/
def metadataOf (answer : Except Foreign Record) : Except Thrown (Option Record) :=
  match answer with
  | .error error =>
    if officialMissingObjectError error then .ok none else .error (providerFailure .providerFailed (.foreign error))
  | .ok response =>
    let object := metadataObject response
    let status := responseStatus response
    if responseCode response ≠ some 0 then
      if status = some 404 then .ok none else .error (refusal .providerFailed "Greenfield metadata request failed" true)
    else match object with
    | some object => .ok (some object)
    | none =>
      if status = some 404 then .ok none
      else if (status.any fun status => 400 ≤ status) = true then
        .error (refusal .providerFailed "Greenfield metadata request failed" true)
      else .error (refusal .providerFailed "Greenfield metadata response was malformed")

/-- What `inspectObject` makes of an object's metadata. -/
def inspectedObject (objectName : String) (sizeBytes : Option Nat) (expectedChecksums : Option (List Bytes))
    (metadata : Record) : Except Thrown GreenfieldInspectReceipt := do
  let objectInfo := (objectLike (metadata.field "ObjectInfo")).getD []
  refuseIf (stringField (objectInfo.field "ObjectName") ≠ some objectName)
    (refusal .durableGraphInvalid "Greenfield metadata object name does not match")
  let owner := (stringField (objectInfo.field "Owner")).orElse fun _ => stringField (objectInfo.field "Creator")
  refuseIf (owner.map lower ≠ some (lower publisher.creator))
    (refusal .durableGraphInvalid "Greenfield object belongs to a different creator")
  refuseIf (∃ size ∈ sizeBytes, numericField (objectInfo.field "PayloadSize") ≠ some (size : Rat))
    (refusal .durableGraphInvalid "Greenfield object size differs from canonical bytes")
  refuseIf (∃ expected ∈ expectedChecksums,
      (checksumList (objectInfo.field "Checksums")).map Platform.base64ToBytes ≠ expected)
    (refusal .durableGraphInvalid "Greenfield object checksums differ from canonical bytes")
  match numericField (objectInfo.field "ObjectStatus") with
  | none => .error (refusal .providerFailed "Greenfield metadata object status was malformed")
  | some status => do
    refuseIf (status = 2) (refusal .durableGraphInvalid "Greenfield object is discontinued")
    return {
      status := if status = 1 then .sealed else .created
      objectReference := some (publisher.greenfieldObjectReference objectName)
      creationTransactionHash := hashOrNull (metadata.field "CreateTxHash")
      sealTransactionHash := if status = 1 then hashOrNull (metadata.field "SealTxHash") else none }

/-- What `inspectObject` makes of the answer about the metadata. -/
def inspectedAnswer (objectName : String) (sizeBytes : Option Nat) (expectedChecksums : Option (List Bytes))
    (answer : Except Foreign Record) : Except Thrown GreenfieldInspectReceipt := do
  match ← metadataOf answer with
  | none => return ⟨.missing, none, none, none⟩
  | some metadata => publisher.inspectedObject objectName sizeBytes expectedChecksums metadata

def inspectionChecksums (input : InspectInput) : Except Thrown (Option (List Bytes)) :=
  match input.expectedChecksums, input.canonicalBytes with
  | some supplied, _ => .ok (some supplied)
  | none, none => .ok none
  | none, some bytes => some <$> publisher.checksumsFor (some bytes) none

def inspectObject (input : InspectInput) : SdkProgram GreenfieldInspectReceipt := do
  liftM (validateObjectName input.objectName)
  let expectedChecksums ← liftM (publisher.inspectionChecksums input)
  let endpoint ← publisher.resolveEndpoint
  let answer : Except Foreign Record ← ask (.getObjectMeta endpoint input.objectName)
  liftM (publisher.inspectedAnswer input.objectName input.sizeBytes expectedChecksums answer)

def headStatus (answer : Except Foreign Record) : ReconciliationStatus :=
  match answer with
  | .error _ => .unknown
  | .ok response =>
    match (response.field "objectInfo").orElse (response.field "ObjectInfo") with
    | .obj _ => .present
    | .arr _ => .present
    | .null => .missing
    | _ => if isFalse (response.field "exists") || isFalse (response.field "found") then .missing else .unknown

def chainObjectStatus (objectName : String) : SdkProgram ReconciliationStatus :=
  if publisher.headObject then do
    let answer : Except Foreign Record ← ask (.headObject objectName)
    return headStatus answer
  else return .unknown

def unresolved (status : ReconciliationStatus) : GreenfieldCreateReconciliation := ⟨status, none, none, none⟩

def reconcileCreate (input : CreateInput) : SdkProgram GreenfieldCreateReconciliation := do
  liftM (validateObjectName input.objectName)
  let expectedChecksums ← liftM (publisher.checksumsFor input.canonicalBytes input.expectedChecksums)
  let chainStatus ← publisher.chainObjectStatus input.objectName
  let inspected ← tryCatch
    (some <$> publisher.inspectObject ⟨input.objectName, some input.sizeBytes, none, some expectedChecksums⟩)
    fun error => match error with
      | .provider ⟨.providerFailed, _, _⟩ => pure none
      | error => throw error
  match inspected with
  | none => return unresolved .unknown
  | some inspected =>
    if inspected.status ≠ .missing then
      return ⟨.present, inspected.objectReference, inspected.creationTransactionHash, inspected.sealTransactionHash⟩
    else if chainStatus = .missing then return unresolved .missing
    else return unresolved .unknown

/-- The gas limit and price, configured or simulated. -/
def gas (simulation : Option Record) : Except Thrown (Rat × String) := do
  let configured := publisher.transaction
  let simulatedGasLimit := numericField ((simulation.getD []).field "gasLimit")
  let simulatedGasPrice := stringField ((simulation.getD []).field "gasPrice")
  let gasLimit := match configured.bind (·.gasLimit) with
    | some (.number value) => some value
    | some _ => none
    | none => simulatedGasLimit
  let gasPrice := (configured.bind (·.gasPrice)).orElse fun _ => simulatedGasPrice
  match gasLimit.filter fun limit => isSafeInteger limit && 0 < limit with
  | none => .error (refusal .createFailed "Greenfield transaction gas limit is unavailable")
  | some limit => match gasPrice.filter (· ≠ "") with
    | none => .error (refusal .createFailed "Greenfield transaction gas price is unavailable")
    | some price => return (limit, price)

def normalizePrivateKey : Value → Except Thrown String
  | .str text =>
    let hex := match text.toList with
      | '0' :: 'x' :: digits => digits
      | '0' :: 'X' :: digits => digits
      | digits => digits
    if hex.length = 64 ∧ hex.all isHexDigit = true then .ok ("0x" ++ String.ofList hex)
    else .error (refusal .providerFailed "Greenfield publisher secret is invalid")
  | _ => .error (refusal .providerFailed "Greenfield publisher secret is invalid")

def loadedKey (answer : Except Thrown Value) : Except Thrown String :=
  orProviderFailure .providerFailed (answer >>= normalizePrivateKey)

def broadcastOptions (simulation : Option Record) : SdkProgram BroadcastOptions := do
  let (gasLimit, gasPrice) ← liftM (publisher.gas simulation)
  let answer : Except Thrown Value ← ask .loadSecret
  let privateKey ← liftM (loadedKey answer)
  return {
    denom := (publisher.transaction.map (·.denom)).getD "BNB"
    gasLimit
    gasPrice
    payer := publisher.creator
    granter := (publisher.transaction.bind (·.granter)).getD ""
    privateKey }

def createdReceipt (objectName : String) (answer : Except Foreign Record) : Except Thrown GreenfieldCreateReceipt := do
  let result ← answer.mapError .foreign
  refuseIf (responseCode result ≠ some 0) (refusal .createFailed "Greenfield create transaction was rejected" true)
  match hashOrNull (result.field "txhash") with
  | none => .error (refusal .malformedTransaction "Greenfield create returned no canonical transaction hash")
  | some hash => return ⟨some (publisher.greenfieldObjectReference objectName), some hash, .confirmed⟩

def simulated (simulates : Bool) : SdkProgram (Option Record) :=
  if simulates then do
    let answer : Except Foreign Record ← ask .simulate
    liftM ((answer.mapError Thrown.foreign).map some)
  else return none

def submitCreate (input : CreateInput) (checksums : List Bytes) : SdkProgram GreenfieldCreateReceipt := do
  let created : Except Foreign GreenfieldSdkTxResponse ← ask (.createObject input.objectName input.sizeBytes checksums)
  let tx ← liftM (created.mapError Thrown.foreign)
  let simulation ← simulated tx.simulates
  let options ← publisher.broadcastOptions simulation
  let answer : Except Foreign Record ← ask (.broadcast options)
  liftM (publisher.createdReceipt input.objectName answer)

def createUnknown : Thrown := refusal .createUnknown "Greenfield create outcome requires reconciliation"

def recoverCreate (input : CreateInput) (checksums : List Bytes) : SdkProgram GreenfieldCreateReceipt := do
  let recovered : Option GreenfieldCreateReconciliation ← tryCatch
    (some <$> publisher.reconcileCreate { input with expectedChecksums := some checksums }) fun _ => pure none
  match recovered with
  | some ⟨.present, some objectReference, some creationTransactionHash, _⟩ =>
    return ⟨some objectReference, some creationTransactionHash, .confirmed⟩
  | _ => throw createUnknown

def validateCreate (input : CreateInput) : Except Thrown (List Bytes) := do
  validateObjectName input.objectName
  refuseIf (maxSafeInteger < input.sizeBytes ∨ input.sizeBytes = 0)
    (refusal .createFailed "Greenfield object size is invalid")
  publisher.checksumsFor input.canonicalBytes input.expectedChecksums

def createObject (input : CreateInput) : SdkProgram GreenfieldCreateReceipt := do
  let checksums ← liftM (publisher.validateCreate input)
  let inspected ← tryCatch
    (publisher.inspectObject ⟨input.objectName, some input.sizeBytes, none, some checksums⟩)
    fun error => throw (providerFailure .createFailed error)
  if inspected.status ≠ .missing then
    match inspected.objectReference, inspected.creationTransactionHash with
    | some objectReference, some creationTransactionHash =>
      return ⟨some objectReference, some creationTransactionHash, .confirmed⟩
    | _, _ => throw (refusal .createFailed "Existing Greenfield object has no canonical create transaction")
  else tryCatch (publisher.submitCreate input checksums) fun _ => publisher.recoverCreate input checksums

/-! ### The canary bucket -/

def notFoundError (error : Foreign) : Bool :=
  let source := recordValue error.error
  let response := recordValue (firstField source ["response"])
  let names := ["statusCode", "status", "code"]
  let status := names.foldr (fun name rest => (firstField source [name]).orElse rest)
    (names.foldr (fun name rest => (firstField response [name]).orElse rest) .undefined)
  let text := error.message.getD (match firstField source ["message"] with
    | .str text => text
    | _ => "")
  numericField status = some 404 || Platform.saysNotFound text

def publicReadVisibility (value : Value) : Bool :=
  numericField value = some 1 || ["VISIBILITY_TYPE_PUBLIC_READ", "PUBLIC_READ", "public-read"].any (isText value)

def createdBucketStatus (value : Value) : Bool :=
  match numericField value with
  | some numeric => numeric = 0
  | none => match value with
    | .str text => ["created", "bucket_status_created"].contains (lower (trim text))
    | _ => false

def bucketInfoNames : List String := ["bucketInfo", "BucketInfo", "bucket_info"]

def bucketOwnerNames : List String := ["owner", "Owner", "bucketName", "BucketName", "bucket_name"]

def bucketInfoFromResponse (response : Record) : Option Record :=
  let body := recordValue (response.field "body")
  let bodyEnvelope := recordValue (firstField body ["QueryHeadBucketResponse", "queryHeadBucketResponse"])
  [recordValue (firstField (some response) bucketInfoNames), recordValue (firstField body bucketInfoNames),
    recordValue (firstField bodyEnvelope bucketInfoNames),
    if isUndefined (firstField (some response) bucketOwnerNames) then none else some response,
    if isUndefined (firstField body bucketOwnerNames) then none else body].firstM id

def virtualGroupFamilyNames : List String :=
  ["globalVirtualGroupFamily", "GlobalVirtualGroupFamily", "global_virtual_group_family"]

def primarySpNames : List String := ["primarySpId", "PrimarySpId", "primary_sp_id"]

def virtualGroupFamilyFromResponse (response : Record) : Option Record :=
  [recordValue (firstField (some response) virtualGroupFamilyNames),
    recordValue (firstField (recordValue (response.field "body")) virtualGroupFamilyNames),
    if isUndefined (firstField (some response) primarySpNames) then none else some response].firstM id

def storageProvidersFromResponse (response : Value) : Option (List Record) :=
  let names := ["sps", "Sps", "storageProviders", "StorageProviders"]
  let source : Value := match response with
    | .arr items => .arr items
    | response => (firstField (recordValue response) names).orElse
        (firstField (recordValue (firstField (recordValue response) ["body"])) names)
  match source with
  | .arr items => items.mapM recordValue
  | _ => none

def bucketMetaFromResponse (response : Record) : Option Record := do
  let body ← recordValue (response.field "body")
  let names := ["Bucket", "bucket", "BucketMeta", "bucketMeta"]
  let envelope := recordValue (firstField (some body) ["GfSpGetBucketMetaResponse", "gfSpGetBucketMetaResponse"])
  return ((recordValue (firstField envelope names)).orElse fun _ => recordValue (firstField (some body) names)).getD body

/-- How far a look at the bucket has come: it says what there is, or goes on with what it read. -/
inductive Look (α : Type)
  | missing
  | unknown
  | further (value : α)

/-- The bucket's own data agree with the configuration; its virtual-group family is read further. -/
def checkedBucket (info : Record) : Except Thrown Rat := do
  let read (names : List String) := firstField (some info) names
  match stringField (read ["bucketName", "BucketName", "bucket_name"]),
    stringField (read ["owner", "Owner", "creator", "Creator"]) with
  | some bucketName, some owner => do
    let visibility := read ["visibility", "Visibility", "bucketVisibility", "bucket_visibility"]
    refuseIf (isUndefined visibility = true)
      (refusal .providerFailed "Greenfield bucket metadata response was incomplete")
    refuseIf (bucketName ≠ publisher.bucket.text)
      (refusal .durableGraphInvalid "Greenfield bucket name does not match the configured canary")
    refuseIf (lower owner ≠ lower publisher.creator)
      (refusal .durableGraphInvalid "Greenfield canary bucket belongs to a different owner")
    refuseIf (publicReadVisibility visibility = false)
      (refusal .durableGraphInvalid "Greenfield canary bucket is not public-read")
    let bucketStatus := read ["bucketStatus", "BucketStatus", "bucket_status", "status"]
    refuseIf (isUndefined bucketStatus = false ∧ createdBucketStatus bucketStatus = false)
      (refusal .durableGraphInvalid "Greenfield canary bucket is not in the created state")
    let paymentAddress := stringField (read ["paymentAddress", "PaymentAddress", "payment_address"])
    refuseIf (∃ address ∈ paymentAddress, lower address ≠ lower publisher.creator)
      (refusal .durableGraphInvalid "Greenfield canary bucket payment address differs")
    let familyId := numericField (read ["globalVirtualGroupFamilyId", "GlobalVirtualGroupFamilyId",
      "global_virtual_group_family_id"])
    match familyId.filter fun id => isSafeInteger id && 0 ≤ id with
    | some familyId => .ok familyId
    | none => .error (refusal .providerFailed "Greenfield bucket virtual-group family metadata was malformed")
  | _, _ => .error (refusal .providerFailed "Greenfield bucket metadata response was incomplete")

def headLook (answer : Except Foreign Record) : Except Thrown (Look Rat) :=
  match answer with
  | .error error => .ok (if notFoundError error then .missing else .unknown)
  | .ok response =>
    if responseStatus response = some 404 ∨ responseCode response = some 404 then .ok .missing
    else if ((responseStatus response).any fun status => 400 ≤ status) = true ∨ responseCode response ≠ some 0 then
      .ok .unknown
    else match bucketInfoFromResponse response with
      | none => .error (refusal .providerFailed "Greenfield bucket metadata response was malformed")
      | some info => .further <$> publisher.checkedBucket info

def familyLook (answer : Except Foreign Value) : Except Thrown (Look Rat) :=
  match answer with
  | .error _ => .ok .unknown
  | .ok response =>
    let record := recordValue response
    if (record.any fun record => responseCode record ≠ some 0) = true then .ok .unknown
    else
      let primarySpId := numericField (firstField (record.bind virtualGroupFamilyFromResponse) primarySpNames)
      match primarySpId.filter fun id => isSafeInteger id && 0 ≤ id with
      | some primarySpId => .ok (.further primarySpId)
      | none => .error (refusal .providerFailed "Greenfield virtual-group primary SP metadata was malformed")

def checkedProvider (provider : GreenfieldStorageProviderPin) (storageProvider : Record) : Except Thrown Unit := do
  let operator := stringField (firstField (some storageProvider) ["operatorAddress", "OperatorAddress", "operator_address"])
  match operator.filter isEvmAddress, stringField (firstField (some storageProvider) ["endpoint", "Endpoint"]) with
  | some operator, some endpoint =>
    match canonicalHttpsUrl endpoint "storage provider endpoint" with
    | .error _ => .error (refusal .providerFailed "Greenfield storage-provider endpoint was malformed")
    | .ok normalized =>
      refuseIf (lower operator ≠ lower provider.operatorAddress ∨ normalized ≠ provider.endpoint)
        (refusal .durableGraphInvalid "Greenfield canary bucket SP differs from the pinned provider")
  | _, _ => .error (refusal .providerFailed "Greenfield storage-provider metadata was malformed")

def providersLook (provider : GreenfieldStorageProviderPin) (primarySpId : Rat) (answer : Except Foreign Value) :
    Except Thrown (Look Unit) :=
  match answer with
  | .error _ => .ok .unknown
  | .ok response =>
    match storageProvidersFromResponse response with
    | none => .error (refusal .providerFailed "Greenfield storage-provider metadata response was malformed")
    | some providers =>
      match providers.find? fun candidate =>
          numericField (firstField (some candidate) ["id", "Id", "spId", "SpId", "sp_id"]) = some primarySpId with
      | none => .error (refusal .durableGraphInvalid "Greenfield bucket primary SP is not in the provider set")
      | some storageProvider => .further <$> checkedProvider provider storageProvider

/-- The create hash in the storage provider's metadata. -/
def metaLook (answer : Except Foreign Record) : Except Thrown (Look String) :=
  match answer with
  | .error _ => .ok .unknown
  | .ok response =>
    if responseStatus response = some 404 ∨ responseCode response = some 404 ∨
        ((responseStatus response).any fun status => 400 ≤ status) = true ∨ responseCode response ≠ some 0 then
      .ok .unknown
    else match bucketMetaFromResponse response with
      | none => .error (refusal .providerFailed "Greenfield bucket metadata response was malformed")
      | some metadata =>
        let createValue := firstField (some metadata) ["createTxHash", "CreateTxHash", "create_tx_hash"]
        if isUndefined createValue || isText createValue "" then
          .error (refusal .providerFailed "Greenfield bucket create transaction hash metadata was missing")
        else match hashOrNull createValue with
          | none => .error (refusal .providerFailed "Greenfield bucket create transaction hash was malformed")
          | some hash => .ok (.further hash)

/-- `inspectCanaryBucket`: the bucket's create hash, if it is there. -/
def inspectCanaryBucket (provider : GreenfieldStorageProviderPin) : SdkProgram (Look String) := do
  refuseIf (publisher.headBucket = false)
    (refusal .unsupportedProvider "Official Greenfield bucket query API is unavailable")
  let head : Except Foreign Record ← ask .headBucket
  match ← liftM (publisher.headLook head) with
  | .missing => return .missing
  | .unknown => return .unknown
  | .further familyId => do
    refuseIf (publisher.getGlobalVirtualGroupFamily = false)
      (refusal .unsupportedProvider "Greenfield virtual-group query API is unavailable")
    let family : Except Foreign Value ← ask (.getGlobalVirtualGroupFamily familyId)
    match ← liftM (familyLook family) with
    | .missing => return .missing
    | .unknown => return .unknown
    | .further primarySpId => do
      refuseIf (publisher.getStorageProviders = false)
        (refusal .unsupportedProvider "Greenfield storage-provider query API is unavailable")
      let providers : Except Foreign Value ← ask .getStorageProviders
      match ← liftM (providersLook provider primarySpId providers) with
      | .missing => return .missing
      | .unknown => return .unknown
      | .further () => do
        refuseIf (publisher.getBucketMeta = false)
          (refusal .unsupportedProvider "Greenfield SP bucket metadata API is unavailable")
        let metadata : Except Foreign Record ← ask (.getBucketMeta provider.endpoint)
        liftM (metaLook metadata)

inductive EnsureStatus
  | reused
  | created
  | unknown
deriving DecidableEq

structure GreenfieldBucketEnsureReceipt where
  status : EnsureStatus
  bucketName : String
  owner : String
  primarySpAddress : String
  creationTransactionHash : Option String

def bucketReceipt (status : EnsureStatus) (creationTransactionHash : Option String)
    (provider : GreenfieldStorageProviderPin) : GreenfieldBucketEnsureReceipt :=
  ⟨status, publisher.bucket.text, publisher.creator, provider.operatorAddress, creationTransactionHash⟩

def bucketProviderPin : Except Thrown GreenfieldStorageProviderPin := do
  refuseIf (publisher.providerPins = [])
    (refusal .unsupportedProvider "Greenfield storage provider pins are unavailable")
  let endpoint ← match publisher.spEndpoint with
    | none => .ok none
    | some endpoint => some <$> canonicalHttpsUrl endpoint "storage provider endpoint"
  let label := publisher.providerLabel.map trim
  match publisher.providerPins.filter fun provider =>
      endpoint.all (provider.endpoint = ·) && label.all (provider.providerLabel = ·) with
  | [provider] => return provider
  | _ => .error (refusal .unsupportedProvider "Greenfield canary storage provider selection is ambiguous")

def reconcileCanaryBucketAfterUnknown (provider : GreenfieldStorageProviderPin) :
    SdkProgram GreenfieldBucketEnsureReceipt := do
  match ← publisher.inspectCanaryBucket provider with
  | .further hash => do
    ask (.markCanaryBucket false)
    return publisher.bucketReceipt .reused (some hash) provider
  | _ => return publisher.bucketReceipt .unknown none provider

def transactionHashFromResponse (response : Record) : Option String :=
  hashOrNull ((response.field "txhash").orElse ((response.field "txHash").orElse (response.field "transactionHash")))

def prepareBucket (provider : GreenfieldStorageProviderPin) : SdkProgram BroadcastOptions := do
  let created : Except Foreign GreenfieldSdkTxResponse ← ask (.createBucket provider.operatorAddress)
  let tx ← liftM (orProviderFailure .createFailed (created.mapError .foreign))
  refuseIf (tx.simulates = false)
    (refusal .unsupportedProvider "Greenfield bucket transaction cannot be simulated")
  let simulated : Except Foreign Record ← ask .simulate
  let simulation ← liftM (orProviderFailure .createFailed (simulated.mapError .foreign))
  tryCatch (publisher.broadcastOptions (some simulation)) fun error => throw (providerFailure .createFailed error)

/-- What follows the answer to the broadcast of a bucket. -/
def settleBucket (provider : GreenfieldStorageProviderPin) (answer : Except Foreign Record) :
    SdkProgram GreenfieldBucketEnsureReceipt :=
  match answer with
  | .error _ => do
    ask (.markCanaryBucket true)
    publisher.reconcileCanaryBucketAfterUnknown provider
  | .ok result => do
    refuseIf (responseCode result ≠ some 0)
      (refusal .createFailed "Greenfield bucket creation transaction was rejected")
    match transactionHashFromResponse result with
    | none => do
      ask (.markCanaryBucket true)
      publisher.reconcileCanaryBucketAfterUnknown provider
    | some hash => do
      ask (.markCanaryBucket false)
      return publisher.bucketReceipt .created (some hash) provider

/-- `ensureCanaryBucket`, of an instance that remembers an unknown broadcast or none. -/
def ensureCanaryBucket (canaryBucketUnknown : Bool) : SdkProgram GreenfieldBucketEnsureReceipt := do
  let provider ← liftM publisher.bucketProviderPin
  match ← publisher.inspectCanaryBucket provider with
  | .further hash => do
    ask (.markCanaryBucket false)
    return publisher.bucketReceipt .reused (some hash) provider
  | .unknown => return publisher.bucketReceipt .unknown none provider
  | .missing =>
    if canaryBucketUnknown then return publisher.bucketReceipt .unknown none provider
    else do
      refuseIf (publisher.createBucket = false)
        (refusal .unsupportedProvider "Official Greenfield bucket API is unavailable")
      let options ← publisher.prepareBucket provider
      let answer : Except Foreign Record ← ask (.broadcast options)
      publisher.settleBucket provider answer

end GreenfieldSdkPublisher

end Bnbera.Publication.Sdk
