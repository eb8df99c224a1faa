import Bnbera.Validation
import Bnbera.JsonText.Seller

/-! What a seller replies, the quote that is saved of it, and the schemas of both. -/

namespace Bnbera.Seller

open JsonText

/-- What is taken from the language and from libraries: `toLowerCase`, the check of a URL, the hashes of a text, the
checksum form of an address, and the signer of a message. -/
class Platform where
  toLowerCase : Text → Text
  isUrl : Text → Bool
  keccak256 : Text → Text
  sha256Hex : Text → Text
  getAddress : Text → Text
  recoverMessageAddress : Text → Text → Option Text

class Integers (N : Type) where
  one : N
  toInt : N → Option Int

class LawfulIntegers (N : Type) [Numbers N] [Integers N] : Prop where
  toInt_one : Integers.toInt (Integers.one : N) = some 1
  toInt_negZero : Integers.toInt (Numbers.negZero : N) = some 0
  isFinite_toInt : ∀ {n : N} {value}, Integers.toInt n = some value → Numbers.isFinite n = true

instance : Integers SmallNumber where
  one := some 1
  toInt n := some (n.getD 0).val

instance : LawfulIntegers SmallNumber where
  toInt_one := rfl
  toInt_negZero := rfl
  isFinite_toInt _ := rfl

inductive Failure
  | zod
  | syntaxError
  | typeError
  | signature
  | commerce (error : CommerceError)

abbrev Value (N : Type) := JsonText.Tree (Scalar N)

abbrev Fields (N : Type) := List (Text × Value N)

def isText (maximum : Nat) (text : Text) : Bool := 1 ≤ text.length && text.length ≤ maximum

def isHexUnit (c : CodeUnit) : Bool :=
  (48 ≤ c.val && c.val ≤ 57) || (97 ≤ c.val && c.val ≤ 102) || (65 ≤ c.val && c.val ≤ 70)

/-- `/^0x[0-9a-f]{length}$/iu` -/
def isHexText (length : Nat) (text : Text) : Bool :=
  match text with
  | 0x30 :: x :: digits => (x == 0x78 || x == 0x58) && digits.length == length && digits.all isHexUnit
  | _ => false

/-- `/^0x[0-9a-fA-F]{40}$/` -/
def isAddress (text : Text) : Bool :=
  match text with
  | 0x30 :: 0x78 :: digits => digits.length == 40 && digits.all isHexUnit
  | _ => false

def isNonZeroAddress (text : Text) : Bool := isAddress text && !(text.drop 2).all (· == 0x30)

def isDecimal (text : Text) : Bool :=
  text.all (fun c => 48 ≤ c.val && c.val ≤ 57) && (text == [0x30] || text.head?.any (· ≠ 0x30))

def isPositiveDecimal (text : Text) : Bool := isDecimal text && text != [0x30]

/-- `/^[0-9a-f]{64}$/u` -/
def isDigest (text : Text) : Bool :=
  text.length == 64 && text.all fun c => (48 ≤ c.val && c.val ≤ 57) || (97 ≤ c.val && c.val ≤ 102)

/-- `/^[0-9]+$/u` -/
def isDigits (text : Text) : Bool := text != [] && text.all fun c => 48 ≤ c.val && c.val ≤ 57

def trim (text : Text) : Text := ((text.dropWhile isWhite).reverse.dropWhile isWhite).reverse

/-- `/^[A-Za-z0-9._-]+$/` of at most 128 units -/
def isNamespace (text : Text) : Bool :=
  isText 128 text && text.all fun c => (48 ≤ c.val && c.val ≤ 57) || (65 ≤ c.val && c.val ≤ 90) || (97 ≤ c.val && c.val ≤ 122) ||
    c == 0x2e || c == 0x5f || c == 0x2d

theorem trim_eq_self {text : Text} (shown : ∀ c ∈ text, isWhite c = false) : trim text = text := by
  have same : ∀ {text : Text}, (∀ c ∈ text, isWhite c = false) → text.dropWhile isWhite = text := by
    intro text shown
    cases text with
    | nil => rfl
    | cons c rest => rw [List.dropWhile_cons, if_neg (by simp [shown c List.mem_cons_self])]
  unfold trim
  rw [same shown, same fun c member => shown c (List.mem_reverse.mp member), List.reverse_reverse]

theorem isNamespace_trim {text : Text} (namespaceText : isNamespace text = true) : trim text = text := by
  refine trim_eq_self fun c member => ?_
  simp only [isNamespace, Bool.and_eq_true] at namespaceText
  have unit := List.all_eq_true.mp namespaceText.2 c member
  simp only [Bool.or_eq_true, Bool.and_eq_true, decide_eq_true_eq, beq_iff_eq, Fin.ext_iff] at unit
  have plain : 45 ≤ c.val ∧ c.val ≤ 122 := by
    rcases unit with ((((range | range) | range) | same) | same) | same <;> simp at * <;> omega
  refine Bool.eq_false_iff.mpr fun white => ?_
  simp only [isWhite, List.contains_eq_mem, List.mem_cons, List.not_mem_nil, Bool.or_eq_true, Bool.and_eq_true,
    decide_eq_true_eq, or_false] at white
  omega

def lowerUnit (c : CodeUnit) : CodeUnit := if 65 ≤ c.val ∧ c.val ≤ 90 then Fin.ofNat _ (c.val + 32) else c

/-- `toLowerCase`, of a text in ASCII. -/
def lowerAscii (text : Text) : Text := text.map lowerUnit

def maxUint256 : Nat := 2 ^ 256 - 1

variable {N : Type}

section
variable [Integers N]

def isBetween (low high : Int) (n : N) : Bool := (Integers.toInt n).any fun value => low ≤ value && value ≤ high

/-- `z.number().int().positive().max(Number.MAX_SAFE_INTEGER)` -/
def isTimestamp (n : N) : Bool := isBetween 1 9007199254740991 n

def isBscChain (n : N) : Bool := Integers.toInt n == some 56 || Integers.toInt n == some 97

end

def str (text : Text) : Value N := .leaf (.str text)

def num (n : N) : Value N := .leaf (.num n)

/-- `object[key]`; `none` is `undefined`. -/
def field (fields : Fields N) (key : String) : Option (Value N) := (fields.find? fun field => field.1 = units key).map Prod.snd

theorem field_eq_some_iff {fields : Fields N} (distinct : (keys fields).Nodup) {key : String} {value : Value N} :
    field fields key = some value ↔ (units key, value) ∈ fields := by
  unfold field
  rw [Option.map_eq_some_iff]
  constructor
  · rintro ⟨⟨name, found⟩, first, rfl⟩
    have same : name = units key := by simpa using List.find?_some first
    exact same ▸ List.mem_of_find?_eq_some first
  · intro member
    cases found : fields.find? fun field => field.1 = units key with
    | none => exact absurd (decide_eq_true rfl) (List.find?_eq_none.mp found _ member)
    | some first =>
      obtain ⟨name, other⟩ := first
      have same : name = units key := by simpa using List.find?_some found
      subst same
      exact ⟨_, rfl, eq_of_key distinct (List.mem_of_find?_eq_some found) member⟩

theorem field_perm {fields fields' : Fields N} (perm : fields.Perm fields') (distinct : (keys fields).Nodup) (key : String) :
    field fields key = field fields' key := by
  have distinct' : (keys fields').Nodup := (perm.map Prod.fst).nodup_iff.mp distinct
  refine Option.ext fun value => ?_
  rw [field_eq_some_iff distinct, field_eq_some_iff distinct', perm.mem_iff]

theorem field_map (change : Value N → Value N) (fields : Fields N) (key : String) :
    field (fields.map (Prod.map id change)) key = (field fields key).map change := by
  unfold field
  rw [List.find?_map, Option.map_map, Option.map_map]
  rfl

def record (value : Option (Value N)) : Fields N :=
  match value with
  | some (.obj fields) => fields
  | _ => []

def readObject (value : Option (Value N)) : Option (Fields N) :=
  match value with
  | some (.obj fields) => some fields
  | _ => none

def readText (accepts : Text → Bool) (value : Option (Value N)) : Option Text :=
  match value with
  | some (.leaf (.str text)) => if accepts text then some text else none
  | _ => none

def readNum (accepts : N → Bool) (value : Option (Value N)) : Option N :=
  match value with
  | some (.leaf (.num n)) => if accepts n then some n else none
  | _ => none

def readBool (value : Option (Value N)) : Option Bool :=
  match value with
  | some (.leaf (.bool value)) => some value
  | _ => none

/-- `z.array(z.string().min(1).max(300)).max(8)` -/
def readCriteria (value : Option (Value N)) : Option (List Text) :=
  match value with
  | some (.arr items) => if items.length ≤ 8 then items.mapM fun item => readText (isText 300) (some item) else none
  | _ => none

def readOptional {β : Type} (read : Option (Value N) → Option β) (value : Option (Value N)) : Option (Option β) :=
  match value with
  | none => some none
  | value => (read value).map some

def isStrict (fields : Fields N) (names : List String) : Bool := fields.all fun field => names.any fun name => field.1 == units name

theorem readText_eq_some {accepts : Text → Bool} {value : Option (Value N)} {text : Text} :
    readText accepts value = some text ↔ value = some (str text) ∧ accepts text = true := by
  unfold readText
  split
  · next found =>
    split
    · next accepted =>
      refine ⟨fun same => ?_, fun same => ?_⟩
      · cases same
        exact ⟨rfl, accepted⟩
      · cases same.1
        rfl
    · next refused =>
      refine ⟨nofun, fun same => ?_⟩
      cases same.1
      exact absurd same.2 refused
  · next other =>
    refine ⟨nofun, fun same => absurd same.1 (other text)⟩

theorem readNum_accepts {accepts : N → Bool} {value : Option (Value N)} {n : N} (found : readNum accepts value = some n) :
    accepts n = true := by
  unfold readNum at found
  split at found
  · split at found
    · next accepted => exact Option.some.inj found ▸ accepted
    · cases found
  · cases found

theorem elim_eq_ok {α ε : Type} {found : Option α} {error : ε} {value : α} :
    (found.elim (.error error) .ok : Except ε α) = .ok value ↔ found = some value := by
  cases found with
  | none => exact ⟨nofun, nofun⟩
  | some other => exact ⟨fun same => congrArg some (Except.ok.inj same), fun same => congrArg Except.ok (Option.some.inj same)⟩

section
variable [Numbers N] [Integers N] [LawfulIntegers N]

theorem isNormal_of_toInt {n : N} {value : Int} (integer : Integers.toInt n = some value) (other : value ≠ 0) :
    (Scalar.num n).IsNormal := by
  refine ⟨LawfulIntegers.isFinite_toInt integer, fun zero => ?_⟩
  rw [zero, LawfulIntegers.toInt_negZero] at integer
  exact other (Option.some.inj integer).symm

theorem isNormal_of_isBetween {low high : Int} {n : N} (within : isBetween low high n = true) (positive : 0 < low) :
    (Scalar.num n).IsNormal := by
  obtain ⟨value, integer, range⟩ := (Option.any_eq_true _ _).mp within
  simp only [Bool.and_eq_true, decide_eq_true_eq] at range
  exact isNormal_of_toInt integer (by omega)

end

structure Terms where
  deliverables : Text
  qualityStandards : Text
  successCriteria : Option (List Text)
  evaluationRequired : Option Bool
  evaluatorType : Option Text

structure Negotiation (N : Type) where
  taskDescription : Text
  requested : Terms
  requestHash : Text
  responseHash : Text
  negotiationHash : Text
  providerSig : Text
  chainId : N
  verifyingContract : Text
  providerAddress : Option Text
  terms : Terms
  price : Text
  currency : Text
  estimatedCompletionSeconds : N
  quoteExpiresAt : N
  negotiatedAt : N

def termNames : List String := ["deliverables", "quality_standards", "success_criteria", "evaluation_required", "evaluator_type"]

def negotiationNames : List String :=
  ["request", "request_hash", "response_hash", "negotiation_hash", "provider_sig", "chain_id", "verifying_contract",
    "provider_address", "response"]

def requestNames : List String := ["task_description", "terms"]

def responseNames : List String := ["accepted", "terms", "estimated_completion_seconds", "quote_expires_at", "negotiated_at"]

def readTerms (fields : Fields N) : Option Terms := do
  let deliverables ← readText (isText 1200) (field fields "deliverables")
  let qualityStandards ← readText (isText 1200) (field fields "quality_standards")
  let successCriteria ← readOptional readCriteria (field fields "success_criteria")
  let evaluationRequired ← readOptional readBool (field fields "evaluation_required")
  let evaluatorType ← readOptional (readText (isText 64)) (field fields "evaluator_type")
  return ⟨deliverables, qualityStandards, successCriteria, evaluationRequired, evaluatorType⟩

def negotiationSchema [Integers N] (fields : Fields N) : Option (Negotiation N) := do
  guard (isStrict fields negotiationNames)
  let request ← readObject (field fields "request")
  guard (isStrict request requestNames)
  let taskDescription ← readText (isText 1600) (field request "task_description")
  let requestTerms ← readObject (field request "terms")
  guard (isStrict requestTerms termNames)
  let requested ← readTerms requestTerms
  let requestHash ← readText (isHexText 64) (field fields "request_hash")
  let responseHash ← readText (isHexText 64) (field fields "response_hash")
  let negotiationHash ← readText (isHexText 64) (field fields "negotiation_hash")
  let providerSig ← readText (isHexText 130) (field fields "provider_sig")
  let chainId ← readNum isBscChain (field fields "chain_id")
  let verifyingContract ← readText isNonZeroAddress (field fields "verifying_contract")
  let providerAddress ← readOptional (readText isNonZeroAddress) (field fields "provider_address")
  let response ← readObject (field fields "response")
  guard (isStrict response responseNames)
  let accepted ← readBool (field response "accepted")
  guard accepted
  let responseTerms ← readObject (field response "terms")
  guard (isStrict responseTerms (termNames ++ ["price", "currency"]))
  let terms ← readTerms responseTerms
  let price ← readText isPositiveDecimal (field responseTerms "price")
  let currency ← readText isNonZeroAddress (field responseTerms "currency")
  let estimatedCompletionSeconds ← readNum (isBetween 1 86400) (field response "estimated_completion_seconds")
  let quoteExpiresAt ← readNum isTimestamp (field response "quote_expires_at")
  let negotiatedAt ← readNum isTimestamp (field response "negotiated_at")
  return ⟨taskDescription, requested, requestHash, responseHash, negotiationHash, providerSig, chainId, verifyingContract,
    providerAddress, terms, price, currency, estimatedCompletionSeconds, quoteExpiresAt, negotiatedAt⟩

structure Identity (N : Type) where
  namespaceText : Text
  chainId : N
  identityRegistry : Text
  agentId : Text

structure Quote (N : Type) where
  identity : Identity N
  providerAddress : Text
  endpoint : Text
  resultBaseUrl : Text
  chainId : N
  commerceContract : Text
  paymentToken : Text
  priceAtomic : Text
  requestedTask : Text
  deliverables : Text
  qualityStandards : Text
  issuedAtUnix : N
  expiresAtUnix : N
  estimatedCompletionSeconds : N
  negotiationHash : Text
  providerSignature : Text
  signedDescription : Text
  descriptionDigest : Text
  finalizedIdentityBlock : Text

section
variable [Integers N]

/-- What `erc8004IdentitySchema` admits; the namespace is trimmed before it is checked. -/
def Identity.isValid (identity : Identity N) : Bool :=
  isNamespace (trim identity.namespaceText) && isBetween 1 2147483647 identity.chainId && isAddress identity.identityRegistry &&
    isDecimal identity.agentId && decimal identity.agentId ≤ maxUint256

theorem Identity.isValid_trim {identity : Identity N} (valid : identity.isValid = true) :
    trim (trim identity.namespaceText) = trim identity.namespaceText := by
  simp only [Identity.isValid, Bool.and_eq_true] at valid
  exact isNamespace_trim valid.1.1.1.1

theorem Identity.isValid_trimmed {identity : Identity N} (valid : identity.isValid = true) :
    ({ identity with namespaceText := trim identity.namespaceText } : Identity N).isValid = true := by
  have same := Identity.isValid_trim valid
  unfold Identity.isValid at valid ⊢
  rwa [same]

def Quote.isValid [Platform] (quote : Quote N) : Bool :=
  quote.identity.isValid && isNonZeroAddress quote.providerAddress && Platform.isUrl quote.endpoint &&
    Platform.isUrl quote.resultBaseUrl && isBscChain quote.chainId && isNonZeroAddress quote.commerceContract &&
    isNonZeroAddress quote.paymentToken && isPositiveDecimal quote.priceAtomic && isText 1600 quote.requestedTask &&
    isText 1200 quote.deliverables && isText 1200 quote.qualityStandards && isTimestamp quote.issuedAtUnix &&
    isTimestamp quote.expiresAtUnix && isBetween 1 86400 quote.estimatedCompletionSeconds &&
    isHexText 64 quote.negotiationHash && isHexText 130 quote.providerSignature && isText 4096 quote.signedDescription &&
    isDigest quote.descriptionDigest && isDigits quote.finalizedIdentityBlock

/-- `externalSellerQuoteSchema.parse` of a quote that was put together. -/
def externalSellerQuoteSchema [Platform] (quote : Quote N) : Option (Quote N) :=
  if quote.isValid then some { quote with identity := { quote.identity with namespaceText := trim quote.identity.namespaceText } }
  else none

end

def quoteNames : List String :=
  ["schemaVersion", "identity", "providerAddress", "endpoint", "resultBaseUrl", "chainId", "commerceContract", "paymentToken",
    "priceAtomic", "requestedTask", "deliverables", "qualityStandards", "issuedAtUnix", "expiresAtUnix",
    "estimatedCompletionSeconds", "negotiationHash", "providerSignature", "signedDescription", "descriptionDigest",
    "finalizedIdentityBlock"]

def schemaVersion : Text := units "bnbera.external-erc8183-quote/v1"

def isAny {β : Type} (_ : β) : Bool := true

/-- The quote that a value has, before its fields are checked. -/
def readQuote (value : Value N) : Option (Quote N) := do
  let fields ← readObject (some value)
  guard (isStrict fields quoteNames)
  let _ ← readText (· == schemaVersion) (field fields "schemaVersion")
  let identity ← readObject (field fields "identity")
  let namespaceText ← readText isAny (field identity "namespace")
  let identityChain ← readNum isAny (field identity "chainId")
  let identityRegistry ← readText isAny (field identity "identityRegistry")
  let agentId ← readText isAny (field identity "agentId")
  let providerAddress ← readText isAny (field fields "providerAddress")
  let endpoint ← readText isAny (field fields "endpoint")
  let resultBaseUrl ← readText isAny (field fields "resultBaseUrl")
  let chainId ← readNum isAny (field fields "chainId")
  let commerceContract ← readText isAny (field fields "commerceContract")
  let paymentToken ← readText isAny (field fields "paymentToken")
  let priceAtomic ← readText isAny (field fields "priceAtomic")
  let requestedTask ← readText isAny (field fields "requestedTask")
  let deliverables ← readText isAny (field fields "deliverables")
  let qualityStandards ← readText isAny (field fields "qualityStandards")
  let issuedAtUnix ← readNum isAny (field fields "issuedAtUnix")
  let expiresAtUnix ← readNum isAny (field fields "expiresAtUnix")
  let estimatedCompletionSeconds ← readNum isAny (field fields "estimatedCompletionSeconds")
  let negotiationHash ← readText isAny (field fields "negotiationHash")
  let providerSignature ← readText isAny (field fields "providerSignature")
  let signedDescription ← readText isAny (field fields "signedDescription")
  let descriptionDigest ← readText isAny (field fields "descriptionDigest")
  let finalizedIdentityBlock ← readText isAny (field fields "finalizedIdentityBlock")
  return ⟨⟨namespaceText, identityChain, identityRegistry, agentId⟩, providerAddress, endpoint, resultBaseUrl, chainId,
    commerceContract, paymentToken, priceAtomic, requestedTask, deliverables, qualityStandards, issuedAtUnix, expiresAtUnix,
    estimatedCompletionSeconds, negotiationHash, providerSignature, signedDescription, descriptionDigest, finalizedIdentityBlock⟩

def Identity.fields (identity : Identity N) : Fields N :=
  [(units "namespace", str identity.namespaceText), (units "chainId", num identity.chainId),
    (units "identityRegistry", str identity.identityRegistry), (units "agentId", str identity.agentId)]

def Quote.fields (quote : Quote N) : Fields N :=
  [(units "schemaVersion", str schemaVersion), (units "identity", .obj quote.identity.fields),
    (units "providerAddress", str quote.providerAddress), (units "endpoint", str quote.endpoint),
    (units "resultBaseUrl", str quote.resultBaseUrl), (units "chainId", num quote.chainId),
    (units "commerceContract", str quote.commerceContract), (units "paymentToken", str quote.paymentToken),
    (units "priceAtomic", str quote.priceAtomic), (units "requestedTask", str quote.requestedTask),
    (units "deliverables", str quote.deliverables), (units "qualityStandards", str quote.qualityStandards),
    (units "issuedAtUnix", num quote.issuedAtUnix), (units "expiresAtUnix", num quote.expiresAtUnix),
    (units "estimatedCompletionSeconds", num quote.estimatedCompletionSeconds),
    (units "negotiationHash", str quote.negotiationHash), (units "providerSignature", str quote.providerSignature),
    (units "signedDescription", str quote.signedDescription), (units "descriptionDigest", str quote.descriptionDigest),
    (units "finalizedIdentityBlock", str quote.finalizedIdentityBlock)]

def Quote.value (quote : Quote N) : Value N := .obj quote.fields

end Bnbera.Seller
