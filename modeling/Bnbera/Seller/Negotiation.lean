import Bnbera.Seller.Schemas

/-! How an offer is negotiated with a seller, and how a saved one is checked again. -/

namespace Bnbera.Seller

open JsonText

structure Binding (N : Type) where
  identity : Identity N
  providerAddress : Text
  endpoint : Text
  resultBaseUrl : Text
  commerceContract : Text
  routerContract : Text
  policyContract : Text
  paymentToken : Text
  maxPriceAtomic : Text

structure Task where
  task : Text
  deliverables : Text
  qualityStandards : Text

structure IdentityRead where
  agentWallet : Text
  finalizedBlock : Text

def refusal (message : String) : Failure := .commerce { code := .invalidQuote, message, nextAction := "refresh_seller_offer" }

section
variable [Platform]

def same (first second : Text) : Bool := Platform.toLowerCase first == Platform.toLowerCase second

end

def sanitize (value : Text) : Text :=
  value.filterMap fun c =>
    if c = 0x5b then some 0x28
    else if c = 0x5d then some 0x29
    else if c.val ≤ 0x8 || c = 0xb || c = 0xc || (0xe ≤ c.val && c.val ≤ 0x1f) then none
    else some c

def utf8Length (text : Text) : Nat :=
  ((codePoints text).map fun point => if point < 0x80 then 1 else if point < 0x800 then 2 else if point < 0x10000 then 3 else 4).sum

variable {N : Type}

/-- `value === text` -/
def isString (value : Option (Value N)) (text : Text) : Bool := readText isAny value == some text

theorem isString_str (text : Text) : isString (some (str text : Value N)) text = true := by
  simp [isString, readText, str, isAny]

def unwrapReply (value : Value N) (id : Text) : Except Failure (Fields N) := do
  let rpc := record (some value)
  refuseIf (isString (field rpc "jsonrpc") (units "2.0") = false ∨ isString (field rpc "id") id = false ∨ (field rpc "error").isSome)
    (refusal "The seller did not return a matching accepted A2A response.")
  let result := record (field rpc "result")
  match field result "parts" with
  | some (.arr parts) =>
    let data := (parts.map fun part => record (field (record (some part)) "data")).filter fun data => (field data "negotiation_hash").isSome
    match data with
    | [data] => .ok data
    | _ => .error (refusal "The seller returned no unique signed quote.")
  | _ => .ok result

def Terms.members (terms : Terms) : Fields N :=
  [(units "deliverables", str terms.deliverables), (units "quality_standards", str terms.qualityStandards)] ++
    (terms.successCriteria.map fun criteria => (units "success_criteria", .arr (criteria.map str))).toList ++
    (terms.evaluationRequired.map fun required => (units "evaluation_required", .leaf (.bool required))).toList ++
    (terms.evaluatorType.map fun type => (units "evaluator_type", str type)).toList

def Negotiation.request (quote : Negotiation N) : Value N :=
  .obj [(units "task_description", str quote.taskDescription), (units "terms", .obj quote.requested.members)]

def Negotiation.responseHashInput (quote : Negotiation N) : Value N :=
  .obj [(units "accepted", .leaf (.bool true)),
    (units "terms", .obj (quote.terms.members ++ [(units "price", str quote.price), (units "currency", str quote.currency)])),
    (units "estimated_completion_seconds", num quote.estimatedCompletionSeconds),
    (units "quote_expires_at", num quote.quoteExpiresAt)]

def Terms.signed (terms : Terms) : Fields N :=
  [(units "deliverables", str (sanitize terms.deliverables)), (units "quality_standards", str (sanitize terms.qualityStandards))] ++
    match terms.successCriteria with
    | none => []
    | some [] => []
    | some criteria => [(units "success_criteria", .arr (criteria.map fun criterion => str (sanitize criterion)))]

section
variable [Platform] [Integers N]

def Negotiation.content (quote : Negotiation N) (task : Task) : Fields N :=
  [(units "version", num Integers.one), (units "negotiated_at", num quote.negotiatedAt),
    (units "quote_expires_at", num quote.quoteExpiresAt), (units "task", str (sanitize task.task)),
    (units "terms", .obj quote.terms.signed), (units "price", str quote.price), (units "currency", str quote.currency),
    (units "chain_id", num quote.chainId), (units "verifying_contract", str (Platform.getAddress quote.verifyingContract))]

def Negotiation.description (quote : Negotiation N) (task : Task) : Fields N :=
  quote.content task ++ [(units "negotiation_hash", str quote.negotiationHash), (units "provider_sig", str quote.providerSig)]

def exceedsPrice (binding : Binding N) (chainId : N) (price : Text) : Bool :=
  maxUint256 ≤ decimal price || (Integers.toInt chainId == some 97 && decimal binding.maxPriceAtomic < decimal price)

def offset (n : N) (now : Int) : Int := (Integers.toInt n).getD 0 - now

variable [Numbers N] [DecidableEq N]

/-- `===` of two finite numbers -/
def equal (n n' : N) : Bool := unsigned n == unsigned n'

omit [Platform] [Integers N] in
theorem equal_refl (n : N) : equal n n = true := beq_self_eq_true _

def hashOf (value : Value N) : Text := Platform.keccak256 (canonicalSellerJson value)

/-- `canonicalSha256Hex` of a text -/
def digestOf (text : Text) : Text := Platform.sha256Hex (quote text)

def Negotiation.signedDescription (quote : Negotiation N) (task : Task) : Text :=
  canonicalSellerJson (.obj (quote.description task))

/-- The quote that is saved. -/
def Negotiation.saved (quote : Negotiation N) (binding : Binding N) (task : Task) (signer finalizedBlock : Text) : Quote N where
  identity := binding.identity
  providerAddress := signer
  endpoint := binding.endpoint
  resultBaseUrl := binding.resultBaseUrl
  chainId := quote.chainId
  commerceContract := quote.verifyingContract
  paymentToken := quote.currency
  priceAtomic := quote.price
  requestedTask := task.task
  deliverables := task.deliverables
  qualityStandards := task.qualityStandards
  issuedAtUnix := quote.negotiatedAt
  expiresAtUnix := quote.quoteExpiresAt
  estimatedCompletionSeconds := quote.estimatedCompletionSeconds
  negotiationHash := quote.negotiationHash
  providerSignature := quote.providerSig
  signedDescription := quote.signedDescription task
  descriptionDigest := digestOf (quote.signedDescription task)
  finalizedIdentityBlock := finalizedBlock

def negotiate (binding : Binding N) (task : Task) (id : Text) (raw : Value N) (identity : IdentityRead) (now : Int) :
    Except Failure (Quote N) := do
  refuseIf (isText 1600 task.task = false ∨ isText 1200 task.deliverables = false ∨ isText 1200 task.qualityStandards = false) .zod
  let reply ← unwrapReply raw id
  let quote ← (negotiationSchema reply).elim (.error .zod) .ok
  refuseIf (quote.providerAddress.any (fun address => !same address binding.providerAddress) = true)
    (refusal "The seller response names a different provider wallet.")
  refuseIf (quote.taskDescription ≠ task.task ∨ quote.requested.deliverables ≠ task.deliverables ∨
      quote.requested.qualityStandards ≠ task.qualityStandards ∨ quote.terms.deliverables ≠ task.deliverables ∨
      quote.terms.qualityStandards ≠ task.qualityStandards)
    (refusal "The seller changed the requested task or delivery requirements.")
  refuseIf (equal quote.chainId binding.identity.chainId = false ∨ same quote.verifyingContract binding.commerceContract = false ∨
      same quote.currency binding.paymentToken = false)
    (refusal "The seller quote names a different chain, commerce contract or payment token.")
  refuseIf (exceedsPrice binding binding.identity.chainId quote.price = true)
    (refusal "The seller price must be an exact positive uint256 amount, never unlimited approval; testnet allowance limits remain separate.")
  refuseIf (5 < offset quote.negotiatedAt now ∨ offset quote.negotiatedAt now < -60 ∨ offset quote.quoteExpiresAt now < 30 ∨
      900 < offset quote.quoteExpiresAt ((Integers.toInt quote.negotiatedAt).getD 0))
    (refusal "The seller quote is expired or has an unsupported lifetime.")
  refuseIf (hashOf quote.request ≠ quote.requestHash ∨ hashOf quote.responseHashInput ≠ quote.responseHash)
    (refusal "The signed quote request or response hash does not match its content.")
  refuseIf (hashOf (.obj (quote.content task)) ≠ quote.negotiationHash)
    (refusal "The provider-signed description hash does not match the agreed quote.")
  let signer ← (Platform.recoverMessageAddress quote.negotiationHash quote.providerSig).elim (.error .signature) .ok
  refuseIf (same identity.agentWallet binding.providerAddress = false ∨ same signer identity.agentWallet = false)
    (refusal "The quote signer no longer matches the finalized registry agent wallet.")
  refuseIf (4096 < utf8Length (quote.signedDescription task)) (refusal "The signed task exceeds the contract description size bound.")
  (externalSellerQuoteSchema (quote.saved binding task signer identity.finalizedBlock)).elim (.error .zod) .ok

end

section
variable [Numbers N]

mutual

/-- `String(value)` of a JSON value; `none` where it throws. -/
def stringOf : Value N → Option Text
  | .leaf .null => some nullWord
  | .leaf (.bool value) => some (boolWord value)
  | .leaf (.num n) => some (Numbers.toText n)
  | .leaf (.str text) => some text
  | .arr items => (elementTexts items).map joined
  | .obj fields => if (field fields "toString").isSome then none else some (units "[object Object]")

/-- The texts of the elements that are joined: that of `null` is empty. -/
def elementTexts : List (Value N) → Option (List Text)
  | [] => some []
  | .leaf .null :: rest => (elementTexts rest).map ([] :: ·)
  | item :: rest => do
    let text ← stringOf item
    (elementTexts rest).map (text :: ·)

end

def stringOrUndefined (value : Option (Value N)) : Option Text :=
  match value with
  | none => some (units "undefined")
  | some value => stringOf value

end

section
variable [Platform] [Integers N] [Numbers N] [DecidableEq N]

/-- `value === n` -/
def isNumber (value : Option (Value N)) (n : N) : Bool := (readNum isAny value).any (equal · n)

/-- `content`: the description without the two fields that are not signed. -/
def contentOf (description : Fields N) : Fields N :=
  description.filter fun field => field.1 ≠ units "provider_sig" ∧ field.1 ≠ units "negotiation_hash"

/-- `String(value)` is the address. -/
def isSameAddress (value : Option (Value N)) (address : Text) : Except Failure Bool :=
  (stringOrUndefined value).elim (.error .typeError) fun text => .ok (same text address)

def assertBinding (binding : Binding N) (quote : Quote N) : Except Failure Unit :=
  refuseIf (digestOf quote.signedDescription ≠ quote.descriptionDigest ∨ quote.endpoint ≠ binding.endpoint ∨
      quote.resultBaseUrl ≠ binding.resultBaseUrl ∨ same quote.providerAddress binding.providerAddress = false ∨
      quote.identity.agentId ≠ binding.identity.agentId ∨
      same quote.identity.identityRegistry binding.identity.identityRegistry = false ∨
      quote.identity.namespaceText ≠ binding.identity.namespaceText ∨
      equal quote.identity.chainId binding.identity.chainId = false ∨ equal quote.chainId binding.identity.chainId = false ∨
      same quote.commerceContract binding.commerceContract = false ∨ same quote.paymentToken binding.paymentToken = false ∨
      exceedsPrice binding quote.chainId quote.priceAtomic = true)
    (refusal "The saved quote no longer matches this seller binding.")

def assertDescription (quote : Quote N) (description : Fields N) : Except Failure Unit := do
  let integrity := refusal "The saved signed description failed integrity verification."
  let content := contentOf description
  let terms := record (field content "terms")
  refuseIf (isString (field description "provider_sig") quote.providerSignature = false ∨
    isString (field description "negotiation_hash") quote.negotiationHash = false ∨
    hashOf (.obj content) ≠ quote.negotiationHash) integrity
  let signer ← (Platform.recoverMessageAddress quote.negotiationHash quote.providerSignature).elim (.error .signature) .ok
  refuseIf (same signer quote.providerAddress = false ∨ isString (field content "price") quote.priceAtomic = false) integrity
  let currency ← isSameAddress (field content "currency") quote.paymentToken
  refuseIf (currency = false ∨ isNumber (field content "chain_id") quote.chainId = false) integrity
  let contract ← isSameAddress (field content "verifying_contract") quote.commerceContract
  refuseIf (contract = false ∨ isString (field content "task") (sanitize quote.requestedTask) = false ∨
    isString (field terms "deliverables") (sanitize quote.deliverables) = false ∨
    isString (field terms "quality_standards") (sanitize quote.qualityStandards) = false ∨
    isNumber (field content "quote_expires_at") quote.expiresAtUnix = false ∨
    isNumber (field content "negotiated_at") quote.issuedAtUnix = false) integrity

def assertQuote (binding : Binding N) (value : Value N) : Except Failure Unit := do
  let quote ← (readQuote value).elim (.error .zod) .ok
  refuseIf (quote.isValid = false) .zod
  assertBinding binding quote
  let parsed ← (parse readScalar quote.signedDescription).elim (.error .syntaxError) .ok
  assertDescription quote (record (some parsed))

end

end Bnbera.Seller
