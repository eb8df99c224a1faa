import Bnbera.Validation
import Bnbera.Jobs.Validation

namespace Bnbera.Payments

/-- The codes of a `PaymentError` that the modelled functions throw. -/
inductive PaymentErrorCode
  | paymentDisabled
  | b402NotReady
  | invalidPaymentConfig
  | invalidChallenge
  | challengeTampered
  | challengeExpired
  | networkMismatch
  | assetMismatch
  | decimalsMismatch
  | amountMismatch
  | recipientMismatch
  | methodMismatch
  | destinationMismatch
  | facilitatorMismatch
  | egressProfileMismatch
  | requestMismatch
  | invalidAddress
  | invalidAmount
  | invalidExpiry
  | invalidSecretReference
  | invalidAuthorization
  | replayDetected
  | idempotencyConflict
  | eventConflict
  | unknownAttempt
  | staleAttempt
  | illegalTransition
  | settlementUnverified
  | payoutMismatch
  | reconciliationRequired
deriving DecidableEq

structure PaymentError where
  code : PaymentErrorCode
  message : String
  retriable : Bool := false
  nextAction : String := "none"
deriving DecidableEq

inductive PaymentFailure
  | payment (error : PaymentError)
  | zod (issues : List Issue)
  | foreign (message : String)
deriving DecidableEq

def paymentError (code : PaymentErrorCode) (message : String) (nextAction : String := "none") : PaymentFailure :=
  .payment { code, message, nextAction }

def throwPayment {α : Type} (code : PaymentErrorCode) (message : String) (nextAction : String := "none") :
    Except PaymentFailure α :=
  .error (paymentError code message nextAction)

/-- What `new URL(text)` shows of a URL; `withoutHash` is its text with the fragment removed. -/
structure ParsedUrl where
  protocol : String
  username : String
  password : String
  withoutHash : String

class UrlParser where
  parse : String → Option ParsedUrl

def ParsedUrl.isPlainHttp (url : ParsedUrl) : Bool :=
  (url.protocol == "http:" || url.protocol == "https:") && url.username == "" && url.password == ""

def isHttpUrl [UrlParser] (text : String) : Bool := (UrlParser.parse text).any (·.isPlainHttp)

def urlIssues [UrlParser] (path : List String) (text : String) : List Issue :=
  if isHttpUrl text then [] else [⟨path, "Expected an HTTP(S) URL without embedded credentials"⟩]

/-- `normalizeHttpUrl`, of a text that the schema has accepted. -/
def normalizeHttpUrl [UrlParser] (text : String) : String := ((UrlParser.parse text).map (·.withoutHash)).getD text

def normalizeUrl [UrlParser] (value label : String) : Except PaymentFailure String :=
  if isHttpUrl value then .ok (normalizeHttpUrl value)
  else throwPayment .invalidChallenge (label ++ " must be an HTTP(S) URL without embedded credentials.")

def sameUrl [UrlParser] (left right : String) : Except PaymentFailure Bool := do
  let first ← normalizeUrl left "URL"
  let second ← normalizeUrl right "URL"
  return first = second

def normalizeAddress (value label : String) : Except PaymentFailure Address :=
  match TextFormat.normalize _ value with
  | some address => .ok address
  | none => throwPayment .invalidAddress (label ++ " must be a non-zero EVM address.")

def parseAtomic (value label : String) : Except PaymentFailure Nat :=
  if isDecimal value then
    if decimalValue value ≤ maxUint256 then .ok (decimalValue value)
    else throwPayment .invalidAmount (label ++ " is outside the uint256 range.")
  else throwPayment .invalidAmount (label ++ " must be a non-negative decimal integer.")

def assertPublicPayloadSafe (path : String) (value : Json) : Except PaymentFailure Unit :=
  match Bnbera.assertPublicPayloadSafe path value with
  | .ok () => .ok ()
  | .error (.commerce error) => throwPayment .invalidChallenge error.message
  | .error (.zod issues) => .error (.zod issues)
  | .error (.foreign message) => .error (.foreign message)

def isIdentifier (text : String) : Bool :=
  match text.toList with
  | first :: rest => isAlphanumeric first && rest.all fun c => isAlphanumeric c || "._:/-".toList.contains c
  | [] => false

/-- `safeIdentifierSchema`, on the trimmed text. -/
def identifierIssues (path : List String) (text : String) : List Issue :=
  lengthIssues path 1 240 text ++ issueIf (isIdentifier text = false) path "Invalid public identifier"

/-- `idempotencyKeySchema`, on the trimmed text. -/
def keyIssues (path : List String) (text : String) : List Issue :=
  identifierIssues path text ++
    issueIf ((utf16Units text).length < 8) path "String must contain at least 8 character(s)"

/-- `schema.parse`, where a text that is no URL at all throws before the issues are collected. -/
def parsed [UrlParser] {α : Type} (urls : List String) (issues : List Issue) (value : α) : Except PaymentFailure α :=
  if urls.any fun url => (UrlParser.parse url).isNone then .error (.foreign "Invalid URL")
  else if issues = [] then .ok value else .error (.zod issues)

theorem parsed_eq_ok [UrlParser] {α : Type} {urls : List String} {issues : List Issue} {value result : α} :
    parsed urls issues value = .ok result ↔
      (∀ url ∈ urls, (UrlParser.parse url).isSome) ∧ issues = [] ∧ result = value := by
  unfold parsed
  by_cases broken : (urls.any fun url => (UrlParser.parse url).isNone) = true
  · rw [if_pos broken]
    obtain ⟨url, member, none⟩ := List.any_eq_true.mp broken
    constructor
    · exact fun same => (nomatch same)
    · intro good
      have some := good.1 url member
      rw [Option.isNone_iff_eq_none.mp none] at some
      cases some
  · have whole : ∀ url ∈ urls, (UrlParser.parse url).isSome := by
      intro url member
      by_contra none
      exact broken (List.any_eq_true.mpr ⟨url, member, by simpa using none⟩)
    rw [if_neg broken]
    by_cases clean : issues = []
    · rw [if_pos clean]
      constructor
      · intro same
        exact ⟨whole, clean, (Except.ok.inj same).symm⟩
      · intro good
        rw [good.2.2]
    · rw [if_neg clean]
      exact ⟨fun same => (nomatch same), fun good => absurd good.2.1 clean⟩

/-- `safeParse(schema, input, code)` -/
def safeParse {α : Type} (code : PaymentErrorCode) (result : Except PaymentFailure α) : Except PaymentFailure α :=
  match result with
  | .error (.zod _) => throwPayment code "The payment boundary input is invalid."
  | other => other

theorem safeParse_eq_ok {α : Type} {code : PaymentErrorCode} {result : Except PaymentFailure α} {value : α} :
    safeParse code result = .ok value ↔ result = .ok value := by
  unfold safeParse
  split
  · exact ⟨fun same => (nomatch same), fun same => (nomatch same)⟩
  · exact Iff.rfl

theorem normalizeUrl_eq_ok [UrlParser] {value label url : String} :
    normalizeUrl value label = .ok url ↔ isHttpUrl value = true ∧ url = normalizeHttpUrl value := by
  unfold normalizeUrl
  by_cases http : isHttpUrl value = true
  · rw [if_pos http]
    exact ⟨fun same => ⟨http, (Except.ok.inj same).symm⟩, fun same => by rw [same.2]⟩
  · rw [if_neg http]
    exact ⟨fun same => (nomatch same), fun same => absurd same.1 http⟩

structure PlainIdentifier (text : String) : Prop where
  trimmed : trim text = text
  marks : isIdentifier text = true
  low : 1 ≤ (utf16Units text).length
  high : (utf16Units text).length ≤ 240

def isPlain (chars : List Char) : Bool :=
  chars.all (fun c => !isTrimmed c && c.toNat < 0x10000) && chars.length ≤ 240 &&
    match chars with
    | first :: rest => isAlphanumeric first && rest.all fun c => isAlphanumeric c || ['.', '_', ':', '/', '-'].contains c
    | [] => false

theorem isPlain_narrow {chars : List Char} (plain : isPlain chars = true) :
    (∀ c ∈ chars, isTrimmed c = false) ∧ ∀ c ∈ chars, c.toNat < 0x10000 := by
  unfold isPlain at plain
  simp only [Bool.and_eq_true, List.all_eq_true, Bool.not_eq_true', decide_eq_true_eq] at plain
  exact ⟨fun c member => (plain.1.1 c member).1, fun c member => (plain.1.1 c member).2⟩

theorem isPlain_units {chars : List Char} (plain : isPlain chars = true) :
    (utf16Units (String.ofList chars)).length = chars.length := by
  rw [utf16Units_ofList (isPlain_narrow plain).2, List.length_map]

theorem isPlain_long {chars : List Char} {low : Nat} (plain : isPlain chars = true) (long : low ≤ chars.length) :
    low ≤ (utf16Units (String.ofList chars)).length := by
  rw [isPlain_units plain]
  exact long

theorem PlainIdentifier.ofList {chars : List Char} (plain : isPlain chars = true) : PlainIdentifier (String.ofList chars) := by
  have units := isPlain_units plain
  have clean := (isPlain_narrow plain).1
  unfold isPlain at plain
  rw [Bool.and_eq_true, Bool.and_eq_true, decide_eq_true_eq] at plain
  obtain ⟨⟨_, short⟩, marks⟩ := plain
  have high : (utf16Units (String.ofList chars)).length ≤ 240 := by
    rw [units]
    exact short
  cases chars with
  | nil => cases marks
  | cons first rest =>
    refine ⟨trim_eq_self ?_, ?_, ?_, high⟩
    · rw [String.toList_ofList]
      exact clean
    · rw [isIdentifier, String.toList_ofList, (String.toList_ofList : "._:/-".toList = ['.', '_', ':', '/', '-'])]
      exact marks
    · rw [units]
      exact Nat.succ_le_succ (Nat.zero_le _)

theorem PlainIdentifier.issues {text : String} (plain : PlainIdentifier text) (path : List String) :
    identifierIssues path text = [] :=
  List.append_eq_nil_iff.mpr ⟨lengthIssues_eq_nil.mpr ⟨plain.low, plain.high⟩,
    issueIf_eq_nil.mpr (by simp only [plain.marks, Bool.true_eq_false, not_false_eq_true])⟩

theorem PlainIdentifier.keyIssues {text : String} (plain : PlainIdentifier text) (long : 8 ≤ (utf16Units text).length)
    (path : List String) : keyIssues path text = [] :=
  List.append_eq_nil_iff.mpr ⟨plain.issues path, issueIf_eq_nil.mpr (Nat.not_lt.mpr long)⟩

end Bnbera.Payments
