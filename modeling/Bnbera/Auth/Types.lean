import Bnbera.Domain

namespace Bnbera.Auth

/-- The codes of the errors of the sign-in routes and of their boundary package. -/
inductive AuthErrorCode
  | configurationInvalid
  | configurationBlocked
  | databaseUnavailable
  | chainMismatch
  | requestInvalid
  | sessionInvalid
  | sessionCookieInvalid
  | sessionPersistenceFailed
  | siweContextInvalid
  | siweContextMismatch
  | siweAudienceMismatch
  | siweRequestInvalid
  | siweTimeInvalid
  | siweIssuedAtStale
  | siweExpired
  | siweNotActive
  | siweSignatureInvalid
  | siweNonceUnavailable
  | siweNonceRejected
  | webauthnContextInvalid
  | webauthnContextMismatch
  | webauthnNonceUnavailable
  | webauthnNonceInvalid
  | webauthnNonceRejected
  | webauthnAssertionInvalid
  | webauthnWalletBindingInvalid
  | altanaAdminKeyUnavailable
  | altanaAdminKeyInvalid
deriving DecidableEq

/-- The `AppError`s of sign-in. -/
structure AuthError where
  code : AuthErrorCode
  safeMessage : String
  requestId : String
  retriable : Bool
  nextAction : String
deriving DecidableEq

/-- What a sign-in route may throw; `foreign` is an error of the database that nothing wraps. -/
inductive AuthFailure
  | app (error : AuthError)
  | foreign
deriving DecidableEq

/-- `authError` of the web routes. -/
def webError {α : Type} (code : AuthErrorCode) (safeMessage nextAction : String) (retriable : Bool := false) :
    Except AuthFailure α :=
  .error (.app ⟨code, safeMessage, "req_web_auth", retriable, nextAction⟩)

/-- `authError` of the boundary package. -/
def boundaryError {α : Type} (code : AuthErrorCode) (safeMessage nextAction : String) : Except AuthFailure α :=
  .error (.app ⟨code, safeMessage, "auth-boundary", false, nextAction⟩)

def rejectIf (fails : Prop) [Decidable fails] (rejection : Except AuthFailure Unit) : Except AuthFailure Unit :=
  if fails then rejection else .ok ()

def required {α : Type} (value : Option α) (rejection : Except AuthFailure α) : Except AuthFailure α :=
  match value with
  | some present => .ok present
  | none => rejection

/-- The parts of `new URL(text)` that sign-in reads. -/
structure ParsedUrl where
  protocol : String
  username : String
  password : String
  hostname : String
  port : String
  pathname : String
  search : String
  hash : String
  href : String
deriving DecidableEq

class UrlParser where
  parse : String → Option ParsedUrl

namespace ParsedUrl

def host (url : ParsedUrl) : String := if url.port = "" then url.hostname else url.hostname ++ ":" ++ url.port

/-- `url.origin` of an `http:` or `https:` URL. -/
def origin (url : ParsedUrl) : String := url.protocol ++ "//" ++ url.host

def isHttp (url : ParsedUrl) : Bool := url.protocol == "http:" || url.protocol == "https:"

def isAudience (url : ParsedUrl) : Bool := url.isHttp && url.username == "" && url.password == "" && url.hash == ""

def atOrigin (url : ParsedUrl) : ParsedUrl :=
  { url with username := "", password := "", pathname := "/", search := "", hash := "", href := url.origin ++ "/" }

end ParsedUrl

/-- The documented behaviour of the URL parser that sign-in rests on: a host is a text without
white space, and the origin of a URL is itself the text of a URL with that host and no more. -/
structure LawfulUrls [UrlParser] : Prop where
  hostname : ∀ {text url}, UrlParser.parse text = some url → url.isHttp = true → ∀ c ∈ url.hostname.toList, isTrimmed c = false
  present : ∀ {text url}, UrlParser.parse text = some url → url.isHttp = true → url.hostname ≠ ""
  origin : ∀ {text url}, UrlParser.parse text = some url → url.isHttp = true → UrlParser.parse url.origin = some url.atOrigin
  href : ∀ {text url}, UrlParser.parse text = some url → url.isHttp = true →
    UrlParser.parse url.atOrigin.href = some url.atOrigin

/-- Times in milliseconds: `toISOString` and the reading of `new Date(value)`, where `none` is an invalid date. -/
class DateText where
  toISOString : Int → String
  coerce : Json → Option Int

/-- The documented behaviour of dates: a date in the range of the platform is read back from its
ISO text, which has at most 27 characters, all of them in the Basic Multilingual Plane. -/
structure LawfulDates [DateText] : Prop where
  coerce : ∀ {time : Int}, time.natAbs ≤ 8640000000000000 → DateText.coerce (.str (DateText.toISOString time)) = some time
  short : ∀ {time : Int}, time.natAbs ≤ 8640000000000000 → (utf16Units (DateText.toISOString time)).length ≤ 27

abbrev ChainId := Within 1 2147483647

/-- `chainIdSchema` -/
def readChainId : Json → Option ChainId
  | .num text =>
    if isDecimal text then
      let value : Int := decimalValue text
      if bounds : 1 ≤ value ∧ value ≤ 2147483647 then some ⟨value, bounds.1, bounds.2⟩ else none
    else none
  | _ => none

/-- `evmAddressSchema` -/
def readAddress : Json → Option EvmAddress
  | .str text => check isEvmAddress text
  | _ => none

/-- `z.string().trim().min(1).max(253)` -/
def isDomain (text : String) : Bool :=
  trim text == text && 1 ≤ (utf16Units text).length && (utf16Units text).length ≤ 253

def readDomain : Json → Option (Checked isDomain)
  | .str text => check isDomain (trim text)
  | _ => none

/-- `httpUriSchema` -/
def isHttpUri [UrlParser] (text : String) : Bool := (UrlParser.parse text).any (·.isAudience)

/-- `z.string().min(low).max(high)` -/
def isBounded (low high : Nat) (text : String) : Bool :=
  low ≤ (utf16Units text).length && (utf16Units text).length ≤ high

/-- `/^0x[0-9a-fA-F]+$/u` with at most 2048 characters. -/
def isSignature (text : String) : Bool :=
  match text.toList with
  | '0' :: 'x' :: digit :: digits => (digit :: digits).all isHexDigit && digits.length ≤ 2045
  | _ => false

def readText (accepts : String → Bool) : Json → Option (Checked accepts)
  | .str text => check accepts text
  | _ => none

def readOptional {α : Type} (read : Json → Option α) : Option Json → Option (Option α)
  | none => some none
  | some value => (read value).map some

def readRequired {α : Type} (read : Json → Option α) (value : Option Json) : Option α := value.bind read

/-- `z.array(item).max(high)` -/
def readArray {α : Type} (high : Nat) (read : Json → Option α) : Json → Option (List α)
  | .arr items => if items.length ≤ high then items.mapM read else none
  | _ => none

def normalizeEvmAddress (address : EvmAddress) : String := lower address.text

def isBase64UrlChar (c : Char) : Bool := isAlphanumeric c || c == '-' || c == '_'

/-- `randomBytes(32).toString("base64url")` returns a text of this kind. -/
def isOpaqueToken (text : String) : Bool := text.toList.length == 43 && text.toList.all isBase64UrlChar

end Bnbera.Auth
