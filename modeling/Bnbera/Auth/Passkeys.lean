import Bnbera.Auth.Siwe
import Bnbera.Interleaving.Traces

namespace Bnbera.Auth

open Interleaving

/-- What the nonce store is asked for: the context of a nonce, and the wallet to which a SIWE nonce is bound. -/
structure NonceInput where
  domain : String
  chainId : ChainId
  nonce : String
  walletAddress : Option String
deriving DecidableEq

def NonceInput.preimage (input : NonceInput) : String :=
  match input.walletAddress with
  | none => input.nonce
  | some walletAddress => "siwe-v1\n" ++ input.domain ++ "\n" ++ toString input.chainId.value ++ "\n" ++
      lower walletAddress ++ "\n" ++ input.nonce

def nonceDigest [Sha256] (input : NonceInput) : Digest := Sha256.sha256Hex input.preimage

structure AltanaAdminKey where
  keyId : String
  publicKey : String
  isRoot : Bool
  revoked : Bool
  expiry : Nat
deriving DecidableEq

structure PasskeyResponse where
  id : String
  rawId : String
  clientDataJSON : String
  authenticatorData : String
  signature : String
  userHandle : Option String
deriving DecidableEq

structure SessionInput where
  tokenDigest : Digest
  walletAddress : String
  chainId : ChainId
  issuedAt : Int
  expiresAt : Int
deriving DecidableEq

inductive AuthCall
  | clock
  | randomToken
  | insertNonce (input : NonceInput) (expiresAt : Int)
  | consumeNonce (input : NonceInput)
  | verifyMessage (address : EvmAddress) (message signature : String)
  | readAdminKeys (walletAddress : String) (chainId : ChainId)
  | verifyAssertion (key : AltanaAdminKey) (response : PasskeyResponse) (challenge origin rpId : String)
  | createSession (session : SessionInput)
deriving DecidableEq

/-- How an insertion ended: the unique index of the digests, or another error of the database. -/
inductive Insertion
  | inserted
  | duplicate
  | failed
deriving DecidableEq

abbrev AuthCall.Answer : AuthCall → Type
  | clock => Int
  | randomToken => String
  | insertNonce _ _ => Insertion
  | consumeNonce _ => Except Unit Bool
  | verifyMessage _ _ _ => Except Unit Bool
  | readAdminKeys _ _ => Except Unit (List AltanaAdminKey)
  | verifyAssertion _ _ _ _ _ => Except Unit Bool
  | createSession _ => Except Unit Unit

abbrev AuthWork := ExceptT AuthFailure (Program AuthCall AuthCall.Answer)

abbrev AuthEntry := Answered AuthCall AuthCall.Answer

abbrev AuthCalls := History AuthCall AuthCall.Answer

namespace AuthWork

variable {α : Type}

def ask (call : AuthCall) : AuthWork call.Answer := ExceptT.lift (Program.ask call)

def settle (result : Except AuthFailure α) : AuthWork α := liftM result

def answered (answer : Except Unit α) (rejection : Except AuthFailure α) : AuthWork α :=
  match answer with
  | .ok value => pure value
  | .error _ => settle rejection

end AuthWork

def challengeTtlMs : Int := 60000
def sessionTtlMs : Int := 15 * 60000

structure IssuedNonce where
  nonce : String
  expiresAt : Int

/-- `nonceStore(...).issue` at the given time, with the given number of attempts. -/
def issueNonce (domain : String) (chainId : ChainId) (walletAddress : Option String) (issuedAt : Int) :
    Nat → AuthWork IssuedNonce
  | 0 => throw .foreign
  | attempts + 1 => do
    let nonce ← AuthWork.ask .randomToken
    let answer ← AuthWork.ask (.insertNonce ⟨domain, chainId, nonce, walletAddress⟩ (issuedAt + challengeTtlMs))
    match answer with
    | .inserted => return ⟨nonce, issuedAt + challengeTtlMs⟩
    | .duplicate => issueNonce domain chainId walletAddress issuedAt attempts
    | .failed => throw .foreign

/-- `AuthenticatedSession`, without the identifiers that the database gives. -/
structure AuthenticatedSession where
  walletAddress : String
  chainId : ChainId
  issuedAt : Int
  expiresAt : Int

/-- `createSession`; the rows of the user and of its wallet address are not part of the model. -/
def createSession [Sha256] (walletAddress : String) (chainId : ChainId) : AuthWork AuthenticatedSession := do
  let issuedAt ← AuthWork.ask .clock
  let token ← AuthWork.ask .randomToken
  let session : SessionInput := ⟨Sha256.sha256Hex token, walletAddress, chainId, issuedAt, issuedAt + sessionTtlMs⟩
  let answer ← AuthWork.ask (.createSession session)
  AuthWork.answered answer (webError .sessionPersistenceFailed "Authentication is temporarily unavailable." "try_again" true)
  return ⟨walletAddress, chainId, issuedAt, issuedAt + sessionTtlMs⟩

section
variable [UrlParser] [DateText] [Sha256]

structure EoaSiweChallenge where
  address : String
  chainId : ChainId
  domain : String
  uri : String
  nonce : String
  issuedAt : Int
  expirationTime : Int
  expiresAt : Int
  statement : String
  message : String

def siweStatement : String := "Sign in to BNBEra commerce."

def challengeFields (runtime : AuthRuntime) (address nonce : String) (now : Int) : SiweMessageFields where
  domain := runtime.rpId
  address := address
  statement := some siweStatement
  uri := runtime.appOrigin
  chainId := runtime.chainId.value
  nonce := nonce
  issuedAt := now
  expirationTime := now + sessionTtlMs

def createEoaSiweChallenge (env : Environment) (input : Json) : AuthWork EoaSiweChallenge := do
  let request ← AuthWork.settle (parseEoaSiweChallengeRequest input)
  let runtime ← AuthWork.settle (walletConnectRuntimeFromEnvironment request.chainId env)
  AuthWork.settle (rejectIf (request.chainId ≠ runtime.chainId.value)
    (webError .chainMismatch "Wallet authentication is for a different network." "switch_network"))
  let now ← AuthWork.ask .clock
  let address := normalizeEvmAddress request.address
  let issued ← issueNonce runtime.rpId runtime.chainId.value (some address) now 3
  let fields := challengeFields runtime address issued.nonce now
  return {
    address := address
    chainId := runtime.chainId.value
    domain := runtime.rpId
    uri := runtime.appOrigin
    nonce := issued.nonce
    issuedAt := now
    expirationTime := now + sessionTtlMs
    expiresAt := issued.expiresAt
    statement := siweStatement
    message := formatSiweMessage fields }

def signatureInvalid {α : Type} : Except AuthFailure α :=
  boundaryError .siweSignatureInvalid "Wallet proof could not be verified." "sign_in_again"

/-- `eoaSiweVerifier().verify`; the proof it returns repeats the request. -/
def verifyEoaProof (request : SiweRequest) : AuthWork Unit := do
  AuthWork.settle (rejectIf (request.message.text ≠ formatSiweMessage request.fields) signatureInvalid)
  let answer ← AuthWork.ask (.verifyMessage request.address request.message.text request.signature.text)
  let verified ← AuthWork.answered answer signatureInvalid
  AuthWork.settle (rejectIf (verified = false) signatureInvalid)

/-- `verifySiweRequest` with the verifier of an externally owned account; it returns the verified address. -/
def verifySiweRequest (runtime : AuthRuntime) (request : SiweRequest) : AuthWork String := do
  let context ← AuthWork.settle (validateContext runtime)
  let nowMs ← AuthWork.ask .clock
  AuthWork.settle (validateSiweRequest request context nowMs)
  verifyEoaProof request
  let verifiedAddress := normalizeEvmAddress request.address
  let answer ← AuthWork.ask (.consumeNonce ⟨context.domain, request.chainId, request.nonce.text, some verifiedAddress⟩)
  let consumed ← AuthWork.answered answer
    (boundaryError .siweNonceUnavailable "Wallet proof could not be accepted." "try_again")
  AuthWork.settle (rejectIf (consumed = false)
    (boundaryError .siweNonceRejected "Wallet proof could not be accepted." "sign_in_again"))
  return verifiedAddress

def authenticateEoa (env : Environment) (input : Json) : AuthWork AuthenticatedSession := do
  let request ← AuthWork.settle (parseEoaSiweAuthenticationRequest input)
  let runtime ← AuthWork.settle (walletConnectRuntimeFromEnvironment request.chainId env)
  AuthWork.settle (rejectIf (request.chainId ≠ runtime.chainId.value)
    (webError .chainMismatch "Wallet authentication is for a different network." "switch_network"))
  let address ← verifySiweRequest runtime request
  createSession address request.chainId

end

class PasskeyCodec where
  /-- The bytes of a base64url text. -/
  bytes : String → Option (List Nat)
  /-- `JSON.parse` of the UTF-8 text of a base64url text. -/
  json : String → Option Json
  /-- The Keccak-256 hash of the bytes of a hexadecimal text, with its prefix. -/
  keccak256 : String → String

/-- `/^[A-Za-z0-9_-]+={0,2}$/u` with at most 2048 characters. -/
def isBase64Url (text : String) : Bool :=
  let digits := text.toList.takeWhile isBase64UrlChar
  let padding := text.toList.dropWhile isBase64UrlChar
  !digits.isEmpty && text.toList.length ≤ 2048 && padding.length ≤ 2 && padding.all (· == '=')

/-- `z.enum(["cross-platform", "platform"])` -/
def isAttachment (text : String) : Bool := ["cross-platform", "platform"].contains text

def readObject : Json → Option (List (String × Json))
  | .obj fields => some fields
  | _ => none

/-- `authenticationResponseSchema` -/
def PasskeyResponse.read : Json → Option PasskeyResponse
  | .obj fields => do
    let id ← readRequired (readText isBase64Url) (fieldOf fields "id")
    let rawId ← readRequired (readText isBase64Url) (fieldOf fields "rawId")
    let _ ← readRequired (readText (· == "public-key")) (fieldOf fields "type")
    let response ← readRequired readObject (fieldOf fields "response")
    let clientDataJSON ← readRequired (readText isBase64Url) (fieldOf response "clientDataJSON")
    let authenticatorData ← readRequired (readText isBase64Url) (fieldOf response "authenticatorData")
    let signature ← readRequired (readText isBase64Url) (fieldOf response "signature")
    let userHandle ← readOptional (readText isBase64Url) (fieldOf response "userHandle")
    let _ ← readOptional (readText isAttachment) (fieldOf fields "authenticatorAttachment")
    let _ ← readRequired readObject (fieldOf fields "clientExtensionResults")
    return ⟨id.text, rawId.text, clientDataJSON.text, authenticatorData.text, signature.text, userHandle.map (·.text)⟩
  | _ => none

/-- `parsePasskeyChallengeRequest`, and `parsePasskeyAssertionRequest` for the fields they share. -/
def parsePasskeyRequest (input : Json) : Except AuthFailure ChallengeRequest :=
  required (ChallengeRequest.read "walletAddress" input)
    (webError .requestInvalid "The passkey authentication request is invalid." "check_request")

def responseOf : Json → Option Json
  | .obj fields => fieldOf fields "response"
  | _ => none

/-- `ValidatedWebAuthnContext` -/
structure WebAuthnContext where
  domain : String
  origin : String
  rpId : String
  chainId : ChainId

def contextInvalid {α : Type} : Except AuthFailure α :=
  boundaryError .webauthnContextInvalid "Passkey authentication context is invalid." "contact_support"

section
variable [UrlParser]

/-- `validateWebAuthnContext` of `authContext(runtime)`, up to the clock. -/
def validateWebAuthnContext (runtime : AuthRuntime) : Except AuthFailure WebAuthnContext := do
  let rpId ← required (check isDomain (trim runtime.rpId)) contextInvalid
  let originUrl ← required (UrlParser.parse runtime.appOrigin) contextInvalid
  rejectIf (originUrl.isAudience = false ∨ originUrl.pathname ≠ "/" ∨ originUrl.search ≠ "") contextInvalid
  rejectIf (lower originUrl.hostname ≠ lower rpId.text)
    (boundaryError .webauthnContextMismatch "Passkey authentication context does not match this application." "contact_support")
  return ⟨lower rpId.text, originUrl.origin, lower rpId.text, runtime.chainId.value⟩

structure WebAuthnChallenge where
  challenge : String
  rpId : String
  origin : String
  timeout : Int
  expiresAt : Int

def issueWebAuthnChallenge (runtime : AuthRuntime) (now : Int) : AuthWork WebAuthnChallenge := do
  let context ← AuthWork.settle (validateWebAuthnContext runtime)
  let issued ← tryCatch (issueNonce context.domain context.chainId none now 3) fun _ =>
    AuthWork.settle (boundaryError .webauthnNonceUnavailable "Passkey authentication is temporarily unavailable." "try_again")
  AuthWork.settle (rejectIf (isBase64Url issued.nonce = false ∨ issued.expiresAt ≤ now ∨ now + challengeTtlMs < issued.expiresAt)
    (boundaryError .webauthnNonceInvalid "Passkey authentication is temporarily unavailable." "try_again"))
  return ⟨issued.nonce, context.rpId, context.origin, max 1 (issued.expiresAt - now), issued.expiresAt⟩

def createPasskeyChallenge (standardsLock : Bool) (env : Environment) (input : Json) : AuthWork WebAuthnChallenge := do
  let request ← AuthWork.settle (parsePasskeyRequest input)
  let runtime ← AuthWork.settle (altanaRuntimeFromEnvironment standardsLock env)
  AuthWork.settle (rejectIf (request.chainId ≠ runtime.chainId.value)
    (webError .chainMismatch "Passkey authentication is for a different network." "switch_network"))
  let now ← AuthWork.ask .clock
  issueWebAuthnChallenge runtime now

end

def walletBindingInvalid {α : Type} (safeMessage : String) : Except AuthFailure α :=
  boundaryError .webauthnWalletBindingInvalid safeMessage "sign_in_again"

def assertionInvalid {α : Type} : Except AuthFailure α :=
  boundaryError .webauthnAssertionInvalid "Passkey authentication could not be verified." "sign_in_again"

def byteHex (byte : Nat) : List Char := [hexDigitOf (byte / 16), hexDigitOf (byte % 16)]

section
variable [PasskeyCodec]

def walletAddressFromUserHandle (userHandle : Option String) : Except AuthFailure String :=
  match userHandle.bind PasskeyCodec.bytes with
  | some bytes =>
    if bytes.length = 20 then .ok ("0x" ++ String.ofList (bytes.flatMap byteHex))
    else walletBindingInvalid "Passkey authentication is not bound to a wallet."
  | none => walletBindingInvalid "Passkey authentication is not bound to a wallet."

def signedChallenge (response : PasskeyResponse) : Except AuthFailure (Checked isBase64Url) :=
  match PasskeyCodec.json response.clientDataJSON with
  | some (.obj fields) => required (readRequired (readText isBase64Url) (fieldOf fields "challenge")) assertionInvalid
  | _ => assertionInvalid

/-- `assertAdminKey`: a current root key, whose identifier is the hash of its uncompressed public key. -/
def isCurrentRootKey (key : AltanaAdminKey) : Bool :=
  key.isRoot && !key.revoked && key.expiry == 0 &&
    match key.publicKey.toList with
    | '0' :: 'x' :: digits =>
      digits.all isHexDigit && (digits.length == 128 || (digits.length == 130 && digits.take 2 == ['0', '4'])) &&
        lower (PasskeyCodec.keccak256 ("0x" ++ lower (String.ofList digits))) == lower key.keyId
    | _ => false

def verifyWithKeys (response : PasskeyResponse) (challenge : String) (context : WebAuthnContext) :
    List AltanaAdminKey → AuthWork Bool
  | [] => return false
  | key :: rest =>
    if isCurrentRootKey key then do
      let answer ← AuthWork.ask (.verifyAssertion key response challenge context.origin context.rpId)
      match answer with
      | .ok true => return true
      | _ => verifyWithKeys response challenge context rest
    else verifyWithKeys response challenge context rest

variable [UrlParser]

def verifyAltanaPasskeyAssertion (runtime : AuthRuntime) (walletAddress : String) (chainId : ChainId) (response : Option Json) :
    AuthWork Unit := do
  let context ← AuthWork.settle (validateWebAuthnContext runtime)
  AuthWork.settle (rejectIf (chainId ≠ context.chainId) (boundaryError .webauthnContextMismatch
    "Passkey authentication context does not match this application." "sign_in_again"))
  let response ← AuthWork.settle (required (response.bind PasskeyResponse.read) assertionInvalid)
  AuthWork.settle (rejectIf (response.id ≠ response.rawId) assertionInvalid)
  let responseWalletAddress ← AuthWork.settle (walletAddressFromUserHandle response.userHandle)
  AuthWork.settle (rejectIf (responseWalletAddress ≠ walletAddress)
    (walletBindingInvalid "Passkey authentication is not bound to this wallet."))
  let challenge ← AuthWork.settle (signedChallenge response)
  let answer ← AuthWork.ask (.readAdminKeys walletAddress context.chainId)
  let keys ← AuthWork.answered answer
    (boundaryError .altanaAdminKeyUnavailable "Wallet ownership could not be verified on-chain." "try_again")
  AuthWork.settle (rejectIf (keys = [] ∨ 32 < keys.length)
    (boundaryError .altanaAdminKeyInvalid "The wallet has no current administrative passkey." "sign_in_again"))
  let verified ← verifyWithKeys response challenge.text context keys
  AuthWork.settle (rejectIf (verified = false) assertionInvalid)
  let answer ← AuthWork.ask (.consumeNonce ⟨context.domain, context.chainId, challenge.text, none⟩)
  let consumed ← AuthWork.answered answer
    (boundaryError .webauthnNonceUnavailable "Passkey authentication is temporarily unavailable." "try_again")
  AuthWork.settle (rejectIf (consumed = false)
    (boundaryError .webauthnNonceRejected "Passkey authentication could not be accepted." "sign_in_again"))

def authenticatePasskey [Sha256] (standardsLock : Bool) (env : Environment) (input : Json) : AuthWork AuthenticatedSession := do
  let request ← AuthWork.settle (parsePasskeyRequest input)
  let runtime ← AuthWork.settle (altanaRuntimeFromEnvironment standardsLock env)
  AuthWork.settle (rejectIf (request.chainId ≠ runtime.chainId.value)
    (webError .chainMismatch "Passkey authentication is for a different network." "switch_network"))
  let walletAddress := normalizeEvmAddress request.address
  verifyAltanaPasskeyAssertion runtime walletAddress request.chainId (responseOf input)
  createSession walletAddress request.chainId

end

end Bnbera.Auth
