import Bnbera.Auth.Types

namespace Bnbera.Auth

/-- The variables of the environment that sign-in depends on. `embedding` is what
`embeddingConfigFromEnvironment` makes of its own: whether one is configured, or that it throws. -/
structure Environment where
  nodeEnv : Option String := none
  bnberaEnv : Option String := none
  appUrl : Option String := none
  siweDomain : Option String := none
  databaseUrl : Option String := none
  databaseSsl : Option String := none
  bscChainId : Option String := none
  marketplaceSemanticRetrievalEnabled : Option String := none
  commerceTestnetPreviewEnabled : Option String := none
  walletConnectAuthEnabled : Option String := none
  commerceLocalActivation : Option String := none
  commerceDevelopmentCanaryEnabled : Option String := none
  externalErc8183MainnetEnabled : Option String := none
  altanaAuthEnabled : Option String := none
  embedding : Option Bool := some false

inductive BscChainId
  | mainnet
  | testnet
deriving DecidableEq

def BscChainId.value : BscChainId → ChainId
  | mainnet => ⟨56, by decide, by decide⟩
  | testnet => ⟨97, by decide, by decide⟩

/-- The fields of `RuntimeConfig` that sign-in reads. -/
structure RuntimeConfig where
  appUrl : String
  siweDomain : Checked isDomain
  databaseUrl : Option String
  databaseSsl : Bool
  bscChainId : BscChainId

def parseBoolean : Option String → Option Bool
  | none => some false
  | some value => if value = "true" then some true else if value = "false" then some false else none

def parseFeatureGate (value : Option String) : Bool := value = some "true"

def parseChainId : Option String → Option BscChainId
  | none => some .testnet
  | some value => if trim value = "56" then some .mainnet else if trim value = "97" then some .testnet else none

section
variable [UrlParser]

/-- `loadRuntimeConfig`; `none` is that it throws. -/
def loadRuntimeConfig (env : Environment) : Option RuntimeConfig := do
  let nodeEnv := env.nodeEnv.getD "development"
  let environment := env.bnberaEnv.getD (if nodeEnv = "production" then "production" else "development")
  let appUrl := env.appUrl.getD "http://localhost:3000"
  let siweDomain ← match env.siweDomain with
    | some domain => some domain
    | none => (UrlParser.parse appUrl).map (·.host)
  let databaseSsl ← parseBoolean env.databaseSsl
  let bscChainId ← parseChainId env.bscChainId
  let embedding ← env.embedding
  let domain ← check isDomain (trim siweDomain)
  let url ← UrlParser.parse appUrl
  if ["development", "test", "production"].contains nodeEnv &&
      ["development", "preview", "hackathon", "production"].contains environment && url.isHttp &&
      !(env.databaseUrl == some "") && !(parseFeatureGate env.marketplaceSemanticRetrievalEnabled && !embedding) then
    some ⟨appUrl, domain, env.databaseUrl, databaseSsl, bscChainId⟩
  else none

def testnetCommercePreviewEnabled (env : Environment) : Bool :=
  env.bnberaEnv == some "preview" && env.bscChainId == some "97" && env.commerceTestnetPreviewEnabled == some "true" &&
    env.walletConnectAuthEnabled == some "true" && env.commerceLocalActivation == some "true" &&
    env.commerceDevelopmentCanaryEnabled == some "true" &&
    (UrlParser.parse (env.appUrl.getD "")).any fun url => url.protocol == "https:" && url.username == "" && url.password == ""

/-- `mainnetBrowserCommerceEnabled`, under which it is also read by its compatibility name. -/
def externalMainnetEoaPreviewEnabled (env : Environment) : Bool :=
  ["preview", "production"].contains (env.bnberaEnv.getD "") && env.externalErc8183MainnetEnabled == some "true" &&
    env.walletConnectAuthEnabled == some "true" &&
    (UrlParser.parse (env.appUrl.getD "")).any fun url => url.protocol == "https:" && url.username == "" &&
      url.password == "" && url.pathname == "/" && url.search == "" && url.hash == ""

structure AuthRuntime where
  databaseUrl : String
  databaseSsl : Bool
  appOrigin : String
  rpId : String
  chainId : BscChainId

def configurationInvalid {α : Type} : Except AuthFailure α :=
  webError .configurationInvalid "Authentication is temporarily unavailable." "try_again" true

def runtimeFromEnvironment (env : Environment) : Except AuthFailure AuthRuntime := do
  let runtime ← required (loadRuntimeConfig env) configurationInvalid
  let appUrl ← required (UrlParser.parse runtime.appUrl) configurationInvalid
  rejectIf (lower runtime.siweDomain.text ≠ lower appUrl.host) configurationInvalid
  rejectIf (runtime.bscChainId ≠ .testnet ∧ externalMainnetEoaPreviewEnabled env = false)
    (webError .configurationBlocked "Wallet authentication is enabled only for the reviewed BNB testnet runtime." "switch_network")
  let databaseUrl ← required (runtime.databaseUrl.filter fun url => trim url != "")
    (webError .databaseUnavailable "Authentication is temporarily unavailable." "try_again" true)
  return ⟨databaseUrl, runtime.databaseSsl, appUrl.origin, lower appUrl.hostname, runtime.bscChainId⟩

def resolveEoaAuthChain (requestedChainId : ChainId) (env : Environment) : Except AuthFailure BscChainId :=
  if requestedChainId.value = 56 then
    if externalMainnetEoaPreviewEnabled env then .ok .mainnet
    else webError .configurationBlocked "Mainnet wallet sign-in is not enabled for this preview." "switch_network"
  else if requestedChainId.value = 97 then
    if ((env.nodeEnv = some "production" ∨ env.bnberaEnv = some "production") ∧ testnetCommercePreviewEnabled env = false) ∨
        env.walletConnectAuthEnabled ≠ some "true" then
      webError .configurationBlocked "WalletConnect EOA authentication is not enabled for this local canary." "enable_walletconnect_auth"
    else .ok .testnet
  else webError .chainMismatch "Wallet authentication is for an unsupported network." "switch_network"

def walletConnectRuntimeFromEnvironment (requestedChainId : ChainId) (env : Environment) : Except AuthFailure AuthRuntime := do
  let chainId ← resolveEoaAuthChain requestedChainId env
  let runtime ← runtimeFromEnvironment env
  return { runtime with chainId := chainId }

/-- `altanaRuntimeFromEnvironment`, where `standardsLock` says whether the checked-in lock and the
network of the SDK pass `assertAltanaAuthStandardsLock`. -/
def altanaRuntimeFromEnvironment (standardsLock : Bool) (env : Environment) : Except AuthFailure AuthRuntime := do
  let runtime ← runtimeFromEnvironment env
  rejectIf (env.altanaAuthEnabled ≠ some "true") (webError .configurationBlocked
    "Altana passkey authentication is not enabled for this runtime." "configure_auth_boundary")
  rejectIf (runtime.chainId ≠ .testnet)
    (webError .chainMismatch "Creator authentication remains on BNB testnet." "switch_network")
  rejectIf (standardsLock = false) configurationInvalid
  return runtime

end

structure SiweMessageFields where
  domain : String
  address : String
  statement : Option String := none
  uri : String
  chainId : ChainId
  nonce : String
  issuedAt : Int
  expirationTime : Int
  notBefore : Option Int := none
  resources : Option (List String) := none

def formatSiweMessage [DateText] (input : SiweMessageFields) : String :=
  let header := input.domain ++ " wants you to sign in with your Ethereum account:"
  let statement := (input.statement.map (· ++ "\n\n")).getD ""
  let fields := ["URI: " ++ input.uri, "Version: 1", "Chain ID: " ++ toString input.chainId.value,
    "Nonce: " ++ input.nonce, "Issued At: " ++ DateText.toISOString input.issuedAt,
    "Expiration Time: " ++ DateText.toISOString input.expirationTime] ++
    (input.notBefore.map fun time => "Not Before: " ++ DateText.toISOString time).toList ++
    match input.resources with
    | some (first :: rest) => ["\n".intercalate ("Resources:" :: (first :: rest).map ("- " ++ ·))]
    | _ => []
  header ++ "\n" ++ input.address ++ "\n\n" ++ statement ++ "\n".intercalate fields

section
variable [UrlParser]

def isUrl (text : String) : Bool := (UrlParser.parse text).isSome

/-- `siweAuthenticationRequestSchema`. What it returns `siweRequestSchema` returns unchanged. -/
structure SiweRequest where
  address : EvmAddress
  chainId : ChainId
  domain : Checked isDomain
  uri : Checked isHttpUri
  nonce : Checked (isBounded 8 128)
  issuedAt : Int
  expirationTime : Int
  notBefore : Option Int
  statement : Option (Checked (isBounded 0 1000))
  resources : Option (List (Checked isUrl))
  message : Checked (isBounded 1 8192)
  signature : Checked isSignature

def siweRequestKeys : List String :=
  ["address", "chainId", "domain", "uri", "nonce", "issuedAt", "expirationTime", "notBefore", "statement", "resources",
    "message", "signature"]

def SiweRequest.read [DateText] : Json → Option SiweRequest
  | .obj fields => do
    let address ← readRequired readAddress (fieldOf fields "address")
    let chainId ← readRequired readChainId (fieldOf fields "chainId")
    let domain ← readRequired readDomain (fieldOf fields "domain")
    let uri ← readRequired (readText isHttpUri) (fieldOf fields "uri")
    let nonce ← readRequired (readText (isBounded 8 128)) (fieldOf fields "nonce")
    let issuedAt ← readRequired DateText.coerce (fieldOf fields "issuedAt")
    let expirationTime ← readRequired DateText.coerce (fieldOf fields "expirationTime")
    let notBefore ← readOptional DateText.coerce (fieldOf fields "notBefore")
    let statement ← readOptional (readText (isBounded 0 1000)) (fieldOf fields "statement")
    let resources ← readOptional (readArray 32 (readText isUrl)) (fieldOf fields "resources")
    let message ← readRequired (readText (isBounded 1 8192)) (fieldOf fields "message")
    let signature ← readRequired (readText isSignature) (fieldOf fields "signature")
    if fields.all fun field => siweRequestKeys.contains field.1 then
      some ⟨address, chainId, domain, uri, nonce, issuedAt, expirationTime, notBefore, statement, resources, message, signature⟩
    else none
  | _ => none

def parseEoaSiweAuthenticationRequest [DateText] (input : Json) : Except AuthFailure SiweRequest :=
  required (SiweRequest.read input) (webError .requestInvalid "The wallet authentication request is invalid." "check_request")

structure ChallengeRequest where
  address : EvmAddress
  chainId : ChainId

/-- `siweChallengeRequestSchema` and `challengeRequestSchema` under the name of their address field, with the
two chains that are known. -/
def ChallengeRequest.read (addressKey : String) : Json → Option ChallengeRequest
  | .obj fields => do
    let address ← readRequired readAddress (fieldOf fields addressKey)
    let chainId ← readRequired readChainId (fieldOf fields "chainId")
    if chainId.value = 56 ∨ chainId.value = 97 then some ⟨address, chainId⟩ else none
  | _ => none

def parseEoaSiweChallengeRequest (input : Json) : Except AuthFailure ChallengeRequest :=
  required (ChallengeRequest.read "address" input)
    (webError .requestInvalid "The wallet authentication request is invalid." "check_request")

def canonicalHttpUri (uri : String) : Except AuthFailure String :=
  required (((UrlParser.parse uri).filter (·.isAudience)).map (·.href))
    (boundaryError .siweAudienceMismatch "Wallet proof audience is not valid." "sign_in_again")

/-- `new URL(uri).host.toLowerCase()` -/
def hostOf (uri : String) : Option String := (UrlParser.parse uri).map fun url => lower url.host

/-- `ValidatedSiweContext` -/
structure SiweContext where
  domain : String
  uri : String
  chainId : ChainId

/-- `validateContext` of `siweContext(runtime)`, up to the clock. -/
def validateContext (runtime : AuthRuntime) : Except AuthFailure SiweContext := do
  let domain ← required (check isDomain (trim runtime.rpId))
    (boundaryError .siweContextInvalid "Wallet proof context is invalid." "contact_support")
  let given ← required (check isHttpUri runtime.appOrigin)
    (boundaryError .siweContextInvalid "Wallet proof context is invalid." "contact_support")
  let uri ← canonicalHttpUri given.text
  rejectIf (hostOf uri ≠ some (lower domain.text))
    (boundaryError .siweContextMismatch "Wallet proof context does not match this application." "contact_support")
  return ⟨lower domain.text, uri, runtime.chainId.value⟩

def maxIssuedAtAgeMs : Int := 5 * 60 * 1000
def maxFutureSkewMs : Int := 30 * 1000
def maxLifetimeMs : Int := 15 * 60 * 1000

/-- `validateSiweRequestWithContext`, after the context was validated at `nowMs`. -/
def validateSiweRequest (request : SiweRequest) (context : SiweContext) (nowMs : Int) : Except AuthFailure Unit := do
  let requestDomain := lower request.domain.text
  let requestUri ← canonicalHttpUri request.uri.text
  rejectIf (requestDomain ≠ context.domain ∨ request.chainId ≠ context.chainId)
    (boundaryError .siweContextMismatch "Wallet proof context does not match this application." "sign_in_again")
  rejectIf (hostOf requestUri ≠ some requestDomain ∨ requestUri ≠ context.uri)
    (boundaryError .siweAudienceMismatch "Wallet proof audience does not match this application." "sign_in_again")
  rejectIf (nowMs + maxFutureSkewMs < request.issuedAt)
    (boundaryError .siweTimeInvalid "Wallet proof issued-at time is invalid." "sign_in_again")
  rejectIf (request.issuedAt < nowMs - maxIssuedAtAgeMs)
    (boundaryError .siweIssuedAtStale "Wallet proof is too old." "sign_in_again")
  rejectIf (request.expirationTime ≤ request.issuedAt ∨ maxLifetimeMs < request.expirationTime - request.issuedAt)
    (boundaryError .siweTimeInvalid "Wallet proof has an invalid expiration." "sign_in_again")
  rejectIf (request.expirationTime ≤ nowMs) (boundaryError .siweExpired "Wallet proof has expired." "sign_in_again")
  rejectIf (request.notBefore.any fun time => nowMs < time)
    (boundaryError .siweNotActive "Wallet proof is not active yet." "sign_in_again")

def SiweRequest.fields (request : SiweRequest) : SiweMessageFields where
  domain := request.domain.text
  address := request.address.text
  statement := request.statement.map (·.text)
  uri := request.uri.text
  chainId := request.chainId
  nonce := request.nonce.text
  issuedAt := request.issuedAt
  expirationTime := request.expirationTime
  notBefore := request.notBefore
  resources := request.resources.map fun resources => resources.map (·.text)

end

end Bnbera.Auth
