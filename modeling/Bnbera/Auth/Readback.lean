import Bnbera.Auth.Passkeys
import Bnbera.Validation

namespace Bnbera.Auth

theorem utf16Units_append (first second : String) : utf16Units (first ++ second) = utf16Units first ++ utf16Units second := by
  rw [utf16Units, String.toList_append, List.flatMap_append]
  rfl

theorem length_utf16Units_lower (text : String) : (utf16Units (lower text)).length = (utf16Units text).length := by
  simp only [utf16Units, lower_toList, List.length_flatMap, List.map_map]
  congr 1
  refine List.map_congr_left fun c _ => ?_
  rw [Function.comp_apply, toLower_toNat]
  by_cases upper : 65 ≤ c.toNat ∧ c.toNat ≤ 90
  · rw [if_pos upper, if_pos (by omega), if_pos (by omega)]
    rfl
  · rw [if_neg upper]

theorem utf16Units_present {text : String} (present : text ≠ "") : 1 ≤ (utf16Units text).length := by
  cases same : text.toList with
  | nil => exact absurd (String.toList_inj.mp same) present
  | cons first rest =>
    rw [utf16Units, same, List.flatMap_cons, List.length_append]
    split
    · exact Nat.le_add_right 1 _
    · exact Nat.le_add_right_of_le (Nat.le_succ 1)

theorem not_isTrimmed_toLower {c : Char} (clean : isTrimmed c = false) : isTrimmed c.toLower = false := by
  by_cases upper : 65 ≤ c.toNat ∧ c.toNat ≤ 90
  · have moved : c.toLower.toNat = c.toNat + 32 := by rw [toLower_toNat, if_pos upper]
    simp only [isTrimmed, Bool.or_eq_false_iff, List.contains_eq_mem, decide_eq_false_iff_not, Bool.and_eq_false_iff,
      List.mem_cons, List.not_mem_nil, or_false]
    omega
  · have kept : c.toLower.toNat = c.toNat := by rw [toLower_toNat, if_neg upper]
    rw [isTrimmed, kept]
    exact clean

theorem required_eq_ok {α : Type} {value : Option α} {error : AuthFailure} {result : α} :
    required value (.error error) = .ok result ↔ value = some result := by
  cases value with
  | none => exact ⟨fun same => (nomatch same), fun same => (nomatch same)⟩
  | some present => exact ⟨fun same => congrArg some (Except.ok.inj same), fun same => congrArg Except.ok (Option.some.inj same)⟩

theorem rejectIf_eq_ok {fails : Prop} [Decidable fails] {error : AuthFailure} :
    rejectIf fails (.error error) = .ok () ↔ ¬fails := by
  unfold rejectIf
  split <;> simp [*]

section
variable [UrlParser]

def applicationUrl (env : Environment) : String := env.appUrl.getD "http://localhost:3000"

/-- The origin and the relying party of a runtime are those of the application URL. -/
structure AuthRuntime.Serves (runtime : AuthRuntime) (env : Environment) (url : ParsedUrl) : Prop where
  parsed : UrlParser.parse (applicationUrl env) = some url
  http : url.isHttp = true
  short : (utf16Units url.host).length ≤ 253
  origin : runtime.appOrigin = url.origin
  rpId : runtime.rpId = lower url.hostname

theorem loadRuntimeConfig_eq_some {env : Environment} {config : RuntimeConfig} (loaded : loadRuntimeConfig env = some config) :
    config.appUrl = applicationUrl env ∧ ∃ url, UrlParser.parse (applicationUrl env) = some url ∧ url.isHttp = true := by
  unfold loadRuntimeConfig at loaded
  simp only [Option.bind_eq_bind] at loaded
  split at loaded
  all_goals
    simp only [Option.bind_eq_some_iff] at loaded
    obtain ⟨_, _, _, _, _, _, _, _, _, _, url, parsed, loaded⟩ := loaded
    obtain ⟨accepted, same⟩ := Option.ite_none_right_eq_some.mp loaded
    simp only [Bool.and_eq_true] at accepted
    cases same
    exact ⟨rfl, url, parsed, accepted.1.1.2⟩

theorem runtimeFromEnvironment_serves {env : Environment} {runtime : AuthRuntime}
    (accepted : runtimeFromEnvironment env = .ok runtime) : ∃ url, runtime.Serves env url := by
  unfold runtimeFromEnvironment at accepted
  obtain ⟨config, loaded, accepted⟩ := bind_eq_ok.mp accepted
  obtain ⟨url, parsed, accepted⟩ := bind_eq_ok.mp accepted
  obtain ⟨_, same, accepted⟩ := bind_eq_ok.mp accepted
  obtain ⟨_, _, accepted⟩ := bind_eq_ok.mp accepted
  obtain ⟨databaseUrl, _, accepted⟩ := bind_eq_ok.mp accepted
  cases accepted
  obtain ⟨sameUrl, url', parsed', http⟩ := loadRuntimeConfig_eq_some (required_eq_ok.mp loaded)
  have parsed := required_eq_ok.mp parsed
  rw [sameUrl, parsed'] at parsed
  cases parsed
  refine ⟨_, parsed', http, ?_, rfl, rfl⟩
  have domain := config.siweDomain.accepted
  simp only [isDomain, Bool.and_eq_true, decide_eq_true_eq] at domain
  rw [← length_utf16Units_lower, ← not_not.mp (rejectIf_eq_ok.mp same), length_utf16Units_lower]
  exact domain.2

namespace AuthRuntime.Serves

variable {runtime : AuthRuntime} {env : Environment} {url : ParsedUrl}

theorem length_hostname (serves : runtime.Serves env url) : (utf16Units url.hostname).length ≤ 253 := by
  have short := serves.short
  unfold ParsedUrl.host at short
  split at short
  · exact short
  · simp only [utf16Units_append, List.length_append] at short
    omega

theorem domain (lawful : LawfulUrls) (serves : runtime.Serves env url) :
    ∃ domain, check isDomain (trim runtime.rpId) = some domain ∧ domain.text = runtime.rpId := by
  have clean : ∀ c ∈ runtime.rpId.toList, isTrimmed c = false := by
    rw [serves.rpId, lower_toList]
    intro c member
    obtain ⟨letter, known, rfl⟩ := List.mem_map.mp member
    exact not_isTrimmed_toLower (lawful.hostname serves.parsed serves.http letter known)
  have present : 1 ≤ (utf16Units runtime.rpId).length := by
    rw [serves.rpId, length_utf16Units_lower]
    exact utf16Units_present (lawful.present serves.parsed serves.http)
  have short : (utf16Units runtime.rpId).length ≤ 253 := by
    rw [serves.rpId, length_utf16Units_lower]
    exact serves.length_hostname
  have accepted : isDomain runtime.rpId = true := by
    simp only [isDomain, trim_eq_self clean, beq_self_eq_true, Bool.true_and, Bool.and_eq_true, decide_eq_true_eq]
    exact ⟨present, short⟩
  refine ⟨⟨runtime.rpId, accepted⟩, ?_, rfl⟩
  rw [trim_eq_self clean, check, dif_pos accepted]

theorem parse_origin (lawful : LawfulUrls) (serves : runtime.Serves env url) :
    UrlParser.parse runtime.appOrigin = some url.atOrigin := by
  rw [serves.origin]
  exact lawful.origin serves.parsed serves.http

theorem parse_href (lawful : LawfulUrls) (serves : runtime.Serves env url) :
    UrlParser.parse url.atOrigin.href = some url.atOrigin := lawful.href serves.parsed serves.http

theorem isAudience (serves : runtime.Serves env url) : url.atOrigin.isAudience = true := by
  have http : url.atOrigin.isHttp = true := serves.http
  rw [ParsedUrl.isAudience, http]
  rfl

theorem isHttpUri (lawful : LawfulUrls) (serves : runtime.Serves env url) : isHttpUri runtime.appOrigin = true := by
  rw [Auth.isHttpUri, serves.parse_origin lawful]
  exact serves.isAudience

theorem canonical (lawful : LawfulUrls) (serves : runtime.Serves env url) :
    canonicalHttpUri runtime.appOrigin = .ok url.atOrigin.href := by
  rw [canonicalHttpUri, serves.parse_origin lawful, Option.filter_some_pos serves.isAudience]
  rfl

theorem hostOf_href (lawful : LawfulUrls) (serves : runtime.Serves env url) :
    hostOf url.atOrigin.href = some (lower url.host) := by
  rw [hostOf, serves.parse_href lawful]
  rfl

theorem host_eq_iff (serves : runtime.Serves env url) : lower url.host = lower runtime.rpId ↔ url.port = "" := by
  rw [serves.rpId, lower_lower]
  constructor
  · intro same
    by_contra shown
    have lengths := congrArg (fun text => text.toList.length) same
    simp only [ParsedUrl.host, if_neg shown, lower_toList, List.length_map, String.toList_append, List.length_append,
      String.length_toList] at lengths
    have mark : ":".length = 1 := rfl
    omega
  · intro hidden
    rw [ParsedUrl.host, if_pos hidden]

theorem validateContext (lawful : LawfulUrls) (serves : runtime.Serves env url) :
    validateContext runtime = if url.port = "" then .ok ⟨runtime.rpId, url.atOrigin.href, runtime.chainId.value⟩
      else boundaryError .siweContextMismatch "Wallet proof context does not match this application." "contact_support" := by
  obtain ⟨domain, trimmed, same⟩ := serves.domain lawful
  have given : check Auth.isHttpUri runtime.appOrigin = some ⟨runtime.appOrigin, serves.isHttpUri lawful⟩ := by
    rw [check, dif_pos]
  have small : lower runtime.rpId = runtime.rpId := by rw [serves.rpId, lower_lower]
  unfold Auth.validateContext
  simp only [trimmed, given, required, bind, Except.bind, serves.canonical lawful, serves.hostOf_href lawful, same, rejectIf,
    ne_eq, Option.some.injEq, serves.host_eq_iff]
  by_cases hidden : url.port = ""
  · simp only [hidden, not_true_eq_false, if_false, if_true, small]
    rfl
  · simp only [hidden, not_false_eq_true, if_true, if_false]
    rfl

theorem validateWebAuthnContext (lawful : LawfulUrls) (serves : runtime.Serves env url) :
    validateWebAuthnContext runtime = .ok ⟨runtime.rpId, url.origin, runtime.rpId, runtime.chainId.value⟩ := by
  obtain ⟨domain, trimmed, same⟩ := serves.domain lawful
  have small : lower runtime.rpId = runtime.rpId := by rw [serves.rpId, lower_lower]
  have audience : ¬(url.atOrigin.isAudience = false ∨ url.atOrigin.pathname ≠ "/" ∨ url.atOrigin.search ≠ "") := by
    rw [serves.isAudience]
    exact fun broken => broken.elim (fun same => (nomatch same)) fun broken => broken.elim (· rfl) (· rfl)
  have hostname : ¬lower url.atOrigin.hostname ≠ lower domain.text := by
    rw [same, small, serves.rpId]
    exact fun differ => differ rfl
  unfold Auth.validateWebAuthnContext
  simp only [trimmed, required, bind, Except.bind, serves.parse_origin lawful, rejectIf, if_neg audience, if_neg hostname]
  rw [same, small]
  rfl

end AuthRuntime.Serves

end

theorem length_flatMap_small {chars : List Char} {units : Char → List Nat} (one : ∀ c ∈ chars, (units c).length = 1) :
    (chars.flatMap units).length = chars.length := by
  induction chars with
  | nil => rfl
  | cons first rest ih =>
    rw [List.flatMap_cons, List.length_append, one first List.mem_cons_self,
      ih fun c member => one c (List.mem_cons_of_mem _ member), List.length_cons, Nat.add_comm]

theorem length_utf16Units_small {text : String} (small : ∀ c ∈ text.toList, c.toNat < 0x10000) :
    (utf16Units text).length = text.toList.length := by
  refine length_flatMap_small fun c member => ?_
  rw [if_pos (small c member), List.length_singleton]

theorem base64UrlChar_small {c : Char} (digit : isBase64UrlChar c = true) : c.toNat < 0x10000 := by
  have bound : c ≤ 'z' := by
    simp only [isBase64UrlChar, isAlphanumeric, isLetter, isDigit, Bool.or_eq_true, Bool.and_eq_true, decide_eq_true_eq,
      beq_iff_eq] at digit
    rcases digit with (((⟨_, lowercase⟩ | ⟨_, upper⟩) | ⟨_, decimal⟩) | rfl) | rfl
    · exact lowercase
    · exact Char.le_trans upper (by decide)
    · exact Char.le_trans decimal (by decide)
    · decide
    · decide
  have bound : c.toNat ≤ 122 := bound
  omega

theorem hexDigit_small {c : Char} (hex : isHexDigit c = true) : c.toNat < 0x10000 := by
  rw [isHexDigit_iff] at hex
  omega

theorem length_address (address : EvmAddress) : (utf16Units (normalizeEvmAddress address)).length = 42 := by
  obtain ⟨digits, same, length, hex⟩ := isEvmAddress_iff.mp address.accepted
  rw [normalizeEvmAddress, length_utf16Units_lower, length_utf16Units_small, same, List.length_cons, List.length_cons, length]
  rw [same]
  intro c member
  rcases List.mem_cons.mp member with rfl | member
  · decide
  · rcases List.mem_cons.mp member with rfl | member
    · decide
    · exact hexDigit_small (List.all_eq_true.mp hex c member)

theorem length_token {token : String} (accepted : isOpaqueToken token = true) : (utf16Units token).length = 43 := by
  simp only [isOpaqueToken, Bool.and_eq_true, beq_iff_eq] at accepted
  rw [length_utf16Units_small fun c member => base64UrlChar_small (List.all_eq_true.mp accepted.2 c member), accepted.1]

theorem isBounded_token {token : String} (accepted : isOpaqueToken token = true) : isBounded 8 128 token = true := by
  rw [isBounded, length_token accepted]
  rfl

def EoaSiweChallenge.reply [DateText] (challenge : EoaSiweChallenge) (signature : String) : Json :=
  .obj [("address", .str challenge.address), ("chainId", .num (toString challenge.chainId.value)),
    ("domain", .str challenge.domain), ("uri", .str challenge.uri), ("nonce", .str challenge.nonce),
    ("issuedAt", .str (DateText.toISOString challenge.issuedAt)),
    ("expirationTime", .str (DateText.toISOString challenge.expirationTime)), ("statement", .str challenge.statement),
    ("message", .str challenge.message), ("signature", .str signature)]

theorem readChainId_value (chainId : BscChainId) : readChainId (.num (toString chainId.value.value)) = some chainId.value := by
  cases chainId <;> rfl

theorem isBounded_statement : isBounded 0 1000 siweStatement = true := by decide

section
variable [UrlParser] [DateText] {runtime : AuthRuntime} {env : Environment} {url : ParsedUrl}

omit [DateText] in
theorem length_origin (serves : runtime.Serves env url) : (utf16Units runtime.appOrigin).length ≤ 261 := by
  have http := serves.http
  have short := serves.short
  have scheme : (utf16Units url.protocol).length ≤ 6 := by
    simp only [ParsedUrl.isHttp, Bool.or_eq_true, beq_iff_eq] at http
    rcases http with http | http
    · rw [http]
      decide
    · rw [http]
      decide
  have slashes : (utf16Units "//").length = 2 := rfl
  rw [serves.origin, ParsedUrl.origin, utf16Units_append, utf16Units_append, List.length_append, List.length_append]
  omega

theorem isBounded_message (dates : LawfulDates) (serves : runtime.Serves env url) (address : EvmAddress) {nonce : String} {now : Int}
    (token : isOpaqueToken nonce = true) (start : 0 ≤ now) (range : now + sessionTtlMs ≤ 8640000000000000) :
    isBounded 1 8192 (formatSiweMessage (challengeFields runtime (normalizeEvmAddress address) nonce now)) = true := by
  have atAddress := length_address address
  have atToken := length_token token
  have atOrigin := length_origin serves
  have atDomain : (utf16Units runtime.rpId).length ≤ 253 := by
    rw [serves.rpId, length_utf16Units_lower]
    exact serves.length_hostname
  have ttl : sessionTtlMs = 900000 := rfl
  have nowInRange : now.natAbs ≤ 8640000000000000 := by omega
  have expiryInRange : (now + sessionTtlMs).natAbs ≤ 8640000000000000 := by omega
  have issued := dates.short nowInRange
  have expires := dates.short expiryInRange
  have atChain : (utf16Units (toString runtime.chainId.value.value)).length = 2 := by
    cases runtime.chainId <;> rfl
  have atStatement : (utf16Units siweStatement).length = 27 := rfl
  have header : (utf16Units " wants you to sign in with your Ethereum account:").length = 49 := rfl
  have labels : (utf16Units "URI: ").length = 5 ∧ (utf16Units "Version: 1").length = 10 ∧ (utf16Units "Chain ID: ").length = 10 ∧
      (utf16Units "Nonce: ").length = 7 ∧ (utf16Units "Issued At: ").length = 11 ∧ (utf16Units "Expiration Time: ").length = 17 ∧
      (utf16Units "\n").length = 1 ∧ (utf16Units "\n\n").length = 2 := ⟨rfl, rfl, rfl, rfl, rfl, rfl, rfl, rfl⟩
  simp only [formatSiweMessage, challengeFields, isBounded, Option.map_some, Option.getD_some, Option.map_none, Option.toList_none,
    List.append_nil, String.intercalate_cons_cons, String.intercalate_singleton, utf16Units_append, List.length_append,
    Bool.and_eq_true, decide_eq_true_eq]
  omega

def challengeOf (runtime : AuthRuntime) (address : EvmAddress) (nonce : String) (now : Int) : EoaSiweChallenge where
  address := normalizeEvmAddress address
  chainId := runtime.chainId.value
  domain := runtime.rpId
  uri := runtime.appOrigin
  nonce := nonce
  issuedAt := now
  expirationTime := now + sessionTtlMs
  expiresAt := now + challengeTtlMs
  statement := siweStatement
  message := formatSiweMessage (challengeFields runtime (normalizeEvmAddress address) nonce now)

structure SiweRequest.Repeats (request : SiweRequest) (challenge : EoaSiweChallenge) : Prop where
  address : request.address.text = challenge.address
  chainId : request.chainId = challenge.chainId
  domain : request.domain.text = challenge.domain
  uri : request.uri.text = challenge.uri
  nonce : request.nonce.text = challenge.nonce
  issuedAt : request.issuedAt = challenge.issuedAt
  expirationTime : request.expirationTime = challenge.expirationTime
  notBefore : request.notBefore = none
  message : request.message.text = challenge.message
  canonical : challenge.message = formatSiweMessage request.fields

omit [UrlParser] [DateText] in
theorem check_of {accepts : String → Bool} {text : String} (accepted : accepts text = true) :
    check accepts text = some ⟨text, accepted⟩ := by
  rw [check, dif_pos accepted]

/-- The reply to a challenge is read back as the challenge was made. -/
theorem read_reply (lawful : LawfulUrls) (dates : LawfulDates) (serves : runtime.Serves env url) (address : EvmAddress)
    {nonce : String} {now : Int} (token : isOpaqueToken nonce = true) (start : 0 ≤ now)
    (range : now + sessionTtlMs ≤ 8640000000000000) {signature : String} (signed : isSignature signature = true) :
    ∃ request, SiweRequest.read ((challengeOf runtime address nonce now).reply signature) = some request ∧
      request.Repeats (challengeOf runtime address nonce now) ∧ request.signature.text = signature := by
  obtain ⟨domain, trimmed, sameDomain⟩ := serves.domain lawful
  have ttl : sessionTtlMs = 900000 := rfl
  have lowered := isEvmAddress_lower address.accepted
  have bounded := isBounded_message dates serves address token start range
  have addressRead : readAddress (.str (normalizeEvmAddress address)) = some ⟨normalizeEvmAddress address, lowered⟩ :=
    check_of lowered
  have chainRead : readChainId (.num runtime.chainId.value.value.repr) = some runtime.chainId.value := readChainId_value _
  have domainRead : readDomain (.str runtime.rpId) = some domain := trimmed
  have uriRead : readText isHttpUri (.str runtime.appOrigin) = some ⟨runtime.appOrigin, serves.isHttpUri lawful⟩ :=
    check_of (serves.isHttpUri lawful)
  have nonceRead : readText (isBounded 8 128) (.str nonce) = some ⟨nonce, isBounded_token token⟩ := check_of (isBounded_token token)
  have nowInRange : now.natAbs ≤ 8640000000000000 := by omega
  have expiryInRange : (now + sessionTtlMs).natAbs ≤ 8640000000000000 := by omega
  have issuedRead := dates.coerce nowInRange
  have expirationRead := dates.coerce expiryInRange
  have statementRead : readText (isBounded 0 1000) (.str siweStatement) = some ⟨siweStatement, isBounded_statement⟩ :=
    check_of isBounded_statement
  have messageRead : readText (isBounded 1 8192) (.str (challengeOf runtime address nonce now).message) = some ⟨_, bounded⟩ :=
    check_of bounded
  have signatureRead : readText isSignature (.str signature) = some ⟨signature, signed⟩ := check_of signed
  refine ⟨⟨⟨normalizeEvmAddress address, lowered⟩, runtime.chainId.value, domain, ⟨runtime.appOrigin, serves.isHttpUri lawful⟩,
    ⟨nonce, isBounded_token token⟩, now, now + sessionTtlMs, none, some ⟨siweStatement, isBounded_statement⟩, none,
    ⟨_, bounded⟩, ⟨signature, signed⟩⟩, ?_, ⟨rfl, rfl, sameDomain, rfl, rfl, rfl, rfl, rfl, rfl, ?_⟩, rfl⟩
  · unfold SiweRequest.read EoaSiweChallenge.reply
    simp only [challengeOf] at messageRead ⊢
    simp [fieldOf, readRequired, readOptional, addressRead, chainRead, domainRead, uriRead, nonceRead, issuedRead,
      expirationRead, statementRead, messageRead, signatureRead, siweRequestKeys]
  · simp only [challengeOf, challengeFields, SiweRequest.fields, sameDomain]
    rfl

theorem validateSiweRequest_repeats (lawful : LawfulUrls) (serves : runtime.Serves env url) (hidden : url.port = "")
    {address : EvmAddress} {nonce : String} {now nowMs : Int} {request : SiweRequest}
    (repeats : request.Repeats (challengeOf runtime address nonce now)) (after : now ≤ nowMs)
    (before : nowMs < now + challengeTtlMs) :
    validateSiweRequest request ⟨runtime.rpId, url.atOrigin.href, runtime.chainId.value⟩ nowMs = .ok () := by
  have small : lower runtime.rpId = runtime.rpId := by rw [serves.rpId, lower_lower]
  have host : lower url.host = runtime.rpId := by rw [serves.host_eq_iff.mpr hidden, small]
  have domain : request.domain.text = runtime.rpId := repeats.domain
  have uri : request.uri.text = runtime.appOrigin := repeats.uri
  have chainId : request.chainId = runtime.chainId.value := repeats.chainId
  have issuedAt : request.issuedAt = now := repeats.issuedAt
  have expirationTime : request.expirationTime = now + sessionTtlMs := repeats.expirationTime
  have ttl : challengeTtlMs = 60000 := rfl
  have session : sessionTtlMs = 900000 := rfl
  have skew : maxFutureSkewMs = 30000 := rfl
  have age : maxIssuedAtAgeMs = 300000 := rfl
  have lifetime : maxLifetimeMs = 900000 := rfl
  unfold validateSiweRequest
  simp only [uri, serves.canonical lawful, domain, small, chainId, serves.hostOf_href lawful, host, issuedAt, expirationTime,
    repeats.notBefore, bind, Except.bind, rejectIf, ne_eq, not_true_eq_false, or_self, if_false, Option.any_none]
  rw [if_neg (by omega), if_neg (by omega), if_neg (by omega), if_neg (by omega)]
  rfl

end

end Bnbera.Auth
