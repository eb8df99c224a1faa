import Bnbera.Auth.Redeeming

namespace Bnbera.Auth

open Interleaving System

section
variable [UrlParser]

theorem walletConnect_chain {chainId : ChainId} {env : Environment} {runtime : AuthRuntime}
    (resolved : walletConnectRuntimeFromEnvironment chainId env = .ok runtime) : chainId = runtime.chainId.value := by
  unfold walletConnectRuntimeFromEnvironment at resolved
  obtain ⟨chain, enabled, resolved⟩ := bind_eq_ok.mp resolved
  obtain ⟨base, _, resolved⟩ := bind_eq_ok.mp resolved
  cases resolved
  obtain ⟨value, low, high⟩ := chainId
  unfold resolveEoaAuthChain at enabled
  dsimp only at enabled
  split at enabled
  · rename_i mainnet
    subst mainnet
    split at enabled
    · cases enabled
      rfl
    · cases enabled
  · split at enabled
    · rename_i testnet
      subst testnet
      split at enabled
      · cases enabled
      · cases enabled
        rfl
    · cases enabled

def challengeInput (address : EvmAddress) (chainId : BscChainId) : Json :=
  .obj [("address", .str address.text), ("chainId", .num (toString chainId.value.value))]

omit [UrlParser] in
theorem parse_challengeInput (address : EvmAddress) (chainId : BscChainId) :
    parseEoaSiweChallengeRequest (challengeInput address chainId) = .ok ⟨address, chainId.value⟩ := by
  have addressRead : readAddress (.str address.text) = some address := check_of address.accepted
  have chainRead : readChainId (.num chainId.value.value.repr) = some chainId.value := readChainId_value _
  have known : chainId.value.value = 56 ∨ chainId.value.value = 97 := by cases chainId <;> simp [BscChainId.value]
  refine required_eq_ok.mpr ?_
  simp [ChallengeRequest.read, challengeInput, fieldOf, readRequired, addressRead, chainRead, known]

end

section
variable [UrlParser] [DateText] [Sha256] [PasskeyCodec]

def unusedTables : AuthState := ⟨[], [], 0, []⟩

def challengedTables (runtime : AuthRuntime) (address : EvmAddress) (nonce : String) : AuthState :=
  let input := (challengeOf runtime address nonce 0).stored
  ⟨[AuthState.issuedRow input challengeTtlMs], [], 0,
    [(0, ⟨.clock, 0⟩), (0, ⟨.randomToken, nonce⟩), (0, ⟨.insertNonce input challengeTtlMs, .inserted⟩)]⟩

variable {env : Environment} {runtime : AuthRuntime} {url : ParsedUrl}

theorem challenge_runs {address : EvmAddress} {nonce : String} {request : AuthRequest}
    (resolved : walletConnectRuntimeFromEnvironment runtime.chainId.value env = .ok runtime) (token : isOpaqueToken nonce = true) :
    Runs (authSystem.exec 0 request) (createEoaSiweChallenge env (challengeInput address runtime.chainId)).run unusedTables
      (.ok (challengeOf runtime address nonce 0)) (challengedTables runtime address nonce) := by
  rw [createEoaSiweChallenge, parse_challengeInput, settle_ok_bind, resolved, settle_ok_bind, settled_eq (not_not.mpr rfl),
    settle_ok_bind]
  have clocked : authSystem.exec 0 request .clock unusedTables (0 : Int) ⟨[], [], 0, [(0, ⟨.clock, (0 : Int)⟩)]⟩ :=
    ⟨⟨rfl, rfl⟩, rfl, rfl⟩
  have drew : authSystem.exec 0 request .randomToken ⟨[], [], 0, [(0, ⟨.clock, (0 : Int)⟩)]⟩ nonce
      ⟨[], [], 0, [(0, ⟨.clock, (0 : Int)⟩), (0, ⟨.randomToken, nonce⟩)]⟩ := by
    refine ⟨⟨token, ?_, rfl, rfl⟩, rfl, rfl⟩
    intro entry member
    cases List.mem_singleton.mp member
    exact fun drew => (nomatch drew)
  have inserted : authSystem.exec 0 request (.insertNonce (challengeOf runtime address nonce 0).stored challengeTtlMs)
      ⟨[], [], 0, [(0, ⟨.clock, (0 : Int)⟩), (0, ⟨.randomToken, nonce⟩)]⟩ Insertion.inserted (challengedTables runtime address nonce) :=
    ⟨⟨fun row member => absurd member List.not_mem_nil, rfl, rfl⟩, rfl, rfl⟩
  exact .call clocked (.call drew (.call inserted .done))

omit [UrlParser] [DateText] [Sha256] [PasskeyCodec] in
theorem map_runs {exec : Semantics AuthCall AuthCall.Answer AuthState} {α : Type} {work : AuthWork α} {respond : α → AuthResponse}
    {s final : AuthState} {result : α} (run : Runs exec work.run s (.ok result) final) :
    Runs exec (respond <$> work).run s (.ok (respond result)) final := by
  rw [ExceptT.run_map, map_eq_pure_bind]
  exact Runs.bind_iff.mpr ⟨_, _, run, .done⟩

theorem challenged_reach {address : EvmAddress} {nonce : String}
    (resolved : walletConnectRuntimeFromEnvironment runtime.chainId.value env = .ok runtime) (token : isOpaqueToken nonce = true) :
    AuthReach ⟨challengedTables runtime address nonce, [⟨.eoaChallenge env (challengeInput address runtime.chainId),
      .done (.ok (.eoaChallenge (challengeOf runtime address nonce 0)))⟩]⟩ := by
  have start : AuthReach ⟨unusedTables, []⟩ := .start ⟨rfl, rfl, rfl⟩
  refine start.handled trivial ?_
  exact map_runs (challenge_runs resolved token)

omit [PasskeyCodec] in
theorem authenticateEoa_shown (lawful : LawfulUrls) (dates : LawfulDates) (serves : runtime.Serves env url) (shown : url.port ≠ "")
    (resolved : walletConnectRuntimeFromEnvironment runtime.chainId.value env = .ok runtime) (address : EvmAddress)
    {nonce signature : String} (token : isOpaqueToken nonce = true) (signed : isSignature signature = true) :
    authenticateEoa env ((challengeOf runtime address nonce 0).reply signature) = AuthWork.settle (boundaryError
      .siweContextMismatch "Wallet proof context does not match this application." "contact_support") := by
  have ttl : sessionTtlMs = 900000 := rfl
  obtain ⟨given, readBack, repeats, _⟩ := read_reply lawful dates serves address token (Int.le_refl 0) (by omega) signed
  have parse : parseEoaSiweAuthenticationRequest ((challengeOf runtime address nonce 0).reply signature) = .ok given :=
    required_eq_ok.mpr readBack
  have chain : given.chainId = runtime.chainId.value := repeats.chainId
  rw [authenticateEoa, parse, settle_ok_bind, chain, resolved, settle_ok_bind, settled_eq (not_not.mpr rfl), settle_ok_bind,
    verifySiweRequest, serves.validateContext lawful, if_neg shown]
  rfl

theorem not_siweRedeemable (lawful : LawfulUrls) (dates : LawfulDates) (serves : runtime.Serves env url) (shown : url.port ≠ "")
    (resolved : walletConnectRuntimeFromEnvironment runtime.chainId.value env = .ok runtime) :
    ¬SiweRedeemable env runtime.chainId.value := by
  intro redeemable
  obtain ⟨nonce, token⟩ : ∃ nonce, isOpaqueToken nonce = true := ⟨String.ofList (List.replicate 43 'A'), by decide⟩
  obtain ⟨signature, signed⟩ : ∃ signature, isSignature signature = true := ⟨"0x00", by decide⟩
  obtain ⟨address⟩ : Nonempty EvmAddress := ⟨"0x0000000000000000000000000000000000000000", by decide⟩
  have refused := authenticateEoa_shown lawful dates serves shown resolved address token signed
  have dated : Dated (challengedTables runtime address nonce).log := by
    intro i time member
    simp only [challengedTables, List.mem_cons, List.not_mem_nil, or_false] at member
    rcases member with same | same | same
    · cases same
      decide
    · cases same
    · cases same
  obtain ⟨session, _, accepted, _⟩ := redeemable _ 1 0 _ _ _ signature _ _ (challenged_reach resolved token) dated
    (parse_challengeInput address runtime.chainId) rfl rfl signed (show (0 : Int) < 0 + challengeTtlMs by decide) (by
      intro row member _
      cases List.mem_singleton.mp member
      rfl) (by
      rw [refused]
      exact .done)
  cases accepted

end

def localUrl (port : String) : ParsedUrl :=
  ⟨"http:", "", "", "localhost", port, "/", "", "", "http://" ++ (if port = "" then "localhost" else "localhost:" ++ port) ++ "/"⟩

def parseLocal (text : String) : Option ParsedUrl :=
  if text = "http://localhost" ∨ text = "http://localhost/" then some (localUrl "")
  else if text = "http://localhost:3000" ∨ text = "http://localhost:3000/" then some (localUrl "3000")
  else none

@[reducible] def localUrls : UrlParser := ⟨parseLocal⟩

theorem parseLocal_eq {text : String} {url : ParsedUrl} (parsed : parseLocal text = some url) :
    url = localUrl "" ∨ url = localUrl "3000" := by
  unfold parseLocal at parsed
  split at parsed
  · exact .inl (Option.some.inj parsed).symm
  · split at parsed
    · exact .inr (Option.some.inj parsed).symm
    · cases parsed

theorem localUrls_lawful : @LawfulUrls localUrls := by
  refine @LawfulUrls.mk localUrls ?_ ?_ ?_ ?_
  · intro text url parsed _
    have same : url.hostname = "localhost" := by rcases parseLocal_eq parsed with rfl | rfl <;> rfl
    have visible : ("localhost".toList.all fun c => !isTrimmed c) = true := by decide
    intro c member
    rw [same] at member
    exact Bool.not_eq_true' _ ▸ List.all_eq_true.mp visible c member
  · intro text url parsed _
    rcases parseLocal_eq parsed with rfl | rfl <;> exact fun empty => (nomatch empty)
  · intro text url parsed _
    rcases parseLocal_eq parsed with rfl | rfl
    · rfl
    · rfl
  · intro text url parsed _
    rcases parseLocal_eq parsed with rfl | rfl
    · rfl
    · rfl

def localEnvironment (appUrl : String) : Environment where
  appUrl := some appUrl
  databaseUrl := some "postgres://localhost/bnbera"
  walletConnectAuthEnabled := some "true"

def localRuntime (appOrigin : String) : AuthRuntime :=
  ⟨"postgres://localhost/bnbera", false, appOrigin, "localhost", .testnet⟩

/-- The text of a time: the two that a challenge at the beginning of time shows as they are, the others in milliseconds. -/
def epochText (time : Int) : String :=
  if time = 0 then "1970-01-01T00:00:00.000Z"
  else if time = sessionTtlMs then "1970-01-01T00:15:00.000Z"
  else (if time < 0 then "-" else "+") ++ time.natAbs.repr

def epochRead (text : String) : Option Int :=
  if text = "1970-01-01T00:00:00.000Z" then some 0
  else if text = "1970-01-01T00:15:00.000Z" then some sessionTtlMs
  else match text.toList with
    | '-' :: digits => some (-(decimalValue (String.ofList digits) : Int))
    | '+' :: digits => some (decimalValue (String.ofList digits))
    | _ => none

@[reducible] def epochDates : DateText where
  toISOString := epochText
  coerce
    | .str text => epochRead text
    | _ => none

theorem epochRead_plus (n : Nat) : epochRead ("+" ++ n.repr) = some (n : Int) := by
  have text : ("+" ++ n.repr).toList = '+' :: n.repr.toList := String.toList_append
  unfold epochRead
  rw [if_neg, if_neg, text]
  · exact congrArg (fun value : Nat => some (value : Int)) (decimalValue_repr n)
  · exact fun same => (nomatch text.symm.trans (congrArg String.toList same))
  · exact fun same => (nomatch text.symm.trans (congrArg String.toList same))

theorem epochRead_minus (n : Nat) : epochRead ("-" ++ n.repr) = some (-(n : Int)) := by
  have text : ("-" ++ n.repr).toList = '-' :: n.repr.toList := String.toList_append
  unfold epochRead
  rw [if_neg, if_neg, text]
  · exact congrArg (fun value : Nat => some (-(value : Int))) (decimalValue_repr n)
  · exact fun same => (nomatch text.symm.trans (congrArg String.toList same))
  · exact fun same => (nomatch text.symm.trans (congrArg String.toList same))

theorem epochRead_text (time : Int) : epochRead (epochText time) = some time := by
  unfold epochText
  by_cases start : time = 0
  · rw [if_pos start, start]
    rfl
  · rw [if_neg start]
    by_cases later : time = sessionTtlMs
    · rw [if_pos later, later]
      rfl
    · rw [if_neg later]
      by_cases negative : time < 0
      · rw [if_pos negative, epochRead_minus]
        exact congrArg some (by omega)
      · rw [if_neg negative, epochRead_plus]
        exact congrArg some (by omega)

theorem length_repr {n : Nat} (small : n < 10 ^ 16) : (utf16Units n.repr).length ≤ 16 := by
  have digits : ∀ c ∈ n.repr.toList, c.toNat < 0x10000 := by
    intro c member
    rw [Nat.repr_eq_ofList_toDigits, String.toList_ofList] at member
    have digit := Nat.isDigit_of_mem_toDigits (by decide) (by decide) member
    simp only [Char.isDigit, Bool.and_eq_true, decide_eq_true_eq] at digit
    have bound : c.toNat ≤ 57 := digit.2
    omega
  rw [length_utf16Units_small digits, String.length_toList]
  exact (Nat.length_repr_le_iff (by decide)).mpr small

theorem epochDates_lawful : @LawfulDates epochDates := by
  refine @LawfulDates.mk epochDates ?_ ?_
  · intro time _
    exact epochRead_text time
  · intro time range
    show (utf16Units (epochText time)).length ≤ 27
    have digits := length_repr (n := time.natAbs) (by omega)
    have minus : (utf16Units "-").length = 1 := rfl
    have plus : (utf16Units "+").length = 1 := rfl
    unfold epochText
    split
    · decide
    · split
      · decide
      · rw [utf16Units_append, List.length_append]
        split <;> omega

def localNonce : String := String.ofList (List.replicate 43 'A')

def localToken : String := String.ofList (List.replicate 43 'B')

def localAddress : EvmAddress := ⟨"0x00000000000000000000000000000000000000aa", by decide⟩

@[reducible] def localSha256 : Sha256 where
  sha256Hex text :=
    if text = "siwe-v1\nlocalhost\n97\n0x00000000000000000000000000000000000000aa\nAAAAAAAAAAAAAAAAAAAAAAAAAAAAAAAAAAAAAAAAAAA" then
      ⟨"ee8e0f324d2c13f56ce6d6d6d65e49dc4eaaa3dddef58ce1a2efdbde0df481cc", by decide +kernel, by decide +kernel⟩
    else if text = localToken then ⟨"412dc46cc9e3cb26f29f7c1415c556349af62904c5d15b0a2d8cfdc5cfa22b34", by decide +kernel, by decide +kernel⟩
    else ⟨"e3b0c44298fc1c149afbf4c8996fb92427ae41e4649b934ca495991b7852b855", by decide +kernel, by decide +kernel⟩

@[reducible] def noPasskeys : PasskeyCodec := ⟨fun _ => none, fun _ => none, fun text => text⟩

section
variable [UrlParser] [DateText] [Sha256] [PasskeyCodec] {env : Environment} {runtime : AuthRuntime}

/-- Every challenge of both flows can be redeemed exactly if the application URL is on the default port of its scheme. -/
theorem redeemable_iff_defaultPort (lawful : LawfulUrls) (dates : LawfulDates) {chainId : ChainId}
    (enabled : walletConnectRuntimeFromEnvironment chainId env = .ok runtime) :
    (SiweRedeemable env chainId ∧ ∀ lock, PasskeyRedeemable lock env) ↔ DefaultPort env := by
  constructor
  · rintro ⟨redeemable, _⟩ url parsed
    cases walletConnect_chain enabled
    obtain ⟨served, serves⟩ := walletConnect_serves enabled
    cases Option.some.inj (serves.parsed.symm.trans parsed)
    by_contra shown
    exact not_siweRedeemable lawful dates serves shown enabled redeemable
  · intro default
    exact ⟨siweRedeemable_of_defaultPort lawful dates default, fun lock => passkeyRedeemable lawful lock env⟩

end

/-- The default address of the application shows a port. -/
theorem localhost_not_redeemable :
    @walletConnectRuntimeFromEnvironment localUrls BscChainId.testnet.value (localEnvironment "http://localhost:3000") =
        .ok (localRuntime "http://localhost:3000") ∧
      ¬@SiweRedeemable localUrls epochDates localSha256 noPasskeys (localEnvironment "http://localhost:3000")
        BscChainId.testnet.value := by
  refine ⟨rfl, ?_⟩
  have serves : @AuthRuntime.Serves localUrls (localRuntime "http://localhost:3000") (localEnvironment "http://localhost:3000")
      (localUrl "3000") := @AuthRuntime.Serves.mk localUrls _ _ _ rfl rfl (by decide) rfl rfl
  exact @not_siweRedeemable localUrls epochDates localSha256 noPasskeys _ (localRuntime "http://localhost:3000") _
    localUrls_lawful epochDates_lawful serves (by decide) rfl

theorem redeemable_iff_defaultPort_localhost :
    (@SiweRedeemable localUrls epochDates localSha256 noPasskeys (localEnvironment "http://localhost") BscChainId.testnet.value ∧
      ∀ lock, @PasskeyRedeemable localUrls epochDates localSha256 noPasskeys lock (localEnvironment "http://localhost")) ↔
        @DefaultPort localUrls (localEnvironment "http://localhost") :=
  @redeemable_iff_defaultPort localUrls epochDates localSha256 noPasskeys _ (localRuntime "http://localhost") localUrls_lawful
    epochDates_lawful _ rfl

end Bnbera.Auth
