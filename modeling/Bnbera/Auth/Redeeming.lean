import Bnbera.Auth.Readback
import Bnbera.Auth.Sessions

namespace Bnbera.Auth

open Interleaving System

section
variable [UrlParser] [DateText] [Sha256] [PasskeyCodec]

def Dated (log : List (Nat × AuthEntry)) : Prop :=
  ∀ i time, (i, (⟨.clock, time⟩ : AuthEntry)) ∈ log → 0 ≤ time ∧ time + sessionTtlMs ≤ 8640000000000000

def Serving (issuedAt expiresAt : Int) : AuthEntry → Prop
  | ⟨.clock, time⟩ => issuedAt ≤ time ∧ time < expiresAt
  | ⟨.consumeNonce _, answer⟩ => ∃ consumed, answer = .ok consumed
  | ⟨.createSession _, answer⟩ => answer = .ok ()
  | _ => True

def Signs (challenge : EoaSiweChallenge) (signature : String) : AuthEntry → Prop
  | ⟨.verifyMessage address message given, answer⟩ => normalizeEvmAddress address = challenge.address →
      message = challenge.message → given = signature → answer = .ok true
  | _ => True

def EoaSiweChallenge.stored (challenge : EoaSiweChallenge) : NonceInput :=
  ⟨challenge.domain, challenge.chainId, challenge.nonce, some challenge.address⟩

def During (i : Nat) (request : AuthRequest) (answers : AuthEntry → Prop) : Semantics AuthCall AuthCall.Answer AuthState :=
  fun op before answer after => authSystem.exec i request op before answer after ∧ answers ⟨op, answer⟩

def SiweRedeemable (env : Environment) (chainId : ChainId) : Prop := ∀ (pool : AuthPool) (i j : Nat) input request challenge signature result final,
  AuthReach pool → Dated pool.state.log → parseEoaSiweChallengeRequest input = .ok request → request.chainId = chainId →
  pool.threads[j]? = some ⟨.eoaChallenge env input, .done (.ok (.eoaChallenge challenge))⟩ → isSignature signature = true →
  pool.state.now < challenge.expiresAt →
  (∀ row ∈ pool.state.nonces, row.Holds challenge.stored → row.consumedAt = none) →
  Runs (During i (.eoaSignIn env (challenge.reply signature)) fun entry =>
      Serving challenge.issuedAt challenge.expiresAt entry ∧ Signs challenge signature entry)
    (authenticateEoa env (challenge.reply signature)).run pool.state result final →
  ∃ session opened, result = .ok session ∧ session.walletAddress = normalizeEvmAddress request.address ∧
    session.chainId = chainId ∧ final.sessions = pool.state.sessions ++ [(i, opened)] ∧
    opened.walletAddress = session.walletAddress ∧ opened.chainId = chainId

omit [UrlParser] [DateText] [Sha256] [PasskeyCodec] in
theorem issueNonce_returns {domain : String} {chainId : ChainId} {walletAddress : Option String} {issuedAt : Int} (attempts : Nat)
    {history : AuthCalls} : Keeps (fun _ _ => True) (fun result history => ∀ issued, result = .ok issued →
        issued.expiresAt = issuedAt + challengeTtlMs ∧
        ⟨.insertNonce ⟨domain, chainId, issued.nonce, walletAddress⟩ (issuedAt + challengeTtlMs), .inserted⟩ ∈ history)
      (issueNonce domain chainId walletAddress issuedAt attempts).run history := by
  induction attempts generalizing history with
  | zero => exact .done fun _ same => (nomatch same)
  | succ attempts ih =>
    refine Keeps.ask_bind trivial fun nonce => Keeps.ask_bind trivial fun answer => ?_
    cases answer with
    | inserted =>
      refine .done fun issued same => ?_
      cases same
      exact ⟨rfl, List.mem_append_right _ (List.mem_singleton_self _)⟩
    | duplicate => exact ih
    | failed => exact .done fun _ same => (nomatch same)

omit [Sha256] [PasskeyCodec] in
theorem createEoaSiweChallenge_returns (env : Environment) (input : Json) :
    Keeps (fun _ _ => True) (fun result history => ∀ challenge, result = .ok challenge → ∃ request runtime now,
        parseEoaSiweChallengeRequest input = .ok request ∧ walletConnectRuntimeFromEnvironment request.chainId env = .ok runtime ∧
        request.chainId = runtime.chainId.value ∧ challenge = challengeOf runtime request.address challenge.nonce now ∧
        ⟨.clock, now⟩ ∈ history ∧ ⟨.insertNonce challenge.stored (now + challengeTtlMs), .inserted⟩ ∈ history)
      (createEoaSiweChallenge env input).run [] := by
  have failed : ∀ (error : AuthFailure) (history : AuthCalls), ∀ challenge : EoaSiweChallenge,
      .error error = (.ok challenge : Except AuthFailure EoaSiweChallenge) → ∃ request runtime now,
        parseEoaSiweChallengeRequest input = .ok request ∧ walletConnectRuntimeFromEnvironment request.chainId env = .ok runtime ∧
        request.chainId = runtime.chainId.value ∧ challenge = challengeOf runtime request.address challenge.nonce now ∧
        ⟨.clock, now⟩ ∈ history ∧ ⟨.insertNonce challenge.stored (now + challengeTtlMs), .inserted⟩ ∈ history :=
    fun _ _ _ same => (nomatch same)
  refine Keeps.settle_bind (fun _ => failed _ _) fun request parsed => ?_
  refine Keeps.settle_bind (fun _ => failed _ _) fun runtime resolved => ?_
  refine Keeps.settle_bind (fun _ => failed _ _) fun _ passed => Keeps.ask_bind trivial fun now => ?_
  refine Keeps.except_bind ((issueNonce_returns 3).grows.post ?_)
  rintro (error | issued) history ⟨stored, grown⟩
  · exact failed _ _
  · obtain ⟨expires, inserted⟩ := stored issued rfl
    refine .done fun challenge same => ?_
    cases same
    refine ⟨request, runtime, now, parsed, resolved, not_not.mp (rejectIf_eq_ok.mp passed), ?_,
      grown _ (List.mem_singleton_self _), inserted⟩
    rw [expires]
    rfl

variable {i : Nat} {request : AuthRequest} {answers : AuthEntry → Prop} {s final : AuthState} {α β : Type}

omit [UrlParser] [DateText] [Sha256] [PasskeyCodec] in
theorem ask_runs {exec : Semantics AuthCall AuthCall.Answer AuthState} {call : AuthCall} {rest : call.Answer → AuthWork α}
    {result : Except AuthFailure α} : Runs exec (AuthWork.ask call >>= rest).run s result final ↔ ∃ answer middle,
      exec call s answer middle ∧ Runs exec (rest answer).run middle result final :=
  Runs.call_iff

omit [UrlParser] [DateText] [Sha256] [PasskeyCodec] in
theorem settle_ok_bind (value : β) (rest : β → AuthWork α) : AuthWork.settle (.ok value) >>= rest = rest value := rfl

omit [UrlParser] [DateText] [Sha256] [PasskeyCodec] in
theorem answered_ok_bind (value : β) (rejection : Except AuthFailure β) (rest : β → AuthWork α) :
    AuthWork.answered (.ok value) rejection >>= rest = rest value := rfl

theorem createSession_runs {walletAddress : String} {chainId : ChainId} {result : Except AuthFailure AuthenticatedSession}
    (stored : ∀ session answer, answers ⟨.createSession session, answer⟩ → answer = .ok ())
    (run : Runs (During i request answers) (createSession walletAddress chainId).run s result final) :
    ∃ session opened, result = .ok session ∧ session.walletAddress = walletAddress ∧ session.chainId = chainId ∧
      final.sessions = s.sessions ++ [(i, opened)] ∧ opened.walletAddress = walletAddress ∧ opened.chainId = chainId := by
  obtain ⟨issuedAt, s₁, ⟨⟨clocked, _⟩, _⟩, run⟩ := ask_runs.mp run
  obtain ⟨token, s₂, ⟨⟨drew, _⟩, _⟩, run⟩ := ask_runs.mp run
  obtain ⟨answer, s₃, ⟨⟨created, _⟩, served⟩, run⟩ := ask_runs.mp run
  cases stored _ _ served
  obtain ⟨rfl, rfl⟩ := Runs.done_iff.mp run
  refine ⟨_, ⟨Sha256.sha256Hex token, walletAddress, chainId, issuedAt, issuedAt + sessionTtlMs⟩, rfl, rfl, rfl, ?_, rfl, rfl⟩
  rw [created.2, drew.2.2.2, clocked.2]

omit [UrlParser] [DateText] [Sha256] [PasskeyCodec] in
theorem settled_eq {fails : Prop} [Decidable fails] (passes : ¬fails) (rejection : Except AuthFailure Unit) :
    rejectIf fails rejection = .ok () := if_neg passes

omit [DateText] [Sha256] [PasskeyCodec] in
theorem walletConnect_serves {chainId : ChainId} {env : Environment} {runtime : AuthRuntime}
    (resolved : walletConnectRuntimeFromEnvironment chainId env = .ok runtime) : ∃ url, runtime.Serves env url := by
  unfold walletConnectRuntimeFromEnvironment at resolved
  obtain ⟨chain, _, resolved⟩ := bind_eq_ok.mp resolved
  obtain ⟨base, accepted, resolved⟩ := bind_eq_ok.mp resolved
  cases resolved
  obtain ⟨url, serves⟩ := runtimeFromEnvironment_serves accepted
  exact ⟨url, serves.parsed, serves.http, serves.short, serves.origin, serves.rpId⟩

omit [UrlParser] [DateText] [PasskeyCodec] in
theorem consumable_eq {before after : AuthState} {input : NonceInput} (nonces : after.nonces = before.nonces)
    (now : after.now = before.now) : after.consumable input = before.consumable input := by
  obtain ⟨_, _, _, _⟩ := before
  obtain ⟨_, _, _, _⟩ := after
  cases nonces
  cases now
  rfl

theorem consume_runs {nonce : NonceInput} {answer : Except Unit Bool} {middle : AuthState}
    (there : (s.consumable nonce).length = 1) (served : ∃ consumed, answer = .ok consumed)
    (called : authSystem.exec i request (.consumeNonce nonce) s answer middle) :
    answer = .ok true ∧ middle.sessions = s.sessions := by
  obtain ⟨consumed, rfl⟩ := served
  obtain ⟨⟨same, _, sessions⟩, _⟩ := called
  rw [there] at same
  exact ⟨congrArg Except.ok same, sessions⟩

variable {runtime : AuthRuntime} {env : Environment} {url : ParsedUrl}

/-- On the default port a challenge that its wallet signed is accepted. -/
theorem verifySiweRequest_runs (lawful : LawfulUrls) (serves : runtime.Serves env url) (hidden : url.port = "")
    {address : EvmAddress} {nonce signature : String} {now : Int} {given : SiweRequest} {rest : String → AuthWork α}
    {result : Except AuthFailure α} (repeats : given.Repeats (challengeOf runtime address nonce now))
    (signed : given.signature.text = signature)
    (there : (s.consumable (challengeOf runtime address nonce now).stored).length = 1)
    (run : Runs (During i request fun entry => Serving now (now + challengeTtlMs) entry ∧
      Signs (challengeOf runtime address nonce now) signature entry) (verifySiweRequest runtime given >>= rest).run s result final) :
    ∃ middle, middle.sessions = s.sessions ∧
      Runs (During i request fun entry => Serving now (now + challengeTtlMs) entry ∧
        Signs (challengeOf runtime address nonce now) signature entry) (rest (normalizeEvmAddress address)).run middle result final := by
  have small : lower runtime.rpId = runtime.rpId := by rw [serves.rpId, lower_lower]
  have sameAddress : normalizeEvmAddress given.address = normalizeEvmAddress address := by
    have text : given.address.text = normalizeEvmAddress address := repeats.address
    rw [normalizeEvmAddress, text, normalizeEvmAddress, lower_lower]
  have canonical : given.message.text = formatSiweMessage given.fields := repeats.message.trans repeats.canonical
  have sameNonce : given.nonce.text = nonce := repeats.nonce
  have sameChain : given.chainId = runtime.chainId.value := repeats.chainId
  rw [verifySiweRequest, serves.validateContext lawful, if_pos hidden, bind_assoc, settle_ok_bind, bind_assoc] at run
  obtain ⟨nowMs, s₁, ⟨⟨clocked, clockNow, _⟩, ⟨after, before⟩, _⟩, run⟩ := ask_runs.mp run
  rw [bind_assoc, validateSiweRequest_repeats lawful serves hidden repeats after before, settle_ok_bind, bind_assoc,
    verifyEoaProof, bind_assoc, settled_eq (not_not.mpr canonical), settle_ok_bind, bind_assoc] at run
  obtain ⟨verified, s₂, ⟨⟨checked, checkedNow, _⟩, _, answers⟩, run⟩ := ask_runs.mp run
  cases answers sameAddress repeats.message signed
  rw [bind_assoc, answered_ok_bind, settled_eq (by simp), settle_ok_bind, bind_assoc] at run
  obtain ⟨answer, s₃, ⟨consuming, served, _⟩, run⟩ := ask_runs.mp run
  have stored : (⟨runtime.rpId, given.chainId, given.nonce.text, some (normalizeEvmAddress given.address)⟩ : NonceInput) =
      (challengeOf runtime address nonce now).stored := by
    rw [sameAddress, sameNonce, sameChain]
    rfl
  have present : (s₂.consumable ⟨runtime.rpId, given.chainId, given.nonce.text, some (normalizeEvmAddress given.address)⟩).length = 1 := by
    rw [stored, consumable_eq checked.1 checkedNow, consumable_eq clocked.1 clockNow, there]
  obtain ⟨rfl, sessions⟩ := consume_runs present served consuming
  rw [bind_assoc, answered_ok_bind, bind_assoc, settled_eq (by simp), settle_ok_bind, pure_bind, sameAddress] at run
  exact ⟨s₃, by rw [sessions, checked.2, clocked.2], run⟩

theorem AuthReach.challenged {pool : AuthPool} (reach : AuthReach pool) {j : Nat} {input : Json} {challenge : EoaSiweChallenge}
    (found : pool.threads[j]? = some ⟨.eoaChallenge env input, .done (.ok (.eoaChallenge challenge))⟩) :
    ∃ request runtime now, parseEoaSiweChallengeRequest input = .ok request ∧
      walletConnectRuntimeFromEnvironment request.chainId env = .ok runtime ∧ request.chainId = runtime.chainId.value ∧
      challenge = challengeOf runtime request.address challenge.nonce now ∧ (j, ⟨.clock, now⟩) ∈ pool.state.log ∧
      (j, ⟨.insertNonce challenge.stored (now + challengeTtlMs), .inserted⟩) ∈ pool.state.log := by
  have empty : ∀ s : AuthState, s.Initial → s.log = [] := fun _ first => first.2.2
  have keeps := (createEoaSiweChallenge_returns env input).renamed AuthResponse.eoaChallenge
  obtain ⟨inner, same, returned⟩ := ((System.Reach.follows reach auth_logs empty found).keeps keeps).result
  obtain ⟨made, rfl, renamed⟩ := map_eq_ok.mp same.symm
  cases renamed
  obtain ⟨request, runtime, now, parsed, resolved, chain, shape, clocked, stored⟩ := returned challenge rfl
  exact ⟨request, runtime, now, parsed, resolved, chain, shape, mem_ownCalls.mp clocked, mem_ownCalls.mp stored⟩

theorem AuthReach.stored_token {pool : AuthPool} (reach : AuthReach pool) {j : Nat} {nonce : NonceInput} {expiresAt : Int}
    {answer : Insertion} (member : (j, ⟨.insertNonce nonce expiresAt, answer⟩) ∈ pool.state.log) :
    isOpaqueToken nonce.nonce = true := by
  obtain ⟨_, _, _, _, earlier, later, split⟩ := reach.issued member
  refine reach.consistent.formats (j, nonce.nonce) (mem_shown.mpr ⟨⟨.randomToken, nonce.nonce⟩, mem_ownCalls.mp ?_, rfl⟩)
  rw [split]
  exact List.mem_append_right _ List.mem_cons_self

def DefaultPort (env : Environment) : Prop := ∀ url ∈ UrlParser.parse (applicationUrl env), url.port = ""

theorem siweRedeemable_of_defaultPort (lawful : LawfulUrls) (dates : LawfulDates) {chainId : ChainId} (default : DefaultPort env) :
    SiweRedeemable env chainId := by
  intro pool i j input request challenge signature result final reach dated parsed sameChain found signed live unconsumed run
  obtain ⟨known, runtime, now, parsed', resolved, chain, shape, clocked, stored⟩ := reach.challenged found
  cases Except.ok.inj (parsed.symm.trans parsed')
  obtain ⟨url, serves⟩ := walletConnect_serves resolved
  obtain ⟨start, range⟩ := dated j now clocked
  have token := reach.stored_token stored
  have there := reach.consumable stored (by rw [shape] at live; exact live) unconsumed
  generalize challenge.nonce = nonce at shape
  subst shape
  obtain ⟨given, readBack, repeats, givenSignature⟩ := read_reply lawful dates serves request.address token start range signed
  have parse : parseEoaSiweAuthenticationRequest ((challengeOf runtime request.address nonce now).reply signature) = .ok given :=
    required_eq_ok.mpr readBack
  have givenChain : given.chainId = runtime.chainId.value := repeats.chainId
  rw [authenticateEoa, parse, settle_ok_bind, givenChain, ← chain, resolved, settle_ok_bind,
    settled_eq (not_not.mpr chain), settle_ok_bind] at run
  obtain ⟨middle, kept, run⟩ := verifySiweRequest_runs lawful serves (default url serves.parsed) repeats givenSignature there run
  obtain ⟨session, opened, rfl, wallet, sessionChain, sessions, openedWallet, openedChain⟩ :=
    createSession_runs (fun _ _ served => served.1) run
  refine ⟨session, opened, rfl, wallet, sessionChain.trans sameChain, ?_, openedWallet.trans wallet.symm,
    openedChain.trans sameChain⟩
  rw [sessions, kept]

end

section
variable [UrlParser] [DateText] [Sha256] [PasskeyCodec]

def WebAuthnChallenge.stored (challenge : WebAuthnChallenge) (chainId : ChainId) : NonceInput :=
  ⟨challenge.rpId, chainId, challenge.challenge, none⟩

structure Assertion (challenge : WebAuthnChallenge) (input : Json) (request : ChallengeRequest) (response : PasskeyResponse) :
    Prop where
  parsed : parsePasskeyRequest input = .ok request
  read : (responseOf input).bind PasskeyResponse.read = some response
  ids : response.id = response.rawId
  wallet : walletAddressFromUserHandle response.userHandle = .ok (normalizeEvmAddress request.address)
  challenge : ∃ text, signedChallenge response = .ok text ∧ text.text = challenge.challenge

def Asserts (challenge : WebAuthnChallenge) (response : PasskeyResponse) (key : AltanaAdminKey) : AuthEntry → Prop
  | ⟨.readAdminKeys _ _, answer⟩ => ∃ keys, answer = .ok keys ∧ keys.length ≤ 32 ∧ key ∈ keys
  | ⟨.verifyAssertion signer made text origin rpId, answer⟩ => signer = key → made = response → text = challenge.challenge →
      origin = challenge.origin → rpId = challenge.rpId → answer = .ok true
  | _ => True

/-- Every passkey challenge can be redeemed with an assertion of a root key until it expires or was consumed. -/
def PasskeyRedeemable (lock : Bool) (env : Environment) : Prop := ∀ (pool : AuthPool) (i j : Nat) given first input request
    challenge issuedAt response key result final,
  AuthReach pool → pool.threads[j]? = some ⟨.passkeyChallenge lock env given, .done (.ok (.passkeyChallenge challenge))⟩ →
  parsePasskeyRequest given = .ok first → Assertion challenge input request response → request.chainId = first.chainId →
  isCurrentRootKey key = true → pool.state.now < challenge.expiresAt →
  (∀ row ∈ pool.state.nonces, row.Holds (challenge.stored request.chainId) → row.consumedAt = none) →
  Runs (During i (.passkeySignIn lock env input) fun entry =>
      Serving issuedAt challenge.expiresAt entry ∧ Asserts challenge response key entry)
    (authenticatePasskey lock env input).run pool.state result final →
  ∃ session opened, result = .ok session ∧ session.walletAddress = normalizeEvmAddress request.address ∧
    session.chainId = request.chainId ∧ final.sessions = pool.state.sessions ++ [(i, opened)] ∧
    opened.walletAddress = session.walletAddress ∧ opened.chainId = request.chainId

variable {i j : Nat} {request : AuthRequest} {answers : AuthEntry → Prop} {s final : AuthState} {α : Type}
  {runtime : AuthRuntime} {env : Environment} {url : ParsedUrl}

omit [DateText] [Sha256] [PasskeyCodec] in
theorem altana_serves {lock : Bool} (resolved : altanaRuntimeFromEnvironment lock env = .ok runtime) :
    ∃ url, runtime.Serves env url := by
  unfold altanaRuntimeFromEnvironment at resolved
  obtain ⟨base, accepted, resolved⟩ := bind_eq_ok.mp resolved
  obtain ⟨_, _, resolved⟩ := bind_eq_ok.mp resolved
  obtain ⟨_, _, resolved⟩ := bind_eq_ok.mp resolved
  obtain ⟨_, _, resolved⟩ := bind_eq_ok.mp resolved
  cases resolved
  exact runtimeFromEnvironment_serves accepted

/-- One of the keys that are tried verifies the assertion. -/
theorem verifyWithKeys_runs {challenge : WebAuthnChallenge} {response : PasskeyResponse} {key : AltanaAdminKey}
    {context : WebAuthnContext} {keys : List AltanaAdminKey} {result : Except AuthFailure Bool}
    (origin : context.origin = challenge.origin) (rpId : context.rpId = challenge.rpId) (current : isCurrentRootKey key = true)
    (asserts : ∀ entry, answers entry → Asserts challenge response key entry) (known : key ∈ keys)
    (run : Runs (During i request answers) (verifyWithKeys response challenge.challenge context keys).run s result final) :
    result = .ok true ∧ final.nonces = s.nonces ∧ final.now = s.now ∧ final.sessions = s.sessions := by
  induction keys generalizing s with
  | nil => cases known
  | cons first rest ih =>
    unfold verifyWithKeys at run
    by_cases root : isCurrentRootKey first = true
    · rw [if_pos root] at run
      obtain ⟨answer, middle, ⟨⟨called, now, _⟩, served⟩, run⟩ := ask_runs.mp run
      by_cases same : first = key
      · cases asserts _ served same rfl rfl origin rpId
        obtain ⟨rfl, rfl⟩ := Runs.done_iff.mp run
        exact ⟨rfl, called.1, now, called.2⟩
      · have later := (List.mem_cons.mp known).resolve_left (Ne.symm same)
        rcases answer with _ | _ | _
        · obtain ⟨verified, nonces, now', sessions⟩ := ih later run
          exact ⟨verified, nonces.trans called.1, now'.trans now, sessions.trans called.2⟩
        · obtain ⟨verified, nonces, now', sessions⟩ := ih later run
          exact ⟨verified, nonces.trans called.1, now'.trans now, sessions.trans called.2⟩
        · obtain ⟨rfl, rfl⟩ := Runs.done_iff.mp run
          exact ⟨rfl, called.1, now, called.2⟩
    · rw [if_neg root] at run
      have later := (List.mem_cons.mp known).resolve_left fun same => root (same ▸ current)
      exact ih later run

/-- A well-formed assertion by a root key over an open challenge is accepted. -/
theorem verifyAltanaPasskeyAssertion_runs (lawful : LawfulUrls) (serves : runtime.Serves env url) {challenge : WebAuthnChallenge}
    {input : Json} {given : ChallengeRequest} {response : PasskeyResponse} {key : AltanaAdminKey} {rest : Unit → AuthWork α}
    {issuedAt : Int} {result : Except AuthFailure α} (assertion : Assertion challenge input given response)
    (origin : challenge.origin = url.origin) (rpId : challenge.rpId = runtime.rpId) (chain : given.chainId = runtime.chainId.value)
    (current : isCurrentRootKey key = true) (there : (s.consumable (challenge.stored given.chainId)).length = 1)
    (run : Runs (During i request fun entry => Serving issuedAt challenge.expiresAt entry ∧ Asserts challenge response key entry)
      (verifyAltanaPasskeyAssertion runtime (normalizeEvmAddress given.address) given.chainId (responseOf input) >>= rest).run
      s result final) :
    ∃ middle, middle.sessions = s.sessions ∧
      Runs (During i request fun entry => Serving issuedAt challenge.expiresAt entry ∧ Asserts challenge response key entry)
        (rest ()).run middle result final := by
  obtain ⟨text, signed, sameText⟩ := assertion.challenge
  rw [verifyAltanaPasskeyAssertion, serves.validateWebAuthnContext lawful, bind_assoc, settle_ok_bind, bind_assoc,
    settled_eq (not_not.mpr chain), settle_ok_bind, bind_assoc, assertion.read, required, settle_ok_bind, bind_assoc,
    settled_eq (not_not.mpr assertion.ids), settle_ok_bind, bind_assoc, assertion.wallet, settle_ok_bind, bind_assoc,
    settled_eq (not_not.mpr rfl), settle_ok_bind, bind_assoc, signed, settle_ok_bind, bind_assoc] at run
  obtain ⟨answer, s₁, ⟨⟨readKeys, readNow, _⟩, _, keys, rfl, few, known⟩, run⟩ := ask_runs.mp run
  have some : ¬(keys = [] ∨ 32 < keys.length) := by
    rintro (empty | many)
    · rw [empty] at known
      cases known
    · omega
  rw [bind_assoc, answered_ok_bind, bind_assoc, settled_eq some, settle_ok_bind, bind_assoc, sameText] at run
  rcases Runs.except_bind_iff.mp run with ⟨error, run, _⟩ | ⟨verified, s₂, run, later⟩
  · obtain ⟨accepted, _⟩ := verifyWithKeys_runs origin.symm rpId.symm current (fun _ served => served.2) known run
    cases accepted
  · obtain ⟨accepted, nonces, now, sessions⟩ := verifyWithKeys_runs origin.symm rpId.symm current (fun _ served => served.2) known run
    cases accepted
    rw [bind_assoc, settled_eq (by simp), settle_ok_bind, bind_assoc] at later
    obtain ⟨answer, s₃, ⟨consuming, served, _⟩, later⟩ := ask_runs.mp later
    have present : (s₂.consumable ⟨runtime.rpId, runtime.chainId.value, challenge.challenge, none⟩).length = 1 := by
      rw [consumable_eq nonces now, consumable_eq readKeys.1 readNow, ← there, WebAuthnChallenge.stored, rpId, chain]
    obtain ⟨rfl, kept⟩ := consume_runs present served consuming
    rw [bind_assoc, answered_ok_bind, settled_eq (by simp), settle_ok_bind] at later
    exact ⟨s₃, by rw [kept, sessions, readKeys.2], later⟩

omit [DateText] [Sha256] [PasskeyCodec] in
theorem createPasskeyChallenge_returns (lawful : LawfulUrls) (lock : Bool) (env : Environment) (input : Json) :
    Keeps (fun _ _ => True) (fun result history => ∀ challenge, result = .ok challenge → ∃ request runtime url,
        parsePasskeyRequest input = .ok request ∧ altanaRuntimeFromEnvironment lock env = .ok runtime ∧
        request.chainId = runtime.chainId.value ∧ runtime.Serves env url ∧ challenge.origin = url.origin ∧
        challenge.rpId = runtime.rpId ∧
        ⟨.insertNonce (challenge.stored request.chainId) challenge.expiresAt, .inserted⟩ ∈ history)
      (createPasskeyChallenge lock env input).run [] := by
  refine Keeps.settle_bind (fun _ _ same => (nomatch same)) fun request parsed => ?_
  refine Keeps.settle_bind (fun _ _ same => (nomatch same)) fun runtime resolved => ?_
  refine Keeps.settle_bind (fun _ _ same => (nomatch same)) fun _ passed => Keeps.ask_bind trivial fun now => ?_
  obtain ⟨url, serves⟩ := altana_serves resolved
  have chain : request.chainId = runtime.chainId.value := not_not.mp (rejectIf_eq_ok.mp passed)
  refine Keeps.settle_bind (fun _ _ same => (nomatch same)) fun context validated => ?_
  rw [serves.validateWebAuthnContext lawful] at validated
  cases validated
  refine Keeps.except_bind (Keeps.except_catch ((issueNonce_returns 3).post ?_))
  rintro (error | issued) history stored
  · exact .done fun _ same => (nomatch same)
  · obtain ⟨expires, inserted⟩ := stored issued rfl
    refine Keeps.settle_bind (fun _ _ same => (nomatch same)) fun _ _ => .done fun challenge same => ?_
    cases same
    refine ⟨request, runtime, url, parsed, resolved, chain, serves, rfl, rfl, ?_⟩
    rw [expires, chain]
    exact inserted

theorem AuthReach.passkeyChallenged (lawful : LawfulUrls) {pool : AuthPool} (reach : AuthReach pool) {lock : Bool} {input : Json}
    {challenge : WebAuthnChallenge}
    (found : pool.threads[j]? = some ⟨.passkeyChallenge lock env input, .done (.ok (.passkeyChallenge challenge))⟩) :
    ∃ request runtime url, parsePasskeyRequest input = .ok request ∧ altanaRuntimeFromEnvironment lock env = .ok runtime ∧
      request.chainId = runtime.chainId.value ∧ runtime.Serves env url ∧ challenge.origin = url.origin ∧
      challenge.rpId = runtime.rpId ∧
      (j, ⟨.insertNonce (challenge.stored request.chainId) challenge.expiresAt, .inserted⟩) ∈ pool.state.log := by
  have empty : ∀ s : AuthState, s.Initial → s.log = [] := fun _ first => first.2.2
  have keeps := (createPasskeyChallenge_returns lawful lock env input).renamed AuthResponse.passkeyChallenge
  obtain ⟨inner, same, returned⟩ := ((System.Reach.follows reach auth_logs empty found).keeps keeps).result
  obtain ⟨made, rfl, renamed⟩ := map_eq_ok.mp same.symm
  cases renamed
  obtain ⟨request, runtime, url, parsed, resolved, chain, serves, origin, rpId, stored⟩ := returned challenge rfl
  exact ⟨request, runtime, url, parsed, resolved, chain, serves, origin, rpId, mem_ownCalls.mp stored⟩

theorem passkeyRedeemable (lawful : LawfulUrls) (lock : Bool) (env : Environment) : PasskeyRedeemable lock env := by
  intro pool i j given first input request challenge issuedAt response key result final reach found parsedFirst assertion sameChain
    current live unconsumed run
  obtain ⟨known, runtime, url, parsed, resolved, chain, serves, origin, rpId, stored⟩ := reach.passkeyChallenged lawful found
  cases Except.ok.inj (parsed.symm.trans parsedFirst)
  rw [← sameChain] at stored
  have there := reach.consumable stored live unconsumed
  have givenChain : request.chainId = runtime.chainId.value := sameChain.trans chain
  rw [authenticatePasskey, assertion.parsed, settle_ok_bind, resolved, settle_ok_bind, settled_eq (not_not.mpr givenChain),
    settle_ok_bind] at run
  obtain ⟨middle, kept, run⟩ :=
    verifyAltanaPasskeyAssertion_runs lawful serves assertion origin rpId givenChain current there run
  obtain ⟨session, opened, rfl, wallet, sessionChain, sessions, openedWallet, openedChain⟩ :=
    createSession_runs (fun _ _ served => served.1) run
  refine ⟨session, opened, rfl, wallet, sessionChain, ?_, openedWallet.trans wallet.symm, openedChain⟩
  rw [sessions, kept]

end

end Bnbera.Auth
