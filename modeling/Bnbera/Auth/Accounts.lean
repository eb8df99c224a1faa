import Bnbera.Auth.Ports

namespace Bnbera.Auth

open Interleaving System

theorem own_values {α β : Type} {related : β → α → Prop} {items : List α} (nodup : items.Nodup)
    (each : ∀ item ∈ items, ∃ value, related value item)
    (apart : ∀ first ∈ items, ∀ second ∈ items, ∀ value, related value first → related value second → first = second) :
    ∃ values, values.Nodup ∧ List.Forall₂ related values items := by
  suffices ∃ values, values.Nodup ∧ List.Forall₂ related values items ∧ ∀ value ∈ values, ∃ item ∈ items, related value item by
    obtain ⟨values, distinct, pairs, _⟩ := this
    exact ⟨values, distinct, pairs⟩
  induction items with
  | nil => exact ⟨[], List.nodup_nil, .nil, fun _ member => absurd member List.not_mem_nil⟩
  | cons first rest ih =>
    obtain ⟨fresh, nodup⟩ := List.nodup_cons.mp nodup
    obtain ⟨values, distinct, pairs, taken⟩ := ih nodup (fun item member => each item (List.mem_cons_of_mem _ member))
      fun item member item' member' => apart item (List.mem_cons_of_mem _ member) item' (List.mem_cons_of_mem _ member')
    obtain ⟨value, holds⟩ := each first List.mem_cons_self
    refine ⟨value :: values, List.nodup_cons.mpr ⟨fun known => ?_, distinct⟩, .cons holds pairs, ?_⟩
    · obtain ⟨item, member, also⟩ := taken value known
      have same := apart first List.mem_cons_self item (List.mem_cons_of_mem _ member) value holds also
      exact fresh (same ▸ member)
    · intro other member
      rcases List.mem_cons.mp member with rfl | member
      · exact ⟨first, List.mem_cons_self, holds⟩
      · obtain ⟨item, present, related⟩ := taken other member
        exact ⟨item, List.mem_cons_of_mem _ present, related⟩

section
variable [UrlParser] [DateText] [Sha256] [PasskeyCodec] {pool : AuthPool}

inductive Flow
  | eoa
  | passkey
deriving DecidableEq

omit [UrlParser] [DateText] [Sha256] [PasskeyCodec] in
def AuthRequest.flow : AuthRequest → Flow
  | eoaChallenge _ _ => .eoa
  | eoaSignIn _ _ => .eoa
  | passkeyChallenge _ _ _ => .passkey
  | passkeySignIn _ _ _ => .passkey

/-- A nonce that a thread redeemed: a challenge of the same flow had stored it with the same domain, chain
and wallet and no other did, and it was consumed before it expired. -/
structure Honoured (pool : AuthPool) (i : Nat) (nonce : NonceInput) : Prop where
  origin : ∃ j expiresAt answer challenge proof, (j, ⟨.insertNonce nonce expiresAt, answer⟩) ∈ pool.state.log ∧
    pool.threads[j]? = some challenge ∧ pool.threads[i]? = some proof ∧ challenge.request.Issues nonce ∧
      challenge.request.flow = proof.request.flow ∧
      ∃ row ∈ pool.state.nonces, row.Holds nonce ∧ row.expiresAt = expiresAt ∧ row.ConsumedInTime
  only : ∀ other ∈ shown stored pool.state.log, other.2.nonce = nonce.nonce → other.2 = nonce

/-- What a session rests on: a verified signature of its wallet over a message that contains the nonce, which
was bound to that wallet, or a verified assertion over a nonce of the passkey flow. -/
def AuthRequest.Grounds (calls : AuthCalls) : AuthRequest → NonceInput → SessionInput → Prop
  | eoaSignIn _ _, nonce, session => nonce.walletAddress = some session.walletAddress ∧ nonce.chainId = session.chainId ∧
      ∃ signed : SiweRequest, normalizeEvmAddress signed.address = session.walletAddress ∧
        nonce.nonce.toList <:+: (formatSiweMessage signed.fields).toList ∧ ∃ entry ∈ calls, Signed signed entry
  | passkeySignIn _ _ _, nonce, session => nonce.walletAddress = none ∧ nonce.chainId = session.chainId ∧
      ∃ entry ∈ calls, Asserted nonce.nonce entry
  | _, _, _ => False

def Opened (pool : AuthPool) (text : String) (entry : Nat × SessionInput) : Prop := ∃ nonce thread,
  nonce.nonce = text ∧ (entry.1, nonce) ∈ shown redeemed pool.state.log ∧ pool.threads[entry.1]? = some thread ∧
    thread.request.Grounds (ownCalls pool.state.log entry.1) nonce entry.2

omit [UrlParser] [DateText] [Sha256] [PasskeyCodec] in
theorem infix_intercalate {separator text : String} {texts : List String} (member : text ∈ texts) :
    text.toList <:+: (separator.intercalate texts).toList := by
  rw [String.toList_intercalate]
  induction texts with
  | nil => cases member
  | cons first rest ih =>
    cases rest with
    | nil =>
      cases List.mem_singleton.mp member
      exact ⟨[], [], by simp only [List.map_singleton, List.intercalate_singleton, List.nil_append, List.append_nil]⟩
    | cons second rest =>
      rw [List.map_cons, List.map_cons, List.intercalate_cons_cons]
      rcases List.mem_cons.mp member with rfl | later
      · exact (List.prefix_append_of_prefix (List.prefix_append _ _)).isInfix
      · exact (ih later).trans (List.suffix_append _ _).isInfix

omit [UrlParser] [Sha256] [PasskeyCodec] in
theorem nonce_infix_message (fields : SiweMessageFields) : fields.nonce.toList <:+: (formatSiweMessage fields).toList := by
  have line : fields.nonce.toList <:+: ("Nonce: " ++ fields.nonce).toList := by
    rw [String.toList_append]
    exact (List.suffix_append _ _).isInfix
  unfold formatSiweMessage
  rw [String.toList_append]
  refine line.trans (.trans (infix_intercalate ?_) (List.suffix_append _ _).isInfix)
  simp

omit [Sha256] in
theorem same_flow {challenge proof : AuthRequest} {calls : AuthCalls} {nonce : NonceInput} (issues : challenge.Issues nonce)
    (redeems : proof.Redeems calls nonce) : challenge.flow = proof.flow := by
  cases challenge with
  | eoaChallenge =>
    obtain ⟨_, _, _, _, _, _, wallet⟩ := issues
    cases proof with
    | eoaSignIn => rfl
    | passkeySignIn =>
      obtain ⟨_, _, _, unbound, _⟩ := redeems
      rw [wallet] at unbound
      cases unbound
    | eoaChallenge => exact redeems.elim
    | passkeyChallenge => exact redeems.elim
  | passkeyChallenge =>
    obtain ⟨_, _, _, _, _, _, _, _, unbound⟩ := issues
    cases proof with
    | passkeySignIn => rfl
    | eoaSignIn =>
      obtain ⟨_, _, _, _, wallet, _⟩ := redeems
      rw [wallet] at unbound
      cases unbound
    | eoaChallenge => exact redeems.elim
    | passkeyChallenge => exact redeems.elim
  | eoaSignIn => exact issues.elim
  | passkeySignIn => exact issues.elim

omit [UrlParser] [DateText] [Sha256] [PasskeyCodec] in
theorem redeemed_call {entry : AuthEntry} {nonce : NonceInput} (found : redeemed entry = some nonce) :
    entry = ⟨.consumeNonce nonce, .ok true⟩ := by
  obtain ⟨op, answer⟩ := entry
  cases op with
  | consumeNonce input =>
    match answer with
    | .ok true =>
      cases found
      rfl
    | .ok false => cases found
    | .error _ => cases found
  | _ => cases found

omit [UrlParser] [DateText] [Sha256] [PasskeyCodec] in
theorem opened_call {entry : AuthEntry} {session : SessionInput} (found : opened entry = some session) :
    ∃ answer, entry = ⟨.createSession session, answer⟩ := by
  obtain ⟨op, answer⟩ := entry
  cases op with
  | createSession given =>
    cases found
    exact ⟨answer, rfl⟩
  | _ => cases found

theorem AuthReach.honoured (reach : AuthReach pool) (apart : NoCollision pool.state.log) {i : Nat} {nonce : NonceInput}
    (taken : (i, nonce) ∈ shown redeemed pool.state.log) : Honoured pool i nonce := by
  obtain ⟨entry, member, found⟩ := mem_shown.mp taken
  cases redeemed_call found
  obtain ⟨proof, atProof, calls, _, _, redeems, _⟩ := reach.permitted member
  obtain ⟨row, present, holds, consumed⟩ := reach.consistent.taken _ taken
  obtain ⟨j, expiresAt, input, answer, inserted, issuedAs, expires⟩ := reach.consistent.rows row present
  obtain ⟨challenge, atChallenge, issues, formed, _⟩ := reach.issued inserted
  have preimages := apart (j, input) (mem_shown.mpr ⟨_, inserted, rfl⟩) (i, nonce) (mem_shown.mpr ⟨_, member, rfl⟩)
    (issuedAs.digest.symm.trans holds.digest)
  have same : input = nonce := NonceInput.eq_of_preimage formed redeems.formed (issuedAs.domain.symm.trans holds.domain)
    (issuedAs.chainId.symm.trans holds.chainId) preimages
  subst same
  refine ⟨⟨j, expiresAt, answer, challenge, proof, inserted, atChallenge, atProof, issues, same_flow issues redeems, row,
    present, holds, expires, consumed⟩, ?_⟩
  rintro ⟨k, other⟩ known alike
  obtain ⟨entry, called, storing⟩ := mem_shown.mp known
  obtain ⟨op, answer⟩ := entry
  cases op with
  | insertNonce given expiresAt =>
    cases storing
    exact reach.stored_once called inserted alike
  | _ => cases storing

theorem AuthReach.redeemed_once (reach : AuthReach pool) (apart : NoCollision pool.state.log) :
    ((shown redeemed pool.state.log).map (·.2.nonce)).Nodup := by
  have digests := List.pairwise_map.mp reach.consistent.once
  refine List.pairwise_map.mpr (digests.imp_of_mem ?_)
  intro first second inFirst inSecond differ same
  obtain ⟨j, _, _, _, _, inserted, _⟩ := (reach.honoured apart inFirst).origin
  have equal := (reach.honoured apart inSecond).only (j, first.2) (mem_shown.mpr ⟨_, inserted, rfl⟩) same
  exact differ (congrArg nonceDigest equal)

/-- Each session was opened for a nonce that its thread had redeemed. -/
theorem AuthReach.opened_for (reach : AuthReach pool) {entry : Nat × SessionInput} (present : entry ∈ pool.state.sessions) :
    ∃ text, Opened pool text entry := by
  obtain ⟨i, session⟩ := entry
  obtain ⟨call, member, found⟩ := mem_shown.mp (reach.consistent.sessions.subset present)
  obtain ⟨answer, rfl⟩ := opened_call found
  obtain ⟨thread, atThread, earlier, later, split, opens, _, proof, before, proved⟩ := reach.permitted member
  obtain ⟨nonce, taken⟩ := Option.isSome_iff_exists.mp proved
  cases redeemed_call taken
  have inOwn : (⟨.consumeNonce nonce, .ok true⟩ : AuthEntry) ∈ ownCalls pool.state.log i :=
    split ▸ List.mem_append_left _ before
  obtain ⟨_, sameThread, calls, rest, ownSplit, redeems, _⟩ := reach.permitted (mem_ownCalls.mp inOwn)
  cases Option.some.inj (atThread.symm.trans sameThread)
  refine ⟨nonce.nonce, nonce, thread, rfl, mem_shown.mpr ⟨_, mem_ownCalls.mp inOwn, rfl⟩, atThread, ?_⟩
  obtain ⟨request, program⟩ := thread
  cases request with
  | eoaSignIn env input =>
    obtain ⟨signed, parsed, text, chain, wallet, evidence, known, verified⟩ := redeems
    obtain ⟨again, reparsed, sessionWallet, sessionChain⟩ := opens
    cases Except.ok.inj (parsed.symm.trans reparsed)
    refine ⟨by rw [wallet, sessionWallet], by rw [chain, sessionChain], signed, sessionWallet.symm, ?_, evidence, ?_, verified⟩
    · rw [text]
      exact nonce_infix_message signed.fields
    · exact ownSplit ▸ List.mem_append_left _ known
  | passkeySignIn lock env input =>
    obtain ⟨given, parsed, chain, wallet, _, evidence, known, asserted⟩ := redeems
    obtain ⟨again, reparsed, _, sessionChain⟩ := opens
    cases Except.ok.inj (parsed.symm.trans reparsed)
    exact ⟨wallet, by rw [chain, sessionChain], evidence, ownSplit ▸ List.mem_append_left _ known, asserted⟩
  | eoaChallenge => exact redeems.elim
  | passkeyChallenge => exact redeems.elim

/-- A client that answers its challenge at once, alone. -/
theorem signIn_runs {env : Environment} {runtime : AuthRuntime} {url : ParsedUrl} (lawful : LawfulUrls) (dates : LawfulDates) (serves : runtime.Serves env url) (hidden : url.port = "")
    (resolved : walletConnectRuntimeFromEnvironment runtime.chainId.value env = .ok runtime) (address : EvmAddress)
    {nonce token signature : String} (request : AuthRequest) (nonceToken : isOpaqueToken nonce = true)
    (sessionToken : isOpaqueToken token = true) (other : nonce ≠ token) (signed : isSignature signature = true) :
    ∃ session final, Runs (authSystem.exec 1 request) (authenticateEoa env ((challengeOf runtime address nonce 0).reply signature)).run
        (challengedTables runtime address nonce) (.ok session) final ∧ final.sessions.length = 1 ∧
      ∀ entry ∈ shown digested final.log, entry.2 = (challengeOf runtime address nonce 0).stored := by
  have ttl : sessionTtlMs = 900000 := rfl
  obtain ⟨given, readBack, repeats, _⟩ := read_reply lawful dates serves address nonceToken (Int.le_refl 0) (by omega) signed
  have parse : parseEoaSiweAuthenticationRequest ((challengeOf runtime address nonce 0).reply signature) = .ok given :=
    required_eq_ok.mpr readBack
  have chain : given.chainId = runtime.chainId.value := repeats.chainId
  have sameNonce : given.nonce.text = nonce := repeats.nonce
  have sameAddress : normalizeEvmAddress given.address = normalizeEvmAddress address := by
    have text : given.address.text = normalizeEvmAddress address := repeats.address
    rw [normalizeEvmAddress, text, normalizeEvmAddress, lower_lower]
  have canonical : given.message.text = formatSiweMessage given.fields := repeats.message.trans repeats.canonical
  let s₀ := challengedTables runtime address nonce
  let s₁ : AuthState := { s₀ with log := s₀.log ++ [(1, ⟨.clock, (0 : Int)⟩)] }
  let s₂ : AuthState := { s₁ with
    log := s₁.log ++ [(1, ⟨.verifyMessage given.address given.message.text given.signature.text, .ok true⟩)] }
  let stored := (challengeOf runtime address nonce 0).stored
  let s₃ : AuthState := { s₂ with nonces := s₂.consumed stored, log := s₂.log ++ [(1, ⟨.consumeNonce stored, .ok true⟩)] }
  let s₄ : AuthState := { s₃ with log := s₃.log ++ [(1, ⟨.clock, (0 : Int)⟩)] }
  let s₅ : AuthState := { s₄ with log := s₄.log ++ [(1, ⟨.randomToken, token⟩)] }
  let session : SessionInput := ⟨Sha256.sha256Hex token, normalizeEvmAddress address, runtime.chainId.value, 0, 0 + sessionTtlMs⟩
  let s₆ : AuthState := { s₅ with
    sessions := s₅.sessions ++ [(1, session)], log := s₅.log ++ [(1, ⟨.createSession session, .ok ()⟩)] }
  refine ⟨⟨normalizeEvmAddress address, runtime.chainId.value, 0, 0 + sessionTtlMs⟩, s₆, ?_, rfl, ?_⟩
  · rw [authenticateEoa, parse, settle_ok_bind, chain, resolved, settle_ok_bind, settled_eq (not_not.mpr rfl), settle_ok_bind,
      verifySiweRequest, serves.validateContext lawful, if_pos hidden, bind_assoc, settle_ok_bind, bind_assoc]
    refine ask_runs.mpr ⟨(0 : Int), s₁, ⟨⟨rfl, rfl⟩, rfl, rfl⟩, ?_⟩
    rw [bind_assoc, validateSiweRequest_repeats lawful serves hidden repeats (Int.le_refl 0) (by decide), settle_ok_bind, bind_assoc,
      verifyEoaProof, bind_assoc, settled_eq (not_not.mpr canonical), settle_ok_bind, bind_assoc]
    refine ask_runs.mpr ⟨.ok true, s₂, ⟨⟨rfl, rfl⟩, rfl, rfl⟩, ?_⟩
    rw [bind_assoc, answered_ok_bind, settled_eq (by simp), settle_ok_bind, bind_assoc, sameNonce, sameAddress, chain]
    have taken : s₂.consumable stored = [AuthState.issuedRow stored challengeTtlMs] := by
      refine List.filter_eq_self.mpr fun row member => ?_
      cases List.mem_singleton.mp member
      exact AuthState.isConsumable_iff.mpr ⟨⟨rfl, rfl, rfl⟩, rfl, show (0 : Int) < challengeTtlMs by decide⟩
    have one : true = decide ((s₂.consumable stored).length = 1) := by
      rw [taken]
      rfl
    refine ask_runs.mpr ⟨.ok true, s₃, ⟨⟨one, rfl, rfl⟩, rfl, rfl⟩, ?_⟩
    rw [bind_assoc, answered_ok_bind, bind_assoc, settled_eq (by simp), settle_ok_bind, pure_bind]
    refine ask_runs.mpr ⟨(0 : Int), s₄, ⟨⟨rfl, rfl⟩, rfl, rfl⟩, ?_⟩
    have unseen : ∀ entry ∈ s₄.log, drawn entry.2 ≠ some token := by
      have known : s₄.log.filterMap (fun entry => drawn entry.2) = [nonce] := rfl
      intro entry member drew
      have found := List.mem_filterMap (f := fun entry : Nat × AuthEntry => drawn entry.2).mpr ⟨entry, member, drew⟩
      rw [known] at found
      exact other (List.mem_singleton.mp found).symm
    refine ask_runs.mpr ⟨token, s₅, ⟨⟨sessionToken, unseen, rfl, rfl⟩, rfl, rfl⟩, ?_⟩
    exact ask_runs.mpr ⟨.ok (), s₆, ⟨⟨rfl, rfl⟩, rfl, rfl⟩, .done⟩
  · have known : shown digested s₆.log = [(0, stored), (1, stored)] := rfl
    rw [known]
    intro entry member
    simp only [List.mem_cons, List.not_mem_nil, or_false] at member
    rcases member with rfl | rfl
    · rfl
    · rfl

/-- Over any interleaving of the routes each nonce proves one wallet once and opens at most one session: no nonce is
redeemed twice, each redeemed nonce was issued as it was redeemed, and the sessions have nonces of their own. -/
theorem AuthReach.one_challenge_one_session (reach : AuthReach pool) (apart : NoCollision pool.state.log) :
    ((shown redeemed pool.state.log).map (·.2.nonce)).Nodup ∧
      (∀ taken ∈ shown redeemed pool.state.log, Honoured pool taken.1 taken.2) ∧
      ∃ nonces : List String, nonces.Nodup ∧ List.Forall₂ (Opened pool) nonces pool.state.sessions := by
  refine ⟨reach.redeemed_once apart, fun taken member => reach.honoured apart member, ?_⟩
  have threads : (pool.state.sessions.map (·.1)).Nodup := reach.openers.sublist (reach.consistent.sessions.map _)
  refine own_values (.of_map _ threads) (fun _ present => reach.opened_for present) ?_
  intro first inFirst second inSecond text opened also
  obtain ⟨nonce, _, same, taken, _⟩ := opened
  obtain ⟨other, _, same', taken', _⟩ := also
  have identical := List.inj_on_of_nodup_map (reach.redeemed_once apart) taken taken' (same.trans same'.symm)
  exact List.inj_on_of_nodup_map threads inFirst inSecond (Prod.mk.inj identical).1

end

theorem one_challenge_one_session_localhost : ∃ pool : AuthPool, pool.state.sessions.length = 1 ∧
    ((shown redeemed pool.state.log).map (·.2.nonce)).Nodup ∧
      (∀ taken ∈ shown redeemed pool.state.log, @Honoured localUrls localSha256 pool taken.1 taken.2) ∧
      ∃ nonces : List String, nonces.Nodup ∧
        List.Forall₂ (@Opened localUrls epochDates noPasskeys pool) nonces pool.state.sessions := by
  let _ := localUrls
  let _ := epochDates
  let _ := localSha256
  let _ := noPasskeys
  have serves : (localRuntime "http://localhost").Serves (localEnvironment "http://localhost") (localUrl "") :=
    ⟨rfl, rfl, by decide, rfl, rfl⟩
  have nonceToken : isOpaqueToken localNonce = true := by decide
  have sessionToken : isOpaqueToken localToken = true := by decide
  obtain ⟨session, final, run, one, asked⟩ := signIn_runs localUrls_lawful epochDates_lawful serves rfl rfl localAddress
    (.eoaSignIn (localEnvironment "http://localhost") ((challengeOf (localRuntime "http://localhost") localAddress localNonce 0).reply
      "0x00")) nonceToken sessionToken (by decide) (by decide : isSignature "0x00" = true)
  have issued : AuthReach ⟨challengedTables (localRuntime "http://localhost") localAddress localNonce,
      [⟨.eoaChallenge (localEnvironment "http://localhost") (challengeInput localAddress (localRuntime "http://localhost").chainId),
        .done (.ok (.eoaChallenge (challengeOf (localRuntime "http://localhost") localAddress localNonce 0)))⟩]⟩ :=
    challenged_reach rfl nonceToken
  have reach := issued.handled trivial (map_runs run)
  refine ⟨_, one, AuthReach.one_challenge_one_session reach fun first inFirst second inSecond _ => ?_⟩
  rw [asked first inFirst, asked second inSecond]

end Bnbera.Auth
