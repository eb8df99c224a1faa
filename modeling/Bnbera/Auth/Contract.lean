import Bnbera.Auth.Readback
import Bnbera.Auth.System
import Bnbera.Interleaving.Relying

namespace Bnbera.Auth

open Interleaving

section
variable [UrlParser] [DateText] [PasskeyCodec]

def AuthRequest.Issues : AuthRequest → NonceInput → Prop
  | eoaChallenge env input, nonce => ∃ request runtime, parseEoaSiweChallengeRequest input = .ok request ∧
      walletConnectRuntimeFromEnvironment request.chainId env = .ok runtime ∧ nonce.domain = runtime.rpId ∧
      nonce.chainId = request.chainId ∧ nonce.walletAddress = some (normalizeEvmAddress request.address)
  | passkeyChallenge lock env input, nonce => ∃ request runtime context, parsePasskeyRequest input = .ok request ∧
      altanaRuntimeFromEnvironment lock env = .ok runtime ∧ validateWebAuthnContext runtime = .ok context ∧
      nonce.domain = context.domain ∧ nonce.chainId = request.chainId ∧ nonce.walletAddress = none
  | _, _ => False

def Signed (signed : SiweRequest) (entry : AuthEntry) : Prop :=
  entry = ⟨.verifyMessage signed.address (formatSiweMessage signed.fields) signed.signature.text, .ok true⟩

def Asserted (challenge : String) (entry : AuthEntry) : Prop := ∃ key response origin rpId,
  isCurrentRootKey key = true ∧ entry = ⟨.verifyAssertion key response challenge origin rpId, .ok true⟩

def AuthRequest.Redeems (history : AuthCalls) : AuthRequest → NonceInput → Prop
  | eoaSignIn _ input, nonce => ∃ signed, parseEoaSiweAuthenticationRequest input = .ok signed ∧
      nonce.nonce = signed.nonce.text ∧ nonce.chainId = signed.chainId ∧
      nonce.walletAddress = some (normalizeEvmAddress signed.address) ∧ ∃ entry ∈ history, Signed signed entry
  | passkeySignIn _ _ input, nonce => ∃ request, parsePasskeyRequest input = .ok request ∧
      nonce.chainId = request.chainId ∧ nonce.walletAddress = none ∧ isBase64Url nonce.nonce = true ∧
      ∃ entry ∈ history, Asserted nonce.nonce entry
  | _, _ => False

def AuthRequest.Opens : AuthRequest → SessionInput → Prop
  | eoaSignIn _ input, session => ∃ signed, parseEoaSiweAuthenticationRequest input = .ok signed ∧
      session.walletAddress = normalizeEvmAddress signed.address ∧ session.chainId = signed.chainId
  | passkeySignIn _ _ input, session => ∃ request, parsePasskeyRequest input = .ok request ∧
      session.walletAddress = normalizeEvmAddress request.address ∧ session.chainId = request.chainId
  | _, _ => False

def AuthRequest.Guard (request : AuthRequest) (history : AuthCalls) : AuthCall → Prop
  | .insertNonce nonce _ => request.Issues nonce ∧ ∃ earlier, history = earlier ++ [⟨.randomToken, nonce.nonce⟩]
  | .consumeNonce nonce => request.Redeems history nonce ∧ ∀ entry ∈ history, redeemed entry = none
  | .createSession session => request.Opens session ∧ (∀ entry ∈ history, opened entry = none) ∧
      ∃ entry ∈ history, (redeemed entry).isSome
  | _ => True

def Unproved (history : AuthCalls) : Prop := ∀ entry ∈ history, redeemed entry = none ∧ opened entry = none

omit [UrlParser] [DateText] [PasskeyCodec] in
theorem Unproved.nil : Unproved [] := fun _ member => absurd member List.not_mem_nil

omit [UrlParser] [DateText] [PasskeyCodec] in
theorem Unproved.add {history : AuthCalls} {entry : AuthEntry} (before : Unproved history)
    (unredeemed : redeemed entry = none) (unopened : opened entry = none) : Unproved (history ++ [entry]) := by
  intro other member
  rcases List.mem_append.mp member with earlier | last
  · exact before other earlier
  · rw [List.mem_singleton.mp last]
    exact ⟨unredeemed, unopened⟩

variable {α β : Type} {request : AuthRequest} {history : AuthCalls}

theorem keeps_settled {post : Except AuthFailure α → AuthCalls → Prop} {result : Except AuthFailure β} {rest : β → AuthWork α}
    (failed : ∀ error, post (.error error) history)
    (passed : ∀ value, result = .ok value → Keeps request.Guard post (rest value).run history) :
    Keeps request.Guard post (AuthWork.settle result >>= rest).run history :=
  Keeps.settle_bind failed passed

theorem keeps_answered {post : Except AuthFailure α → AuthCalls → Prop} {answer : Except Unit β}
    {rejection : Except AuthFailure β} {rest : β → AuthWork α} {error : AuthFailure} (rejects : rejection = .error error)
    (failed : post (.error error) history)
    (passed : ∀ value, answer = .ok value → Keeps request.Guard post (rest value).run history) :
    Keeps request.Guard post (AuthWork.answered answer rejection >>= rest).run history := by
  cases answer with
  | error _ =>
    subst rejects
    exact .done failed
  | ok value => exact passed value rfl

omit [DateText] [PasskeyCodec] in
theorem validateWebAuthnContext_chain {runtime : AuthRuntime} {context : WebAuthnContext}
    (validated : validateWebAuthnContext runtime = .ok context) : context.chainId = runtime.chainId.value := by
  unfold validateWebAuthnContext at validated
  obtain ⟨rpId, _, validated⟩ := bind_eq_ok.mp validated
  obtain ⟨originUrl, _, validated⟩ := bind_eq_ok.mp validated
  obtain ⟨_, _, validated⟩ := bind_eq_ok.mp validated
  obtain ⟨_, _, validated⟩ := bind_eq_ok.mp validated
  cases validated
  rfl

theorem issueNonce_keeps {domain : String} {chainId : ChainId} {walletAddress : Option String} {issuedAt : Int}
    (issues : ∀ nonce, request.Issues ⟨domain, chainId, nonce, walletAddress⟩) (attempts : Nat) :
    Keeps request.Guard (fun _ _ => True) (issueNonce domain chainId walletAddress issuedAt attempts).run history := by
  induction attempts generalizing history with
  | zero => exact .done trivial
  | succ attempts ih =>
    refine Keeps.ask_bind trivial fun nonce => Keeps.ask_bind ⟨issues nonce, history, rfl⟩ fun answer => ?_
    cases answer with
    | inserted => exact .done trivial
    | duplicate => exact ih
    | failed => exact .done trivial

theorem createSession_keeps [Sha256] {walletAddress : String} {chainId : ChainId}
    (opens : ∀ digest issuedAt, request.Opens ⟨digest, walletAddress, chainId, issuedAt, issuedAt + sessionTtlMs⟩)
    (unopened : ∀ entry ∈ history, opened entry = none) (proved : ∃ entry ∈ history, (redeemed entry).isSome) :
    Keeps request.Guard (fun _ _ => True) (createSession walletAddress chainId).run history := by
  refine Keeps.ask_bind trivial fun issuedAt => Keeps.ask_bind trivial fun token => Keeps.ask_bind ?_ fun answer => ?_
  · refine ⟨opens _ _, ?_, ?_⟩
    · intro entry member
      rcases List.mem_append.mp member with earlier | last
      · rcases List.mem_append.mp earlier with first | second
        · exact unopened entry first
        · rw [List.mem_singleton.mp second]
          rfl
      · rw [List.mem_singleton.mp last]
        rfl
    · obtain ⟨entry, member, found⟩ := proved
      exact ⟨entry, List.mem_append_left _ (List.mem_append_left _ member), found⟩
  · exact keeps_answered rfl trivial fun _ _ => .done trivial

def Proved (result : Except AuthFailure α) (history : AuthCalls) : Prop := ∀ value, result = .ok value →
  (∀ entry ∈ history, opened entry = none) ∧ ∃ entry ∈ history, (redeemed entry).isSome

omit [UrlParser] [DateText] [PasskeyCodec] in
theorem Proved.failed (error : AuthFailure) : Proved (.error error : Except AuthFailure α) history :=
  fun _ same => (nomatch same)

omit [UrlParser] [DateText] [PasskeyCodec] in
theorem Proved.consumed {value : α} {nonce : NonceInput} (before : Unproved history) :
    Proved (.ok value : Except AuthFailure α) (history ++ [⟨.consumeNonce nonce, .ok true⟩]) := by
  intro _ _
  refine ⟨?_, _, List.mem_append_right _ (List.mem_singleton_self _), rfl⟩
  intro entry member
  rcases List.mem_append.mp member with earlier | last
  · exact (before entry earlier).2
  · rw [List.mem_singleton.mp last]
    rfl

theorem createEoaSiweChallenge_keeps (env : Environment) (input : Json) :
    Keeps (AuthRequest.eoaChallenge env input).Guard (fun _ _ => True) (createEoaSiweChallenge env input).run [] := by
  refine keeps_settled (fun _ => trivial) fun request parsed => keeps_settled (fun _ => trivial) fun runtime resolved => ?_
  refine keeps_settled (fun _ => trivial) fun _ passed => Keeps.ask_bind trivial fun now => ?_
  have sameChain : runtime.chainId.value = request.chainId := (not_not.mp (rejectIf_eq_ok.mp passed)).symm
  refine Keeps.except_bind ((issueNonce_keeps (fun nonce => ?_) 3).post ?_)
  · exact ⟨request, runtime, parsed, resolved, rfl, sameChain, rfl⟩
  · rintro (error | issued) history _
    · trivial
    · exact .done trivial

theorem createPasskeyChallenge_keeps (lock : Bool) (env : Environment) (input : Json) :
    Keeps (AuthRequest.passkeyChallenge lock env input).Guard (fun _ _ => True) (createPasskeyChallenge lock env input).run [] := by
  refine keeps_settled (fun _ => trivial) fun request parsed => keeps_settled (fun _ => trivial) fun runtime resolved => ?_
  refine keeps_settled (fun _ => trivial) fun _ passed => Keeps.ask_bind trivial fun now => ?_
  have sameChain : runtime.chainId.value = request.chainId := (not_not.mp (rejectIf_eq_ok.mp passed)).symm
  refine keeps_settled (fun _ => trivial) fun context validated => ?_
  have contextChain := validateWebAuthnContext_chain validated
  refine Keeps.except_bind (Keeps.except_catch ((issueNonce_keeps (fun nonce => ?_) 3).post ?_))
  · exact ⟨request, runtime, context, parsed, resolved, validated, rfl, contextChain.trans sameChain, rfl⟩
  · rintro (error | issued) history _
    · exact .done trivial
    · exact keeps_settled (fun _ => trivial) fun _ _ => .done trivial

theorem verifySiweRequest_keeps {env : Environment} {input : Json} {signed : SiweRequest} (runtime : AuthRuntime)
    (parsed : parseEoaSiweAuthenticationRequest input = .ok signed) (before : Unproved history) :
    Keeps (AuthRequest.eoaSignIn env input).Guard
      (fun result history => (∀ address, result = .ok address → address = normalizeEvmAddress signed.address) ∧
        Proved result history) (verifySiweRequest runtime signed).run history := by
  have failed : ∀ (error : AuthFailure) (history : AuthCalls),
      (∀ address, .error error = (.ok address : Except AuthFailure String) → address = normalizeEvmAddress signed.address) ∧
        Proved (.error error : Except AuthFailure String) history :=
    fun error _ => ⟨fun _ same => (nomatch same), Proved.failed error⟩
  refine keeps_settled (fun error => failed error _) fun context _ => Keeps.ask_bind trivial fun nowMs => ?_
  refine keeps_settled (fun error => failed error _) fun _ _ => Keeps.except_bind ?_
  refine keeps_settled (fun error => failed error _) fun _ canonical => ?_
  have canonical : signed.message.text = formatSiweMessage signed.fields := not_not.mp (rejectIf_eq_ok.mp canonical)
  refine Keeps.ask_bind trivial fun answer => keeps_answered rfl (failed _ _) fun verified same => ?_
  subst same
  cases verified with
  | false => exact .done (failed _ _)
  | true =>
    have unproved : Unproved (history ++ [⟨.clock, nowMs⟩] ++
        [⟨.verifyMessage signed.address signed.message.text signed.signature.text, .ok true⟩]) :=
      (before.add rfl rfl).add rfl rfl
    refine .done (Keeps.ask_bind ?_ fun answer => keeps_answered rfl (failed _ _) fun consumed same => ?_)
    · refine ⟨⟨signed, parsed, rfl, rfl, rfl, _, List.mem_append_right _ (List.mem_singleton_self _), ?_⟩,
        fun entry member => (unproved entry member).1⟩
      rw [canonical]
      rfl
    · subst same
      cases consumed with
      | false => exact .done (failed _ _)
      | true =>
        refine .done ⟨fun address same => ?_, .consumed unproved⟩
        cases same
        rfl

theorem authenticateEoa_keeps [Sha256] (env : Environment) (input : Json) :
    Keeps (AuthRequest.eoaSignIn env input).Guard (fun _ _ => True) (authenticateEoa env input).run [] := by
  refine keeps_settled (fun _ => trivial) fun signed parsed => keeps_settled (fun _ => trivial) fun runtime _ => ?_
  refine keeps_settled (fun _ => trivial) fun _ _ => ?_
  refine Keeps.except_bind ((verifySiweRequest_keeps runtime parsed Unproved.nil).post ?_)
  rintro (error | address) history ⟨verified, proved⟩
  · trivial
  · obtain ⟨unopened, redeemed⟩ := proved address rfl
    exact createSession_keeps (fun _ _ => ⟨signed, parsed, verified address rfl, rfl⟩) unopened redeemed

theorem verifyWithKeys_keeps (response : PasskeyResponse) (challenge : String) (context : WebAuthnContext)
    (keys : List AltanaAdminKey) (before : Unproved history) :
    Keeps request.Guard (fun result history => Unproved history ∧
        ((∀ error, result ≠ .error error)) ∧ (result = .ok true → ∃ entry ∈ history, Asserted challenge entry))
      (verifyWithKeys response challenge context keys).run history := by
  induction keys generalizing history with
  | nil => exact .done ⟨before, fun _ same => (nomatch same), fun same => (nomatch same)⟩
  | cons key rest ih =>
    unfold verifyWithKeys
    by_cases current : isCurrentRootKey key = true
    · rw [if_pos current]
      refine Keeps.ask_bind trivial fun answer => ?_
      have unproved : Unproved (history ++
          [⟨.verifyAssertion key response challenge context.origin context.rpId, answer⟩]) := before.add rfl rfl
      match answer with
      | .ok true =>
        exact .done ⟨unproved, fun _ same => (nomatch same), fun _ => ⟨_, List.mem_append_right _ (List.mem_singleton_self _),
          key, response, _, _, current, rfl⟩⟩
      | .ok false => exact ih unproved
      | .error _ => exact ih unproved
    · rw [if_neg current]
      exact ih before

theorem verifyAltanaPasskeyAssertion_keeps {lock : Bool} {env : Environment} {input : Json} {given : ChallengeRequest}
    (runtime : AuthRuntime) (response : Option Json) (parsed : parsePasskeyRequest input = .ok given) (before : Unproved history) :
    Keeps (AuthRequest.passkeySignIn lock env input).Guard Proved
      (verifyAltanaPasskeyAssertion runtime (normalizeEvmAddress given.address) given.chainId response).run history := by
  refine keeps_settled (fun _ => .failed _) fun context _ => keeps_settled (fun _ => .failed _) fun _ same => ?_
  have sameChain : given.chainId = context.chainId := not_not.mp (rejectIf_eq_ok.mp same)
  refine keeps_settled (fun _ => .failed _) fun response _ => keeps_settled (fun _ => .failed _) fun _ _ => ?_
  refine keeps_settled (fun _ => .failed _) fun wallet _ => keeps_settled (fun _ => .failed _) fun _ _ => ?_
  refine keeps_settled (fun _ => .failed _) fun challenge _ => Keeps.ask_bind trivial fun answer => ?_
  refine keeps_answered rfl (.failed _) fun keys _ => keeps_settled (fun _ => .failed _) fun _ _ => ?_
  refine Keeps.except_bind ((verifyWithKeys_keeps response challenge.text context keys (before.add rfl rfl)).post ?_)
  rintro (error | verified) history ⟨unproved, finished, asserted⟩
  · exact absurd rfl (finished error)
  · cases verified with
    | false => exact .done (.failed _)
    | true =>
      refine Keeps.ask_bind ?_ fun answer => keeps_answered rfl (.failed _) fun consumed same => ?_
      · exact ⟨⟨given, parsed, sameChain.symm, rfl, challenge.accepted, asserted rfl⟩, fun entry member => (unproved entry member).1⟩
      · subst same
        cases consumed with
        | false => exact .done (.failed _)
        | true => exact .done (.consumed unproved)

theorem authenticatePasskey_keeps [Sha256] (lock : Bool) (env : Environment) (input : Json) :
    Keeps (AuthRequest.passkeySignIn lock env input).Guard (fun _ _ => True) (authenticatePasskey lock env input).run [] := by
  refine keeps_settled (fun _ => trivial) fun given parsed => keeps_settled (fun _ => trivial) fun runtime _ => ?_
  refine keeps_settled (fun _ => trivial) fun _ _ => ?_
  refine Keeps.except_bind ((verifyAltanaPasskeyAssertion_keeps runtime _ parsed Unproved.nil).post ?_)
  rintro (error | proof) history proved
  · trivial
  · obtain ⟨unopened, redeemed⟩ := proved proof rfl
    exact createSession_keeps (fun _ _ => ⟨given, parsed, rfl, rfl⟩) unopened redeemed

theorem auth_keeps [Sha256] (request : AuthRequest) : Keeps request.Guard (fun _ _ => True) request.handler [] := by
  cases request with
  | eoaChallenge env input => exact Keeps.except_map (createEoaSiweChallenge_keeps env input)
  | eoaSignIn env input => exact Keeps.except_map (authenticateEoa_keeps env input)
  | passkeyChallenge lock env input => exact Keeps.except_map (createPasskeyChallenge_keeps lock env input)
  | passkeySignIn lock env input => exact Keeps.except_map (authenticatePasskey_keeps lock env input)

end

end Bnbera.Auth
