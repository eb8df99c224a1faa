import Bnbera.Auth.Contract
import Bnbera.Auth.Tables
import Bnbera.Delimited

namespace Bnbera.Auth

open Interleaving System

theorem newline_not_hex {c : Char} (hex : isHexDigit c = true) : c ≠ '\n' := by
  rintro rfl
  exact absurd hex (by decide)

theorem newline_not_mem_address (address : EvmAddress) : '\n' ∉ (normalizeEvmAddress address).toList := by
  intro member
  have accepted := address.accepted
  unfold isEvmAddress at accepted
  rw [normalizeEvmAddress, lower_toList] at member
  split at accepted
  · rename_i digits same
    rw [same] at member
    simp only [Bool.and_eq_true] at accepted
    rcases List.mem_cons.mp member with zero | member
    · exact absurd zero (by decide)
    · rcases List.mem_cons.mp member with mark | member
      · exact absurd mark (by decide)
      · exact newline_not_hex (List.all_eq_true.mp (all_isHexDigit_lower accepted.2) _ member) rfl
  · cases accepted

theorem newline_not_mem_base64Url {text : String} (accepted : isBase64Url text = true) : '\n' ∉ text.toList := by
  intro member
  unfold isBase64Url at accepted
  simp only [Bool.and_eq_true] at accepted
  rw [← List.takeWhile_append_dropWhile (p := isBase64UrlChar) (l := text.toList)] at member
  rcases List.mem_append.mp member with digit | padding
  · exact absurd (List.mem_takeWhile_imp digit) (by decide)
  · exact absurd (List.all_eq_true.mp accepted.2 _ padding) (by decide)

theorem newline_not_mem_token {text : String} (accepted : isOpaqueToken text = true) : '\n' ∉ text.toList := by
  intro member
  simp only [isOpaqueToken, Bool.and_eq_true] at accepted
  exact absurd (List.all_eq_true.mp accepted.2 _ member) (by decide)

def NonceInput.Formed (input : NonceInput) : Prop :=
  match input.walletAddress with
  | none => '\n' ∉ input.nonce.toList
  | some walletAddress => ∃ address : EvmAddress, walletAddress = normalizeEvmAddress address

theorem split_at_newline {first second rest rest' : List Char} (inFirst : '\n' ∉ first) (inSecond : '\n' ∉ second)
    (same : first ++ '\n' :: rest = second ++ '\n' :: rest') : first = second ∧ rest = rest' := by
  let alphabet : Char → Bool := fun c => c != '\n'
  have outside : ∀ c rest, (∃ after, c :: rest = '\n' :: after) → alphabet c = false := by
    rintro c rest ⟨_, same⟩
    cases same
    rfl
  have firstLine : first.all alphabet :=
    List.all_eq_true.mpr fun c member => bne_iff_ne.mpr fun found => inFirst (found ▸ member)
  have secondLine : second.all alphabet :=
    List.all_eq_true.mpr fun c member => bne_iff_ne.mpr fun found => inSecond (found ▸ member)
  have splits : Delimited.Splits (fun text => ∃ rest, text = '\n' :: rest) first second :=
    Delimited.splits_of_alphabet outside firstLine secondLine
  have split := splits _ _ ⟨rest, rfl⟩ ⟨rest', rfl⟩ same
  exact ⟨split.1, (List.cons.inj split.2).2⟩

theorem newline_mem_preimage (input : NonceInput) {walletAddress : String} (bound : input.walletAddress = some walletAddress) :
    '\n' ∈ input.preimage.toList := by
  simp [NonceInput.preimage, bound]

/-- In one domain and on one chain the preimage determines the nonce and the wallet it is bound to. -/
theorem NonceInput.eq_of_preimage {first second : NonceInput} (formed : first.Formed) (asked : second.Formed)
    (domain : first.domain = second.domain) (chainId : first.chainId = second.chainId)
    (same : first.preimage = second.preimage) : first = second := by
  obtain ⟨firstDomain, firstChain, nonce, wallet⟩ := first
  obtain ⟨_, _, other, otherWallet⟩ := second
  cases domain
  cases chainId
  cases wallet with
  | none =>
    cases otherWallet with
    | none =>
      have nonces : nonce = other := same
      rw [nonces]
    | some otherWallet =>
      have broken := newline_mem_preimage ⟨firstDomain, firstChain, other, some otherWallet⟩ rfl
      rw [← same] at broken
      exact absurd broken formed
  | some wallet =>
    cases otherWallet with
    | none =>
      have broken := newline_mem_preimage ⟨firstDomain, firstChain, nonce, some wallet⟩ rfl
      rw [same] at broken
      exact absurd broken asked
    | some otherWallet =>
      obtain ⟨address, rfl⟩ := formed
      obtain ⟨otherAddress, rfl⟩ := asked
      have texts := congrArg String.toList same
      simp only [preimage, String.toList_append, List.append_assoc, List.append_cancel_left_eq, normalizeEvmAddress, lower_lower]
        at texts
      obtain ⟨wallets, nonces⟩ := split_at_newline (newline_not_mem_address address) (newline_not_mem_address otherAddress) texts
      rw [show normalizeEvmAddress address = normalizeEvmAddress otherAddress from String.toList_inj.mp wallets,
        String.toList_inj.mp nonces]

section
variable [UrlParser] [DateText] [PasskeyCodec]

theorem AuthRequest.Redeems.formed {request : AuthRequest} {history : AuthCalls} {nonce : NonceInput}
    (redeems : request.Redeems history nonce) : nonce.Formed := by
  cases request with
  | eoaSignIn env input =>
    obtain ⟨signed, _, _, _, wallet, _⟩ := redeems
    unfold NonceInput.Formed
    rw [wallet]
    exact ⟨signed.address, rfl⟩
  | passkeySignIn lock env input =>
    obtain ⟨_, _, _, wallet, accepted, _⟩ := redeems
    unfold NonceInput.Formed
    rw [wallet]
    exact newline_not_mem_base64Url accepted
  | eoaChallenge => exact redeems.elim
  | passkeyChallenge => exact redeems.elim

omit [DateText] [PasskeyCodec] in
theorem AuthRequest.Issues.formed {request : AuthRequest} {nonce : NonceInput} (issues : request.Issues nonce)
    (token : isOpaqueToken nonce.nonce = true) : nonce.Formed := by
  cases request with
  | eoaChallenge env input =>
    obtain ⟨given, _, _, _, _, _, wallet⟩ := issues
    unfold NonceInput.Formed
    rw [wallet]
    exact ⟨given.address, rfl⟩
  | passkeyChallenge lock env input =>
    obtain ⟨_, _, _, _, _, _, _, _, wallet⟩ := issues
    unfold NonceInput.Formed
    rw [wallet]
    exact newline_not_mem_token token
  | eoaSignIn => exact issues.elim
  | passkeySignIn => exact issues.elim

end

def digested : AuthEntry → Option NonceInput
  | ⟨.insertNonce input _, _⟩ => some input
  | ⟨.consumeNonce input, _⟩ => some input
  | _ => none

def NoCollision [Sha256] (log : List (Nat × AuthEntry)) : Prop := ∀ first ∈ shown digested log,
  ∀ second ∈ shown digested log, nonceDigest first.2 = nonceDigest second.2 → first.2.preimage = second.2.preimage

/-- Two places of a value that occurs once. -/
theorem same_place {α β : Type} {what : α → Option β} {calls before after before' after' : List α} {entry entry' : α}
    {value : β} (once : (calls.filterMap what).Nodup) (split : calls = before ++ entry :: after)
    (split' : calls = before' ++ entry' :: after') (found : what entry = some value) (found' : what entry' = some value) :
    after = after' := by
  induction before generalizing calls before' with
  | nil =>
    cases before' with
    | nil => exact (List.cons.inj (split.symm.trans split')).2
    | cons first before' =>
      obtain ⟨rfl, rest⟩ := List.cons.inj (split.symm.trans split')
      rw [split, rest, List.nil_append, List.filterMap_cons_some found, List.nodup_cons] at once
      refine absurd (List.mem_filterMap.mpr ⟨entry', ?_, found'⟩) once.1
      exact List.mem_append_right _ List.mem_cons_self
  | cons first before ih =>
    cases before' with
    | nil =>
      obtain ⟨rfl, rest⟩ := List.cons.inj (split.symm.trans split')
      rw [split', ← rest, List.nil_append, List.filterMap_cons_some found', List.nodup_cons] at once
      refine absurd (List.mem_filterMap.mpr ⟨entry, ?_, found⟩) once.1
      exact List.mem_append_right _ List.mem_cons_self
    | cons first' before' =>
      obtain ⟨rfl, rest⟩ := List.cons.inj (split.symm.trans split')
      have fewer : ((before ++ entry :: after).filterMap what).Nodup := by
        rw [split] at once
        exact once.sublist ((List.sublist_cons_self _ _).filterMap what)
      exact ih fewer rfl rest

theorem ownCalls_shown_nodup {α : Type} {what : AuthEntry → Option α} {log : List (Nat × AuthEntry)} (i : Nat)
    (once : ((shown what log).map (·.2)).Nodup) : ((ownCalls log i).filterMap what).Nodup := by
  have same : (shown what log).map (·.2) = (log.map (·.2)).filterMap what := by
    rw [shown, List.map_filterMap, List.filterMap_map]
    refine List.filterMap_congr fun entry _ => ?_
    simp [Function.comp_apply, Option.map_map, Function.comp_def]
  rw [same] at once
  exact once.sublist ((List.filter_sublist.map _).filterMap what)

section
variable [UrlParser] [DateText] [Sha256] [PasskeyCodec] {pool : AuthPool}

theorem AuthReach.permitted (reach : AuthReach pool) {i : Nat} {entry : AuthEntry} (member : (i, entry) ∈ pool.state.log) :
    ∃ thread, pool.threads[i]? = some thread ∧ ∃ earlier later, ownCalls pool.state.log i = earlier ++ entry :: later ∧
      thread.request.Guard earlier entry.op := by
  have empty : ∀ s : AuthState, s.Initial → s.log = [] := fun _ first => first.2.2
  obtain ⟨thread, found⟩ := reach.caller auth_logs empty member
  obtain ⟨earlier, later, split⟩ := List.append_of_mem (mem_ownCalls.mpr member)
  exact ⟨thread, found, earlier, later, split, System.Reach.permitted reach auth_logs empty auth_keeps found split⟩

theorem AuthReach.issued (reach : AuthReach pool) {i : Nat} {nonce : NonceInput} {expiresAt : Int} {answer : Insertion}
    (member : (i, ⟨.insertNonce nonce expiresAt, answer⟩) ∈ pool.state.log) :
    ∃ thread, pool.threads[i]? = some thread ∧ thread.request.Issues nonce ∧ nonce.Formed ∧ ∃ earlier later,
      ownCalls pool.state.log i = earlier ++ ⟨.randomToken, nonce.nonce⟩ :: ⟨.insertNonce nonce expiresAt, answer⟩ :: later := by
  obtain ⟨thread, found, _, later, split, issues, earlier, rfl⟩ := reach.permitted member
  rw [List.append_assoc] at split
  have token : (i, (⟨.randomToken, nonce.nonce⟩ : AuthEntry)) ∈ pool.state.log := by
    refine mem_ownCalls.mp ?_
    rw [split]
    exact List.mem_append_right _ List.mem_cons_self
  have opaqueToken := reach.consistent.formats _ (mem_shown.mpr ⟨_, token, rfl⟩)
  exact ⟨thread, found, issues, issues.formed opaqueToken, earlier, later, split⟩

theorem AuthReach.stored_once (reach : AuthReach pool) {i j : Nat} {first second : NonceInput} {expiresAt expiresAt' : Int}
    {answer answer' : Insertion} (member : (i, ⟨.insertNonce first expiresAt, answer⟩) ∈ pool.state.log)
    (member' : (j, ⟨.insertNonce second expiresAt', answer'⟩) ∈ pool.state.log) (same : first.nonce = second.nonce) :
    first = second := by
  obtain ⟨_, _, _, _, _, _, split⟩ := reach.issued member
  obtain ⟨_, _, _, _, _, _, split'⟩ := reach.issued member'
  have token : (i, first.nonce) ∈ shown drawn pool.state.log := by
    refine mem_shown.mpr ⟨⟨.randomToken, first.nonce⟩, mem_ownCalls.mp ?_, rfl⟩
    rw [split]
    exact List.mem_append_right _ List.mem_cons_self
  have token' : (j, second.nonce) ∈ shown drawn pool.state.log := by
    refine mem_shown.mpr ⟨⟨.randomToken, second.nonce⟩, mem_ownCalls.mp ?_, rfl⟩
    rw [split']
    exact List.mem_append_right _ List.mem_cons_self
  obtain ⟨rfl, _⟩ := Prod.mk.inj (List.inj_on_of_nodup_map reach.consistent.tokens token token' same)
  have calls := same_place (ownCalls_shown_nodup i reach.consistent.tokens) split split' rfl (congrArg some same.symm)
  cases (List.cons.inj calls).1
  rfl

/-- A thread shows at most one call of a kind that is permitted only to threads without one. -/
theorem AuthReach.one_each {α : Type} {what : AuthEntry → Option α} (reach : AuthReach pool)
    (once : ∀ (request : AuthRequest) history op answer, request.Guard history op → (what ⟨op, answer⟩).isSome →
      ∀ entry ∈ history, what entry = none) : ((shown what pool.state.log).map (·.1)).Nodup := by
  have empty : ∀ s : AuthState, s.Initial → s.log = [] := fun _ first => first.2.2
  let apart : AuthState → Prop := fun s => ((shown what s.log).map (·.1)).Nodup
  suffices apart pool.state from this
  refine System.Reach.guarded reach auth_logs empty auth_keeps ?_ ?_ ?_
  · intro s first
    dsimp only [apart]
    rw [AuthState.Consistent.shown_nil what (empty s first)]
    exact List.nodup_nil
  · intro pool i request op next answer after _ _ called permitted nodup
    dsimp only [apart] at nodup ⊢
    rcases AuthState.Consistent.shown_cases what called.2.2 with ⟨_, same⟩ | ⟨value, found, same⟩
    · rw [same]
      exact nodup
    · rw [same, List.map_append]
      refine nodup.append (List.nodup_singleton _) fun j earlier last => ?_
      obtain ⟨⟨j, known⟩, member, rfl⟩ := List.mem_map.mp earlier
      obtain ⟨entry, logged, showed⟩ := mem_shown.mp member
      cases List.mem_singleton.mp last
      have none := once request _ op answer permitted (Option.isSome_iff_exists.mpr ⟨value, found⟩) entry (mem_ownCalls.mpr logged)
      rw [none] at showed
      cases showed
  · intro before after moved nodup
    obtain ⟨now, rfl⟩ := moved
    exact nodup

theorem AuthReach.openers (reach : AuthReach pool) : ((shown opened pool.state.log).map (·.1)).Nodup := by
  refine reach.one_each ?_
  intro request history op answer permitted found
  cases op with
  | createSession => exact permitted.2.1
  | _ => cases found

end

end Bnbera.Auth
