import Bnbera.Auth.System
import Mathlib.Data.List.Nodup

namespace Bnbera.Auth

open Interleaving

section
variable [Sha256]

structure NonceRow.Holds (row : NonceRow) (input : NonceInput) : Prop where
  domain : row.domain = input.domain
  chainId : row.chainId = input.chainId
  digest : row.nonceDigest = Bnbera.Auth.nonceDigest input

structure NonceRow.Renews (row old : NonceRow) : Prop where
  domain : row.domain = old.domain
  chainId : row.chainId = old.chainId
  digest : row.nonceDigest = old.nonceDigest
  expiresAt : row.expiresAt = old.expiresAt

theorem NonceRow.Renews.holds {row old : NonceRow} {input : NonceInput} (renews : row.Renews old) (holds : old.Holds input) :
    row.Holds input :=
  ⟨renews.domain.trans holds.domain, renews.chainId.trans holds.chainId, renews.digest.trans holds.digest⟩

def NonceRow.ConsumedInTime (row : NonceRow) : Prop := ∃ time, row.consumedAt = some time ∧ time < row.expiresAt

/-- What the tables of every reachable state show of the calls that were made. -/
structure AuthState.Consistent (s : AuthState) : Prop where
  rows : ∀ row ∈ s.nonces, ∃ i expiresAt input answer,
    (i, ⟨.insertNonce input expiresAt, answer⟩) ∈ s.log ∧ row.Holds input ∧ row.expiresAt = expiresAt
  digests : (s.nonces.map (·.nonceDigest)).Nodup
  taken : ∀ entry ∈ shown redeemed s.log, ∃ row ∈ s.nonces, row.Holds entry.2 ∧ row.ConsumedInTime
  once : ((shown redeemed s.log).map fun entry => nonceDigest entry.2).Nodup
  sessions : s.sessions.Sublist (shown opened s.log)
  tokens : ((shown drawn s.log).map (·.2)).Nodup
  formats : ∀ entry ∈ shown drawn s.log, isOpaqueToken entry.2 = true

namespace AuthState

variable {s after : AuthState} {i : Nat} {input : NonceInput}

theorem isConsumable_iff {row : NonceRow} : s.isConsumable input row = true ↔
    row.Holds input ∧ row.consumedAt = none ∧ s.now < row.expiresAt := by
  simp only [isConsumable, Bool.and_eq_true, beq_iff_eq, decide_eq_true_eq, Option.isNone_iff_eq_none]
  constructor
  · rintro ⟨⟨⟨⟨domain, chainId⟩, digest⟩, unconsumed⟩, live⟩
    exact ⟨⟨domain, chainId, digest⟩, unconsumed, live⟩
  · rintro ⟨⟨domain, chainId, digest⟩, unconsumed, live⟩
    exact ⟨⟨⟨⟨domain, chainId⟩, digest⟩, unconsumed⟩, live⟩

theorem consumed_renews (row : NonceRow) :
    let after := if s.isConsumable input row then { row with consumedAt := some s.now } else row
    after.Renews row ∧ (row.ConsumedInTime → after.ConsumedInTime) := by
  by_cases taken : s.isConsumable input row = true
  · simp only [if_pos taken]
    refine ⟨⟨rfl, rfl, rfl, rfl⟩, ?_⟩
    rintro ⟨time, consumed, _⟩
    rw [(isConsumable_iff.mp taken).2.1] at consumed
    cases consumed
  · simp only [if_neg taken]
    exact ⟨⟨rfl, rfl, rfl, rfl⟩, id⟩

theorem consumed_digests : (s.consumed input).map (·.nonceDigest) = s.nonces.map (·.nonceDigest) := by
  rw [consumed, List.map_map]
  refine List.map_congr_left fun row _ => ?_
  rw [Function.comp_apply]
  split <;> rfl

theorem consumed_redeemed {row : NonceRow} (taken : row ∈ s.consumable input) :
    ∃ after ∈ s.consumed input, after.Holds input ∧ after.ConsumedInTime := by
  obtain ⟨member, taken⟩ := List.mem_filter.mp taken
  obtain ⟨holds, _, live⟩ := isConsumable_iff.mp taken
  refine ⟨_, List.mem_map_of_mem member, ?_⟩
  rw [if_pos taken]
  exact ⟨⟨holds.domain, holds.chainId, holds.digest⟩, s.now, rfl, live⟩

end AuthState

/-- What stays true of the rows in a step that keeps the rows, or consumes some of them. -/
structure RowsKept (before after : List NonceRow) : Prop where
  digests : after.map (·.nonceDigest) = before.map (·.nonceDigest)
  origin : ∀ row ∈ after, ∃ old ∈ before, row.Renews old
  kept : ∀ old ∈ before, ∃ row ∈ after, row.Renews old ∧ (old.ConsumedInTime → row.ConsumedInTime)

omit [Sha256] in
theorem RowsKept.same (rows : List NonceRow) : RowsKept rows rows where
  digests := rfl
  origin row member := ⟨row, member, rfl, rfl, rfl, rfl⟩
  kept row member := ⟨row, member, ⟨rfl, rfl, rfl, rfl⟩, id⟩

theorem RowsKept.consumed (s : AuthState) (input : NonceInput) : RowsKept s.nonces (s.consumed input) where
  digests := AuthState.consumed_digests
  origin row member := by
    obtain ⟨old, known, rfl⟩ := List.mem_map.mp member
    exact ⟨old, known, (AuthState.consumed_renews old).1⟩
  kept old member := ⟨_, List.mem_map_of_mem member, AuthState.consumed_renews old⟩

namespace AuthState.Consistent

variable {s after : AuthState} {i : Nat} {entry : AuthEntry}

omit [Sha256] in
theorem shown_cases {α : Type} (what : AuthEntry → Option α) (log : after.log = s.log ++ [(i, entry)]) :
    what entry = none ∧ shown what after.log = shown what s.log ∨
      ∃ value, what entry = some value ∧ shown what after.log = shown what s.log ++ [(i, value)] := by
  rw [log, shown_append]
  cases found : what entry with
  | none => exact .inl ⟨rfl, List.append_nil _⟩
  | some value => exact .inr ⟨value, rfl, rfl⟩

/-- A step that keeps the rows: what the call redeems, draws and opens is accounted for. -/
theorem kept (consistent : s.Consistent) (log : after.log = s.log ++ [(i, entry)]) (rows : RowsKept s.nonces after.nonces)
    (taken : ∀ input, redeemed entry = some input → ∃ row ∈ after.nonces, row.Holds input ∧ row.ConsumedInTime)
    (once : ∀ input, redeemed entry = some input → ∀ earlier ∈ shown redeemed s.log, nonceDigest earlier.2 ≠ nonceDigest input)
    (tokens : ∀ token, drawn entry = some token → isOpaqueToken token = true ∧ ∀ earlier ∈ s.log, drawn earlier.2 ≠ some token)
    (sessions : after.sessions.Sublist (shown opened after.log)) : after.Consistent where
  rows row member := by
    obtain ⟨old, known, renews⟩ := rows.origin row member
    obtain ⟨j, expiresAt, input, answer, called, holds, same⟩ := consistent.rows old known
    refine ⟨j, expiresAt, input, answer, ?_, renews.holds holds, renews.expiresAt.trans same⟩
    rw [log]
    exact List.mem_append_left _ called
  digests := rows.digests ▸ consistent.digests
  taken := by
    have earlier : ∀ known ∈ shown redeemed s.log, ∃ row ∈ after.nonces, row.Holds known.2 ∧ row.ConsumedInTime := by
      intro known member
      obtain ⟨old, present, holds, consumed⟩ := consistent.taken known member
      obtain ⟨row, present, renews, stays⟩ := rows.kept old present
      exact ⟨row, present, renews.holds holds, stays consumed⟩
    rcases shown_cases redeemed log with ⟨_, same⟩ | ⟨input, found, same⟩
    · rw [same]
      exact earlier
    · rw [same]
      intro known member
      rcases List.mem_append.mp member with old | new
      · exact earlier known old
      · cases List.mem_singleton.mp new
        exact taken input found
  once := by
    rcases shown_cases redeemed log with ⟨_, same⟩ | ⟨input, found, same⟩
    · rw [same]
      exact consistent.once
    · rw [same, List.map_append]
      refine consistent.once.append (List.nodup_singleton _) fun digest old new => ?_
      obtain ⟨earlier, member, rfl⟩ := List.mem_map.mp old
      exact once input found earlier member (List.mem_singleton.mp new)
  sessions := sessions
  tokens := by
    rcases shown_cases drawn log with ⟨_, same⟩ | ⟨token, found, same⟩
    · rw [same]
      exact consistent.tokens
    · rw [same, List.map_append]
      refine consistent.tokens.append (List.nodup_singleton _) fun text old new => ?_
      obtain ⟨⟨j, earlier⟩, member, rfl⟩ := List.mem_map.mp old
      obtain ⟨call, called, drew⟩ := mem_shown.mp member
      cases List.mem_singleton.mp new
      exact (tokens _ found).2 _ called drew
  formats := by
    rcases shown_cases drawn log with ⟨_, same⟩ | ⟨token, found, same⟩
    · rw [same]
      exact consistent.formats
    · rw [same]
      intro known member
      rcases List.mem_append.mp member with old | new
      · exact consistent.formats known old
      · cases List.mem_singleton.mp new
        exact (tokens token found).1

theorem quiet (consistent : s.Consistent) (log : after.log = s.log ++ [(i, entry)]) (rows : RowsKept s.nonces after.nonces)
    (unredeemed : redeemed entry = none) (undrawn : drawn entry = none)
    (sessions : after.sessions.Sublist (shown opened after.log)) : after.Consistent := by
  refine consistent.kept log rows ?_ ?_ ?_ sessions
  · intro input found
    rw [unredeemed] at found
    cases found
  · intro input found
    rw [unredeemed] at found
    cases found
  · intro token found
    rw [undrawn] at found
    cases found

theorem sessions_kept (consistent : s.Consistent) (log : after.log = s.log ++ [(i, entry)])
    (same : after.sessions = s.sessions) : after.sessions.Sublist (shown opened after.log) := by
  rw [same, log, shown_append]
  exact consistent.sessions.trans (List.sublist_append_left _ _)

/-- A stored nonce adds a row under a digest of its own. -/
theorem inserted {input : NonceInput} {expiresAt : Int} {answer : Insertion} (consistent : s.Consistent)
    (log : after.log = s.log ++ [(i, ⟨.insertNonce input expiresAt, answer⟩)])
    (fresh : ∀ row ∈ s.nonces, row.nonceDigest ≠ nonceDigest input)
    (nonces : after.nonces = s.nonces ++ [issuedRow input expiresAt]) (sessions : after.sessions = s.sessions) :
    after.Consistent := by
  have unredeemed : shown redeemed after.log = shown redeemed s.log := by
    rw [log, shown_append]
    exact List.append_nil _
  have undrawn : shown drawn after.log = shown drawn s.log := by
    rw [log, shown_append]
    exact List.append_nil _
  refine ⟨?_, ?_, ?_, ?_, consistent.sessions_kept log sessions, ?_, ?_⟩
  · rw [nonces, log]
    intro row member
    rcases List.mem_append.mp member with old | new
    · obtain ⟨j, expires, known, answer, called, holds, same⟩ := consistent.rows row old
      exact ⟨j, expires, known, answer, List.mem_append_left _ called, holds, same⟩
    · cases List.mem_singleton.mp new
      exact ⟨i, expiresAt, input, answer, List.mem_append_right _ (List.mem_singleton_self _), ⟨rfl, rfl, rfl⟩, rfl⟩
  · rw [nonces, List.map_append]
    refine consistent.digests.append (List.nodup_singleton _) fun digest old new => ?_
    obtain ⟨row, member, rfl⟩ := List.mem_map.mp old
    exact fresh row member (List.mem_singleton.mp new)
  · rw [unredeemed, nonces]
    intro known member
    obtain ⟨row, present, holds⟩ := consistent.taken known member
    exact ⟨row, List.mem_append_left _ present, holds⟩
  · rw [unredeemed]
    exact consistent.once
  · rw [undrawn]
    exact consistent.tokens
  · rw [undrawn]
    exact consistent.formats

theorem unredeemed {input : NonceInput} (consistent : s.Consistent) (one : (s.consumable input).length = 1) :
    ∀ earlier ∈ shown redeemed s.log, nonceDigest earlier.2 ≠ nonceDigest input := by
  intro earlier member same
  obtain ⟨row, only⟩ := List.length_eq_one_iff.mp one
  have listed : row ∈ s.consumable input := by
    rw [only]
    exact List.mem_singleton_self _
  obtain ⟨present, taken⟩ := List.mem_filter.mp listed
  obtain ⟨holds, unconsumed, _⟩ := isConsumable_iff.mp taken
  obtain ⟨old, known, held, time, consumed, _⟩ := consistent.taken earlier member
  have identical : row = old := List.inj_on_of_nodup_map consistent.digests present known
    (holds.digest.trans (same.symm.trans held.digest.symm))
  rw [identical, consumed] at unconsumed
  cases unconsumed

theorem redeem {input : NonceInput} {answer : Bool} (consistent : s.Consistent)
    (log : after.log = s.log ++ [(i, ⟨.consumeNonce input, .ok answer⟩)])
    (reported : answer = decide ((s.consumable input).length = 1)) (nonces : after.nonces = s.consumed input)
    (sessions : after.sessions = s.sessions) : after.Consistent := by
  have rows : RowsKept s.nonces after.nonces := nonces ▸ RowsKept.consumed s input
  have sessions := consistent.sessions_kept log sessions
  cases answer with
  | false => exact consistent.quiet log rows rfl rfl sessions
  | true =>
    have one : (s.consumable input).length = 1 := of_decide_eq_true reported.symm
    refine consistent.kept log rows ?_ ?_ ?_ sessions
    · intro known found
      cases found
      obtain ⟨row, only⟩ := List.length_eq_one_iff.mp one
      rw [nonces]
      exact consumed_redeemed (only ▸ List.mem_singleton_self row)
    · intro known found
      cases found
      exact consistent.unredeemed one
    · intro token found
      cases found

/-- What every call keeps. -/
theorem step (consistent : s.Consistent) (called : s.Answers i entry after.nonces after.sessions)
    (log : after.log = s.log ++ [(i, entry)]) : after.Consistent := by
  obtain ⟨op, answer⟩ := entry
  cases op with
  | randomToken =>
    obtain ⟨opaqueToken, fresh, nonces, sessions⟩ := called
    refine consistent.kept log (nonces ▸ RowsKept.same _) ?_ ?_ ?_ (consistent.sessions_kept log sessions)
    · intro input found
      cases found
    · intro input found
      cases found
    · intro token found
      cases found
      exact ⟨opaqueToken, fresh⟩
  | insertNonce input expiresAt =>
    cases answer with
    | inserted => exact consistent.inserted log called.1 called.2.1 called.2.2
    | duplicate => exact consistent.quiet log (called.2.1 ▸ RowsKept.same _) rfl rfl (consistent.sessions_kept log called.2.2)
    | failed =>
      obtain ⟨nonces | ⟨fresh, nonces⟩, sessions⟩ := called
      · exact consistent.quiet log (nonces ▸ RowsKept.same _) rfl rfl (consistent.sessions_kept log sessions)
      · exact consistent.inserted log fresh nonces sessions
  | consumeNonce input =>
    cases answer with
    | ok answer => exact consistent.redeem log called.1 called.2.1 called.2.2
    | error failure =>
      obtain ⟨nonces | nonces, sessions⟩ := called
      · exact consistent.quiet log (nonces ▸ RowsKept.same _) rfl rfl (consistent.sessions_kept log sessions)
      · exact consistent.quiet log (nonces ▸ RowsKept.consumed s input) rfl rfl (consistent.sessions_kept log sessions)
  | createSession session =>
    have added : after.sessions = s.sessions ++ [(i, session)] → after.sessions.Sublist (shown opened after.log) := by
      intro sessions
      rw [sessions, log, shown_append]
      exact consistent.sessions.append (List.Sublist.refl _)
    cases answer with
    | ok stored => exact consistent.quiet log (called.1 ▸ RowsKept.same _) rfl rfl (added called.2)
    | error failure =>
      obtain ⟨nonces, same | more⟩ := called
      · exact consistent.quiet log (nonces ▸ RowsKept.same _) rfl rfl (consistent.sessions_kept log same)
      · exact consistent.quiet log (nonces ▸ RowsKept.same _) rfl rfl (added more)
  | clock => exact consistent.quiet log (called.1 ▸ RowsKept.same _) rfl rfl (consistent.sessions_kept log called.2)
  | verifyMessage => exact consistent.quiet log (called.1 ▸ RowsKept.same _) rfl rfl (consistent.sessions_kept log called.2)
  | readAdminKeys => exact consistent.quiet log (called.1 ▸ RowsKept.same _) rfl rfl (consistent.sessions_kept log called.2)
  | verifyAssertion => exact consistent.quiet log (called.1 ▸ RowsKept.same _) rfl rfl (consistent.sessions_kept log called.2)

omit [Sha256] in
theorem shown_nil {α : Type} (what : AuthEntry → Option α) (unlogged : s.log = []) : shown what s.log = [] := by
  rw [unlogged]
  rfl

theorem initial (first : s.Initial) : s.Consistent := by
  obtain ⟨nonces, sessions, log⟩ := first
  refine ⟨?_, ?_, ?_, ?_, ?_, ?_, ?_⟩
  · rw [nonces]
    exact fun row member => absurd member List.not_mem_nil
  · rw [nonces]
    exact List.nodup_nil
  · rw [shown_nil redeemed log]
    exact fun known member => absurd member List.not_mem_nil
  · rw [shown_nil redeemed log]
    exact List.nodup_nil
  · rw [sessions]
    exact List.nil_sublist _
  · rw [shown_nil drawn log]
    exact List.nodup_nil
  · rw [shown_nil drawn log]
    exact fun known member => absurd member List.not_mem_nil

end AuthState.Consistent

section
variable [UrlParser] [DateText] [PasskeyCodec]

theorem AuthReach.consistent {pool : AuthPool} (reach : AuthReach pool) : pool.state.Consistent := by
  refine System.Reach.invariant reach (fun _ first => .initial first) ?_ ?_
  · intro i request op before answer after called consistent
    exact consistent.step called.1 called.2.2
  · intro before after moved consistent
    obtain ⟨now, rfl⟩ := moved
    exact ⟨consistent.rows, consistent.digests, consistent.taken, consistent.once, consistent.sessions,
      consistent.tokens, consistent.formats⟩

omit [UrlParser] [DateText] [PasskeyCodec] in
/-- A call adds a row, consumes some rows, or leaves them alone. -/
theorem AuthState.Answers.nonces {s : AuthState} {i : Nat} {entry : AuthEntry} {nonces : List NonceRow}
    {sessions : List (Nat × SessionInput)} (called : s.Answers i entry nonces sessions) :
    (∃ added, nonces = s.nonces ++ added) ∨ ∃ input, nonces = s.consumed input := by
  have unchanged : nonces = s.nonces → (∃ added, nonces = s.nonces ++ added) ∨ ∃ input, nonces = s.consumed input :=
    fun same => .inl ⟨[], same.trans (List.append_nil _).symm⟩
  obtain ⟨op, answer⟩ := entry
  cases op with
  | randomToken => exact unchanged called.2.2.1
  | insertNonce input expiresAt =>
    cases answer with
    | inserted => exact .inl ⟨_, called.2.1⟩
    | duplicate => exact unchanged called.2.1
    | failed =>
      rcases called.1 with same | ⟨_, added⟩
      · exact unchanged same
      · exact .inl ⟨_, added⟩
  | consumeNonce input =>
    cases answer with
    | ok answer => exact .inr ⟨input, called.2.1⟩
    | error failure =>
      rcases called.1 with same | consumed
      · exact unchanged same
      · exact .inr ⟨input, consumed⟩
  | createSession session =>
    cases answer with
    | ok stored => exact unchanged called.1
    | error failure => exact unchanged called.1
  | clock => exact unchanged called.1
  | verifyMessage => exact unchanged called.1
  | readAdminKeys => exact unchanged called.1
  | verifyAssertion => exact unchanged called.1

omit [UrlParser] [DateText] [PasskeyCodec] in
theorem AuthState.Answers.renewed {s : AuthState} {i : Nat} {entry : AuthEntry} {nonces : List NonceRow}
    {sessions : List (Nat × SessionInput)} (called : s.Answers i entry nonces sessions) :
    ∀ old ∈ s.nonces, ∃ row ∈ nonces, row.Renews old := by
  intro old known
  rcases called.nonces with ⟨added, rfl⟩ | ⟨input, rfl⟩
  · exact ⟨old, List.mem_append_left _ known, rfl, rfl, rfl, rfl⟩
  · obtain ⟨row, present, renews, _⟩ := (RowsKept.consumed s input).kept old known
    exact ⟨row, present, renews⟩

theorem AuthReach.inserted {pool : AuthPool} (reach : AuthReach pool) : ∀ i input expiresAt,
    (i, ⟨.insertNonce input expiresAt, .inserted⟩) ∈ pool.state.log →
      ∃ row ∈ pool.state.nonces, row.Holds input ∧ row.expiresAt = expiresAt := by
  let stored : AuthState → Prop := fun s => ∀ i input expiresAt,
    (i, (⟨.insertNonce input expiresAt, .inserted⟩ : AuthEntry)) ∈ s.log →
      ∃ row ∈ s.nonces, row.Holds input ∧ row.expiresAt = expiresAt
  suffices stored pool.state from this
  refine System.Reach.invariant reach ?_ ?_ ?_
  · intro s first i input expiresAt member
    rw [first.2.2] at member
    cases member
  · intro j request op before answer after called earlier i input expiresAt member
    rw [called.2.2] at member
    rcases List.mem_append.mp member with old | new
    · obtain ⟨known, present, holds, expires⟩ := earlier i input expiresAt old
      obtain ⟨row, present, renews⟩ := called.1.renewed known present
      exact ⟨row, present, renews.holds holds, renews.expiresAt.trans expires⟩
    · cases List.mem_singleton.mp new
      rw [called.1.2.1]
      exact ⟨_, List.mem_append_right _ (List.mem_singleton_self _), ⟨rfl, rfl, rfl⟩, rfl⟩
  · intro before after moved earlier
    obtain ⟨now, rfl⟩ := moved
    exact earlier

theorem AuthReach.consumable {pool : AuthPool} (reach : AuthReach pool) {i : Nat} {input : NonceInput} {expiresAt : Int}
    (stored : (i, ⟨.insertNonce input expiresAt, .inserted⟩) ∈ pool.state.log) (live : pool.state.now < expiresAt)
    (unconsumed : ∀ row ∈ pool.state.nonces, row.Holds input → row.consumedAt = none) :
    (pool.state.consumable input).length = 1 := by
  obtain ⟨row, present, holds, expires⟩ := reach.inserted i input expiresAt stored
  have taken : pool.state.isConsumable input row = true :=
    AuthState.isConsumable_iff.mpr ⟨holds, unconsumed row present holds, expires ▸ live⟩
  have distinct : (pool.state.consumable input).Nodup := (List.Nodup.of_map _ reach.consistent.digests).filter _
  have alone : ∀ other ∈ pool.state.consumable input, other = row := by
    intro other member
    obtain ⟨known, consumable⟩ := List.mem_filter.mp member
    exact List.inj_on_of_nodup_map reach.consistent.digests known present
      ((AuthState.isConsumable_iff.mp consumable).1.digest.trans holds.digest.symm)
  have most : (pool.state.consumable input).length ≤ 1 := by
    rw [List.eq_replicate_of_mem alone] at distinct
    exact List.nodup_replicate.mp distinct
  have least : 0 < (pool.state.consumable input).length := List.length_pos_of_mem (List.mem_filter.mpr ⟨present, taken⟩)
  omega

end

end

end Bnbera.Auth
