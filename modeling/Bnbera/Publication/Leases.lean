import Bnbera.Publication.Verified

namespace Bnbera.Publication

open Interleaving

namespace PublicationState

variable {s : PublicationState} {i j : Nat} {request : PublicationRequest} {entry found : Entry} {after : PublicationStore}

theorem mem_own_next : found ∈ (s.next ⟨i, request, entry⟩ after).own j ↔ found ∈ s.own j ∨ i = j ∧ found = entry := by
  by_cases mine : i = j
  · subst mine
    rw [own_next, List.mem_append, List.mem_singleton]
    exact or_congr_right (and_iff_right rfl).symm
  · rw [own_next_other mine]
    exact (or_iff_left fun also => mine also.1).symm

theorem held_next_own : held ((s.next ⟨i, request, entry⟩ after).own i) = heldAfter (held (s.own i)) entry := by
  rw [own_next, held_next]

theorem held_next_other (apart : i ≠ j) : held ((s.next ⟨i, request, entry⟩ after).own j) = held (s.own j) := by
  rw [own_next_other apart]

end PublicationState

def acquired : Entry → Option PublicationAttemptRecord
  | ⟨.acquireLease _ _ _ _, (true, some initial)⟩ => some initial
  | _ => none

theorem heldAfter_ungranted {entry : Entry} {before : Option PublicationAttemptRecord} {record : PublicationAttemptRecord}
    (ungranted : ∀ record, ¬Grants record entry) (holds : heldAfter before entry = some record) : before = some record := by
  unfold heldAfter at holds
  split at holds
  · exact absurd rfl (ungranted _)
  · exact absurd rfl (ungranted _)
  · cases holds
  · exact holds

/-- Each thread draws one token, and no two draw the same. What a thread holds is leased by its token. -/
structure Tokens (s : PublicationState) : Prop where
  once : ∀ i first second, ⟨.randomUUID, first⟩ ∈ s.own i → ⟨.randomUUID, second⟩ ∈ s.own i → first = second
  apart : ∀ i j leaseToken, ⟨.randomUUID, leaseToken⟩ ∈ s.own i → ⟨.randomUUID, leaseToken⟩ ∈ s.own j → i = j
  held : ∀ i prior, held (s.own i) = some prior →
    ∃ leaseToken, prior.leaseOwner = some leaseToken ∧ ⟨.randomUUID, leaseToken⟩ ∈ s.own i

theorem Tokens.start : Tokens ⟨.empty, [], []⟩ where
  once := fun _ _ _ member => (List.not_mem_nil member).elim
  apart := fun _ _ _ member => (List.not_mem_nil member).elim
  held := fun _ _ holds => nomatch holds

theorem Tokens.same {s : PublicationState} {i j : Nat} {prior : PublicationAttemptRecord} (tokens : Tokens s)
    (holds : Publication.held (s.own i) = some prior) (also : Publication.held (s.own j) = some prior) : i = j := by
  obtain ⟨leaseToken, leased, drew⟩ := tokens.held i prior holds
  obtain ⟨other, owned, member⟩ := tokens.held j prior also
  cases leased.symm.trans owned
  exact tokens.apart i j leaseToken drew member

variable [ByteDigests] {known : PublicationRequest → Prop} {permits : Condition} {s : PublicationState} {i j : Nat}
  {request : PublicationRequest} {entry : Entry} {after : PublicationStore} {prior stored : PublicationAttemptRecord}

theorem Acts.undrawn (acts : Acts known permits s i request entry after) {leaseToken : String}
    (draws : ⟨.randomUUID, leaseToken⟩ = entry) : ⟨.randomUUID, leaseToken⟩ ∉ s.own j := by
  subst draws
  intro member
  obtain ⟨logged, logs, _, same⟩ := PublicationState.mem_own.mp member
  exact acts.fresh leaseToken rfl logged logs (by rw [same]; rfl)

theorem Acts.draws (acts : Acts known permits s i request entry after) {leaseToken other : String}
    (draws : ⟨.randomUUID, leaseToken⟩ = entry) : ⟨.randomUUID, other⟩ ∉ s.own i := by
  subst draws
  intro member
  obtain ⟨_, _, none⟩ := acts.guarded.works id
  cases none _ member

theorem Tokens.step (tokens : Tokens s) (acts : Acts known permits s i request entry after) :
    Tokens (s.next ⟨i, request, entry⟩ after) := by
  refine ⟨fun j first second left right => ?_, fun j k leaseToken left right => ?_, fun j prior holds => ?_⟩
  · rcases PublicationState.mem_own_next.mp left with old | ⟨rfl, new⟩
    · rcases PublicationState.mem_own_next.mp right with also | ⟨rfl, new⟩
      · exact tokens.once j first second old also
      · exact absurd old (acts.draws new)
    · rcases PublicationState.mem_own_next.mp right with also | ⟨_, also⟩
      · exact absurd also (acts.draws new)
      · cases new.trans also.symm
        rfl
  · rcases PublicationState.mem_own_next.mp left with old | ⟨rfl, new⟩
    · rcases PublicationState.mem_own_next.mp right with also | ⟨rfl, new⟩
      · exact tokens.apart j k leaseToken old also
      · exact absurd old (acts.undrawn new)
    · rcases PublicationState.mem_own_next.mp right with also | ⟨same, _⟩
      · exact absurd also (acts.undrawn new)
      · exact same
  · by_cases mine : i = j
    · subst mine
      rw [PublicationState.held_next_own] at holds
      have kept : ∀ {record}, Publication.held (s.own i) = some record → ∃ leaseToken, record.leaseOwner = some leaseToken ∧
          ⟨.randomUUID, leaseToken⟩ ∈ (s.next ⟨i, request, entry⟩ after).own i := fun held => by
        obtain ⟨leaseToken, owner, member⟩ := tokens.held i _ held
        exact ⟨leaseToken, owner, PublicationState.mem_own_next.mpr (.inl member)⟩
      have worked := acts.worked
      cases worked with
      | unchanged _ _ ungranted => exact kept (heldAfter_ungranted ungranted holds)
      | created => exact kept holds
      | @leased _ leaseToken _ _ _ _ _ _ _ token =>
        cases holds
        exact ⟨leaseToken, rfl, PublicationState.mem_own_next.mpr (.inl token)⟩
      | @saved _ _ _ _ _ _ _ _ held _ _ _ _ advances =>
        cases holds
        rw [advances.leaseOwner]
        exact kept held
      | released => cases holds
    · rw [PublicationState.held_next_other mine] at holds
      obtain ⟨leaseToken, owner, member⟩ := tokens.held j prior holds
      exact ⟨leaseToken, owner, PublicationState.mem_own_next.mpr (.inl member)⟩

theorem Acts.left (acts : Acts known permits s i request entry after) {found : Entry} (member : found ∈ s.own j)
    (carries : Carries prior found) (still : after.records.get prior.idempotencyKey.text = some prior) :
    s.store.records.get prior.idempotencyKey.text = some prior ∧
      (request.recordKey = prior.idempotencyKey.text → ∀ record, ¬Grants record entry) := by
  obtain ⟨logged, logs, _, rfl⟩ := PublicationState.mem_own.mp member
  obtain ⟨_, stored, at_, _, earlier, _⟩ := acts.kept.carried logged logs prior carries
  rcases acts.worked.replaces with ⟨same, _, ungranted⟩ | ⟨_, record, makes, absent, _, rfl⟩ | ⟨replaced, record, writes⟩
  · exact ⟨same ▸ still, fun _ => ungranted⟩
  · have key : record.idempotencyKey.text = request.recordKey := makes.2.idempotencyKey
    have other : prior.idempotencyKey.text ≠ record.idempotencyKey.text := by
      intro mine
      rw [mine, key, absent] at at_
      cases at_
    exact ⟨(PublicationStore.write_ne other).symm.trans still, fun mine => absurd (mine.symm.trans key.symm) other⟩
  · obtain ⟨under, identity, revision, rfl, _⟩ := writes
    have key : record.idempotencyKey.text = request.recordKey := by
      rw [PublicationStore.identity_key identity, (acts.kept.stored _ _ under).1]
    have other : prior.idempotencyKey.text ≠ record.idempotencyKey.text := by
      intro mine
      rw [mine] at still at_
      cases still.symm.trans PublicationStore.write_self
      cases (key ▸ at_).symm.trans under
      omega
    exact ⟨(PublicationStore.write_ne other).symm.trans still, fun mine => absurd (mine.symm.trans key.symm) other⟩

/-- A stored lease is that of a thread, and the thread that drew its token holds the stored record. -/
structure Leases (s : PublicationState) : Prop where
  issued : ∀ key stored leaseToken, s.store.records.get key = some stored → stored.leaseOwner = some leaseToken →
    ∃ i, ⟨.randomUUID, leaseToken⟩ ∈ s.own i
  owned : ∀ key stored leaseToken i, s.store.records.get key = some stored → stored.leaseOwner = some leaseToken →
    ⟨.randomUUID, leaseToken⟩ ∈ s.own i → held (s.own i) = some stored

omit [ByteDigests] in
theorem Leases.start : Leases ⟨.empty, [], []⟩ where
  issued := fun _ _ _ found => nomatch found
  owned := fun _ _ _ _ found => nomatch found

theorem Acts.held_key (acts : Acts known permits s i request entry after) (holds : held (s.own i) = some prior) :
    prior.idempotencyKey.text = request.recordKey := by
  obtain ⟨_, member, grants⟩ := held_granted holds
  exact (acts.kept.stored_of_carried acts.mine member grants.carries).1

theorem Leases.before (leases : Leases s) (acts : Acts known permits s i request entry after) {key leaseToken : String}
    (found : s.store.records.get key = some stored) (owner : stored.leaseOwner = some leaseToken)
    (member : ⟨.randomUUID, leaseToken⟩ ∈ (s.next ⟨i, request, entry⟩ after).own j)
    (keeps : i = j → held (s.own i) = some stored → heldAfter (some stored) entry = some stored) :
    held ((s.next ⟨i, request, entry⟩ after).own j) = some stored := by
  rcases PublicationState.mem_own_next.mp member with old | ⟨_, new⟩
  · have holds := leases.owned key stored leaseToken j found owner old
    by_cases mine : i = j
    · subst mine
      rw [PublicationState.held_next_own, holds]
      exact keeps rfl holds
    · rw [PublicationState.held_next_other mine]
      exact holds
  · obtain ⟨k, drew⟩ := leases.issued key stored leaseToken found owner
    exact absurd drew (acts.undrawn new)

theorem Leases.write (leases : Leases s) (tokens : Tokens s) (acts : Acts known permits s i request entry after)
    {next : PublicationAttemptRecord} (written : after = s.store.write next) (key : next.idempotencyKey.text = request.recordKey)
    (leased : ∀ leaseToken, next.leaseOwner = some leaseToken →
      ⟨.randomUUID, leaseToken⟩ ∈ s.own i ∧ heldAfter (held (s.own i)) entry = some next) :
    Leases (s.next ⟨i, request, entry⟩ after) := by
  subst written
  refine ⟨fun place stored leaseToken found owner => ?_, fun place stored leaseToken j found owner member => ?_⟩
  · rcases PublicationStore.get_write found with ⟨_, rfl⟩ | ⟨_, old⟩
    · exact ⟨i, PublicationState.mem_own_next.mpr (.inl (leased leaseToken owner).1)⟩
    · obtain ⟨k, drew⟩ := leases.issued place stored leaseToken old owner
      exact ⟨k, PublicationState.mem_own_next.mpr (.inl drew)⟩
  · rcases PublicationStore.get_write found with ⟨_, rfl⟩ | ⟨other, old⟩
    · obtain ⟨drew, holds⟩ := leased leaseToken owner
      have same : i = j := by
        rcases PublicationState.mem_own_next.mp member with also | ⟨same, _⟩
        · exact tokens.apart i j leaseToken drew also
        · exact same
      subst same
      rw [PublicationState.held_next_own]
      exact holds
    · refine leases.before acts old owner member fun _ holds => ?_
      exact absurd ((acts.kept.stored _ _ old).1.symm.trans ((acts.held_key holds).trans key.symm)) other

theorem Leases.step (leases : Leases s) (tokens : Tokens s) (apart : AttemptsApart known)
    (acts : Acts known permits s i request entry after) : Leases (s.next ⟨i, request, entry⟩ after) := by
  have worked := acts.worked
  cases worked with
  | unchanged same carries ungranted refuses =>
    refine ⟨fun key stored leaseToken found owner => ?_, fun key stored leaseToken j found owner member => ?_⟩
    · obtain ⟨k, drew⟩ := leases.issued key stored leaseToken (same ▸ found) owner
      exact ⟨k, PublicationState.mem_own_next.mpr (.inl drew)⟩
    · refine leases.before acts (same ▸ found) owner member fun mine holds => ?_
      subst mine
      unfold heldAfter
      split
      · exact absurd rfl (ungranted _)
      · exact absurd rfl (ungranted _)
      · rename_i attemptId other now answer
        obtain ⟨artifact, given, own, token, _⟩ := acts.guarded.works id
        obtain ⟨current, finds, under⟩ := acts.kept.finds_own acts.mine apart own
        rw [← acts.held_key holds, (acts.kept.stored _ _ (same ▸ found)).1] at under
        cases under.symm.trans (same ▸ found)
        cases answer with
        | some released => exact refuses.elim
        | none =>
          obtain ⟨mine, leased, drew⟩ := tokens.held i _ holds
          rw [tokens.once i _ _ drew token] at leased
          exact absurd leased (refuses _ finds)
      · rfl
  | created makes absent =>
    refine leases.write tokens acts rfl makes.2.idempotencyKey fun leaseToken owner => ?_
    rw [makes.2.leaseOwner] at owner
    cases owner
  | @leased _ leaseToken _ _ current _ found _ _ token =>
    refine leases.write tokens acts rfl (acts.kept.stored _ _ found).1 fun other owner => ?_
    cases owner
    exact ⟨token, rfl⟩
  | @saved _ record leaseToken _ prior _ _ found holds owner _ _ _ advances =>
    have key := (PublicationStore.identity_key advances.identity)
    refine leases.write tokens acts rfl (key ▸ (acts.kept.stored _ _ found).1) fun other owns => ?_
    obtain ⟨mine, leased, drew⟩ := tokens.held i prior holds
    rw [advances.leaseOwner, leased] at owns
    cases owns
    exact ⟨drew, rfl⟩
  | released found =>
    refine leases.write tokens acts rfl (acts.kept.stored _ _ found).1 fun leaseToken owner => ?_
    cases owner

namespace Publishers

variable [UriParser] {pool : Publishers}

theorem Reach.tokens (reach : pool.Reach known permits) (apart : AttemptsApart known) : Tokens pool.state :=
  reach.holds apart Tokens.start (fun _ _ tokens => ⟨tokens.once, tokens.apart, tokens.held⟩)
    fun _ _ _ _ _ _ acts tokens => tokens.step acts

theorem Reach.leases (reach : pool.Reach known permits) (apart : AttemptsApart known) : Leases pool.state :=
  reach.holds apart Leases.start (fun _ _ leases => ⟨leases.issued, leases.owned⟩)
    fun _ _ _ _ _ previous acts leases => leases.step (previous.tokens apart) apart acts

end Publishers

end Bnbera.Publication
