import Bnbera.Publication.Leases

namespace Bnbera.Publication

open Interleaving

section
variable [UriParser] [ByteDigests] {known : PublicationRequest → Prop} {permits : Condition} {s : PublicationState}
  {i : Nat} {request : PublicationRequest} {entry : Entry} {after : PublicationStore} {key leaseToken : String}
  {stored record : PublicationAttemptRecord}

/-- A lease is taken over when it has run out. -/
def TakesOver (stored : PublicationAttemptRecord) (entry : Entry) : Prop :=
  ∃ attemptId leaseToken now durationMs answer, entry = ⟨.acquireLease attemptId leaseToken now durationMs, answer⟩ ∧
    ∀ expiry ∈ stored.leaseExpiresAt, expiry ≤ now

omit [UriParser] in
/-- A call that changes a leased record is of the thread that drew the token, or takes the lease over. -/
theorem Acts.fenced (acts : Acts known permits s i request entry after) (tokens : Tokens s)
    (found : s.store.records.get key = some stored) (leased : stored.leaseOwner = some leaseToken) :
    after.records.get key = some stored ∨ ⟨.randomUUID, leaseToken⟩ ∈ s.own i ∨ TakesOver stored entry := by
  have elsewhere {record : PublicationAttemptRecord} (own : record.idempotencyKey.text = request.recordKey)
      (other : key ≠ request.recordKey) : (s.store.write record).records.get key = some stored :=
    (PublicationStore.write_ne (own ▸ other)).trans found
  by_cases mine : key = request.recordKey
  · subst mine
    have worked := acts.worked
    cases worked with
    | unchanged same => exact .inl (same ▸ found)
    | created makes absent => cases absent.symm.trans found
    | @leased _ token now _ current _ current_ free _ drew =>
      cases current_.symm.trans found
      right
      by_cases same : leaseToken = token
      · exact .inl (same ▸ drew)
      · refine .inr ⟨_, token, now, _, _, rfl, fun expiry expires => ?_⟩
        by_contra early
        exact free ⟨⟨leaseToken, leased, same⟩, expiry, expires, Int.not_le.mp early⟩
    | saved _ current holds =>
      cases current.symm.trans found
      obtain ⟨token, owner, drew⟩ := tokens.held i stored holds
      rw [leased] at owner
      cases owner
      exact .inr (.inl drew)
    | released current owner drew =>
      cases current.symm.trans found
      rw [leased] at owner
      cases owner
      exact .inr (.inl drew)
  · rcases acts.worked.replaces with ⟨same, _⟩ | ⟨_, record, makes, _, _, rfl⟩ | ⟨prior, record, writes⟩
    · exact .inl (same ▸ found)
    · exact .inl (elsewhere makes.2.idempotencyKey mine)
    · have own : record.idempotencyKey.text = request.recordKey := by
        rw [PublicationStore.identity_key writes.identity, (acts.kept.stored _ _ writes.stored).1]
      exact .inl (writes.written ▸ elsewhere own mine)

omit [UriParser] in
theorem Acts.current (acts : Acts known permits s i request entry after) (current : s.store.Current record) :
    after.Current record := by
  rcases acts.worked.replaces with ⟨same, _⟩ | ⟨_, made, makes, absent, _, rfl⟩ | ⟨prior, next, writes⟩
  · exact current.of_records same
  · exact current.create (makes.2.idempotencyKey.symm ▸ absent)
  · have own : next.idempotencyKey.text = request.recordKey := by
      rw [PublicationStore.identity_key writes.identity, (acts.kept.stored _ _ writes.stored).1]
    exact writes.written ▸ current.write (own.symm ▸ writes.stored) writes.identity writes.revision

namespace Publishers

variable {pool later : Publishers}

/-- A leased record is held by one thread, and no other thread changes it before the lease has run out. -/
theorem Reach.lease_fenced (reach : pool.Reach known permits) (apart : AttemptsApart known)
    (found : pool.state.store.records.get key = some stored) (leased : stored.leaseOwner = some leaseToken) :
    ∃ holder, (∀ j, held (pool.state.own j) = some stored ↔ j = holder) ∧
      ∀ next, (publicationSystem known permits).Step pool next → next.state.store.records.get key = some stored ∨
        ∃ logged, next.state.log = pool.state.log ++ [logged] ∧ (logged.thread = holder ∨ TakesOver stored logged.entry) := by
  have tokens := reach.tokens apart
  have leases := reach.leases apart
  obtain ⟨holder, drew⟩ := leases.issued key stored leaseToken found leased
  have holds := leases.owned key stored leaseToken holder found leased drew
  refine ⟨holder, fun j => ⟨fun also => tokens.same also holds, fun same => same ▸ holds⟩, fun next step => ?_⟩
  rcases reach.acts apart (reach.kept apart) step with same | ⟨j, died⟩ | ⟨j, request, entry, store, acts, same⟩
  · exact .inl (same ▸ found)
  · exact .inl (died ▸ found)
  · rw [same]
    rcases acts.fenced tokens found leased with kept | drawn | taken
    · exact .inl kept
    · exact .inr ⟨_, rfl, .inl (tokens.apart j holder leaseToken drawn drew)⟩
    · exact .inr ⟨_, rfl, .inr taken⟩

/-- A stored attempt stays the same attempt; its revision never falls, and it changes only with its revision. -/
theorem Reach.revisions_rise (reach : pool.Reach known permits) (apart : AttemptsApart known)
    (found : pool.state.store.records.get key = some record)
    (run : Relation.ReflTransGen (publicationSystem known permits).Step pool later) :
    ∃ now, later.state.store.records.get key = some now ∧ now.identity = record.identity ∧
      record.revision ≤ now.revision ∧ (now.revision = record.revision → now = record) := by
  have own := ((reach.kept apart).stored key record found).1
  have current : pool.state.store.Current record := .of_stored (own.symm ▸ found)
  have still : later.Reach known permits ∧ later.state.store.Current record :=
    Reach.stays reach apart run (fun _ _ held => held) (fun _ _ _ _ _ acts held => acts.current held) current
  obtain ⟨_, now, stored, identity, rises, same⟩ := still
  exact ⟨now, own ▸ stored, identity.symm, rises, fun equal => (same equal.symm).symm⟩

end Publishers

end

namespace Publishers

attribute [local instance] plainUris constantDigests

/-- A run of one publisher up to its lease. -/
def leasedRun : Option Publishers :=
  played unrestricted (fun _ => sampleAnswers sampleDigest.canonicalBytes)
    (.start (sampleRequest .ipfs) :: List.replicate 5 (.call 0))

theorem leasedRun_reach {pool : Publishers} (run : leasedRun = some pool) : pool.Reach (· = sampleRequest .ipfs) unrestricted := by
  refine played_reach (fun _ _ _ _ => id) (fun request member => ?_) run
  rcases List.mem_cons.mp member with same | call
  · cases same
    exact ⟨rfl, fun _ => sampleRequest_enabled .ipfs⟩
  · cases List.eq_of_mem_replicate call

theorem leasedRun_leased : ∃ pool stored leaseToken, leasedRun = some pool ∧
    pool.state.store.records.get "bundle-1:ipfs" = some stored ∧ stored.leaseOwner = some leaseToken := by
  have ends : (leasedRun.bind fun pool => (pool.state.store.records.get "bundle-1:ipfs").bind (·.leaseOwner)).isSome := by
    decide +kernel
  obtain ⟨leaseToken, owner⟩ := Option.isSome_iff_exists.mp ends
  obtain ⟨pool, run, owner⟩ := Option.bind_eq_some_iff.mp owner
  obtain ⟨stored, found, leased⟩ := Option.bind_eq_some_iff.mp owner
  exact ⟨pool, stored, leaseToken, run, found, leased⟩

theorem sample_apart : AttemptsApart (· = sampleRequest .ipfs) := fun _ _ is also _ => is.trans also.symm ▸ rfl

theorem Reach.lease_fenced_ipfs : ∃ pool stored holder, leasedRun = some pool ∧
    (∀ j, held (pool.state.own j) = some stored ↔ j = holder) ∧
      ∀ next, (publicationSystem (· = sampleRequest .ipfs) unrestricted).Step pool next →
        next.state.store.records.get "bundle-1:ipfs" = some stored ∨ ∃ logged,
          next.state.log = pool.state.log ++ [logged] ∧ (logged.thread = holder ∨ TakesOver stored logged.entry) := by
  obtain ⟨pool, stored, leaseToken, run, found, leased⟩ := leasedRun_leased
  obtain ⟨holder, fenced⟩ := Reach.lease_fenced (leasedRun_reach run) sample_apart found leased
  exact ⟨pool, stored, holder, run, fenced⟩

theorem Reach.revisions_rise_ipfs : ∃ pool record, leasedRun = some pool ∧
    ∀ later, Relation.ReflTransGen (publicationSystem (· = sampleRequest .ipfs) unrestricted).Step pool later →
      ∃ now, later.state.store.records.get "bundle-1:ipfs" = some now ∧ now.identity = record.identity ∧
        record.revision ≤ now.revision ∧ (now.revision = record.revision → now = record) := by
  obtain ⟨pool, record, _, run, found, _⟩ := leasedRun_leased
  exact ⟨pool, record, run, fun later steps => Reach.revisions_rise (leasedRun_reach run) sample_apart found steps⟩

end Publishers

end Bnbera.Publication
