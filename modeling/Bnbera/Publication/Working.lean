import Bnbera.Publication.System

namespace Bnbera.Publication

open Interleaving

namespace PublicationState

def next (s : PublicationState) (logged : Logged) (store : PublicationStore) : PublicationState :=
  ⟨store, s.log ++ [logged], s.dead⟩

variable {s : PublicationState} {i j : Nat} {request : PublicationRequest} {entry : Entry} {logged : Logged}
  {store : PublicationStore}

theorem mem_own : entry ∈ s.own i ↔ ∃ logged ∈ s.log, logged.thread = i ∧ logged.entry = entry := by
  unfold own calls
  rw [System.mem_ownCalls, List.mem_map]
  constructor
  · rintro ⟨logged, member, same⟩
    cases same
    exact ⟨logged, member, rfl, rfl⟩
  · rintro ⟨logged, member, rfl, rfl⟩
    exact ⟨logged, member, rfl⟩

theorem next_calls : (s.next logged store).calls = s.calls ++ [(logged.thread, logged.entry)] := by
  unfold calls next
  rw [List.map_append]
  rfl

theorem own_next : (s.next ⟨i, request, entry⟩ store).own i = s.own i ++ [entry] := by
  unfold own
  rw [next_calls, System.ownCalls_append, System.ownCalls_self]

theorem own_next_other (apart : i ≠ j) : (s.next ⟨i, request, entry⟩ store).own j = s.own j := by
  unfold own
  rw [next_calls, System.ownCalls_append, System.ownCalls_other apart, List.append_nil]

end PublicationState

variable [ByteDigests]

/-- What one call of a worker does to the record under the key of its request. -/
inductive Worked (s : PublicationState) (i : Nat) (request : PublicationRequest) : Entry → PublicationStore → Prop
  | unchanged {entry after} : after.records = s.store.records →
      (∀ record, Carries record entry → s.store.records.get request.recordKey = some record) →
      (∀ record, ¬Grants record entry) → s.store.Refuses entry → Worked s i request entry after
  | created {artifact record} : MadeBy request artifact record → s.store.records.get request.recordKey = none →
      Worked s i request ⟨.createOrGet record, (record, true)⟩ (s.store.write record)
  | leased {artifact leaseToken now durationMs current} : request.artifact = .ok artifact →
      s.store.records.get request.recordKey = some current → ¬PublicationStore.HeldByOther current leaseToken now →
      Passes request.publisher (digestArtifact artifact) request.provider current →
      ⟨.randomUUID, leaseToken⟩ ∈ s.own i →
      Worked s i request ⟨.acquireLease current.attemptId leaseToken now durationMs,
        (true, some (PublicationStore.leased current leaseToken now durationMs))⟩
        (s.store.write (PublicationStore.leased current leaseToken now durationMs))
  | saved {artifact record leaseToken now prior code} : request.artifact = .ok artifact →
      s.store.records.get request.recordKey = some prior → held (s.own i) = some prior →
      prior.leaseOwner = some leaseToken → (∃ expiry ∈ prior.leaseExpiresAt, now < expiry) →
      Passes request.publisher (digestArtifact artifact) request.provider prior →
      CodeFor request.provider code (s.own i) →
      Advances request.publisher (digestArtifact artifact) code (s.own i) prior record →
      Worked s i request ⟨.save record prior.revision leaseToken now, .ok ()⟩ (s.store.write record)
  | released {leaseToken now current} : s.store.records.get request.recordKey = some current →
      current.leaseOwner = some leaseToken → ⟨.randomUUID, leaseToken⟩ ∈ s.own i →
      Worked s i request ⟨.releaseLease current.attemptId leaseToken now, some (PublicationStore.released current now)⟩
        (s.store.write (PublicationStore.released current now))

variable {known : PublicationRequest → Prop} {s : PublicationState} {i : Nat} {request : PublicationRequest}
  {record current : PublicationAttemptRecord} {entry : Entry} {after : PublicationStore} {artifact : CanonicalArtifact}

namespace Kept

variable (kept : Kept known s)
include kept

theorem stored_of_carried (mine : ∀ logged ∈ s.log, logged.thread = i → logged.request = request)
    (member : entry ∈ s.own i) (carries : Carries record entry) : record.idempotencyKey.text = request.recordKey ∧
      ∃ stored, s.store.records.get request.recordKey = some stored ∧ record.identity = stored.identity ∧
        record.revision ≤ stored.revision ∧ (record.revision = stored.revision → record = stored) := by
  obtain ⟨logged, logs, thread, rfl⟩ := PublicationState.mem_own.mp member
  obtain ⟨key, stored, found, rest⟩ := kept.carried logged logs record carries
  have same := mine logged logs thread
  subst same
  exact ⟨key, stored, key ▸ found, rest⟩

theorem found_own (mine : ∀ logged ∈ s.log, logged.thread = i → logged.request = request) (apart : AttemptsApart known)
    {attemptId : String} {digest : ArtifactDigest}
    (read : ReadOwn request.publisher digest request.provider attemptId (s.own i))
    (found : s.store.findByAttemptId attemptId = some current) : s.store.records.get request.recordKey = some current ∧
      current.attemptId = attemptId ∧ Passes request.publisher digest request.provider current := by
  obtain ⟨_, member, candidate, existing, created, rfl, same, passes⟩ := read
  obtain ⟨_, stored, at_, identity, _⟩ := kept.stored_of_carried mine member rfl
  have id : current.attemptId = attemptId := by
    have holds := List.find?_some found
    exact of_decide_eq_true holds
  obtain ⟨key, under⟩ := OrderedMap.mem_values_iff.mp (List.mem_of_find?_eq_some found)
  obtain ⟨currentKey, currentOrigin⟩ := kept.stored _ _ under
  obtain ⟨storedKey, storedOrigin⟩ := kept.stored _ _ at_
  have ids : current.attemptId = stored.attemptId :=
    id.trans (same.trans (PublicationStore.identity_attemptId identity))
  have keys := currentOrigin.key_eq storedOrigin apart ids
  rw [currentKey, storedKey] at keys
  subst keys
  cases at_.symm.trans under
  exact ⟨under, id, passes.of_identity identity.symm⟩

theorem finds_own (mine : ∀ logged ∈ s.log, logged.thread = i → logged.request = request) (apart : AttemptsApart known)
    {attemptId : String} {digest : ArtifactDigest}
    (read : ReadOwn request.publisher digest request.provider attemptId (s.own i)) :
    ∃ current, s.store.findByAttemptId attemptId = some current ∧ s.store.records.get request.recordKey = some current := by
  obtain ⟨_, member, candidate, existing, created, same, id, passes⟩ := read
  have carries : Carries existing ⟨.createOrGet candidate, (existing, created)⟩ := rfl
  rw [← same] at carries
  obtain ⟨_, stored, at_, identity, _⟩ := kept.stored_of_carried mine member carries
  have named : stored.attemptId = attemptId := (PublicationStore.identity_attemptId identity).symm.trans id.symm
  have present : (s.store.findByAttemptId attemptId).isSome := by
    rw [PublicationStore.findByAttemptId, List.find?_isSome]
    exact ⟨stored, OrderedMap.mem_values_iff.mpr ⟨_, at_⟩, decide_eq_true named⟩
  obtain ⟨current, found⟩ := Option.isSome_iff_exists.mp present
  exact ⟨current, found, (kept.found_own mine apart ⟨_, member, candidate, existing, created, same, id, passes⟩ found).1⟩

end Kept

def Unguarded : PublisherCall → Prop
  | .clock | .appendAudit _ => True
  | _ => False

theorem PublicationRequest.Guard.works {history : Calls} {op : PublisherCall} (guarded : request.Guard history op)
    (asked : ¬Unguarded op) : ∃ artifact, request.artifact = .ok artifact ∧
      CallGuard request.publisher request.idempotencyKey (digestArtifact artifact) request.provider history op := by
  rcases guarded with rfl | ⟨event, rfl⟩ | works
  · exact absurd trivial asked
  · exact absurd trivial asked
  · exact works

omit [ByteDigests] in
theorem PublicationStore.Shows.ungranted {store : PublicationStore} (shows : store.Shows record entry) :
    ¬Grants current entry := by
  unfold PublicationStore.Shows at shows
  split at shows
  · exact id
  · exact id
  · exact shows.elim

section
variable {op : PublisherCall} {answer : op.Answer}

theorem Kept.shown (kept : Kept known s) (mine : ∀ logged ∈ s.log, logged.thread = i → logged.request = request)
    (apart : AttemptsApart known) (guarded : request.Guard (s.own i) op) (shows : s.store.Shows record ⟨op, answer⟩) :
    s.store.records.get request.recordKey = some record := by
  unfold PublicationStore.Shows at shows
  split at shows
  · rename_i same
    cases same
    obtain ⟨_, _, _, new⟩ := guarded.works id
    rwa [new.idempotencyKey] at shows
  · rename_i same
    cases same
    obtain ⟨_, _, read⟩ := guarded.works id
    exact (kept.found_own mine apart read shows).1
  · exact shows.elim

/-- What a permitted call does. -/
theorem Kept.worked (kept : Kept known s) (mine : ∀ logged ∈ s.log, logged.thread = i → logged.request = request)
    (apart : AttemptsApart known) (guarded : request.Guard (s.own i) op) (moved : s.store.Moved ⟨op, answer⟩ after) :
    Worked s i request ⟨op, answer⟩ after := by
  cases moved with
  | unchanged same shows refuses =>
    refine .unchanged same (fun record carries => kept.shown mine apart guarded (shows record carries)) ?_ refuses
    exact fun record grants => (shows record grants.carries).ungranted grants
  | created absent =>
    obtain ⟨artifact, given, _, new⟩ := guarded.works id
    rw [new.idempotencyKey] at absent
    exact .created ⟨given, new⟩ absent
  | @leased _ _ _ _ current found free =>
    obtain ⟨artifact, given, own, token, _⟩ := guarded.works id
    obtain ⟨stored, rfl, passes⟩ := kept.found_own mine apart own found
    exact .leased given stored free passes token
  | @saved _ _ _ _ existing found current =>
    obtain ⟨artifact, given, prior, code, holds, owner, rfl, run, advances⟩ := guarded.works id
    obtain ⟨revision, _, _, alive⟩ := PublicationStore.assertCurrent_eq_ok current
    obtain ⟨_, member, grants⟩ := held_granted holds
    obtain ⟨logged, logs, thread, rfl⟩ := PublicationState.mem_own.mp member
    obtain ⟨content, same, passes⟩ := kept.granted logged logs prior grants
    rw [mine logged logs thread] at same passes
    cases given.symm.trans same
    obtain ⟨key, stored, at_, _, _, equal⟩ := kept.stored_of_carried mine member grants.carries
    rw [PublicationStore.identity_key advances.identity, key] at found
    cases at_.symm.trans found
    cases equal revision.symm
    exact .saved given at_ holds owner alive passes run advances
  | @released _ _ _ current found owned =>
    obtain ⟨artifact, given, own, token, _⟩ := guarded.works id
    obtain ⟨stored, rfl, _⟩ := kept.found_own mine apart own found
    exact .released stored owned token

end

/-- A call writes a next version of the record under the key of its request, and hands out that one only. -/
structure Replaces (s : PublicationState) (request : PublicationRequest) (entry : Entry) (after : PublicationStore)
    (prior record : PublicationAttemptRecord) : Prop where
  stored : s.store.records.get request.recordKey = some prior
  identity : record.identity = prior.identity
  revision : record.revision = prior.revision + 1
  written : after = s.store.write record
  carries : ∀ other, Carries other entry → other = record
  grants : ∀ other, Grants other entry → ∃ artifact, request.artifact = .ok artifact ∧
    Passes request.publisher (digestArtifact artifact) request.provider prior

theorem Worked.replaces (worked : Worked s i request entry after) :
    (after.records = s.store.records ∧ (∀ record, Carries record entry → s.store.records.get request.recordKey = some record) ∧
      ∀ record, ¬Grants record entry) ∨
    (∃ artifact record, MadeBy request artifact record ∧ s.store.records.get request.recordKey = none ∧
      entry = ⟨.createOrGet record, (record, true)⟩ ∧ after = s.store.write record) ∨
    ∃ prior record, Replaces s request entry after prior record := by
  cases worked with
  | unchanged same carries grants _ => exact .inl ⟨same, carries, grants⟩
  | created makes absent => exact .inr (.inl ⟨_, _, makes, absent, rfl, rfl⟩)
  | leased given stored _ passes _ =>
    refine .inr (.inr ⟨_, PublicationStore.leased _ _ _ _, stored, rfl, rfl, rfl, fun _ carries => carries.symm, ?_⟩)
    exact fun _ _ => ⟨_, given, passes⟩
  | saved given stored _ _ _ passes _ advances =>
    refine .inr (.inr ⟨_, _, stored, advances.identity, advances.revision, rfl, fun _ carries => carries.symm, ?_⟩)
    exact fun _ _ => ⟨_, given, passes⟩
  | released stored _ _ =>
    refine .inr (.inr ⟨_, PublicationStore.released _ _, stored, rfl, rfl, rfl, fun _ carries => carries.symm, ?_⟩)
    exact fun _ => False.elim

theorem Kept.step (kept : Kept known s) (is : known request) (worked : Worked s i request entry after) :
    Kept known (s.next ⟨i, request, entry⟩ after) := by
  rcases worked.replaces with ⟨same, carries, grants⟩ | ⟨artifact, record, makes, absent, rfl, rfl⟩ | ⟨prior, record, writes⟩
  · refine ⟨fun key record found => kept.stored key record (same ▸ found), fun logged member record carried => ?_,
      fun logged member record granted => ?_⟩
    · rcases List.mem_append.mp member with old | new
      · obtain ⟨key, current⟩ := kept.carried logged old record carried
        exact ⟨key, current.of_records same⟩
      · cases List.mem_singleton.mp new
        have found := carries record carried
        have key := (kept.stored _ _ found).1
        rw [← key] at found
        exact ⟨key, (PublicationStore.Current.of_stored found).of_records same⟩
    · rcases List.mem_append.mp member with old | new
      · exact kept.granted logged old record granted
      · cases List.mem_singleton.mp new
        exact absurd granted (grants record)
  · have key := makes.2.idempotencyKey
    refine ⟨fun other found under => ?_, fun logged member other carried => ?_, fun logged member other granted => ?_⟩
    · by_cases mine : other = record.idempotencyKey.text
      · subst mine
        cases PublicationStore.write_self.symm.trans under
        exact ⟨rfl, request, artifact, record, is, makes, rfl⟩
      · rw [PublicationState.next, PublicationStore.write_ne mine] at under
        exact kept.stored other found under
    · rcases List.mem_append.mp member with old | new
      · obtain ⟨at_, current⟩ := kept.carried logged old other carried
        exact ⟨at_, current.create (key ▸ absent)⟩
      · cases List.mem_singleton.mp new
        cases carried
        exact ⟨key, .of_stored PublicationStore.write_self⟩
    · rcases List.mem_append.mp member with old | new
      · exact kept.granted logged old other granted
      · cases List.mem_singleton.mp new
        exact granted.elim
  · obtain ⟨stored, identity, revision, rfl, carries, grants⟩ := writes
    obtain ⟨priorKey, origin⟩ := kept.stored _ _ stored
    have key : record.idempotencyKey.text = request.recordKey := by
      rw [PublicationStore.identity_key identity, priorKey]
    refine ⟨fun other found under => ?_, fun logged member other carried => ?_, fun logged member other granted => ?_⟩
    · by_cases mine : other = record.idempotencyKey.text
      · subst mine
        cases PublicationStore.write_self.symm.trans under
        exact ⟨rfl, origin.of_identity identity⟩
      · rw [PublicationState.next, PublicationStore.write_ne mine] at under
        exact kept.stored other found under
    · rcases List.mem_append.mp member with old | new
      · obtain ⟨at_, current⟩ := kept.carried logged old other carried
        exact ⟨at_, current.write (key ▸ stored) identity revision⟩
      · cases List.mem_singleton.mp new
        cases carries other carried
        exact ⟨key, .of_stored PublicationStore.write_self⟩
    · rcases List.mem_append.mp member with old | new
      · exact kept.granted logged old other granted
      · cases List.mem_singleton.mp new
        cases carries other granted.carries
        obtain ⟨artifact, given, passes⟩ := grants record granted
        exact ⟨artifact, given, passes.of_identity identity⟩

end Bnbera.Publication
