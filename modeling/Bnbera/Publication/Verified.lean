import Bnbera.Publication.Runs

namespace Bnbera.Publication

open Interleaving

def SealedFor (log : List Logged) (key : String) : Prop :=
  ∃ logged ∈ log, logged.request.recordKey = key ∧ Sealed logged.entry

section
variable [ByteDigests]

/-- The canonical bytes of a record were read back, and for Greenfield the object was found sealed before. -/
def ReadBackFor (log : List Logged) (record : PublicationAttemptRecord) : Prop :=
  ∃ before logged after artifact bytes, log = before ++ logged :: after ∧
    logged.request.recordKey = record.idempotencyKey.text ∧ logged.request.artifact = .ok artifact ∧
    bytes = (digestArtifact artifact).canonicalBytes ∧ ReadReturned bytes logged.entry ∧
    ByteDigests.sha256Hex bytes = record.sha256Digest ∧ ByteDigests.keccak256Hex bytes = record.keccak256Digest ∧
    bytes.length = record.sizeBytes ∧
    (record.provider = .greenfield → SealedFor before record.idempotencyKey.text)

structure Sound (log : List Logged) (record : PublicationAttemptRecord) : Prop where
  locator : ∀ locator ∈ record.locator, LocatorFits record locator
  located : record.state = .awaitingSeal ∨ record.state = .readingBack → record.locator ≠ none
  created : record.state = .createFailed → record.provider = .greenfield
  sealed : record.state = .readingBack → record.provider = .greenfield → SealedFor log record.idempotencyKey.text
  verified : record.state = .verified → Durable record ∧ ReadBackFor log record

/-- Every record is sound, and a Greenfield object is read after it was found sealed. -/
structure Proven (s : PublicationState) : Prop where
  stored : ∀ key record, s.store.records.get key = some record → Sound s.log record
  carried : ∀ logged ∈ s.log, ∀ record, Carries record logged.entry → Sound s.log record
  reads : ∀ before logged after bytes, s.log = before ++ logged :: after → ReadReturned bytes logged.entry →
    logged.request.provider = .greenfield → SealedFor before logged.request.recordKey

end

theorem split_concat {α : Type} {items before after : List α} {new found : α} (split : items ++ [new] = before ++ found :: after) :
    (before = items ∧ found = new) ∨ ∃ rest, items = before ++ found :: rest := by
  rcases List.eq_nil_or_concat after with rfl | ⟨rest, last, rfl⟩
  · obtain ⟨same, only⟩ := List.append_inj' split rfl
    exact .inl ⟨same.symm, (List.singleton_inj.mp only).symm⟩
  · have regrouped : items ++ [new] = (before ++ found :: rest) ++ [last] := by
      rw [split, List.append_assoc, List.cons_append, List.concat_eq_append]
    exact .inr ⟨rest, (List.append_inj' regrouped rfl).1⟩

theorem SealedFor.mono {log : List Logged} {key : String} (is : SealedFor log key) (more : List Logged) :
    SealedFor (log ++ more) key := by
  obtain ⟨logged, member, rest⟩ := is
  exact ⟨logged, List.mem_append_left _ member, rest⟩

section
variable [ByteDigests] {known : PublicationRequest → Prop} {permits : Condition} {s : PublicationState} {i : Nat}
  {request : PublicationRequest} {entry : Entry} {after : PublicationStore} {log : List Logged}
  {record other prior : PublicationAttemptRecord} {artifact : CanonicalArtifact} {code : PublicationProvider}

theorem ReadBackFor.mono (is : ReadBackFor log record) (more : List Logged) : ReadBackFor (log ++ more) record := by
  obtain ⟨before, logged, after, artifact, bytes, rfl, rest⟩ := is
  exact ⟨before, logged, after ++ more, artifact, bytes, List.append_assoc _ _ _, rest⟩

theorem ReadBackFor.of_identity (is : ReadBackFor log record) (same : other.identity = record.identity) :
    ReadBackFor log other := by
  obtain ⟨before, logged, after, artifact, bytes, split, key, given, canonical, read, sha256Digest, keccak256Digest, sizeBytes,
    sealed⟩ := is
  have provider : other.provider = record.provider := (congrArg PublicationAttemptRecord.provider same :)
  have keys := PublicationStore.identity_key same
  refine ⟨before, logged, after, artifact, bytes, split, keys ▸ key, given, canonical, read, ?_, ?_, ?_, fun greenfield => ?_⟩
  · exact sha256Digest.trans (congrArg PublicationAttemptRecord.sha256Digest same).symm
  · exact keccak256Digest.trans (congrArg PublicationAttemptRecord.keccak256Digest same).symm
  · exact sizeBytes.trans (congrArg PublicationAttemptRecord.sizeBytes same).symm
  · exact keys ▸ sealed (provider ▸ greenfield)

theorem Sound.mono (sound : Sound log record) (more : List Logged) : Sound (log ++ more) record where
  locator := sound.locator
  located := sound.located
  created := sound.created
  sealed := fun reading greenfield => (sound.sealed reading greenfield).mono more
  verified := fun verified => ⟨(sound.verified verified).1, (sound.verified verified).2.mono more⟩

theorem Sound.of_lease (sound : Sound log record) (identity : other.identity = record.identity)
    (state : other.state = record.state) (locator : other.locator = record.locator)
    (verification : other.verification = record.verification) : Sound log other := by
  have provider : other.provider = record.provider := (congrArg PublicationAttemptRecord.provider identity :)
  refine ⟨fun found member => ?_, fun located => ?_, fun failed => ?_, fun reading greenfield => ?_, fun verified => ?_⟩
  · exact (sound.locator found (locator ▸ member)).of_identity identity
  · rw [locator]
    exact sound.located (state ▸ located)
  · rw [provider]
    exact sound.created (state ▸ failed)
  · rw [PublicationStore.identity_key identity]
    exact sound.sealed (state ▸ reading) (provider ▸ greenfield)
  · obtain ⟨⟨⟨found, at_, fits, time⟩, result, observed, matches_, confirmed⟩, read⟩ := sound.verified (state ▸ verified)
    exact ⟨⟨⟨found, locator ▸ at_, fits.of_identity identity, time⟩, result, verification ▸ observed,
      matches_.of_identity identity, provider ▸ confirmed⟩, read.of_identity identity⟩

theorem Proven.code_eq (proven : Proven s) (kept : Kept known s)
    (mine : ∀ logged ∈ s.log, logged.thread = i → logged.request = request)
    (stored : s.store.records.get request.recordKey = some prior) (provider : prior.provider = request.provider)
    (run : CodeFor request.provider code (s.own i)) : code = request.provider := by
  rcases run with own | ⟨rfl, entry, member, candidate, existing, created, rfl, failed, _⟩
  · exact own
  · obtain ⟨_, found, at_, identity, _⟩ := kept.stored_of_carried mine member rfl
    cases stored.symm.trans at_
    obtain ⟨logged, logs, _, same⟩ := PublicationState.mem_own.mp member
    have sound := proven.carried logged logs existing (by rw [same]; rfl)
    have greenfield := sound.created failed
    rw [← provider, ← greenfield]
    exact (congrArg PublicationAttemptRecord.provider identity :)

theorem Proven.readBack (proven : Proven s) (mine : ∀ logged ∈ s.log, logged.thread = i → logged.request = request)
    (given : request.artifact = .ok artifact)
    (at_ : AttemptAt request.publisher (digestArtifact artifact) request.provider record)
    (key : record.idempotencyKey.text = request.recordKey)
    (read : ∃ entry ∈ s.own i, ReadReturned (digestArtifact artifact).canonicalBytes entry) : ReadBackFor s.log record := by
  obtain ⟨entry, member, returned⟩ := read
  obtain ⟨logged, logs, thread, rfl⟩ := PublicationState.mem_own.mp member
  obtain ⟨before, after, split⟩ := List.append_of_mem logs
  have same := mine logged logs thread
  refine ⟨before, logged, after, artifact, _, split, same ▸ key.symm, same ▸ given, rfl, returned, at_.sha256Digest.symm, at_.keccak256Digest.symm,
    at_.sizeBytes.symm, fun greenfield => ?_⟩
  have sealed := proven.reads before logged after _ split returned (by rw [same, ← at_.provider, greenfield])
  rwa [same, ← key] at sealed

/-- A stored transition is sound. -/
theorem Proven.saved (proven : Proven s) (kept : Kept known s)
    (mine : ∀ logged ∈ s.log, logged.thread = i → logged.request = request) (contents : ContentsApart known)
    (is : known request) (given : request.artifact = .ok artifact)
    (stored : s.store.records.get request.recordKey = some prior)
    (passes : Passes request.publisher (digestArtifact artifact) request.provider prior)
    (run : CodeFor request.provider code (s.own i))
    (advances : Advances request.publisher (digestArtifact artifact) code (s.own i) prior record) :
    Sound s.log record := by
  have sound := proven.stored _ _ stored
  obtain ⟨priorKey, origin⟩ := kept.stored _ _ stored
  cases proven.code_eq kept mine stored passes.provider run
  have at_ := (passes.attemptAt origin contents is given).of_identity advances.identity
  have key : record.idempotencyKey.text = request.recordKey := by
    rw [PublicationStore.identity_key advances.identity, priorKey]
  refine ⟨fun locator member => ?_, fun located missing => ?_, fun failed => ?_, fun reading greenfield => ?_,
    fun verified => ?_⟩
  · rcases advances.locator locator member with fresh | ⟨old, found, same⟩
    · exact at_.locates fresh
    · rw [same]
      exact ((sound.locator old found).of_identity advances.identity).at _
  · obtain ⟨none, earlier⟩ := advances.located located missing
    exact sound.located earlier none
  · rw [at_.provider]
    exact advances.created failed
  · obtain ⟨entry, member, found⟩ := advances.sealed reading (at_.provider.symm.trans greenfield)
    obtain ⟨logged, logs, thread, rfl⟩ := PublicationState.mem_own.mp member
    exact ⟨logged, logs, (congrArg PublicationRequest.recordKey (mine logged logs thread)).trans key.symm, found⟩
  · have by_ := advances.verified verified
    obtain ⟨checkedAt, sealConfirmed, observed, done, confirmed⟩ := by_.verification
    obtain ⟨locator, found⟩ := Option.ne_none_iff_exists'.mp (sound.located (.inr by_.reading))
    obtain ⟨time, now⟩ := by_.locator locator found
    have fits := (sound.locator locator found).of_identity advances.identity
    refine ⟨⟨⟨_, now, fits.at _, Option.some_ne_none time⟩, _, observed, at_.verification done, fun greenfield => ?_⟩,
      proven.readBack mine given at_ key by_.read⟩
    exact confirmed (at_.provider.symm.trans greenfield)

theorem Proven.held (proven : Proven s) (kept : Kept known s)
    (mine : ∀ logged ∈ s.log, logged.thread = i → logged.request = request) (holds : held (s.own i) = some prior) :
    Sound s.log prior ∧ prior.provider = request.provider ∧ prior.idempotencyKey.text = request.recordKey := by
  obtain ⟨_, member, grants⟩ := held_granted holds
  obtain ⟨logged, logs, thread, rfl⟩ := PublicationState.mem_own.mp member
  obtain ⟨_, _, passes⟩ := kept.granted logged logs prior grants
  have key := (kept.carried logged logs prior grants.carries).1
  rw [mine logged logs thread] at passes key
  exact ⟨proven.carried logged logs prior grants.carries, passes.provider, key⟩

theorem PublicationRequest.Guard.reading {history : Calls} {op : PublisherCall} {answer : op.Answer} {bytes : Bytes}
    (guarded : request.Guard history op) (read : ReadReturned bytes ⟨op, answer⟩) :
    ∃ prior, Publication.held history = some prior ∧ prior.state = .readingBack := by
  cases op with
  | ipfsRead =>
    obtain ⟨_, _, reading⟩ := guarded.works id
    exact reading
  | readObject =>
    obtain ⟨_, _, reading⟩ := guarded.works id
    exact reading
  | _ => exact read.elim

/-- Each call keeps every record sound. -/
theorem Proven.step (proven : Proven s) (acts : Acts known permits s i request entry after) (contents : ContentsApart known) :
    Proven (s.next ⟨i, request, entry⟩ after) := by
  have old : ∀ record, Sound s.log record → Sound (s.log ++ [⟨i, request, entry⟩]) record := fun _ sound => sound.mono _
  have reads : ∀ before logged later bytes, s.log ++ [⟨i, request, entry⟩] = before ++ logged :: later →
      ReadReturned bytes logged.entry → logged.request.provider = .greenfield →
      SealedFor before logged.request.recordKey := by
    intro before logged later bytes split read greenfield
    rcases split_concat split with ⟨rfl, rfl⟩ | ⟨rest, earlier⟩
    · obtain ⟨prior, holds, reading⟩ := acts.guarded.reading read
      obtain ⟨sound, provider, key⟩ := proven.held acts.kept acts.mine holds
      exact key ▸ sound.sealed reading (provider.trans greenfield)
    · exact proven.reads before logged rest bytes earlier read greenfield
  have writes : ∀ record, after = s.store.write record → (∀ other, Carries other entry → other = record) →
      Sound s.log record → Proven (s.next ⟨i, request, entry⟩ after) := by
    intro record written carries sound
    refine ⟨fun key found under => old found ?_, fun logged member found carried => old found ?_, reads⟩
    · by_cases mine : key = record.idempotencyKey.text
      · subst mine written
        cases PublicationStore.write_self.symm.trans under
        exact sound
      · rw [PublicationState.next, written, PublicationStore.write_ne mine] at under
        exact proven.stored key found under
    · rcases List.mem_append.mp member with before | new
      · exact proven.carried logged before found carried
      · cases List.mem_singleton.mp new
        exact carries found carried ▸ sound
  have worked := acts.worked
  cases worked with
  | unchanged same carries =>
    refine ⟨fun key found under => old found (proven.stored key found (same ▸ under)), fun logged member found carried => old found ?_,
      reads⟩
    rcases List.mem_append.mp member with before | new
    · exact proven.carried logged before found carried
    · cases List.mem_singleton.mp new
      exact proven.stored _ _ (carries found carried)
  | @created artifact record makes =>
    refine writes record rfl (fun _ carries => carries.symm) ?_
    obtain ⟨_, new⟩ := makes
    have absurd_ : ∀ {state}, state ≠ .pending → record.state ≠ state := fun other same => other (same.symm.trans new.state)
    refine ⟨fun locator member => ?_, fun located => ?_, fun failed => absurd failed (absurd_ (by decide)),
      fun reading => absurd reading (absurd_ (by decide)), fun verified => absurd verified (absurd_ (by decide))⟩
    · rw [new.locator] at member
      cases member
    · exact located.elim (fun awaiting => absurd awaiting (absurd_ (by decide)))
        fun reading => absurd reading (absurd_ (by decide))
  | @leased artifact leaseToken now durationMs current given stored =>
    exact writes _ rfl (fun _ carries => carries.symm) ((proven.stored _ _ stored).of_lease rfl rfl rfl rfl)
  | saved given stored _ _ _ passes run advances =>
    exact writes _ rfl (fun _ carries => carries.symm)
      (proven.saved acts.kept acts.mine contents acts.known given stored passes run advances)
  | released stored =>
    exact writes _ rfl (fun _ carries => carries.symm) ((proven.stored _ _ stored).of_lease rfl rfl rfl rfl)

theorem Proven.start : Proven ⟨.empty, [], []⟩ where
  stored := fun _ _ found => nomatch found
  carried := fun _ member => (List.not_mem_nil member).elim
  reads := fun _ _ _ _ split => absurd split.symm (List.append_ne_nil_of_right_ne_nil _ (List.cons_ne_nil _ _))

def StillVerified (key : String) (record : PublicationAttemptRecord) (s : PublicationState) : Prop :=
  ∃ kept, s.store.records.get key = some kept ∧ kept.state = .verified ∧ kept.identity = record.identity ∧
    kept.locator = record.locator ∧ kept.verification = record.verification

/-- No call moves a verified record. -/
theorem StillVerified.step {key : String} (still : StillVerified key record s)
    (acts : Acts known permits s i request entry after) : StillVerified key record (s.next ⟨i, request, entry⟩ after) := by
  obtain ⟨found, stored, verified, identity, locator, verification⟩ := still
  have writes : ∀ {next}, after = s.store.write next → (key = next.idempotencyKey.text → next.state = .verified ∧
      next.identity = found.identity ∧ next.locator = found.locator ∧ next.verification = found.verification) →
      StillVerified key record (s.next ⟨i, request, entry⟩ after) := by
    intro next written same
    by_cases mine : key = next.idempotencyKey.text
    · obtain ⟨state, alike, located, observed⟩ := same mine
      exact ⟨next, by rw [mine, PublicationState.next, written]; exact PublicationStore.write_self, state,
        alike.trans identity, located.trans locator, observed.trans verification⟩
    · refine ⟨found, ?_, verified, identity, locator, verification⟩
      rw [PublicationState.next, written, PublicationStore.write_ne mine]
      exact stored
  have worked := acts.worked
  cases worked with
  | unchanged same => exact ⟨found, same ▸ stored, verified, identity, locator, verification⟩
  | created makes absent =>
    refine writes rfl fun mine => ?_
    rw [makes.2.idempotencyKey] at mine
    subst mine
    cases stored.symm.trans absent
  | @leased artifact leaseToken now durationMs current _ at_ =>
    refine writes rfl fun mine => ?_
    have under : key = request.recordKey := mine.trans (acts.kept.stored _ _ at_).1
    subst under
    cases stored.symm.trans at_
    exact ⟨verified, rfl, rfl, rfl⟩
  | @saved _ _ _ _ _ _ _ at_ _ _ _ _ _ advances =>
    refine writes rfl fun mine => ?_
    have under : key = request.recordKey :=
      mine.trans ((congrArg _ (PublicationStore.identity_key advances.identity)).trans (acts.kept.stored _ _ at_).1)
    subst under
    cases stored.symm.trans at_
    exact absurd verified advances.unverified
  | @released leaseToken now current at_ =>
    refine writes rfl fun mine => ?_
    have under : key = request.recordKey := mine.trans (acts.kept.stored _ _ at_).1
    subst under
    cases stored.symm.trans at_
    exact ⟨verified, rfl, rfl, rfl⟩

namespace Publishers

variable [UriParser] {pool : Publishers}

theorem Reach.proven (reach : pool.Reach known permits) (apart : AttemptsApart known) (contents : ContentsApart known) :
    Proven pool.state :=
  reach.holds apart Proven.start (fun _ _ proven => ⟨proven.stored, proven.carried, proven.reads⟩)
    fun _ _ _ _ _ _ acts proven => proven.step acts contents

/-- Verified means read back, and stays so. -/
theorem Reach.verified_readBack (reach : pool.Reach known permits) (apart : AttemptsApart known)
    (contents : ContentsApart known) {key : String} (stored : pool.state.store.records.get key = some record)
    (verified : record.state = .verified) :
    ReadBackFor pool.state.log record ∧ assertDurablePublicationAttempt record = .ok () ∧
      ∀ later, Relation.ReflTransGen (publicationSystem known permits).Step pool later →
        ∃ kept, later.state.store.records.get key = some kept ∧ kept.state = .verified ∧
          kept.sha256Digest = record.sha256Digest ∧ kept.keccak256Digest = record.keccak256Digest ∧
          kept.sizeBytes = record.sizeBytes ∧ kept.locator = record.locator ∧ kept.verification = record.verification := by
  obtain ⟨durable, read⟩ := ((Reach.proven reach apart contents).stored key record stored).verified verified
  refine ⟨read, durable.assert, fun later run => ?_⟩
  have still : StillVerified key record pool.state := ⟨record, stored, verified, rfl, rfl, rfl⟩
  obtain ⟨_, kept, found, state, identity, locator, verification⟩ := Reach.stays reach apart run (fun _ _ held => held)
    (fun _ _ _ _ _ acts held => held.step acts) still
  exact ⟨kept, found, state, (congrArg PublicationAttemptRecord.sha256Digest identity :),
    (congrArg PublicationAttemptRecord.keccak256Digest identity :),
    (congrArg PublicationAttemptRecord.sizeBytes identity :), locator, verification⟩

end Publishers

end

namespace Publishers

attribute [local instance] plainUris constantDigests

def verifiedRun : Option Publishers :=
  played unrestricted (fun _ => sampleAnswers sampleDigest.canonicalBytes)
    (.start (sampleRequest .ipfs) :: List.replicate 29 (.call 0))

theorem Reach.verified_readBack_ipfs : ∃ pool record, verifiedRun = some pool ∧
    pool.state.store.records.get "bundle-1:ipfs" = some record ∧ record.state = .verified ∧
    ReadBackFor pool.state.log record ∧ assertDurablePublicationAttempt record = .ok () ∧
    ∀ later, Relation.ReflTransGen (publicationSystem (· = sampleRequest .ipfs) unrestricted).Step pool later →
      ∃ kept, later.state.store.records.get "bundle-1:ipfs" = some kept ∧ kept.state = .verified ∧
        kept.sha256Digest = record.sha256Digest ∧ kept.keccak256Digest = record.keccak256Digest ∧
        kept.sizeBytes = record.sizeBytes ∧ kept.locator = record.locator ∧ kept.verification = record.verification := by
  have ends : verifiedRun.bind (fun pool => (pool.state.store.records.get "bundle-1:ipfs").map (·.state)) = some .verified := by
    decide +kernel
  obtain ⟨pool, run, found⟩ := Option.bind_eq_some_iff.mp ends
  obtain ⟨record, stored, verified⟩ := Option.map_eq_some_iff.mp found
  have reach : pool.Reach (· = sampleRequest .ipfs) unrestricted := by
    refine played_reach (fun _ _ _ _ => id) (fun request member => ?_) run
    rcases List.mem_cons.mp member with same | call
    · cases same
      exact ⟨rfl, fun _ => sampleRequest_enabled .ipfs⟩
    · cases List.eq_of_mem_replicate call
  have apart : AttemptsApart (· = sampleRequest .ipfs) := fun _ _ is also _ => is.trans also.symm ▸ rfl
  have contents : ContentsApart (· = sampleRequest .ipfs) := by
    rintro _ _ artifact content rfl rfl given same _ _
    exact Except.ok.inj (given.symm.trans same)
  exact ⟨pool, record, run, stored, verified, Reach.verified_readBack reach apart contents stored verified⟩

end Publishers

end Bnbera.Publication
