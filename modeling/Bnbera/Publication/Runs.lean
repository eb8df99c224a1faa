import Bnbera.Publication.Working
import Bnbera.Interleaving.Pool
import Bnbera.Publication.Running

namespace Bnbera.Publication

open Interleaving

section

variable [UriParser] [ByteDigests] {known : PublicationRequest → Prop} {permits : Condition}

structure Acts (known : PublicationRequest → Prop) (permits : Condition) (s : PublicationState) (i : Nat)
    (request : PublicationRequest) (entry : Entry) (after : PublicationStore) : Prop where
  kept : Kept known s
  known : known request
  mine : ∀ logged ∈ s.log, logged.thread = i → logged.request = request
  alive : i ∉ s.dead
  fresh : Fresh s.log entry
  permitted : permits s i request entry
  guarded : request.Guard (s.own i) entry.op
  worked : Worked s i request entry after

abbrev Publishers := Pool PublicationRequest PublisherCall PublisherCall.Answer
  (Except PublicationFailure PublicationAttemptRecord) PublicationState

abbrev Publishers.Reach (known : PublicationRequest → Prop) (permits : Condition) (pool : Publishers) : Prop :=
  (publicationSystem known permits).Reach PublicationState.Initial pool

namespace Publishers

variable {pool : Publishers}

theorem logs : (publicationSystem known permits).Logs PublicationState.calls where
  exec := fun _ _ _ _ _ _ ⟨_, _, _, _, _, same⟩ => same ▸ PublicationState.next_calls
  environment := fun _ _ ⟨_, same⟩ => same ▸ rfl

omit [UriParser] [ByteDigests] in
theorem unlogged (s : PublicationState) (initial : s.Initial) : s.calls = [] := initial ▸ rfl

/-- The request of a logged call is that of its thread. -/
theorem Reach.named (reach : pool.Reach known permits) : ∀ logged ∈ pool.state.log, ∃ thread,
    pool.threads[logged.thread]? = some thread ∧ thread.request = logged.request := by
  induction reach with
  | start initial =>
    intro logged member
    cases initial
    exact (List.not_mem_nil member).elim
  | @next before after previous step ih =>
    cases step with
    | start =>
      intro logged member
      obtain ⟨thread, found, same⟩ := ih logged member
      exact ⟨thread, List.getElem?_append_left (List.getElem?_eq_some_iff.mp found).1 ▸ found, same⟩
    | @call i request op next answer s found called =>
      obtain ⟨_, _, _, _, _, rfl⟩ := called
      have bound := (List.getElem?_eq_some_iff.mp found).1
      intro logged member
      by_cases own : logged.thread = i
      · refine ⟨⟨request, next answer⟩, (congrArg _ own).trans (List.getElem?_set_self bound), ?_⟩
        rcases List.mem_append.mp member with old | new
        · obtain ⟨thread, at_, same⟩ := ih logged old
          rw [own] at at_
          cases found.symm.trans at_
          exact same
        · cases List.mem_singleton.mp new
          rfl
      · rcases List.mem_append.mp member with old | new
        · obtain ⟨thread, at_, same⟩ := ih logged old
          exact ⟨thread, (List.getElem?_set_ne (Ne.symm own)).trans at_, same⟩
        · cases List.mem_singleton.mp new
          exact absurd rfl own
    | environment moved =>
      obtain ⟨_, rfl⟩ := moved
      exact ih

theorem Reach.mine (reach : pool.Reach known permits) {i : Nat} {thread : Thread _ _ _ _}
    (found : pool.threads[i]? = some thread) : ∀ logged ∈ pool.state.log, logged.thread = i → logged.request = thread.request := by
  rintro logged member rfl
  obtain ⟨other, at_, same⟩ := reach.named logged member
  cases found.symm.trans at_
  exact same.symm

theorem Reach.guarded (reach : pool.Reach known permits) {i : Nat} {request : PublicationRequest} {op : PublisherCall}
    {next : op.Answer → Program PublisherCall PublisherCall.Answer (Except PublicationFailure PublicationAttemptRecord)}
    (found : pool.threads[i]? = some ⟨request, .call op next⟩) : request.Guard (pool.state.own i) op :=
  ((System.Reach.follows reach logs unlogged found).keeps request.handler_keeps).permitted

theorem Reach.acts (reach : pool.Reach known permits) (apart : AttemptsApart known) (kept : Kept known pool.state)
    {next : Publishers} (step : (publicationSystem known permits).Step pool next) :
    next.state = pool.state ∨ (∃ i, next.state = { pool.state with dead := i :: pool.state.dead }) ∨
      ∃ i request entry after, Acts known permits pool.state i request entry after ∧
        next.state = pool.state.next ⟨i, request, entry⟩ after := by
  cases step with
  | start => exact .inl rfl
  | @call i request op rest answer s found called =>
    obtain ⟨alive, fresh, permitted, store, executed, rfl⟩ := called
    have is := System.Reach.requests reach (fun _ _ allowed => allowed.1) found
    have mine := reach.mine found
    have guarded := Reach.guarded reach found
    have worked := kept.worked mine apart guarded (PublicationStore.exec_moved executed)
    exact .inr (.inr ⟨i, request, ⟨op, answer⟩, store, ⟨kept, is, mine, alive, fresh, permitted, guarded, worked⟩, rfl⟩)
  | environment moved => exact .inr (.inl moved)

theorem Reach.kept (reach : pool.Reach known permits) (apart : AttemptsApart known) : Kept known pool.state := by
  induction reach with
  | start initial =>
    cases initial
    exact ⟨fun _ _ found => (nomatch found), fun _ member => (List.not_mem_nil member).elim,
      fun _ member => (List.not_mem_nil member).elim⟩
  | @next before after previous step ih =>
    rcases Reach.acts previous apart ih step with same | ⟨i, died⟩ | ⟨i, request, entry, store, acts, same⟩
    · exact same ▸ ih
    · rw [died]
      exact ⟨ih.stored, ih.carried, ih.granted⟩
    · rw [same]
      exact acts.kept.step acts.known acts.worked

theorem Reach.holds {holds : PublicationState → Prop} (reach : pool.Reach known permits) (apart : AttemptsApart known)
    (start : holds ⟨.empty, [], []⟩)
    (dies : ∀ s i, holds s → holds { s with dead := i :: s.dead })
    (acts : ∀ (before : Publishers) i request entry after, before.Reach known permits →
      Acts known permits before.state i request entry after → holds before.state →
      holds (before.state.next ⟨i, request, entry⟩ after)) : holds pool.state := by
  induction reach with
  | start initial =>
    cases initial
    exact start
  | @next before after previous step ih =>
    rcases Reach.acts previous apart (Reach.kept previous apart) step with same | ⟨i, died⟩ | ⟨i, request, entry, store, acted, same⟩
    · exact same ▸ ih
    · exact died ▸ dies _ i ih
    · exact same ▸ acts before i request entry store previous acted ih

theorem Reach.stays {holds : PublicationState → Prop} (reach : pool.Reach known permits) (apart : AttemptsApart known)
    {later : Publishers} (run : Relation.ReflTransGen (publicationSystem known permits).Step pool later)
    (dies : ∀ s i, holds s → holds { s with dead := i :: s.dead })
    (acts : ∀ s i request entry after, Acts known permits s i request entry after → holds s →
      holds (s.next ⟨i, request, entry⟩ after)) (now : holds pool.state) :
    later.Reach known permits ∧ holds later.state := by
  induction run with
  | refl => exact ⟨reach, now⟩
  | @tail before after _ step ih =>
    obtain ⟨previous, held⟩ := ih
    refine ⟨previous.next step, ?_⟩
    rcases Reach.acts previous apart (Reach.kept previous apart) step with same | ⟨i, died⟩ | ⟨i, request, entry, store, acted, same⟩
    · exact same ▸ held
    · exact died ▸ dies _ i held
    · exact same ▸ acts _ i request entry store acted held

end Publishers

end

def PublicationStore.respond (store : PublicationStore) (others : (op : PublisherCall) → op.Answer) :
    (op : PublisherCall) → op.Answer × PublicationStore
  | .createOrGet record =>
    let (existing, created, after) := store.createOrGet record
    ((existing, created), after)
  | .acquireLease attemptId leaseToken now durationMs => store.acquireLease attemptId leaseToken now durationMs
  | .findByAttemptId attemptId => (store.findByAttemptId attemptId, store)
  | .save record expectedRevision leaseToken now => store.saving record expectedRevision leaseToken now
  | .releaseLease attemptId leaseToken now => store.releaseLease attemptId leaseToken now
  | .appendAudit event => ((), { store with audits := store.audits ++ [event] })
  | op => (others op, store)

theorem PublicationStore.respond_exec (store : PublicationStore) (others : (op : PublisherCall) → op.Answer)
    (op : PublisherCall) : store.exec op (store.respond others op).1 (store.respond others op).2 := by
  cases op with
  | findByAttemptId => exact ⟨rfl, rfl⟩
  | _ => rfl

def perform (check : Condition) [∀ s i request entry, Decidable (check s i request entry)]
    (others : Nat → (op : PublisherCall) → op.Answer) :
    Performance PublicationRequest PublisherCall PublisherCall.Answer PublicationState := fun i request op s =>
  let (answer, store) := s.store.respond (others i) op
  if i ∉ s.dead ∧ Fresh s.log ⟨op, answer⟩ ∧ check s i request ⟨op, answer⟩ then
    some (answer, s.next ⟨i, request, ⟨op, answer⟩⟩ store)
  else none

section
variable [UriParser] [ByteDigests] {known : PublicationRequest → Prop} {permits check : Condition}
  [∀ s i request entry, Decidable (check s i request entry)] {others : Nat → (op : PublisherCall) → op.Answer}

theorem perform_exec (implies : ∀ s i request entry, check s i request entry → permits s i request entry) (i : Nat)
    (request : PublicationRequest) (op : PublisherCall) (s : PublicationState)
    (answer : op.Answer) (after : PublicationState) (performed : perform check others i request op s = some (answer, after)) :
    (publicationSystem known permits).exec i request op s answer after := by
  unfold perform at performed
  dsimp only at performed
  split at performed
  · rename_i may
    cases performed
    exact ⟨may.1, may.2.1, implies _ _ _ _ may.2.2, _, PublicationStore.respond_exec _ _ _, rfl⟩
  · cases performed

def played (check : Condition) [∀ s i request entry, Decidable (check s i request entry)]
    (others : Nat → (op : PublisherCall) → op.Answer) (turns : List (Cue PublicationRequest)) : Option Publishers :=
  System.play PublicationRequest.handler (perform check others) turns ⟨⟨.empty, [], []⟩, []⟩

theorem played_reach {turns : List (Cue PublicationRequest)} {pool : Publishers}
    (implies : ∀ s i request entry, check s i request entry → permits s i request entry)
    (starts : ∀ request, .start request ∈ turns → known request ∧ (request.method = .publish → request.Enabled))
    (done : played check others turns = some pool) : pool.Reach known permits :=
  System.Reach.play (.start rfl) (perform_exec implies) (fun _ => starts) done

end

def unrestricted : Condition := fun _ _ _ _ => True

instance (s : PublicationState) (i : Nat) (request : PublicationRequest) (entry : Entry) :
    Decidable (unrestricted s i request entry) := inferInstanceAs (Decidable True)

def sampleRequest (provider : PublicationProvider) : PublicationRequest where
  publisher := samplePublisher
  method := .publish
  artifact := .ok sampleArtifact
  idempotencyKey := "bundle-1"
  provider := provider

theorem sampleRequest_enabled (provider : PublicationProvider) : (sampleRequest provider).Enabled := by
  show provider ∈ [PublicationProvider.ipfs, .greenfield]
  cases provider with
  | ipfs => exact List.mem_cons_self
  | greenfield => exact List.mem_cons_of_mem _ List.mem_cons_self

def ended (pool : Publishers) (i : Nat) : Option (PublicationRequest × Except PublicationFailure PublicationAttemptRecord) :=
  match pool.threads[i]? with
  | some ⟨request, .done result⟩ => some (request, result)
  | _ => none

theorem ended_thread {pool : Publishers} {i : Nat} {request : PublicationRequest}
    {result : Except PublicationFailure PublicationAttemptRecord} (done : ended pool i = some (request, result)) :
    pool.threads[i]? = some ⟨request, .done result⟩ := by
  unfold ended at done
  split at done
  · rename_i found
    cases done
    exact found
  · cases done

def thrown : Except PublicationFailure PublicationAttemptRecord → Option PublicationFailure
  | .error error => some error
  | .ok _ => none

theorem thrown_eq {result : Except PublicationFailure PublicationAttemptRecord} {error : PublicationFailure}
    (threw : thrown result = some error) : result = .error error := by
  cases result with
  | error other => exact congrArg Except.error (Option.some.inj threw)
  | ok record => cases threw

def workerAnswers (bytes : Bytes) (i : Nat) : (op : PublisherCall) → op.Answer
  | .randomUUID => if i = 0 then "worker-1" else "worker-2"
  | op => sampleAnswers bytes op

variable {record other : PublicationAttemptRecord}

theorem LocatorFits.of_identity {locator : EvidenceLocator} (fits : LocatorFits record locator)
    (same : other.identity = record.identity) : LocatorFits other locator where
  provider := fits.provider.trans (congrArg PublicationAttemptRecord.provider same).symm
  providerLabel := fits.providerLabel.trans (congrArg PublicationAttemptRecord.providerLabel same).symm
  network := fits.network.trans (congrArg PublicationAttemptRecord.configuredNetwork same).symm
  bucket := fits.bucket.trans (congrArg PublicationAttemptRecord.configuredBucket same).symm
  version := fits.version.trans (congrArg PublicationAttemptRecord.artifactVersion same).symm
  sha256Digest := fits.sha256Digest.trans (congrArg PublicationAttemptRecord.sha256Digest same).symm
  keccak256Digest := fits.keccak256Digest.trans (congrArg PublicationAttemptRecord.keccak256Digest same).symm
  sizeBytes := fits.sizeBytes.trans (congrArg PublicationAttemptRecord.sizeBytes same).symm

theorem LocatorFits.at {locator : EvidenceLocator} (fits : LocatorFits record locator) (time : Option Int) :
    LocatorFits record { locator with verifiedAt := time } :=
  ⟨fits.provider, fits.providerLabel, fits.network, fits.bucket, fits.version, fits.sha256Digest, fits.keccak256Digest,
    fits.sizeBytes⟩

theorem VerificationFits.of_identity {verification : VerificationResult} (fits : VerificationFits record verification)
    (same : other.identity = record.identity) : VerificationFits other verification := by
  have sha256Digest := congrArg PublicationAttemptRecord.sha256Digest same
  have keccak256Digest := congrArg PublicationAttemptRecord.keccak256Digest same
  have sizeBytes := congrArg PublicationAttemptRecord.sizeBytes same
  exact {
    status := fits.status
    readbackStatus := fits.readbackStatus
    hashesMatch := fits.hashesMatch
    sizeMatches := fits.sizeMatches
    expectedSha256Digest := fits.expectedSha256Digest.trans sha256Digest.symm
    observedSha256Digest := fits.observedSha256Digest.trans (congrArg some sha256Digest.symm)
    expectedKeccak256Digest := fits.expectedKeccak256Digest.trans keccak256Digest.symm
    observedKeccak256Digest := fits.observedKeccak256Digest.trans (congrArg some keccak256Digest.symm)
    expectedSizeBytes := fits.expectedSizeBytes.trans sizeBytes.symm
    observedSizeBytes := fits.observedSizeBytes.trans (congrArg some sizeBytes.symm) }

structure Durable (record : PublicationAttemptRecord) : Prop where
  locator : ∃ locator ∈ record.locator, LocatorFits record locator ∧ locator.verifiedAt ≠ none
  verification : ∃ verification ∈ record.verification, VerificationFits record verification ∧
    (record.provider = .greenfield → verification.sealConfirmed = some true)

theorem ProviderHash.nonzero (hash : ProviderHash) : isZeroHash hash.text ≠ true := by
  have accepted := hash.accepted
  rw [Bool.and_eq_true, Bool.not_eq_true'] at accepted
  rw [accepted.2]
  exact Bool.false_ne_true

theorem Durable.assert (durable : Durable record) : assertDurablePublicationAttempt record = .ok () := by
  obtain ⟨locator, verification, observed, fits, confirmed⟩ := durable
  unfold assertDurablePublicationAttempt
  split
  · rfl
  · refine bind_eq_ok.mpr ⟨(), refuseIf_eq_ok.mpr (not_not_intro ⟨locator, verification, observed, fits⟩), ?_⟩
    refine refuseIf_eq_ok.mpr ?_
    rintro ⟨greenfield, ⟨hash, _, zero⟩ | unconfirmed⟩
    · exact hash.nonzero zero
    · rw [Option.mem_def.mp observed] at unconfirmed
      exact unconfirmed (confirmed greenfield)

section
variable [ByteDigests] {known : PublicationRequest → Prop} {publisher : EvidencePublisher} {digest : ArtifactDigest}
  {provider : PublicationProvider}

structure AttemptAt (publisher : EvidencePublisher) (digest : ArtifactDigest) (provider : PublicationProvider)
    (record : PublicationAttemptRecord) : Prop where
  providerLabel : record.providerLabel = publisher.providerLabel provider
  network : record.configuredNetwork = publisher.configuredNetwork provider
  bucket : record.configuredBucket = publisher.configuredBucket provider
  provider : record.provider = provider
  version : record.artifactVersion = digest.artifact.version
  sha256Digest : record.sha256Digest = digest.sha256Digest
  keccak256Digest : record.keccak256Digest = digest.keccak256Digest
  sizeBytes : record.sizeBytes = digest.sizeBytes

def ContentsApart (known : PublicationRequest → Prop) : Prop :=
  ∀ (request other : PublicationRequest) (artifact content : CanonicalArtifact), known request → known other →
    request.artifact = .ok artifact → other.artifact = .ok content →
    (digestArtifact artifact).sha256Digest = (digestArtifact content).sha256Digest →
    (digestArtifact artifact).keccak256Digest = (digestArtifact content).keccak256Digest → artifact = content

theorem Passes.attemptAt {request : PublicationRequest} {artifact : CanonicalArtifact}
    (passes : Passes request.publisher (digestArtifact artifact) request.provider record)
    (origin : Originates known record) (contents : ContentsApart known) (is : known request)
    (given : request.artifact = .ok artifact) :
    AttemptAt request.publisher (digestArtifact artifact) request.provider record := by
  obtain ⟨first, content, made, isFirst, ⟨also, makes⟩, identity⟩ := origin
  have sha256Digest := congrArg PublicationAttemptRecord.sha256Digest identity
  have keccak256Digest := congrArg PublicationAttemptRecord.keccak256Digest identity
  have same : content = artifact := contents first request content artifact isFirst is also given
    (makes.sha256Digest.symm.trans (sha256Digest.symm.trans passes.sha256Digest))
    (makes.keccak256Digest.symm.trans (keccak256Digest.symm.trans passes.keccak256Digest))
  subst same
  have configured := refuseIf_eq_ok.mp passes.configuration
  rw [not_or, not_or, not_or, not_not, not_not, not_not, not_not] at configured
  obtain ⟨_, label, network, bucket⟩ := configured
  exact {
    provider := passes.provider
    providerLabel := label
    network := network
    bucket := bucket
    version := (congrArg PublicationAttemptRecord.artifactVersion identity).trans makes.artifactVersion
    sha256Digest := passes.sha256Digest
    keccak256Digest := passes.keccak256Digest
    sizeBytes := (congrArg PublicationAttemptRecord.sizeBytes identity).trans makes.sizeBytes }

theorem AttemptAt.locates {locator : EvidenceLocator} (at_ : AttemptAt publisher digest provider record)
    (locates : Locates publisher digest provider locator) : LocatorFits record locator where
  provider := locates.provider.trans at_.provider.symm
  providerLabel := locates.providerLabel.trans at_.providerLabel.symm
  network := locates.network.trans at_.network.symm
  bucket := locates.bucket.trans at_.bucket.symm
  version := locates.version.trans at_.version.symm
  sha256Digest := locates.sha256Digest.trans at_.sha256Digest.symm
  keccak256Digest := locates.keccak256Digest.trans at_.keccak256Digest.symm
  sizeBytes := locates.sizeBytes.trans at_.sizeBytes.symm

omit [ByteDigests] in
theorem AttemptAt.of_identity (at_ : AttemptAt publisher digest provider record) (same : other.identity = record.identity) :
    AttemptAt publisher digest provider other where
  provider := (congrArg PublicationAttemptRecord.provider same).trans at_.provider
  providerLabel := (congrArg PublicationAttemptRecord.providerLabel same).trans at_.providerLabel
  network := (congrArg PublicationAttemptRecord.configuredNetwork same).trans at_.network
  bucket := (congrArg PublicationAttemptRecord.configuredBucket same).trans at_.bucket
  version := (congrArg PublicationAttemptRecord.artifactVersion same).trans at_.version
  sha256Digest := (congrArg PublicationAttemptRecord.sha256Digest same).trans at_.sha256Digest
  keccak256Digest := (congrArg PublicationAttemptRecord.keccak256Digest same).trans at_.keccak256Digest
  sizeBytes := (congrArg PublicationAttemptRecord.sizeBytes same).trans at_.sizeBytes

theorem AttemptAt.verification {artifact : CanonicalArtifact} {checkedAt : Int} {sealConfirmed : Option Bool}
    (at_ : AttemptAt publisher (digestArtifact artifact) provider record)
    (verified : (readbackVerification checkedAt sealConfirmed (digestArtifact artifact)
      (digestArtifact artifact).canonicalBytes).status = .verified) :
    VerificationFits record (readbackVerification checkedAt sealConfirmed (digestArtifact artifact)
      (digestArtifact artifact).canonicalBytes) where
  status := verified
  readbackStatus := if_pos rfl
  hashesMatch := decide_eq_true ⟨rfl, rfl⟩
  sizeMatches := decide_eq_true rfl
  expectedSha256Digest := at_.sha256Digest.symm
  observedSha256Digest := congrArg some at_.sha256Digest.symm
  expectedKeccak256Digest := at_.keccak256Digest.symm
  observedKeccak256Digest := congrArg some at_.keccak256Digest.symm
  expectedSizeBytes := at_.sizeBytes.symm
  observedSizeBytes := congrArg some at_.sizeBytes.symm

end

end Bnbera.Publication
