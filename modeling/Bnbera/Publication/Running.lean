import Bnbera.Publication.Greenfield

namespace Bnbera.Publication

open Interleaving

section

variable {publisher : EvidencePublisher} {digest : ArtifactDigest} {provider code : PublicationProvider}
  {record : PublicationAttemptRecord} {history : Calls}

namespace EvidencePublisher

def WithinBounds (publisher : EvidencePublisher) (digest : ArtifactDigest) : Prop :=
  digest.sizeBytes ≤ publisher.configuration.maxArtifactBytes ∧ digest.sizeBytes ≤ publisher.configuration.maxObjectBytes

instance : Decidable (publisher.WithinBounds digest) := inferInstanceAs (Decidable (_ ∧ _))

def ProviderStart (publisher : EvidencePublisher) (code : PublicationProvider) (record : PublicationAttemptRecord) : Prop :=
  match code with
  | .ipfs => publisher.IpfsStart record
  | .greenfield => publisher.GreenfieldStart record

/-- Where `runProvider` can go on from: content that is too large is refused while the attempt is validated. -/
def Startable (publisher : EvidencePublisher) (digest : ArtifactDigest) (code : PublicationProvider)
    (record : PublicationAttemptRecord) : Prop :=
  record.state = .pending ∨
    if publisher.WithinBounds digest then publisher.ProviderStart code record
    else record.state = .validating ∨ record.state = .validationFailed

theorem validateSizeBounds_within (within : publisher.WithinBounds digest) :
    publisher.validateSizeBounds record digest = pure none := by
  obtain ⟨artifact, object⟩ := within
  rw [validateSizeBounds, if_neg (Nat.not_lt.mpr artifact), if_neg (Nat.not_lt.mpr object)]

theorem validateSizeBounds_beyond (beyond : ¬publisher.WithinBounds digest) : ∃ reason message,
    publisher.validateSizeBounds record digest = some <$> fail record .validationFailed reason message none := by
  unfold validateSizeBounds
  by_cases artifact : publisher.configuration.maxArtifactBytes < digest.sizeBytes
  · exact ⟨_, _, if_pos artifact⟩
  · have object : publisher.configuration.maxObjectBytes < digest.sizeBytes := by
      unfold WithinBounds at beyond
      omega
    exact ⟨_, _, (if_neg artifact).trans (if_pos object)⟩

theorem permitted_validationFailed {state : PublicationAttemptState} :
    Permitted state .validationFailed ↔ state = .validating ∨ state = .validationFailed := by
  cases state <;> decide

theorem startable_retrying (retrying : record.state = .retrying) : ¬publisher.Startable digest code record := by
  rintro (pending | rest)
  · cases retrying.symm.trans pending
  · split at rest
    · cases code with
      | ipfs =>
        change publisher.IpfsStart record at rest
        unfold IpfsStart at rest
        rw [retrying] at rest
        revert rest
        cases publisher.ipfs <;> decide
      | greenfield =>
        change publisher.GreenfieldStart record at rest
        unfold GreenfieldStart Resumable at rest
        rw [retrying] at rest
        revert rest
        cases publisher.greenfield <;> simp [Permitted, stateTransitions]
    · rw [retrying] at rest
      rcases rest with ⟨⟨⟩⟩ | ⟨⟨⟩⟩

theorem startable_validating (validating : record.state = .validating) :
    if publisher.WithinBounds digest then publisher.ProviderStart code record
    else record.state = .validating ∨ record.state = .validationFailed := by
  split
  · cases code with
    | ipfs =>
      change publisher.IpfsStart record
      unfold IpfsStart
      rw [validating]
      cases publisher.ipfs <;> decide
    | greenfield =>
      change publisher.GreenfieldStart record
      unfold GreenfieldStart Resumable
      rw [validating]
      cases publisher.greenfield <;> simp [Permitted, stateTransitions]
  · exact .inl validating

section
variable [ByteDigests]

/-- What `runProvider` catches after a forbidden move. -/
theorem recoverFrom_unlawful {expected : Prop} {error : PublicationFailure} (unexpected : ¬expected)
    (unlawful : ¬AllLawful history) (holds : Holds history record) (run : CodeFor provider code history) :
    Keeps (Guard publisher digest provider) (Settles expected) (recoverFrom record error).run history := by
  have lost : ∀ (result : Except PublicationFailure PublicationAttemptRecord) after, (∀ entry ∈ history, entry ∈ after) →
      Returns result after → Settles expected result after :=
    fun _ _ grows returns => .unlawful returns unexpected fun lawful =>
      unlawful fun entry member => lawful entry (grows entry member)
  unfold recoverFrom
  split
  · exact keeps_throw (lost _ _ (fun _ member => member) returns_error)
  · exact fail_lost lost holds run ⟨by decide, .inl (by decide)⟩

theorem recoverFrom_refused {expected : Prop} {error : PublicationFailure} (refused : ¬AllAccepted history)
    (clean : Clean history) (holds : Holds history record) (run : CodeFor provider code history) :
    Keeps (Guard publisher digest provider) (Settles expected) (recoverFrom record error).run history := by
  unfold recoverFrom
  split
  · exact keeps_throw (.unaccepted returns_error clean refused)
  · rename_i permitted
    refine fail_refused refused clean holds run ⟨by decide, .inl (by decide)⟩ ?_
    by_contra forbidden
    exact permitted ⟨fun same => forbidden (.inl same), fun listed => forbidden (.inr listed)⟩

variable [UriParser]

/-- The rest of `runProvider` after the move to validating. -/
theorem publishValidated_keeps {expected : Prop} (holds : Holds history record) (clean : Clean history)
    (run : CodeFor provider code history)
    (expects : expected ↔ if publisher.WithinBounds digest then publisher.ProviderStart code record
      else record.state = .validating ∨ record.state = .validationFailed) :
    Keeps (Guard publisher digest provider) (Settles expected) (publisher.publishValidated digest code record).run history := by
  unfold publishValidated
  by_cases within : publisher.WithinBounds digest
  · rw [if_pos within] at expects
    rw [validateSizeBounds_within within]
    refine .outcome_bind (.done ?_)
    cases code with
    | ipfs => exact (runIpfs_keeps holds clean run).post fun _ _ settles => settles.of expects.symm
    | greenfield => exact (runGreenfield_keeps holds clean run).post fun _ _ settles => settles.of expects.symm
  · rw [if_neg within, ← permitted_validationFailed] at expects
    obtain ⟨reason, message, refusal⟩ : ∃ reason message, publisher.validateSizeBounds record digest =
        some <$> fail record .validationFailed reason message none := validateSizeBounds_beyond within
    rw [refusal]
    have fails : Fails code record .validationFailed := ⟨by decide, .inl (by decide)⟩
    refine .outcome_bind (.except_map (fail_caught holds run fails ?_ ?_ ?_))
    · intro forbidden
      exact recoverFrom_unlawful (fun holds => forbidden (expects.mp holds)) (unlawful_next forbidden) (holds.next _ rfl)
        (run.mono fun _ member => List.mem_append_left _ member)
    · intro _ error after caught refused
      exact recoverFrom_refused refused (clean.quietly caught.quietly) caught.holds
        (run.mono fun _ member => caught.quietly.mem member)
    · intro permitted failed after recorded quietly held
      exact keeps_pure (.recorded_ok (clean.quietly quietly) (expects.mpr permitted) held recorded)

theorem runProvider_keeps (holds : Holds history record) (clean : Clean history) (run : CodeFor provider code history) :
    Keeps (Guard publisher digest provider) (Settles (publisher.Startable digest code record))
      (publisher.runProvider digest code record).run history := by
  unfold runProvider
  by_cases begins : record.state = .pending ∨ record.state = .retrying
  · rw [if_pos begins]
    refine .outcome_bind (transition_keeps holds (fun updated permitted transitioned =>
      ⟨code, run, transitioned.advances_plain permitted (by decide) rfl⟩) ⟨?_, ?_, ?_⟩)
    · intro forbidden
      have retrying : record.state = .retrying := begins.resolve_left fun pending => forbidden (by rw [pending]; decide)
      exact recoverFrom_unlawful (startable_retrying retrying) (unlawful_next forbidden) (holds.next _ rfl)
        (run.mono fun _ member => List.mem_append_left _ member)
    · intro _ error after caught reason
      have refused := reason.resolve_right nofun
      exact recoverFrom_refused refused (clean.quietly caught.quietly) caught.holds
        (run.mono fun _ member => caught.quietly.mem member)
    · intro permitted next after transitioned quietly held
      have pending : record.state = .pending := begins.resolve_right fun retrying => by
        rw [retrying] at permitted
        exact absurd permitted (by decide)
      refine publishValidated_keeps held (clean.quietly quietly) (run.mono fun _ member => quietly.mem member) ?_
      exact ⟨fun _ => startable_validating transitioned.state, fun _ => .inl pending⟩
  · rw [if_neg begins]
    have notPending : record.state ≠ .pending := fun pending => begins (.inl pending)
    exact publishValidated_keeps holds clean run (or_iff_right notPending)

end

end EvidencePublisher

end

/-- A final record is returned and no forbidden move is asked for, exactly where the record can be gone on
from and no answer of an adapter escapes. No forbidden move depends on a write that the store refuses. -/
theorem runProvider_records_iff [UriParser] [ByteDigests] (publisher : EvidencePublisher) (digest : ArtifactDigest)
    (provider : PublicationProvider) (initial : PublicationAttemptRecord) {calls : Calls}
    {result : Except PublicationFailure PublicationAttemptRecord} (leased : initial.leaseOwner ≠ none)
    (run : Follows (publisher.runProvider digest provider initial).run calls (.done result)) :
    (publisher.Startable digest provider initial → NoneEscapes calls → AllLawful calls) ∧
    (AllAccepted calls → ((∃ record, result = .ok record ∧ Recorded record) ∧ AllLawful calls ↔
      publisher.Startable digest provider initial ∧ NoneEscapes calls)) := by
  have before : Holds [⟨.acquireLease initial.attemptId "" 0 0, (true, some initial)⟩] initial := ⟨rfl, fun _ => leased⟩
  have quiet : Quiet ⟨.acquireLease initial.attemptId "" 0 0, (true, some initial)⟩ := ⟨trivial, id⟩
  have clean : Clean [⟨.acquireLease initial.attemptId "" 0 0, (true, some initial)⟩] :=
    ⟨List.forall_mem_singleton.mpr quiet.lawful, List.forall_mem_singleton.mpr quiet.calm⟩
  have settles := (run.keeps_after (publisher.runProvider_keeps before clean (.inl rfl))).result
  have lawful : AllLawful ([⟨.acquireLease initial.attemptId "" 0 0, (true, some initial)⟩] ++ calls) ↔ AllLawful calls :=
    List.forall_mem_cons.trans (and_iff_right quiet.lawful)
  have calm : NoneEscapes ([⟨.acquireLease initial.attemptId "" 0 0, (true, some initial)⟩] ++ calls) ↔ NoneEscapes calls :=
    List.forall_mem_cons.trans (and_iff_right quiet.calm)
  refine ⟨fun starts none => lawful.mp (settles.lawful starts (calm.mpr none)), fun accepted => ?_⟩
  rw [← lawful, ← calm]
  exact settles.recorded (List.forall_mem_cons.mpr ⟨leased, accepted⟩)

theorem sampleContent_ok : isDigest "aaaaaaaaaaaaaaaaaaaaaaaaaaaaaaaaaaaaaaaaaaaaaaaaaaaaaaaaaaaaaaaa" = true := by decide +kernel

theorem sampleContent_lower : lower "aaaaaaaaaaaaaaaaaaaaaaaaaaaaaaaaaaaaaaaaaaaaaaaaaaaaaaaaaaaaaaaa" = "aaaaaaaaaaaaaaaaaaaaaaaaaaaaaaaaaaaaaaaaaaaaaaaaaaaaaaaaaaaaaaaa" := by decide +kernel

def sampleContentDigest : Digest := ⟨_, sampleContent_ok, sampleContent_lower⟩

@[reducible] def plainUris : UriParser := ⟨fun _ => some ⟨"", "", "bucket"⟩⟩

@[reducible] def constantDigests : ByteDigests := ⟨fun _ => sampleContentDigest, fun _ => sampleContentDigest⟩

def sampleConfiguration : PublicationConfiguration where
  environment := .hackathon
  enabledProviders := [.ipfs, .greenfield]
  ipfsNetwork := ⟨"ipfs-test", by decide +kernel⟩
  ipfsProviderLabel := ⟨"ipfs", by decide +kernel⟩
  greenfieldNetwork := ⟨"greenfield-test", by decide +kernel⟩
  greenfieldProviderLabel := ⟨"greenfield", by decide +kernel⟩
  greenfieldBucket := ⟨"bucket", by decide +kernel⟩
  maxArtifactBytes := 1000
  maxObjectBytes := 1000
  maxSealPolls := 1
  sealBackoffMs := []
  leaseDurationMs := 60000
  polls := by decide
  duration := by decide

def samplePublisher : EvidencePublisher where
  configuration := sampleConfiguration
  ipfs := true
  greenfield := true
  inspectObject := true
  reconcileCreate := true

def sampleArtifact : CanonicalArtifact where
  environment := .hackathon
  artifactType := "run_bundle"
  artifactId := "bundle-1"
  version := 1
  canonicalJson := "{}"

def sampleAttempt (provider : PublicationProvider) (state : PublicationAttemptState) : PublicationAttemptRecord where
  attemptId := "attempt-1"
  idempotencyKey := ⟨"bundle-1", by decide +kernel⟩
  provider := provider
  providerLabel := samplePublisher.providerLabel provider
  configurationDigest := sampleContentDigest
  configuredNetwork := samplePublisher.configuredNetwork provider
  configuredBucket := samplePublisher.configuredBucket provider
  artifactId := "bundle-1"
  artifactType := "run_bundle"
  artifactVersion := 1
  objectName := "evidence/hackathon/run_bundle/bundle-1/versions/1/run_bundle.json"
  sha256Digest := sampleContentDigest
  keccak256Digest := sampleContentDigest
  sizeBytes := 2
  state := state
  revision := 1
  leaseOwner := some "worker-1"
  leaseExpiresAt := some 60000
  providerReference := none
  creationTransactionHash := none
  sealTransactionHash := none
  locator := none
  verification := none
  retryCount := 0
  lastErrorCode := none
  lastErrorMessage := none
  retryable := false
  submittedAt := none
  startedAt := none
  completedAt := none
  createdAt := 0
  updatedAt := 0

/-- A store that keeps everything, and adapters that find no object, create one without a reference and
return the canonical bytes. -/
def sampleAnswers (bytes : Bytes) : (call : PublisherCall) → call.Answer
  | .createOrGet record => (record, true)
  | .acquireLease _ _ _ _ => (false, none)
  | .findByAttemptId _ => none
  | .save _ _ _ _ => .ok ()
  | .releaseLease _ _ _ => none
  | .appendAudit _ => ()
  | .clock => (0 : Int)
  | .randomUUID => "worker-1"
  | .requestMove _ _ => ()
  | .ipfsUpload _ => .ok ⟨"ipfs://content", "ipfs-test", none⟩
  | .ipfsRead _ => .ok bytes
  | .inspectObject _ => .ok ⟨.missing, none, none, none⟩
  | .reconcileCreate _ => .ok ⟨.missing, none, none, none⟩
  | .createObject _ => ()
  | .createReturned => .ok ⟨none, none, .confirmed⟩
  | .uploadObject _ _ _ => .error ⟨none, "unreachable"⟩
  | .waitForSeal _ _ => .error ⟨none, "unreachable"⟩
  | .readObject _ => .ok bytes
  | .sleep _ => ()

section
attribute [local instance] plainUris constantDigests

def sampleDigest : ArtifactDigest := digestArtifact sampleArtifact

def sampleRun (provider : PublicationProvider) : Calls × Except PublicationFailure PublicationAttemptRecord :=
  (samplePublisher.runProvider sampleDigest provider (sampleAttempt provider .pending)).run.transcript
    (sampleAnswers sampleDigest.canonicalBytes)

theorem sampleRun_accepted (provider : PublicationProvider) : AllAccepted (sampleRun provider).1 := by
  rintro ⟨op, answer⟩ member
  have given : answer = sampleAnswers _ op := Program.transcript_answers _ member
  subst given
  cases op <;> first | exact trivial | exact rfl

/-- A confirmed create without a reference ends in no failure state. -/
theorem runProvider_unrecorded : ∃ (initial : PublicationAttemptRecord) (calls : Calls)
    (result : Except PublicationFailure PublicationAttemptRecord), initial.leaseOwner ≠ none ∧ initial.state = .pending ∧
    Follows (samplePublisher.runProvider sampleDigest .greenfield initial).run calls (.done result) ∧ AllAccepted calls ∧
    result = .error (illegalTransition .uploading .createFailed) :=
  ⟨sampleAttempt .greenfield .pending, (sampleRun .greenfield).1, (sampleRun .greenfield).2, by decide, rfl,
    .transcript _ _, sampleRun_accepted .greenfield, by decide +kernel⟩

theorem runProvider_records_ipfs :
    (∃ record, (sampleRun .ipfs).2 = .ok record ∧ Recorded record) ∧ AllLawful (sampleRun .ipfs).1 ↔
      samplePublisher.Startable sampleDigest .ipfs (sampleAttempt .ipfs .pending) ∧ NoneEscapes (sampleRun .ipfs).1 :=
  (runProvider_records_iff samplePublisher sampleDigest .ipfs (sampleAttempt .ipfs .pending) (by decide)
    (.transcript _ _)).2 (sampleRun_accepted .ipfs)

end

end Bnbera.Publication
