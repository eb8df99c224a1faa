import Bnbera.Publication.Publishing

namespace Bnbera.Publication

open Interleaving

abbrev Entry := Answered PublisherCall PublisherCall.Answer

def drawn : Entry → Option String
  | ⟨.randomUUID, leaseToken⟩ => some leaseToken
  | _ => none

def heldAfter (held : Option PublicationAttemptRecord) : Entry → Option PublicationAttemptRecord
  | ⟨.acquireLease _ _ _ _, (true, some leased)⟩ => some leased
  | ⟨.save record _ _ _, .ok ()⟩ => some record
  | ⟨.releaseLease _ _ _, _⟩ => none
  | _ => held

def held (history : Calls) : Option PublicationAttemptRecord := history.foldl heldAfter none

theorem held_append {history rest : Calls} : held (history ++ rest) = rest.foldl heldAfter (held history) :=
  List.foldl_append

def Carries (record : PublicationAttemptRecord) : Entry → Prop
  | ⟨.createOrGet _, (existing, _)⟩ => existing = record
  | ⟨.acquireLease _ _ _ _, (true, some leased)⟩ => leased = record
  | ⟨.save saved _ _ _, .ok ()⟩ => saved = record
  | ⟨.releaseLease _ _ _, some released⟩ => released = record
  | ⟨.findByAttemptId _, some found⟩ => found = record
  | _ => False

def Accepted : Entry → Prop
  | ⟨.acquireLease _ _ _ _, (true, some leased)⟩ => leased.leaseOwner ≠ none
  | ⟨.save _ _ _ _, answer⟩ => answer = .ok ()
  | _ => True

def Lawful : Entry → Prop
  | ⟨.requestMove source target, _⟩ => Permitted source target
  | _ => True

/-- A hash that `checkedTransactionHash` refuses. -/
def Malformed (hash : Option String) : Prop := ∃ text ∈ hash, isTransactionHash (lower (trim text)) = false

def MalformedReference (reference : String) : Prop := check (isTrimmedText 512) (trim reference) = none

/-- An object that was found with a reference: it is sealed already, its hash cannot be read, or its
reference cannot be stored. -/
def InspectEscapes (inspected : GreenfieldInspectReceipt) : Prop :=
  inspected.status ≠ .missing ∧ ∃ reference ∈ inspected.objectReference,
    Malformed inspected.creationTransactionHash ∨
      (∃ hash, checkedTransactionHash inspected.creationTransactionHash "Greenfield creation transaction" = .ok (some hash)) ∧
        (inspected.status = .sealed ∨ MalformedReference reference)

def Escapes : Entry → Prop
  | ⟨.inspectObject _, .ok inspected⟩ => InspectEscapes inspected
  | ⟨.createReturned, .ok created⟩ =>
    created.status = .confirmed ∧ created.objectReference = none ∧ ¬Malformed created.creationTransactionHash
  | ⟨.waitForSeal _ _, .ok receipt⟩ => receipt.status = .missing ∧ ¬Malformed receipt.sealTransactionHash
  | _ => False

/-- What a run has to show for itself: the store kept everything, no forbidden move was asked for,
and no answer escapes. -/
def AllAccepted (history : Calls) : Prop := ∀ entry ∈ history, Accepted entry
def AllLawful (history : Calls) : Prop := ∀ entry ∈ history, Lawful entry
def NoneEscapes (history : Calls) : Prop := ∀ entry ∈ history, ¬Escapes entry

structure Quiet (entry : Entry) : Prop where
  lawful : Lawful entry
  calm : ¬Escapes entry

def Quietly (before after : Calls) : Prop := ∃ calls, after = before ++ calls ∧ ∀ entry ∈ calls, Quiet entry

namespace Quiet

theorem clock (time : Int) : Quiet ⟨.clock, time⟩ := ⟨trivial, id⟩

theorem sleep {milliseconds : Nat} : Quiet ⟨.sleep milliseconds, ()⟩ := ⟨trivial, id⟩

theorem audit {event : PublicationAuditEvent} : Quiet ⟨.appendAudit event, ()⟩ := ⟨trivial, id⟩

theorem move {source target : PublicationAttemptState} (permitted : Permitted source target) :
    Quiet ⟨.requestMove source target, ()⟩ := ⟨permitted, id⟩

theorem save {record : PublicationAttemptRecord} {revision : Nat} {leaseToken : String} {now : Int}
    (answer : Except PublicationFailure Unit) : Quiet ⟨.save record revision leaseToken now, answer⟩ := ⟨trivial, id⟩

end Quiet

namespace Quietly

variable {before middle after : Calls} {entry : Entry}

theorem refl : Quietly before before := ⟨[], (List.append_nil _).symm, fun _ member => (List.not_mem_nil member).elim⟩

theorem trans (first : Quietly before middle) (second : Quietly middle after) : Quietly before after := by
  obtain ⟨calls, rfl, quiet⟩ := first
  obtain ⟨more, rfl, still⟩ := second
  refine ⟨calls ++ more, List.append_assoc _ _ _, fun entry member => ?_⟩
  rcases List.mem_append.mp member with old | new
  · exact quiet entry old
  · exact still entry new

theorem one (quiet : Quiet entry) : Quietly before (before ++ [entry]) :=
  ⟨[entry], rfl, fun _ member => List.mem_singleton.mp member ▸ quiet⟩

theorem next (first : Quietly before middle) (quiet : Quiet entry) : Quietly before (middle ++ [entry]) :=
  first.trans (one quiet)

theorem mem (quietly : Quietly before after) (member : entry ∈ before) : entry ∈ after := by
  obtain ⟨calls, rfl, _⟩ := quietly
  exact List.mem_append_left _ member

theorem accepted (quietly : Quietly before after) (all : AllAccepted after) : AllAccepted before :=
  fun entry member => all entry (quietly.mem member)

theorem lawful (quietly : Quietly before after) : AllLawful after ↔ AllLawful before := by
  obtain ⟨calls, rfl, quiet⟩ := quietly
  exact ⟨fun all entry member => all entry (List.mem_append_left _ member), fun all entry member =>
    (List.mem_append.mp member).elim (all entry) fun new => (quiet entry new).lawful⟩

theorem escapes (quietly : Quietly before after) : NoneEscapes after ↔ NoneEscapes before := by
  obtain ⟨calls, rfl, quiet⟩ := quietly
  exact ⟨fun all entry member => all entry (List.mem_append_left _ member), fun all entry member =>
    (List.mem_append.mp member).elim (all entry) fun new => (quiet entry new).calm⟩

end Quietly

/-- The fields that a record keeps from its creation on, with all others at a fixed value. -/
def PublicationAttemptRecord.identity (record : PublicationAttemptRecord) : PublicationAttemptRecord :=
  { record with
    state := .pending
    revision := 0
    leaseOwner := none
    leaseExpiresAt := none
    providerReference := none
    creationTransactionHash := none
    sealTransactionHash := none
    locator := none
    verification := none
    retryCount := 0
    lastErrorCode := none
    lastErrorMessage := none
    retryable := false
    submittedAt := none
    startedAt := none
    completedAt := none
    updatedAt := 0 }

def RecordPatch.reference (patch : RecordPatch) (record : PublicationAttemptRecord) :
    Except PublicationFailure (Option ProviderReference) :=
  match patch.providerReference with
  | none => .ok record.providerReference
  | some given => given.mapM (parseText 512)

structure Transitioned (record : PublicationAttemptRecord) (nextState : PublicationAttemptState) (patch : RecordPatch)
    (updated : PublicationAttemptRecord) : Prop where
  identity : updated.identity = record.identity
  state : updated.state = nextState
  revision : updated.revision = record.revision + 1
  leaseOwner : updated.leaseOwner = record.leaseOwner
  leaseExpiresAt : updated.leaseExpiresAt = record.leaseExpiresAt
  providerReference : patch.reference record = .ok updated.providerReference
  creationTransactionHash : updated.creationTransactionHash =
    patch.creationTransactionHash.getD record.creationTransactionHash
  locator : updated.locator = patch.locator.getD record.locator
  verification : updated.verification = patch.verification.getD record.verification
  lastErrorCode : updated.lastErrorCode = patch.lastErrorCode.getD record.lastErrorCode
  retryable : updated.retryable = patch.retryable.getD record.retryable

section
variable {record : PublicationAttemptRecord} {nextState : PublicationAttemptState} {patch : RecordPatch}
  {startedAt completedAt : Option Int} {updatedAt : Int}

theorem RecordPatch.apply_eq_error {error : PublicationFailure}
    (failed : patch.apply (stamped record nextState startedAt completedAt updatedAt) = .error error) :
    patch.reference record = .error error := by
  obtain ⟨providerReference⟩ := patch
  cases providerReference with
  | none => cases failed
  | some given =>
    cases parsed : given.mapM (parseText 512) with
    | error _ =>
      simp only [apply, parsed] at failed
      cases failed
      exact parsed
    | ok _ =>
      simp only [apply, parsed] at failed
      cases failed

theorem RecordPatch.apply_eq_ok {updated : PublicationAttemptRecord}
    (applied : patch.apply (stamped record nextState startedAt completedAt updatedAt) = .ok updated) :
    Transitioned record nextState patch updated := by
  obtain ⟨providerReference⟩ := patch
  cases providerReference with
  | none =>
    cases applied
    constructor <;> rfl
  | some given =>
    cases parsed : given.mapM (parseText 512) with
    | error _ =>
      simp only [apply, parsed] at applied
      cases applied
    | ok reference =>
      simp only [apply, parsed] at applied
      cases applied
      constructor
      case providerReference => exact parsed
      all_goals rfl

end

theorem held_next (history : Calls) (entry : Entry) : held (history ++ [entry]) = heldAfter (held history) entry := by
  rw [held_append]
  rfl

def Grants (record : PublicationAttemptRecord) : Entry → Prop
  | ⟨.acquireLease _ _ _ _, (true, some leased)⟩ => leased = record
  | ⟨.save saved _ _ _, .ok ()⟩ => saved = record
  | _ => False

theorem held_granted {history : Calls} {record : PublicationAttemptRecord} (holds : held history = some record) :
    ∃ entry ∈ history, Grants record entry := by
  induction history using List.reverseRecOn with
  | nil => cases holds
  | append_singleton before entry ih =>
    rw [held_next] at holds
    have earlier : held before = some record → ∃ entry' ∈ before ++ [entry], Grants record entry' :=
      fun same => (ih same).imp fun _ ⟨member, grants⟩ => ⟨List.mem_append_left _ member, grants⟩
    unfold heldAfter at holds
    split at holds
    · exact ⟨_, List.mem_concat_self, Option.some.inj holds⟩
    · exact ⟨_, List.mem_concat_self, Option.some.inj holds⟩
    · cases holds
    · exact earlier holds

theorem Grants.carries {record : PublicationAttemptRecord} {entry : Entry} (grants : Grants record entry) :
    Carries record entry := by
  unfold Grants at grants
  split at grants
  · exact grants
  · exact grants
  · exact grants.elim

theorem held_carried {history : Calls} {record : PublicationAttemptRecord} (holds : held history = some record) :
    ∃ entry ∈ history, Carries record entry :=
  (held_granted holds).imp fun _ granted => ⟨granted.1, granted.2.carries⟩

structure Locates [ByteDigests] (publisher : EvidencePublisher) (digest : ArtifactDigest) (code : PublicationProvider)
    (locator : EvidenceLocator) : Prop where
  provider : locator.provider = code
  providerLabel : locator.providerLabel = publisher.providerLabel code
  network : locator.network = publisher.configuredNetwork code
  bucket : locator.bucket = publisher.configuredBucket code
  version : locator.version = digest.artifact.version
  sha256Digest : locator.sha256Digest = digest.sha256Digest
  keccak256Digest : locator.keccak256Digest = digest.keccak256Digest
  sizeBytes : locator.sizeBytes = digest.sizeBytes

def ReadReturned (bytes : Bytes) : Entry → Prop
  | ⟨.ipfsRead _, answer⟩ => answer = .ok bytes
  | ⟨.readObject _, answer⟩ => answer = .ok bytes
  | _ => False

def Sealed : Entry → Prop
  | ⟨.waitForSeal _ _, .ok receipt⟩ => receipt.status = .sealed
  | _ => False

def Reconciled : Entry → Prop
  | ⟨.reconcileCreate _, .ok reconciliation⟩ => reconciliation.status ≠ .unknown
  | _ => False

def ReadAs (property : PublicationAttemptRecord → Prop) (entry : Entry) : Prop :=
  ∃ candidate existing created, entry = ⟨.createOrGet candidate, (existing, created)⟩ ∧ property existing

/-- The code that a call runs is its provider's, or that of Greenfield for a create whose outcome is unknown. -/
def CodeFor (provider code : PublicationProvider) (history : Calls) : Prop :=
  code = provider ∨ code = .greenfield ∧ ∃ entry ∈ history, ReadAs UnknownCreate entry

theorem CodeFor.mono {provider code : PublicationProvider} {before after : Calls} (run : CodeFor provider code before)
    (grows : ∀ entry ∈ before, entry ∈ after) : CodeFor provider code after := by
  rcases run with own | ⟨greenfield, entry, member, unknown⟩
  · exact .inl own
  · exact .inr ⟨greenfield, entry, grows entry member, unknown⟩

def Leased (prior : PublicationAttemptRecord) (history : Calls) : Prop :=
  ∃ attemptId leaseToken now durationMs, ⟨.acquireLease attemptId leaseToken now durationMs, (true, some prior)⟩ ∈ history

def RetryableFailure (record : PublicationAttemptRecord) : Prop :=
  record.retryable = true ∧ record.state ∈ terminalStates ∧ ¬UnknownCreate record

/-- What a save to `retrying` has behind it: a failure that may be retried, or a reconciled create. -/
def Retries (prior : PublicationAttemptRecord) (history : Calls) : Prop :=
  Leased prior history ∧ ((∃ entry ∈ history, ReadAs RetryableFailure entry) ∨
    (∃ entry ∈ history, ReadAs UnknownCreate entry) ∧ ∃ entry ∈ history, Reconciled entry)

section
variable [ByteDigests]

structure VerifiedBy (digest : ArtifactDigest) (code : PublicationProvider) (history : Calls)
    (prior record : PublicationAttemptRecord) : Prop where
  reading : prior.state = .readingBack
  read : ∃ entry ∈ history, ReadReturned digest.canonicalBytes entry
  verification : ∃ checkedAt sealConfirmed,
    record.verification = some (readbackVerification checkedAt sealConfirmed digest digest.canonicalBytes) ∧
    (readbackVerification checkedAt sealConfirmed digest digest.canonicalBytes).status = .verified ∧
    (code = .greenfield → sealConfirmed = some true)
  locator : ∀ locator ∈ prior.locator, ∃ time, record.locator = some { locator with verifiedAt := some time }

/-- What a save of a call has behind it: the record that it follows, and in the history what its state asks for. -/
structure Advances (publisher : EvidencePublisher) (digest : ArtifactDigest) (code : PublicationProvider) (history : Calls)
    (prior record : PublicationAttemptRecord) : Prop where
  identity : record.identity = prior.identity
  revision : record.revision = prior.revision + 1
  leaseOwner : record.leaseOwner = prior.leaseOwner
  leaseExpiresAt : record.leaseExpiresAt = prior.leaseExpiresAt
  permitted : Permitted prior.state record.state
  unverified : prior.state ≠ .verified
  recreated : prior.state = .createFailed → record.state = .retrying
  created : record.state = .createFailed → code = .greenfield
  retried : record.state = .retrying → Retries prior history
  locator : ∀ locator ∈ record.locator, Locates publisher digest code locator ∨ ∃ old ∈ prior.locator,
    locator = { old with verifiedAt := locator.verifiedAt }
  located : record.state = .awaitingSeal ∨ record.state = .readingBack → record.locator = none →
    prior.locator = none ∧ (prior.state = .awaitingSeal ∨ prior.state = .readingBack)
  sealed : record.state = .readingBack → code = .greenfield → ∃ entry ∈ history, Sealed entry
  verified : record.state = .verified → VerifiedBy digest code history prior record

theorem Advances.mono {publisher : EvidencePublisher} {digest : ArtifactDigest} {code : PublicationProvider}
    {before after : Calls} {prior record : PublicationAttemptRecord}
    (advances : Advances publisher digest code before prior record) (grows : ∀ entry ∈ before, entry ∈ after) :
    Advances publisher digest code after prior record := by
  have lift : ∀ {property : Entry → Prop}, (∃ entry ∈ before, property entry) → ∃ entry ∈ after, property entry :=
    fun ⟨entry, member, holds⟩ => ⟨entry, grows entry member, holds⟩
  refine { advances with
    retried := fun retrying => ?_
    sealed := fun reading greenfield => lift (advances.sealed reading greenfield)
    verified := fun verified => { advances.verified verified with read := lift (advances.verified verified).read } }
  obtain ⟨⟨attemptId, leaseToken, now, durationMs, member⟩, reason⟩ := advances.retried retrying
  refine ⟨⟨attemptId, leaseToken, now, durationMs, grows _ member⟩, ?_⟩
  rcases reason with retryable | ⟨unknown, reconciled⟩
  · exact .inl (lift retryable)
  · exact .inr ⟨lift unknown, lift reconciled⟩

/-- A record that a call goes on with: it is the attempt's, under this configuration. -/
structure Passes (publisher : EvidencePublisher) (digest : ArtifactDigest) (provider : PublicationProvider)
    (existing : PublicationAttemptRecord) : Prop where
  configuration : publisher.assertCurrentConfiguration existing provider = .ok ()
  provider : existing.provider = provider
  sha256Digest : existing.sha256Digest = digest.sha256Digest
  keccak256Digest : existing.keccak256Digest = digest.keccak256Digest

def ReadOwn (publisher : EvidencePublisher) (digest : ArtifactDigest) (provider : PublicationProvider) (attemptId : String)
    (history : Calls) : Prop :=
  ∃ entry ∈ history, ReadAs (fun existing => attemptId = existing.attemptId ∧ Passes publisher digest provider existing) entry

theorem Passes.of_identity {publisher : EvidencePublisher} {digest : ArtifactDigest} {provider : PublicationProvider}
    {existing other : PublicationAttemptRecord} (passes : Passes publisher digest provider existing)
    (same : other.identity = existing.identity) : Passes publisher digest provider other := by
  have configurationDigest := congrArg PublicationAttemptRecord.configurationDigest same
  have providerLabel := congrArg PublicationAttemptRecord.providerLabel same
  have configuredNetwork := congrArg PublicationAttemptRecord.configuredNetwork same
  have configuredBucket := congrArg PublicationAttemptRecord.configuredBucket same
  have unchanged : publisher.assertCurrentConfiguration other provider =
      publisher.assertCurrentConfiguration existing provider := by
    simp only [PublicationAttemptRecord.identity] at configurationDigest providerLabel configuredNetwork configuredBucket
    simp only [EvidencePublisher.assertCurrentConfiguration, configurationDigest, providerLabel, configuredNetwork,
      configuredBucket]
  exact {
    configuration := unchanged.trans passes.configuration
    provider := (congrArg PublicationAttemptRecord.provider same).trans passes.provider
    sha256Digest := (congrArg PublicationAttemptRecord.sha256Digest same).trans passes.sha256Digest
    keccak256Digest := (congrArg PublicationAttemptRecord.keccak256Digest same).trans passes.keccak256Digest }

/-- What the calls of a worker have behind them, while it holds the lease. -/
def Guard (publisher : EvidencePublisher) (digest : ArtifactDigest) (provider : PublicationProvider) (history : Calls) :
    PublisherCall → Prop
  | .createOrGet _ | .randomUUID | .acquireLease _ _ _ _ | .releaseLease _ _ _ | .findByAttemptId _ => False
  | .save record expectedRevision leaseToken _ => ∃ prior code, held history = some prior ∧
    prior.leaseOwner = some leaseToken ∧ expectedRevision = prior.revision ∧ CodeFor provider code history ∧
    Advances publisher digest code history prior record
  | .reconcileCreate _ => ∃ prior, held history = some prior
  | .inspectObject _ => ∃ prior, held history = some prior ∧ prior.state = .creatingObject
  | .createObject _ => (∃ prior, held history = some prior ∧ prior.state = .creatingObject) ∧
    (publisher.inspectObject = true → ∃ before input inspected,
      history = before ++ [⟨.inspectObject input, .ok inspected⟩] ∧ inspected.status = .missing)
  | .ipfsRead _ | .readObject _ => ∃ prior, held history = some prior ∧ prior.state = .readingBack
  | _ => True

end

end Bnbera.Publication
