import Bnbera.Publication.Leasing

namespace Bnbera.Publication

open Interleaving

theorem parseText_eq_ok {high : Nat} {text : String} {parsed : Checked (isTrimmedText high)}
    (done : parseText high text = .ok parsed) : parsed.text = trim text := by
  unfold parseText check at done
  split at done
  · rename_i value checked
    split at checked
    · cases checked
      cases done
      rfl
    · cases checked
  · cases done

variable [ByteDigests] {publisher : EvidencePublisher} {digest : ArtifactDigest} {provider : PublicationProvider}
  {existing initial record : PublicationAttemptRecord} {created : Bool} {history : Calls} {key : String}

structure NewAttempt (publisher : EvidencePublisher) (key : String) (digest : ArtifactDigest)
    (provider : PublicationProvider) (record : PublicationAttemptRecord) : Prop where
  attemptId : record.attemptId = deterministicAttemptId (providerIdempotencyKey key provider) provider
  idempotencyKey : record.idempotencyKey.text = trim (providerIdempotencyKey key provider)
  providerLabel : record.providerLabel = publisher.providerLabel provider
  configurationDigest : record.configurationDigest = publicationConfigurationDigest publisher.configuration
  configuredNetwork : record.configuredNetwork = publisher.configuredNetwork provider
  configuredBucket : record.configuredBucket = publisher.configuredBucket provider
  provider : record.provider = provider
  artifactVersion : record.artifactVersion = digest.artifact.version
  sha256Digest : record.sha256Digest = digest.sha256Digest
  keccak256Digest : record.keccak256Digest = digest.keccak256Digest
  sizeBytes : record.sizeBytes = digest.sizeBytes
  state : record.state = .pending
  revision : record.revision = 0
  leaseOwner : record.leaseOwner = none
  leaseExpiresAt : record.leaseExpiresAt = none
  locator : record.locator = none
  lastErrorCode : record.lastErrorCode = none
  retryable : record.retryable = false

structure Publishable (publisher : EvidencePublisher) (key : String) (digest : ArtifactDigest)
    (provider : PublicationProvider) : Prop where
  environment : digest.artifact.environment = publisher.configuration.environment
  objectName : ∃ name, deterministicObjectName digest.artifact = .ok name ∧ ∃ checked, assertImmutableObjectName name = .ok checked
  idempotencyKey : ∃ checked, parseText 256 (providerIdempotencyKey key provider) = .ok checked

def Stands (publisher : EvidencePublisher) (digest : ArtifactDigest) (provider : PublicationProvider) (history : Calls) :
    Prop :=
  ∀ candidate existing created, ⟨.createOrGet candidate, (existing, created)⟩ ∈ history →
    ∀ attemptId leaseToken now durationMs initial,
      ⟨.acquireLease attemptId leaseToken now durationMs, (true, some initial)⟩ ∈ history →
      Continues publisher digest provider existing created initial

def Finishes (publisher : EvidencePublisher) (digest : ArtifactDigest) (provider : PublicationProvider) (history : Calls) :
    Prop :=
  AllAccepted history → NoneEscapes history → Stands publisher digest provider history →
    ∃ prior, held history = some prior ∧ prior.state ∈ terminalStates

omit [ByteDigests] in
theorem Finishes.clock (finishes : Finishes publisher digest provider history) (time : Int) :
    Finishes publisher digest provider (history ++ [⟨.clock, time⟩]) := by
  have grows : ∀ entry ∈ history, entry ∈ history ++ [⟨.clock, time⟩] := fun _ member => List.mem_append_left _ member
  intro accepted calm stands
  rw [held_next]
  refine finishes (fun entry member => accepted entry (grows entry member)) (fun entry member => calm entry (grows entry member)) ?_
  exact fun candidate existing created read attemptId leaseToken now durationMs initial leased =>
    stands candidate existing created (grows _ read) attemptId leaseToken now durationMs initial (grows _ leased)

def CallGuard (publisher : EvidencePublisher) (key : String) (digest : ArtifactDigest) (provider : PublicationProvider)
    (history : Calls) : PublisherCall → Prop
  | .createOrGet record =>
    (∀ entry ∈ history, ∃ time, entry = ⟨.clock, time⟩) ∧ NewAttempt publisher key digest provider record
  | .randomUUID => ∀ entry ∈ history, drawn entry = none
  | .acquireLease attemptId leaseToken _ _ => ReadOwn publisher digest provider attemptId history ∧
    ⟨.randomUUID, leaseToken⟩ ∈ history ∧ ∀ entry ∈ history, ∀ record, ¬Grants record entry
  | .releaseLease attemptId leaseToken _ => ReadOwn publisher digest provider attemptId history ∧
    ⟨.randomUUID, leaseToken⟩ ∈ history ∧ Finishes publisher digest provider history
  | .findByAttemptId attemptId => ReadOwn publisher digest provider attemptId history
  | call => Guard publisher digest provider history call

theorem Guard.call {call : PublisherCall} (guarded : Guard publisher digest provider history call) :
    CallGuard publisher key digest provider history call := by
  cases call with
  | createOrGet | randomUUID | acquireLease | releaseLease | findByAttemptId => exact guarded.elim
  | _ => exact guarded

theorem newRecord_keeps {state : PublicationAttemptState} {guard : Calls → PublisherCall → Prop}
    {post : Except PublicationFailure PublicationAttemptRecord → Calls → Prop} (free : guard history .clock)
    (failed : ∀ error time, ¬Publishable publisher key digest provider → post (.error error) (history ++ [⟨.clock, time⟩]))
    (made : ∀ record time, (state = .pending → NewAttempt publisher key digest provider record) →
      post (.ok record) (history ++ [⟨.clock, time⟩])) :
    Keeps guard post (publisher.newRecord key digest provider state).run history := by
  unfold EvidencePublisher.newRecord
  refine .ask_bind free fun time => ?_
  refine keeps_lift_bind (fun error refused => ?_) fun _ environment => ?_
  · refine failed error time fun publishable => ?_
    rw [refuseIf, if_neg (not_not_intro publishable.environment)] at refused
    cases refused
  · refine keeps_lift_bind (fun error refused => ?_) fun name named => ?_
    · refine failed error time fun publishable => ?_
      obtain ⟨name, named, _⟩ := publishable.objectName
      cases named.symm.trans refused
    · refine keeps_lift_bind (fun error refused => ?_) fun checked immutable => ?_
      · refine failed error time fun publishable => ?_
        obtain ⟨other, same, checked, immutable⟩ := publishable.objectName
        cases named.symm.trans same
        cases immutable.symm.trans refused
      · refine keeps_lift_bind (fun error refused => ?_) fun recordKey parsed => ?_
        · refine failed error time fun publishable => ?_
          obtain ⟨_, same⟩ := publishable.idempotencyKey
          cases same.symm.trans refused
        · refine keeps_pure (made _ time fun pending => ?_)
          exact {
            attemptId := rfl
            idempotencyKey := parseText_eq_ok parsed
            provider := rfl
            providerLabel := rfl
            configurationDigest := rfl
            configuredNetwork := rfl
            configuredBucket := rfl
            artifactVersion := rfl
            sha256Digest := rfl
            keccak256Digest := rfl
            sizeBytes := rfl
            state := pending
            revision := rfl
            leaseOwner := rfl
            leaseExpiresAt := rfl
            locator := rfl
            lastErrorCode := rfl
            retryable := rfl }

/-- How a call ends: with a record that it was handed, unless something stood against it. -/
structure Answers (publisher : EvidencePublisher) (key : String) (digest : ArtifactDigest) (provider : PublicationProvider)
    (result : Except PublicationFailure PublicationAttemptRecord) (history : Calls) : Prop where
  done : Publishable publisher key digest provider → AllAccepted history → NoneEscapes history →
    Stands publisher digest provider history →
    (∀ candidate existing created, ⟨.createOrGet candidate, (existing, created)⟩ ∈ history →
      Passes publisher digest provider existing ∧ assertDurablePublicationAttempt existing = .ok ()) →
    ∃ record, result = .ok record ∧ ∃ entry ∈ history, Carries record entry

/-- The lease is released in any case, and the outcome is one that was carried before or is read then. -/
theorem conclude_keeps {attemptId leaseToken : String} {ended : Except PublicationFailure EvidencePublisher.Attempted}
    {post : Except PublicationFailure PublicationAttemptRecord → Calls → Prop}
    (own : ReadOwn publisher digest provider attemptId history) (token : ⟨.randomUUID, leaseToken⟩ ∈ history)
    (finishes : Finishes publisher digest provider history)
    (failed : ∀ error after, (∀ entry ∈ history, entry ∈ after) → ended = .error error → post (.error error) after)
    (returned : ∀ value record after, (∀ entry ∈ history, entry ∈ after) → ended = .ok value →
      record = value.carried ∨ (∃ entry ∈ after, Carries record entry) → post (.ok record) after) :
    Keeps (CallGuard publisher key digest provider) post (EvidencePublisher.conclude attemptId leaseToken ended).run
      history := by
  have finish : ∀ {found : Option PublicationAttemptRecord} {after : Calls}, (∀ entry ∈ history, entry ∈ after) →
      (∀ record ∈ found, ∃ entry ∈ after, Carries record entry) →
      Keeps (CallGuard publisher key digest provider) post
        ((liftM ended : Work EvidencePublisher.Attempted) >>= fun attempted => pure (attempted.outcome found)).run after := by
    intro found after grows carried
    refine keeps_lift_bind (fun error same => failed error after grows same) fun value same => ?_
    refine keeps_pure (returned value _ after grows same ?_)
    cases value with
    | returned record => exact .inl rfl
    | finished outcome =>
      cases found with
      | none => exact .inl rfl
      | some record => exact .inr (carried record rfl)
  have still : ∀ {after}, (∀ entry ∈ history, entry ∈ after) → ReadOwn publisher digest provider attemptId after :=
    fun grows => own.imp fun _ read => ⟨grows _ read.1, read.2⟩
  unfold EvidencePublisher.conclude
  refine .ask_bind trivial fun now => ?_
  have kept : ∀ entry ∈ history, entry ∈ history ++ [⟨.clock, now⟩] := fun _ member => List.mem_append_left _ member
  refine .ask_bind ⟨still kept, kept _ token, finishes.clock now⟩ fun released => ?_
  have grows : ∀ entry ∈ history, entry ∈ history ++ [⟨.clock, now⟩] ++ [⟨.releaseLease attemptId leaseToken now, released⟩] :=
    fun _ member => List.mem_append_left _ (kept _ member)
  cases released with
  | some record =>
    refine finish grows fun found same => ?_
    cases same
    exact ⟨_, List.mem_concat_self, rfl⟩
  | none =>
    refine .ask_bind (still grows) fun found => ?_
    refine finish (fun entry member => List.mem_append_left _ (grows entry member)) fun record same => ?_
    cases same
    exact ⟨_, List.mem_concat_self, rfl⟩

namespace PublicationRequest

def Guard (request : PublicationRequest) (history : Calls) (call : PublisherCall) : Prop :=
  call = .clock ∨ (∃ event, call = .appendAudit event) ∨ ∃ artifact, request.artifact = .ok artifact ∧
    CallGuard request.publisher request.idempotencyKey (digestArtifact artifact) request.provider history call

def Enabled (request : PublicationRequest) : Prop := request.provider ∈ request.publisher.configuration.enabledProviders

def Answers (request : PublicationRequest) (result : Except PublicationFailure PublicationAttemptRecord) (history : Calls) :
    Prop :=
  ∀ artifact, request.artifact = .ok artifact → request.Enabled →
    Publication.Answers request.publisher request.idempotencyKey (digestArtifact artifact) request.provider result history

variable {request : PublicationRequest}

theorem appendRefusal_keeps {code : PublicationFailureCode} {message : String}
    {post : Except PublicationFailure Unit → Calls → Prop} (done : ∀ after, post (.ok ()) after) :
    Keeps request.Guard post
      (EvidencePublisher.appendRefusal request.idempotencyKey request.provider code message).run history := by
  unfold EvidencePublisher.appendRefusal
  refine .ask_bind (.inl rfl) fun _ => ?_
  exact .call (.inr (.inl ⟨_, rfl⟩)) fun _ => .done (done _)

end PublicationRequest

variable [UriParser]

theorem lease_keeps {candidate : PublicationAttemptRecord} (read : ⟨.createOrGet candidate, (existing, created)⟩ ∈ history)
    (passes : Passes publisher digest provider existing) (unsettled : ¬EvidencePublisher.Settled existing created)
    (clean : Clean history) (begins : ∀ entry ∈ history, drawn entry = none ∧ ∀ record, ¬Grants record entry) :
    Keeps (CallGuard publisher key digest provider) (Answers publisher key digest provider)
      (publisher.lease existing created digest provider).run history := by
  unfold EvidencePublisher.lease
  refine .ask_bind (fun entry member => (begins entry member).1) fun leaseToken => ?_
  refine .ask_bind trivial fun now => ?_
  have made : Quiet ⟨.randomUUID, leaseToken⟩ := ⟨trivial, id⟩
  have quietly : Quietly history (history ++ [⟨.randomUUID, leaseToken⟩] ++ [⟨.clock, now⟩]) :=
    (Quietly.one made).next (.clock now)
  have token : ⟨.randomUUID, leaseToken⟩ ∈ history ++ [⟨.randomUUID, leaseToken⟩] ++ [⟨.clock, now⟩] :=
    List.mem_append_left _ List.mem_concat_self
  have ungranted : ∀ entry ∈ history ++ [⟨.randomUUID, leaseToken⟩] ++ [⟨.clock, now⟩], ∀ record, ¬Grants record entry := by
    intro entry member
    rcases List.mem_append.mp member with old | new
    · rcases List.mem_append.mp old with old | new
      · exact (begins entry old).2
      · cases List.mem_singleton.mp new
        exact fun _ => id
    · cases List.mem_singleton.mp new
      exact fun _ => id
  generalize history ++ [⟨PublisherCall.randomUUID, leaseToken⟩] ++ [⟨PublisherCall.clock, now⟩] = second at quietly token ungranted ⊢
  have own : ∀ {after}, (∀ entry ∈ second, entry ∈ after) → ReadOwn publisher digest provider existing.attemptId after :=
    fun grows => ⟨_, grows _ (quietly.mem read), candidate, existing, created, rfl, rfl, passes⟩
  refine .ask_bind ⟨own fun _ member => member, token, ungranted⟩ fun answer => ?_
  have unleased : ∀ {after}, (∀ entry ∈ second, entry ∈ after) → Keeps (CallGuard publisher key digest provider)
      (Answers publisher key digest provider)
      (do let found ← Work.ask (.findByAttemptId existing.attemptId); return found.getD existing : Work _).run after := by
    intro after grows
    refine .ask_bind (own grows) fun found => keeps_pure ⟨fun _ _ _ _ _ => ⟨_, rfl, ?_⟩⟩
    cases found with
    | none => exact ⟨_, List.mem_append_left _ (grows _ (quietly.mem read)), rfl⟩
    | some record => exact ⟨_, List.mem_concat_self, rfl⟩
  obtain ⟨acquired, leased⟩ := answer
  cases acquired with
  | false => exact unleased fun _ member => List.mem_append_left _ member
  | true =>
    cases leased with
    | none => exact unleased fun _ member => List.mem_append_left _ member
    | some initial =>
      have acquired : ⟨.acquireLease existing.attemptId leaseToken now publisher.configuration.leaseDurationMs,
          (true, some initial)⟩ ∈ second ++ [⟨.acquireLease existing.attemptId leaseToken now
          publisher.configuration.leaseDurationMs, (true, some initial)⟩] := List.mem_concat_self
      have holds : Holds (second ++ [⟨.acquireLease existing.attemptId leaseToken now
          publisher.configuration.leaseDurationMs, (true, some initial)⟩]) initial :=
        ⟨held_next _ _, fun accepted => accepted _ acquired⟩
      have later : Quietly second (second ++ [⟨.acquireLease existing.attemptId leaseToken now
          publisher.configuration.leaseDurationMs, (true, some initial)⟩]) := .one ⟨trivial, id⟩
      generalize second ++ [⟨.acquireLease existing.attemptId leaseToken now publisher.configuration.leaseDurationMs,
        (true, some initial)⟩] = third at acquired holds later ⊢
      refine .outcome_bind (((publisher.attempt_keeps holds (clean.quietly (quietly.trans later)) ⟨_, _, _, _, acquired⟩
        (later.mem (quietly.mem read)) unsettled).grows).mono (fun _ _ => Guard.call) fun ended after kept => ?_)
      obtain ⟨proceeds, grows⟩ := kept
      have ends : ∀ {more}, (∀ entry ∈ after, entry ∈ more) → AllAccepted more → NoneEscapes more →
          Stands publisher digest provider more → ∃ value, ended = .ok value ∧ value.carried.state ∈ terminalStates := by
        intro more further accepted calm stands
        refine proceeds.done ?_ (fun entry member => accepted entry (further entry member))
          fun entry member => calm entry (further entry member)
        exact stands _ _ _ (further _ (grows _ (later.mem (quietly.mem read)))) _ _ _ _ _ (further _ (grows _ acquired))
      have finishes : Finishes publisher digest provider after := fun accepted calm stands => by
        obtain ⟨value, same, terminal⟩ := ends (fun _ member => member) accepted calm stands
        exact ⟨_, proceeds.returns value same, terminal⟩
      refine conclude_keeps (own fun entry member => grows entry (later.mem member)) (grows _ (later.mem token)) finishes
        (fun error final more same => ?_) fun value record final more same found => ?_
      · refine ⟨fun _ accepted calm stands _ => ?_⟩
        obtain ⟨value, done, _⟩ := ends more accepted calm stands
        cases same.symm.trans done
      · refine ⟨fun _ _ _ _ _ => ⟨record, rfl, ?_⟩⟩
        rcases found with rfl | carried
        · obtain ⟨entry, member, carries⟩ := held_carried (proceeds.returns value same)
          exact ⟨entry, more entry member, carries⟩
        · exact carried

theorem publishProvider_keeps : Keeps (CallGuard publisher key digest provider) (Answers publisher key digest provider)
    (publisher.publishProvider key digest provider).run [] := by
  unfold EvidencePublisher.publishProvider
  refine .except_bind (newRecord_keeps trivial (fun error time invalid => ?_) fun candidate time fresh => ?_)
  · exact ⟨fun publishable => absurd publishable invalid⟩
  · have only : ∀ entry ∈ [] ++ ([⟨.clock, time⟩] : Calls), ∃ time, entry = ⟨.clock, time⟩ := fun entry member =>
      ⟨time, List.mem_singleton.mp member⟩
    refine .ask_bind ⟨only, fresh rfl⟩ fun answer => ?_
    obtain ⟨existing, created⟩ := answer
    have quiet : Quiet ⟨.createOrGet candidate, (existing, created)⟩ := ⟨trivial, id⟩
    have quietly : Quietly [] [⟨.clock, time⟩, ⟨.createOrGet candidate, (existing, created)⟩] :=
      (Quietly.one (.clock time)).next quiet
    have clean := Clean.nil.quietly quietly
    have read : ⟨.createOrGet candidate, (existing, created)⟩ ∈
        ([⟨.clock, time⟩, ⟨.createOrGet candidate, (existing, created)⟩] : Calls) := List.mem_cons_of_mem _ List.mem_cons_self
    show Keeps _ _ _ ([⟨.clock, time⟩, ⟨.createOrGet candidate, (existing, created)⟩] : Calls)
    have begins : ∀ entry ∈ ([⟨.clock, time⟩, ⟨.createOrGet candidate, (existing, created)⟩] : Calls),
        drawn entry = none ∧ ∀ record, ¬Grants record entry :=
      List.forall_mem_cons.mpr ⟨⟨rfl, fun _ => id⟩, List.forall_mem_singleton.mpr ⟨rfl, fun _ => id⟩⟩
    generalize ([⟨.clock, time⟩, ⟨.createOrGet candidate, (existing, created)⟩] : Calls) = second at clean read begins ⊢
    have differs : ∀ {result after}, (∀ entry ∈ second, entry ∈ after) → ¬(Passes publisher digest provider existing ∧
        assertDurablePublicationAttempt existing = .ok ()) → Answers publisher key digest provider result after := by
      intro result after grows refuses
      exact ⟨fun _ _ _ _ passes => absurd (passes _ _ _ (grows _ read)) refuses⟩
    dsimp only
    split
    · rename_i other
      have refuses : ¬(Passes publisher digest provider existing ∧ assertDurablePublicationAttempt existing = .ok ()) :=
        fun passes => other.elim (absurd passes.1.provider) fun rest =>
          rest.elim (absurd passes.1.sha256Digest) (absurd passes.1.keccak256Digest)
      refine .except_bind (newRecord_keeps trivial (fun error time _ => ?_) fun duplicate time _ => ?_)
      · exact differs (fun _ member => List.mem_append_left _ member) refuses
      · refine .ask_bind trivial fun completedAt => ?_
        refine .ask_bind trivial fun updatedAt => keeps_pure (differs (fun _ member => ?_) refuses)
        exact List.mem_append_left _ (List.mem_append_left _ (List.mem_append_left _ member))
    · rename_i same
      obtain ⟨own, rest⟩ := not_or.mp same
      obtain ⟨sha256Digest, keccak256Digest⟩ := not_or.mp rest
      refine keeps_lift_bind (fun error refused => ?_) fun _ configuration => ?_
      · refine differs (fun _ member => member) fun passes => ?_
        cases passes.1.configuration.symm.trans refused
      · refine keeps_lift_bind (fun error refused => ?_) fun _ durable => ?_
        · refine differs (fun _ member => member) fun passes => ?_
          cases passes.2.symm.trans refused
        · split
          · exact keeps_pure ⟨fun _ _ _ _ _ => ⟨existing, rfl, _, read, rfl⟩⟩
          · rename_i unsettled
            exact lease_keeps read ⟨configuration, not_not.mp own, not_not.mp sha256Digest, not_not.mp keccak256Digest⟩
              unsettled clean begins

namespace PublicationRequest

variable {request : PublicationRequest}

theorem publishDigest_keeps {artifact : CanonicalArtifact} (given : request.artifact = .ok artifact) :
    Keeps request.Guard request.Answers
      (request.publisher.publishDigest request.idempotencyKey (digestArtifact artifact) request.provider).run [] := by
  unfold EvidencePublisher.publishDigest
  split
  · rename_i other
    refine .except_bind (appendRefusal_keeps fun after => keeps_throw fun artifact' same _ => ?_)
    cases given.symm.trans same
    exact ⟨fun publishable => absurd publishable.environment other⟩
  · refine publishProvider_keeps.mono (fun _ _ guarded => .inr (.inr ⟨artifact, given, guarded⟩)) ?_
    intro result after answers artifact' same _
    cases given.symm.trans same
    exact answers

theorem handler_keeps (request : PublicationRequest) : Keeps request.Guard request.Answers request.handler [] := by
  unfold handler work
  split
  · unfold EvidencePublisher.publish
    cases given : request.artifact with
    | error error =>
      refine .except_bind (appendRefusal_keeps fun after => keeps_throw fun artifact same => ?_)
      cases given.symm.trans same
    | ok artifact => exact publishDigest_keeps given
  · unfold EvidencePublisher.reconcile
    refine keeps_lift_bind (fun error refused artifact _ enabled => ?_) fun _ _ => ?_
    · have listed : request.provider ∈ request.publisher.configuration.enabledProviders := enabled
      rw [refuseIf, if_neg (not_not_intro listed)] at refused
      cases refused
    · refine keeps_lift_bind (fun error refused artifact same => ?_) fun artifact given => publishDigest_keeps given
      cases refused.symm.trans same

end PublicationRequest

end Bnbera.Publication
