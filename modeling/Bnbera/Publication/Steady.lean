import Bnbera.Publication.Leases

namespace Bnbera.Publication

open Interleaving

section

def needsLease (store : PublicationStore) : Entry → Option (Int × PublicationAttemptRecord)
  | ⟨.acquireLease attemptId _ now _, _⟩ => (store.findByAttemptId attemptId).map (now, ·)
  | ⟨.save record _ _ now, _⟩ => (store.records.get record.idempotencyKey.text).map (now, ·)
  | _ => none

def Unexpired (store : PublicationStore) (entry : Entry) : Prop :=
  ∀ needed ∈ needsLease store entry, ∀ expiry ∈ needed.2.leaseExpiresAt, needed.1 < expiry

instance (store : PublicationStore) (entry : Entry) : Decidable (Unexpired store entry) :=
  inferInstanceAs (Decidable (∀ _ ∈ _, _))

/-- A call that acquires the lease of a final record has read that the attempt had failed, and the record may
be retried still. -/
def Timely (own : Calls) (entry : Entry) : Prop :=
  ∀ initial ∈ acquired entry, initial.state ∈ terminalStates →
    ∀ candidate existing created, ⟨.createOrGet candidate, (existing, created)⟩ ∈ own →
      created = false ∧ existing.state ∈ terminalStates ∧ .retrying ∈ stateTransitions initial.state

def steady : Condition := fun s _ _ entry => ¬Escapes entry ∧ Unexpired s.store entry

def timely : Condition := fun s i request entry => steady s i request entry ∧ Timely (s.own i) entry

section
variable [ByteDigests]

/-- Without an expiry a lease lasts until it is released, and a record is final then. -/
structure Steady (s : PublicationState) : Prop where
  holding : ∀ i prior, held (s.own i) = some prior → s.store.records.get prior.idempotencyKey.text = some prior
  expires : ∀ key stored, s.store.records.get key = some stored → stored.leaseOwner ≠ none → stored.leaseExpiresAt ≠ none
  idle : ∀ key stored, s.store.records.get key = some stored → stored.leaseOwner = none →
    stored.state = .pending ∧ stored.revision = 0 ∨ stored.state ∈ terminalStates
  accepted : ∀ i, AllAccepted (s.own i)
  calm : ∀ i, NoneEscapes (s.own i)
  stands : ∀ logged ∈ s.log, ∀ artifact, logged.request.artifact = .ok artifact →
    Stands logged.request.publisher (digestArtifact artifact) logged.request.provider (s.own logged.thread)

theorem Steady.start : Steady ⟨.empty, [], []⟩ where
  holding := fun _ _ holds => nomatch holds
  expires := fun _ _ found => nomatch found
  idle := fun _ _ found => nomatch found
  accepted := fun _ _ member => (List.not_mem_nil member).elim
  calm := fun _ _ member => (List.not_mem_nil member).elim
  stands := fun _ member => (List.not_mem_nil member).elim

end

variable [ByteDigests] {known : PublicationRequest → Prop} {s : PublicationState} {i j : Nat}
  {request : PublicationRequest} {entry : Entry} {after : PublicationStore} {prior stored current : PublicationAttemptRecord}
  {artifact : CanonicalArtifact}

namespace Steady

theorem unleased (stable : Steady s) (leases : Leases s) (apart : AttemptsApart known) {leaseToken : String} {now : Int}
    {durationMs : Nat} {leased : PublicationAttemptRecord}
    (acts : Acts known timely s i request ⟨.acquireLease current.attemptId leaseToken now durationMs, (true, some leased)⟩ after)
    (found : s.store.records.get request.recordKey = some current)
    (free : ¬PublicationStore.HeldByOther current leaseToken now) : current.leaseOwner = none := by
  obtain ⟨artifact, _, own, token, ungranted⟩ := acts.guarded.works id
  obtain ⟨_, finds, under⟩ := acts.kept.finds_own acts.mine apart own
  cases found.symm.trans under
  cases owner : current.leaseOwner with
  | none => rfl
  | some owned =>
    exfalso
    obtain ⟨expiry, expires⟩ := Option.ne_none_iff_exists'.mp (stable.expires _ _ found (by rw [owner]; exact Option.some_ne_none _))
    have needed : (now, current) ∈ needsLease s.store ⟨.acquireLease current.attemptId leaseToken now durationMs, (true, some leased)⟩ :=
      Option.map_eq_some_iff.mpr ⟨current, finds, rfl⟩
    have later : now < expiry := acts.permitted.1.2 _ needed expiry expires
    have same : owned = leaseToken := by
      by_contra other
      exact free ⟨⟨owned, owner, other⟩, expiry, expires, later⟩
    subst same
    obtain ⟨_, member, grants⟩ := held_granted (leases.owned _ _ _ _ found owner token)
    exact ungranted _ member _ grants

/-- A lease that is acquired is one that the call can go on with. -/
theorem continues (stable : Steady s) (leases : Leases s) (apart : AttemptsApart known) {leaseToken : String} {now : Int}
    {durationMs : Nat}
    (acts : Acts known timely s i request ⟨.acquireLease current.attemptId leaseToken now durationMs,
      (true, some (PublicationStore.leased current leaseToken now durationMs))⟩ after)
    (found : s.store.records.get request.recordKey = some current)
    (free : ¬PublicationStore.HeldByOther current leaseToken now) {candidate existing : PublicationAttemptRecord}
    {created : Bool} (read : ⟨.createOrGet candidate, (existing, created)⟩ ∈ s.own i) :
    Continues request.publisher (digestArtifact artifact) request.provider existing created
      (PublicationStore.leased current leaseToken now durationMs) := by
  have idle := stable.idle _ _ found (stable.unleased leases apart acts found free)
  have timely : current.state ∈ terminalStates → created = false ∧ existing.state ∈ terminalStates ∧
      .retrying ∈ stateTransitions current.state := fun terminal => acts.permitted.2 _ rfl terminal _ _ _ read
  obtain ⟨_, stored, under, _, earlier, equal⟩ := acts.kept.stored_of_carried acts.mine read rfl
  cases found.symm.trans under
  unfold Continues
  split
  · rename_i ended
    rcases idle with ⟨pending, zero⟩ | terminal
    · have same : existing = current := equal (by omega)
      rw [same, pending] at ended
      exact absurd ended.2 (by decide)
    · exact ⟨terminal, .inr (timely terminal).2.2⟩
  · rename_i ended
    rcases idle with ⟨pending, _⟩ | terminal
    · exact .inr (.inl pending)
    · exact absurd ⟨(timely terminal).1, (timely terminal).2.1⟩ ended

theorem saves (stable : Steady s) {record : PublicationAttemptRecord} {expectedRevision : Nat} {leaseToken : String} {now : Int}
    {answer : Except PublicationFailure Unit}
    (acts : Acts known timely s i request ⟨.save record expectedRevision leaseToken now, answer⟩ after)
    (refuses : s.store.Refuses ⟨.save record expectedRevision leaseToken now, answer⟩) : answer = .ok () := by
  cases answer with
  | ok => exact refuses.elim
  | error error =>
    exfalso
    obtain ⟨artifact, _, prior, code, holds, owner, rfl, _, advances⟩ := acts.guarded.works id
    have found := stable.holding i prior holds
    rw [← PublicationStore.identity_key advances.identity] at found
    obtain ⟨expiry, expires⟩ := Option.ne_none_iff_exists'.mp
      (stable.expires _ _ found (by rw [owner]; exact Option.some_ne_none _))
    have needed : (now, prior) ∈ needsLease s.store ⟨.save record prior.revision leaseToken now, .error error⟩ :=
      Option.map_eq_some_iff.mpr ⟨prior, found, rfl⟩
    exact refuses prior found (PublicationStore.assertCurrent_ok advances.identity advances.revision owner
      (advances.leaseOwner.trans owner) ⟨expiry, expires, acts.permitted.1.2 _ needed expiry expires⟩)

theorem finished (stable : Steady s) (leases : Leases s) {leaseToken : String} {now : Int}
    {answer : Option PublicationAttemptRecord}
    (acts : Acts known timely s i request ⟨.releaseLease current.attemptId leaseToken now, answer⟩ after)
    (found : s.store.records.get request.recordKey = some current) (owner : current.leaseOwner = some leaseToken) :
    current.state ∈ terminalStates := by
  obtain ⟨artifact, given, _, token, finishes⟩ := acts.guarded.works id
  obtain ⟨logged, logs, rfl, _⟩ := PublicationState.mem_own.mp token
  have same := acts.mine logged logs rfl
  obtain ⟨prior, holds, terminal⟩ := finishes (stable.accepted _) (stable.calm _)
    (same ▸ stable.stands logged logs artifact (same ▸ given))
  cases (leases.owned _ _ _ _ found owner token).symm.trans holds
  exact terminal

theorem holding_write (stable : Steady s) (acts : Acts known timely s i request entry after) {next : PublicationAttemptRecord}
    (written : after = s.store.write next) (key : next.idempotencyKey.text = request.recordKey)
    (grants : ∀ record, heldAfter (held (s.own i)) entry = some record → record = next)
    (alone : ∀ prior leaseToken, s.store.records.get request.recordKey = some prior → prior.leaseOwner = some leaseToken →
      ⟨.randomUUID, leaseToken⟩ ∈ s.own i) (tokens : Tokens s) :
    ∀ j prior, held ((s.next ⟨i, request, entry⟩ after).own j) = some prior →
      (s.next ⟨i, request, entry⟩ after).store.records.get prior.idempotencyKey.text = some prior := by
  subst written
  intro j prior holds
  by_cases mine : i = j
  · subst mine
    rw [PublicationState.held_next_own] at holds
    rw [grants prior holds]
    exact PublicationStore.write_self
  · rw [PublicationState.held_next_other mine] at holds
    have found := stable.holding j prior holds
    by_cases same : prior.idempotencyKey.text = next.idempotencyKey.text
    · obtain ⟨leaseToken, owner, drew⟩ := tokens.held j prior holds
      rw [same, key] at found
      exact absurd (tokens.apart i j leaseToken (alone prior leaseToken found owner) drew) mine
    · exact (PublicationStore.write_ne same).trans found

theorem holding_next (stable : Steady s) (leases : Leases s) (tokens : Tokens s) (apart : AttemptsApart known)
    (acts : Acts known timely s i request entry after) : ∀ j prior, held ((s.next ⟨i, request, entry⟩ after).own j) = some prior →
      (s.next ⟨i, request, entry⟩ after).store.records.get prior.idempotencyKey.text = some prior := by
  have worked := acts.worked
  cases worked with
  | unchanged same _ ungranted =>
    intro j prior holds
    show after.records.get _ = _
    rw [same]
    by_cases mine : i = j
    · subst mine
      rw [PublicationState.held_next_own] at holds
      exact stable.holding i prior (heldAfter_ungranted ungranted holds)
    · rw [PublicationState.held_next_other mine] at holds
      exact stable.holding j prior holds
  | created makes absent =>
    refine stable.holding_write acts rfl makes.2.idempotencyKey (fun record holds => ?_) (fun _ _ found => ?_) tokens
    · have found := stable.holding i record holds
      rw [acts.held_key holds, absent] at found
      cases found
    · cases absent.symm.trans found
  | leased _ found free =>
    have unowned := stable.unleased leases apart acts found free
    refine stable.holding_write acts rfl (acts.kept.stored _ _ found).1 (fun record holds => (Option.some.inj holds).symm)
      (fun _ _ under owner => ?_) tokens
    cases found.symm.trans under
    cases unowned.symm.trans owner
  | saved _ found holds owner _ _ _ advances =>
    have key := (PublicationStore.identity_key advances.identity)
    refine stable.holding_write acts rfl (key ▸ (acts.kept.stored _ _ found).1) (fun record holds => (Option.some.inj holds).symm)
      (fun _ _ under owns => ?_) tokens
    cases found.symm.trans under
    obtain ⟨leaseToken, leased, drew⟩ := tokens.held i _ holds
    cases leased.symm.trans owns
    exact drew
  | released found owner token =>
    refine stable.holding_write acts rfl (acts.kept.stored _ _ found).1 (fun record holds => nomatch holds)
      (fun _ _ under owns => ?_) tokens
    cases found.symm.trans under
    cases owner.symm.trans owns
    exact token

/-- What a call writes is leased until some time, or final, or new. -/
theorem stored_next (stable : Steady s) (leases : Leases s)
    (acts : Acts known timely s i request entry after) {key : String} {stored : PublicationAttemptRecord}
    (found : (s.next ⟨i, request, entry⟩ after).store.records.get key = some stored) :
    (stored.leaseOwner ≠ none → stored.leaseExpiresAt ≠ none) ∧
      (stored.leaseOwner = none → stored.state = .pending ∧ stored.revision = 0 ∨ stored.state ∈ terminalStates) := by
  have before : ∀ {key}, s.store.records.get key = some stored → (stored.leaseOwner ≠ none → stored.leaseExpiresAt ≠ none) ∧
      (stored.leaseOwner = none → stored.state = .pending ∧ stored.revision = 0 ∨ stored.state ∈ terminalStates) :=
    fun old => ⟨stable.expires _ _ old, stable.idle _ _ old⟩
  have worked := acts.worked
  cases worked with
  | unchanged same => exact before (same ▸ found)
  | created makes =>
    rcases PublicationStore.get_write found with ⟨_, rfl⟩ | ⟨_, old⟩
    · exact ⟨fun owned => absurd makes.2.leaseOwner owned, fun _ => .inl ⟨makes.2.state, makes.2.revision⟩⟩
    · exact before old
  | leased =>
    rcases PublicationStore.get_write found with ⟨_, rfl⟩ | ⟨_, old⟩
    · exact ⟨fun _ => Option.some_ne_none _, fun unowned => nomatch unowned⟩
    · exact before old
  | saved _ under _ owner _ _ _ advances =>
    rcases PublicationStore.get_write found with ⟨_, rfl⟩ | ⟨_, old⟩
    · rw [advances.leaseOwner, advances.leaseExpiresAt]
      refine ⟨fun owned => stable.expires _ _ under owned, fun unowned => ?_⟩
      cases owner.symm.trans unowned
    · exact before old
  | released under owner =>
    have final := stable.finished leases acts under owner
    rcases PublicationStore.get_write found with ⟨_, rfl⟩ | ⟨_, old⟩
    · exact ⟨fun owned => absurd rfl owned, fun _ => .inr final⟩
    · exact before old

theorem accepted_next (stable : Steady s) (acts : Acts known timely s i request entry after) : Accepted entry := by
  have worked := acts.worked
  cases worked with
  | unchanged _ _ ungranted refuses =>
    unfold Accepted
    split
    · exact absurd rfl (ungranted _)
    · exact stable.saves acts refuses
    · trivial
  | created => trivial
  | leased => exact Option.some_ne_none _
  | saved => rfl
  | released => trivial

theorem stands_next (stable : Steady s) (leases : Leases s) (apart : AttemptsApart known)
    (acts : Acts known timely s i request entry after) (given : request.artifact = .ok artifact) :
    Stands request.publisher (digestArtifact artifact) request.provider ((s.next ⟨i, request, entry⟩ after).own i) := by
  intro candidate existing created read attemptId leaseToken now durationMs initial leased
  rcases PublicationState.mem_own_next.mp read with old | ⟨_, rfl⟩
  · rcases PublicationState.mem_own_next.mp leased with also | ⟨_, rfl⟩
    · obtain ⟨logged, logs, rfl, _⟩ := PublicationState.mem_own.mp old
      have same := acts.mine logged logs rfl
      exact (same ▸ stable.stands logged logs artifact (same ▸ given)) _ _ _ old _ _ _ _ _ also
    · have worked := acts.worked
      cases worked with
      | unchanged _ _ ungranted => exact absurd rfl (ungranted _)
      | leased _ found free => exact stable.continues leases apart acts found free old
  · rcases PublicationState.mem_own_next.mp leased with also | ⟨_, other⟩
    · obtain ⟨_, _, only, _⟩ := acts.guarded.works id
      obtain ⟨_, same⟩ := only _ also
      cases same
    · cases other

theorem step (stable : Steady s) (leases : Leases s) (tokens : Tokens s) (apart : AttemptsApart known)
    (acts : Acts known timely s i request entry after) : Steady (s.next ⟨i, request, entry⟩ after) := by
  refine ⟨stable.holding_next leases tokens apart acts, fun _ _ found => (stable.stored_next leases acts found).1,
    fun _ _ found => (stable.stored_next leases acts found).2, fun j found member => ?_, fun j found member => ?_,
    fun logged member artifact given => ?_⟩
  · rcases PublicationState.mem_own_next.mp member with old | ⟨_, rfl⟩
    · exact stable.accepted j found old
    · exact stable.accepted_next acts
  · rcases PublicationState.mem_own_next.mp member with old | ⟨_, rfl⟩
    · exact stable.calm j found old
    · exact acts.permitted.1.1
  · by_cases mine : i = logged.thread
    · have same : logged.request = request := by
        rcases List.mem_append.mp member with old | new
        · exact acts.mine logged old mine.symm
        · cases List.mem_singleton.mp new
          rfl
      rw [same] at given ⊢
      exact mine ▸ stable.stands_next leases apart acts given
    · rw [PublicationState.own_next_other mine]
      rcases List.mem_append.mp member with old | new
      · exact stable.stands logged old artifact given
      · cases List.mem_singleton.mp new
        exact absurd rfl mine

end Steady

end

theorem trim_concat {text : String} {front : List Char} {last : Char} (ends : text.toList = front ++ [last])
    (kept : isTrimmed last = false) : (trim text).toList.getLast? = some last := by
  have rest : ∃ start, (front ++ [last]).dropWhile isTrimmed = start ++ [last] := by
    rw [List.dropWhile_append]
    split
    · exact ⟨[], by rw [List.dropWhile_cons_of_neg (by rw [kept]; exact Bool.false_ne_true)]; rfl⟩
    · exact ⟨_, rfl⟩
  obtain ⟨start, dropped⟩ := rest
  rw [trim_eq_ofList, ends, dropped, List.rdropWhile_concat_neg _ _ _ (by rw [kept]; exact Bool.false_ne_true),
    String.toList_ofList, List.getLast?_concat]

theorem recordKey_provider {request other : PublicationRequest} (same : request.recordKey = other.recordKey) :
    request.provider = other.provider := by
  have last : ∀ request : PublicationRequest, request.recordKey.toList.getLast? =
      some (if request.provider = .ipfs then 's' else 'd') := by
    intro request
    unfold PublicationRequest.recordKey providerIdempotencyKey
    cases request.provider with
    | ipfs => exact @trim_concat _ (request.idempotencyKey ++ ":ipf").toList _ (by simp [PublicationProvider.text]) (by decide)
    | greenfield =>
      exact @trim_concat _ (request.idempotencyKey ++ ":greenfiel").toList _ (by simp [PublicationProvider.text]) (by decide)
  have letters := last request
  rw [same, last other] at letters
  cases first : request.provider with
  | ipfs =>
    cases second : other.provider with
    | ipfs => rfl
    | greenfield =>
      rw [first, second] at letters
      cases letters
  | greenfield =>
    cases second : other.provider with
    | ipfs =>
      rw [first, second] at letters
      cases letters
    | greenfield => rfl

def OnePublication (configuration : PublicationConfiguration) (artifact : CanonicalArtifact) (key : String)
    (request : PublicationRequest) : Prop :=
  request.publisher.configuration = configuration ∧ request.artifact = .ok artifact ∧ request.idempotencyKey = key ∧
    request.Enabled

section
variable [ByteDigests] {configuration : PublicationConfiguration} {artifact : CanonicalArtifact} {key : String}
  {record : PublicationAttemptRecord} {request : PublicationRequest}

theorem OnePublication.contentsApart : ContentsApart (OnePublication configuration artifact key) := by
  rintro _ _ left right ⟨_, given, _⟩ ⟨_, also, _⟩ isLeft isRight _ _
  cases given.symm.trans isLeft
  cases also.symm.trans isRight
  rfl

theorem OnePublication.passes (one : OnePublication configuration artifact key request)
    (origin : Originates (OnePublication configuration artifact key) record)
    (same : record.idempotencyKey.text = request.recordKey) :
    Passes request.publisher (digestArtifact artifact) request.provider record := by
  obtain ⟨other, content, made, ⟨configured, given, _⟩, ⟨also, makes⟩, identity⟩ := origin
  cases given.symm.trans also
  have provider : other.provider = request.provider := by
    refine recordKey_provider (Eq.trans ?_ same)
    rw [PublicationStore.identity_key identity]
    exact makes.idempotencyKey.symm
  have alike : other.publisher.configuration = request.publisher.configuration := configured.trans one.1.symm
  refine Passes.of_identity ⟨?_, makes.provider.trans provider, makes.sha256Digest, makes.keccak256Digest⟩ identity
  refine refuseIf_eq_ok.mpr ?_
  have label := makes.providerLabel
  have network := makes.configuredNetwork
  have bucket := makes.configuredBucket
  rw [provider] at label network bucket
  rw [makes.configurationDigest, label, network, bucket, alike]
  unfold EvidencePublisher.providerLabel EvidencePublisher.configuredNetwork EvidencePublisher.configuredBucket
  rw [alike]
  simp only [ne_eq, not_true_eq_false, or_self, not_false_eq_true]

end

namespace Publishers

section
variable [UriParser] [ByteDigests] {known : PublicationRequest → Prop} {permits : Condition}
  {configuration : PublicationConfiguration} {artifact : CanonicalArtifact} {key : String} {pool : Publishers}

theorem Reach.stable (reach : pool.Reach known timely) (apart : AttemptsApart known) : Steady pool.state :=
  reach.holds apart Steady.start
    (fun _ _ stable => ⟨stable.holding, stable.expires, stable.idle, stable.accepted, stable.calm, stable.stands⟩)
    fun _ _ _ _ _ previous acts stable => stable.step (previous.leases apart) (previous.tokens apart) apart acts

end

def offGreenfield : Entry → Bool
  | ⟨.inspectObject _, _⟩ | ⟨.createReturned, _⟩ | ⟨.waitForSeal _ _, _⟩ => false
  | _ => true

def unexpiredIpfs : Condition := fun s _ _ entry => offGreenfield entry = true ∧ Unexpired s.store entry

instance (s : PublicationState) (i : Nat) (request : PublicationRequest) (entry : Entry) :
    Decidable (unexpiredIpfs s i request entry) := inferInstanceAs (Decidable (_ ∧ _))

theorem unexpiredIpfs_steady (s : PublicationState) (i : Nat) (request : PublicationRequest) (entry : Entry)
    (checked : unexpiredIpfs s i request entry) : steady s i request entry := by
  refine ⟨fun escapes => ?_, checked.2⟩
  have off := checked.1
  unfold Escapes at escapes
  split at escapes
  · cases off
  · cases off
  · cases off
  · exact escapes

def unfinishedIpfs : Condition := fun s i request entry =>
  unexpiredIpfs s i request entry ∧ ∀ initial ∈ acquired entry, initial.state ∉ terminalStates

instance (s : PublicationState) (i : Nat) (request : PublicationRequest) (entry : Entry) :
    Decidable (unfinishedIpfs s i request entry) := inferInstanceAs (Decidable (_ ∧ _))

theorem unfinishedIpfs_timely (s : PublicationState) (i : Nat) (request : PublicationRequest) (entry : Entry)
    (checked : unfinishedIpfs s i request entry) : timely s i request entry :=
  ⟨unexpiredIpfs_steady s i request entry checked.1,
    fun initial leased terminal => absurd terminal (checked.2 initial leased)⟩

def ipfsPublisher : EvidencePublisher := { samplePublisher with
  configuration := { sampleConfiguration with enabledProviders := [.ipfs] } }

def ipfsRequest : PublicationRequest := { sampleRequest .ipfs with publisher := ipfsPublisher }

section
attribute [local instance] plainUris constantDigests

abbrev IpfsPublication : PublicationRequest → Prop := OnePublication ipfsPublisher.configuration sampleArtifact "bundle-1"

theorem ipfsRequest_known : IpfsPublication ipfsRequest := ⟨rfl, rfl, rfl, List.mem_cons_self⟩

theorem IpfsPublication.provider {request : PublicationRequest} (one : IpfsPublication request) : request.provider = .ipfs := by
  obtain ⟨configured, _, _, enabled⟩ := one
  rw [PublicationRequest.Enabled, configured] at enabled
  exact List.mem_singleton.mp enabled

/-- Two publishes of one request, of which the second reads the new attempt, and leases it after the first has ended. -/
def lateRun : Option Publishers :=
  played unexpiredIpfs (workerAnswers sampleDigest.canonicalBytes)
    ([.start ipfsRequest, .start ipfsRequest] ++ List.replicate 2 (.call 0) ++ List.replicate 2 (.call 1) ++
      List.replicate 27 (.call 0) ++ List.replicate 6 (.call 1))

def aloneRun : Option Publishers :=
  played unfinishedIpfs (workerAnswers sampleDigest.canonicalBytes) (.start ipfsRequest :: List.replicate 29 (.call 0))

end

end Publishers

end Bnbera.Publication
