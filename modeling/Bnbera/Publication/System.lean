import Bnbera.Publication.Handling

namespace Bnbera.Publication

open Interleaving

/-- A call that was answered, with the thread that made it and its request. -/
structure Logged where
  thread : Nat
  request : PublicationRequest
  entry : Entry

/-- The store that all calls share, the calls that were answered, and the threads that died. -/
structure PublicationState where
  store : PublicationStore
  log : List Logged
  dead : List Nat

def PublicationState.calls (s : PublicationState) : List (Nat × Entry) := s.log.map fun logged => (logged.thread, logged.entry)

def PublicationState.own (s : PublicationState) (i : Nat) : Calls := System.ownCalls s.calls i

def PublicationStore.saving (store : PublicationStore) (record : PublicationAttemptRecord) (expectedRevision : Nat)
    (leaseToken : String) (now : Int) : Except PublicationFailure Unit × PublicationStore :=
  match store.save record expectedRevision leaseToken now with
  | .ok saved => (.ok (), saved)
  | .error error => (.error error, store)

def PublicationStore.exec : Semantics PublisherCall PublisherCall.Answer PublicationStore
  | .createOrGet record, before, answer, after => (answer.1, answer.2, after) = before.createOrGet record
  | .acquireLease attemptId leaseToken now durationMs, before, answer, after =>
    (answer, after) = before.acquireLease attemptId leaseToken now durationMs
  | .findByAttemptId attemptId, before, answer, after => answer = before.findByAttemptId attemptId ∧ after = before
  | .save record expectedRevision leaseToken now, before, answer, after =>
    (answer, after) = before.saving record expectedRevision leaseToken now
  | .releaseLease attemptId leaseToken now, before, answer, after =>
    (answer, after) = before.releaseLease attemptId leaseToken now
  | .appendAudit event, before, _, after => after = { before with audits := before.audits ++ [event] }
  | _, before, _, after => after = before

def Fresh (log : List Logged) (entry : Entry) : Prop := ∀ leaseToken ∈ drawn entry, ∀ logged ∈ log, drawn logged.entry ≠ some leaseToken

instance (log : List Logged) (entry : Entry) : Decidable (Fresh log entry) := inferInstanceAs (Decidable (∀ _ ∈ _, _))

abbrev Condition := PublicationState → Nat → PublicationRequest → Entry → Prop

/-- The publishers over one store. Their clocks and adapters answer anything; a thread that died makes no
further call. A publish is for an enabled provider. -/
def publicationSystem [UriParser] [ByteDigests] (known : PublicationRequest → Prop) (permits : Condition) :
    System PublicationRequest PublisherCall PublisherCall.Answer (Except PublicationFailure PublicationAttemptRecord)
      PublicationState where
  handler := PublicationRequest.handler
  exec i request op before answer after := i ∉ before.dead ∧ Fresh before.log ⟨op, answer⟩ ∧
    permits before i request ⟨op, answer⟩ ∧
    ∃ store, before.store.exec op answer store ∧ after = ⟨store, before.log ++ [⟨i, request, ⟨op, answer⟩⟩], before.dead⟩
  environment before after := ∃ i, after = { before with dead := i :: before.dead }
  mayStart _ request := known request ∧ (request.method = .publish → request.Enabled)

def PublicationState.Initial (s : PublicationState) : Prop := s = ⟨.empty, [], []⟩

namespace PublicationStore

def Shows (store : PublicationStore) (record : PublicationAttemptRecord) : Entry → Prop
  | ⟨.createOrGet candidate, _⟩ => store.records.get candidate.idempotencyKey.text = some record
  | ⟨.findByAttemptId attemptId, _⟩ => store.findByAttemptId attemptId = some record
  | _ => False

def Refuses (store : PublicationStore) : Entry → Prop
  | ⟨.save record expectedRevision leaseToken now, .error _⟩ =>
    ∀ existing, store.records.get record.idempotencyKey.text = some existing →
      assertCurrent existing record expectedRevision leaseToken now ≠ .ok ()
  | ⟨.releaseLease attemptId leaseToken _, none⟩ =>
    ∀ current, store.findByAttemptId attemptId = some current → current.leaseOwner ≠ some leaseToken
  | ⟨.save _ _ _ _, .ok ()⟩ | ⟨.releaseLease _ _ _, some _⟩ => False
  | _ => True

/-- The ways an answered call leaves the records: unchanged, or with one of them written. -/
inductive Moved (store : PublicationStore) : Entry → PublicationStore → Prop
  | unchanged {entry after} : after.records = store.records →
      (∀ record, Carries record entry → store.Shows record entry) → store.Refuses entry → Moved store entry after
  | created {record} : store.records.get record.idempotencyKey.text = none →
      Moved store ⟨.createOrGet record, (record, true)⟩ (store.write record)
  | leased {attemptId leaseToken now durationMs current} : store.findByAttemptId attemptId = some current →
      ¬HeldByOther current leaseToken now →
      Moved store ⟨.acquireLease attemptId leaseToken now durationMs, (true, some (leased current leaseToken now durationMs))⟩
        (store.write (leased current leaseToken now durationMs))
  | saved {record expectedRevision leaseToken now existing} :
      store.records.get record.idempotencyKey.text = some existing →
      assertCurrent existing record expectedRevision leaseToken now = .ok () →
      Moved store ⟨.save record expectedRevision leaseToken now, .ok ()⟩ (store.write record)
  | released {attemptId leaseToken now current} : store.findByAttemptId attemptId = some current →
      current.leaseOwner = some leaseToken →
      Moved store ⟨.releaseLease attemptId leaseToken now, some (released current now)⟩ (store.write (released current now))

variable {store after : PublicationStore} {op : PublisherCall} {answer : op.Answer}

theorem createOrGet_moved {record : PublicationAttemptRecord} {answer : PublicationAttemptRecord × Bool}
    (executed : store.exec (.createOrGet record) answer after) : store.Moved ⟨.createOrGet record, answer⟩ after := by
  obtain ⟨existing, created⟩ := answer
  change (existing, created, after) = store.createOrGet record at executed
  unfold createOrGet at executed
  split at executed
  · rename_i found
    cases executed
    exact .unchanged rfl (fun _ carries => carries ▸ found) trivial
  · rename_i absent
    cases executed
    exact .created absent

theorem acquireLease_moved {attemptId leaseToken : String} {now : Int} {durationMs : Nat}
    {answer : Bool × Option PublicationAttemptRecord}
    (executed : store.exec (.acquireLease attemptId leaseToken now durationMs) answer after) :
    store.Moved ⟨.acquireLease attemptId leaseToken now durationMs, answer⟩ after := by
  change (answer, after) = store.acquireLease attemptId leaseToken now durationMs at executed
  unfold acquireLease at executed
  split at executed
  · cases executed
    exact .unchanged rfl (fun _ carries => carries.elim) trivial
  · rename_i current found
    split at executed
    · cases executed
      exact .unchanged rfl (fun _ carries => carries.elim) trivial
    · rename_i free
      cases executed
      exact .leased found free

theorem save_moved {record : PublicationAttemptRecord} {expectedRevision : Nat} {leaseToken : String} {now : Int}
    {answer : Except PublicationFailure Unit}
    (executed : store.exec (.save record expectedRevision leaseToken now) answer after) :
    store.Moved ⟨.save record expectedRevision leaseToken now, answer⟩ after := by
  change (answer, after) = store.saving record expectedRevision leaseToken now at executed
  unfold saving save at executed
  cases found : store.records.get record.idempotencyKey.text with
  | none =>
    simp only [found] at executed
    cases executed
    exact .unchanged rfl (fun _ carries => carries.elim) fun _ stored => by cases found.symm.trans stored
  | some existing =>
    simp only [found] at executed
    cases current : assertCurrent existing record expectedRevision leaseToken now with
    | error error =>
      simp only [current] at executed
      cases executed
      refine .unchanged rfl (fun _ carries => carries.elim) fun _ stored accepted => ?_
      cases found.symm.trans stored
      cases current.symm.trans accepted
    | ok =>
      simp only [current] at executed
      cases executed
      exact .saved found current

theorem releaseLease_moved {attemptId leaseToken : String} {now : Int} {answer : Option PublicationAttemptRecord}
    (executed : store.exec (.releaseLease attemptId leaseToken now) answer after) :
    store.Moved ⟨.releaseLease attemptId leaseToken now, answer⟩ after := by
  change (answer, after) = store.releaseLease attemptId leaseToken now at executed
  unfold releaseLease at executed
  split at executed
  · rename_i absent
    cases executed
    exact .unchanged rfl (fun _ carries => carries.elim) fun _ found => nomatch absent.symm.trans found
  · rename_i current found
    split at executed
    · rename_i owned
      cases executed
      exact .released found owned
    · rename_i other
      cases executed
      refine .unchanged rfl (fun _ carries => carries.elim) fun _ same => ?_
      cases found.symm.trans same
      exact other

theorem findByAttemptId_moved {attemptId : String} {answer : Option PublicationAttemptRecord}
    (executed : store.exec (.findByAttemptId attemptId) answer after) :
    store.Moved ⟨.findByAttemptId attemptId, answer⟩ after := by
  obtain ⟨same, rfl⟩ := executed
  refine .unchanged rfl (fun record carries => ?_) trivial
  cases answer with
  | none => exact carries.elim
  | some found => exact same.symm.trans (congrArg some carries)

theorem exec_moved (executed : store.exec op answer after) : store.Moved ⟨op, answer⟩ after := by
  cases op with
  | createOrGet => exact createOrGet_moved executed
  | acquireLease => exact acquireLease_moved executed
  | findByAttemptId => exact findByAttemptId_moved executed
  | save => exact save_moved executed
  | releaseLease => exact releaseLease_moved executed
  | _ =>
    cases executed
    exact .unchanged rfl (fun _ carries => carries.elim) trivial

theorem assertCurrent_eq_ok {existing record : PublicationAttemptRecord} {expectedRevision : Nat} {leaseToken : String}
    {now : Int} (done : assertCurrent existing record expectedRevision leaseToken now = .ok ()) :
    existing.revision = expectedRevision ∧ record.revision = expectedRevision + 1 ∧
      existing.leaseOwner = some leaseToken ∧ ∃ expiry ∈ existing.leaseExpiresAt, now < expiry := by
  unfold assertCurrent at done
  obtain ⟨_, _, rest⟩ := bind_eq_ok.mp done
  obtain ⟨_, revision, rest⟩ := bind_eq_ok.mp rest
  have lease := refuseIf_eq_ok.mp rest
  have revisions := refuseIf_eq_ok.mp revision
  rw [not_or, not_not, not_not] at revisions
  rw [not_or, not_or, not_not, not_not] at lease
  obtain ⟨owner, _, alive⟩ := lease
  refine ⟨revisions.1, revisions.2, owner, ?_⟩
  cases expires : existing.leaseExpiresAt with
  | none => exact absurd (by rw [expires]; rfl) alive
  | some expiry =>
    refine ⟨expiry, rfl, Int.not_le.mp fun expired => alive ?_⟩
    rw [expires]
    exact decide_eq_true expired

theorem assertCurrent_ok {existing record : PublicationAttemptRecord} {leaseToken : String} {now : Int}
    (identity : record.identity = existing.identity) (revision : record.revision = existing.revision + 1)
    (owner : existing.leaseOwner = some leaseToken) (owns : record.leaseOwner = some leaseToken)
    (alive : ∃ expiry ∈ existing.leaseExpiresAt, now < expiry) :
    assertCurrent existing record existing.revision leaseToken now = .ok () := by
  have sha256Digest : record.sha256Digest = existing.sha256Digest := (congrArg PublicationAttemptRecord.sha256Digest identity :)
  have keccak256Digest : record.keccak256Digest = existing.keccak256Digest :=
    (congrArg PublicationAttemptRecord.keccak256Digest identity :)
  obtain ⟨expiry, expires, later⟩ := alive
  refine bind_eq_ok.mpr ⟨(), refuseIf_eq_ok.mpr ?_, bind_eq_ok.mpr ⟨(), refuseIf_eq_ok.mpr ?_, refuseIf_eq_ok.mpr ?_⟩⟩
  · rw [sha256Digest, keccak256Digest]
    exact fun differs => differs.elim (absurd rfl) (absurd rfl)
  · exact fun stale => stale.elim (absurd rfl) (absurd revision)
  · rw [Option.mem_def.mp expires]
    rintro (other | other | expired)
    · exact other owner
    · exact other owns
    · exact Int.not_le.mpr later (of_decide_eq_true expired)

def Current (store : PublicationStore) (record : PublicationAttemptRecord) : Prop :=
  ∃ stored, store.records.get record.idempotencyKey.text = some stored ∧ record.identity = stored.identity ∧
    record.revision ≤ stored.revision ∧ (record.revision = stored.revision → record = stored)

variable {record prior next : PublicationAttemptRecord}

theorem Current.of_stored (stored : store.records.get record.idempotencyKey.text = some record) : store.Current record :=
  ⟨record, stored, rfl, Nat.le_refl _, fun _ => rfl⟩

theorem Current.of_records (current : store.Current record) (same : after.records = store.records) :
    after.Current record := by
  obtain ⟨stored, found, rest⟩ := current
  exact ⟨stored, same ▸ found, rest⟩

theorem identity_key (same : record.identity = next.identity) : record.idempotencyKey = next.idempotencyKey := by
  have keys := congrArg PublicationAttemptRecord.idempotencyKey same
  exact keys

theorem identity_attemptId (same : record.identity = next.identity) : record.attemptId = next.attemptId := by
  have ids := congrArg PublicationAttemptRecord.attemptId same
  exact ids

theorem write_self : (store.write record).records.get record.idempotencyKey.text = some record :=
  OrderedMap.get_set_self

theorem write_ne {key : String} (apart : key ≠ record.idempotencyKey.text) :
    (store.write record).records.get key = store.records.get key :=
  OrderedMap.get_set_ne apart

theorem get_write {key : String} {found : PublicationAttemptRecord} (stored : (store.write record).records.get key = some found) :
    key = record.idempotencyKey.text ∧ found = record ∨
      key ≠ record.idempotencyKey.text ∧ store.records.get key = some found := by
  by_cases mine : key = record.idempotencyKey.text
  · rw [mine] at stored
    exact .inl ⟨mine, Option.some.inj (stored.symm.trans write_self)⟩
  · rw [write_ne mine] at stored
    exact .inr ⟨mine, stored⟩

theorem Current.write (current : store.Current record) (found : store.records.get next.idempotencyKey.text = some prior)
    (same : next.identity = prior.identity) (newer : next.revision = prior.revision + 1) :
    (store.write next).Current record := by
  obtain ⟨stored, at_, identity, earlier, equal⟩ := current
  by_cases mine : record.idempotencyKey.text = next.idempotencyKey.text
  · rw [mine] at at_
    cases at_.symm.trans found
    refine ⟨next, mine ▸ write_self, identity.trans same.symm, by omega, fun now => ?_⟩
    omega
  · exact ⟨stored, (OrderedMap.get_set_ne mine).trans at_, identity, earlier, equal⟩

theorem Current.create (current : store.Current record) (absent : store.records.get next.idempotencyKey.text = none) :
    (store.write next).Current record := by
  obtain ⟨stored, found, rest⟩ := current
  have other : record.idempotencyKey.text ≠ next.idempotencyKey.text := by
    intro mine
    rw [mine] at found
    cases found.symm.trans absent
  exact ⟨stored, (OrderedMap.get_set_ne other).trans found, rest⟩

end PublicationStore

def PublicationRequest.recordKey (request : PublicationRequest) : String :=
  trim (providerIdempotencyKey request.idempotencyKey request.provider)

section
variable [ByteDigests]

def PublicationRequest.attemptId (request : PublicationRequest) : String :=
  deterministicAttemptId (providerIdempotencyKey request.idempotencyKey request.provider) request.provider

def MadeBy (request : PublicationRequest) (artifact : CanonicalArtifact) (record : PublicationAttemptRecord) : Prop :=
  request.artifact = .ok artifact ∧
    NewAttempt request.publisher request.idempotencyKey (digestArtifact artifact) request.provider record

def Originates (known : PublicationRequest → Prop) (record : PublicationAttemptRecord) : Prop :=
  ∃ request artifact made, known request ∧ MadeBy request artifact made ∧ record.identity = made.identity

variable {known : PublicationRequest → Prop} {record other : PublicationAttemptRecord}

theorem Originates.of_identity (origin : Originates known record) (same : other.identity = record.identity) :
    Originates known other := by
  obtain ⟨request, artifact, made, is, makes, identity⟩ := origin
  exact ⟨request, artifact, made, is, makes, same.trans identity⟩

def AttemptsApart (known : PublicationRequest → Prop) : Prop :=
  ∀ request other : PublicationRequest, known request → known other → request.attemptId = other.attemptId →
    request.recordKey = other.recordKey

theorem Originates.key_eq (origin : Originates known record) (also : Originates known other) (apart : AttemptsApart known)
    (same : record.attemptId = other.attemptId) : record.idempotencyKey.text = other.idempotencyKey.text := by
  obtain ⟨first, _, made, isFirst, ⟨_, makes⟩, identity⟩ := origin
  obtain ⟨second, _, created, isSecond, ⟨_, creates⟩, alike⟩ := also
  have left : record.attemptId = first.attemptId :=
    (congrArg PublicationAttemptRecord.attemptId identity).trans makes.attemptId
  have right : other.attemptId = second.attemptId :=
    (congrArg PublicationAttemptRecord.attemptId alike).trans creates.attemptId
  have keys := apart first second isFirst isSecond (left.symm.trans (same.trans right))
  rw [PublicationStore.identity_key identity, PublicationStore.identity_key alike, makes.idempotencyKey, creates.idempotencyKey]
  exact keys

/-- Each stored record is under its key. Each record that a call was handed is an earlier version of the
one stored under the key of its request, and a record that it holds is for its content. -/
structure Kept (known : PublicationRequest → Prop) (s : PublicationState) : Prop where
  stored : ∀ key record, s.store.records.get key = some record → record.idempotencyKey.text = key ∧ Originates known record
  carried : ∀ logged ∈ s.log, ∀ record, Carries record logged.entry →
    record.idempotencyKey.text = logged.request.recordKey ∧ s.store.Current record
  granted : ∀ logged ∈ s.log, ∀ record, Grants record logged.entry → ∃ artifact, logged.request.artifact = .ok artifact ∧
    Passes logged.request.publisher (digestArtifact artifact) logged.request.provider record

end

end Bnbera.Publication
