import Bnbera.Interleaving.Pool
import Bnbera.Altana.AuthoritySystem
import Bnbera.Altana.Spending

namespace Bnbera.Altana

open Interleaving

def Revokes (entry : AuthorityEntry) : Prop := ∃ record ∈ written entry, record.observation.status = .revoked

instance (entry : AuthorityEntry) : Decidable (Revokes entry) :=
  inferInstanceAs (Decidable (∃ record ∈ written entry, record.observation.status = .revoked))

/-- An active record is put only where no revoked one was put after a report of the route's own gateway
read, and material is handed off only where every accepted handoff had its record put before the route
looked for one. -/
def Timely : AuthorityCondition
  | s, i, .put record => record.observation.status = .active →
      s.log.Pairwise fun earlier later => earlier.1 = i → (reported earlier.2).isSome = true → ¬Revokes later.2
  | s, i, .putRuntimeSession _ _ _ => ∀ handoff ∈ s.log, (accepted handoff.2).isSome = true →
      ∃ n < s.log.length, (∃ put ∈ s.log.take n, put.1 = handoff.1 ∧ (written put.2).isSome = true) ∧
        ∃ look ∈ s.log.drop n, look.1 = i ∧ missed look.2 = true
  | _, _, _ => True

structure SameGrant (record other : CreatorAuthorityRecord) : Prop where
  authority : record.authorityId = other.authorityId
  draft : record.draftId = other.draftId
  session : record.descriptor.sessionId = other.descriptor.sessionId

theorem SameGrant.refl (record : CreatorAuthorityRecord) : SameGrant record record := ⟨rfl, rfl, rfl⟩

theorem SameGrant.trans {first second third : CreatorAuthorityRecord} (before : SameGrant first second)
    (after : SameGrant second third) : SameGrant first third :=
  ⟨before.authority.trans after.authority, before.draft.trans after.draft, before.session.trans after.session⟩

structure Sound (draftId : String) (s : AuthorityState) : Prop where
  draft : ∀ record ∈ s.records, record.draftId = draftId
  alone : ∀ record ∈ s.records, ∀ other ∈ s.records, record = other
  traced : ∀ entry ∈ s.log, ∀ record, record ∈ obtained entry.2 ∨ record ∈ written entry.2 →
    ∃ current ∈ s.records, SameGrant current record
  handed : ∀ record ∈ s.records, ∃ i, (∃ entry, (i, entry) ∈ s.log ∧ (accepted entry).isSome = true) ∧
    ∃ entry, (i, entry) ∈ s.log ∧ (written entry).isSome = true
  once : ∀ entry ∈ s.log, ∀ other ∈ s.log, (accepted entry.2).isSome = true → (accepted other.2).isSome = true →
    entry.1 = other.1
  handoffs : (s.log.filter fun entry => (accepted entry.2).isSome).length ≤ 1
  looked : s.log.Pairwise fun earlier later => missed later.2 = true → written earlier.2 = none
  truthful : s.log.Pairwise fun earlier later => ∀ sessionId, reported later.2 = some (sessionId, .active) →
    ∀ record ∈ written earlier.2, record.observation.status = .revoked → record.descriptor.sessionId ≠ sessionId
  reports : ∀ entry ∈ s.log, ∀ sessionId, reported entry.2 = some (sessionId, .revoked) → sessionId ∈ s.revoked
  recorded : ∀ entry ∈ s.log, ∀ record ∈ written entry.2, record.observation.status = .revoked →
    record.descriptor.sessionId ∈ s.revoked
  shown : (∃ entry ∈ s.log, Revokes entry.2) → ∀ record ∈ s.records, record.observation.status ≠ .active

theorem Sound.initial {draftId : String} {s : AuthorityState} (first : AuthorityState.Initial s) : Sound draftId s := by
  subst first
  constructor <;> simp

section
variable {draftId : String} {s : AuthorityState} {entry : AuthorityEntry} {i : Nat} {record : CreatorAuthorityRecord}

theorem AuthorityState.mem_log {other : Nat × AuthorityEntry} :
    other ∈ (s.next i entry).log ↔ other ∈ s.log ∨ other = (i, entry) := by
  show other ∈ s.log ++ [(i, entry)] ↔ _
  rw [List.mem_append, List.mem_singleton]

theorem AuthorityState.pairwise_log {r : Nat × AuthorityEntry → Nat × AuthorityEntry → Prop} :
    (s.next i entry).log.Pairwise r ↔ s.log.Pairwise r ∧ ∀ earlier ∈ s.log, r earlier (i, entry) := by
  show (s.log ++ [(i, entry)]).Pairwise r ↔ _
  simp only [List.pairwise_append, List.pairwise_singleton, true_and, List.mem_singleton, forall_eq]

theorem AuthorityState.revoked_next {sessionId : String} (known : sessionId ∈ s.revoked) :
    sessionId ∈ (s.next i entry).revoked := by
  show sessionId ∈ s.revocations entry
  unfold revocations
  split
  · exact List.mem_cons_of_mem _ known
  · exact known

theorem AuthorityState.mem_revoked_next {sessionId : String} (report : reported entry = some (sessionId, .revoked)) :
    sessionId ∈ (s.next i entry).revoked := by
  show sessionId ∈ s.revocations entry
  rw [revocations, report]
  exact List.mem_cons_self

theorem AuthorityState.records_next (unwritten : written entry = none) : (s.next i entry).records = s.records := by
  show s.stored entry = s.records
  rw [stored, unwritten]

/-- A call that puts nothing. -/
theorem Sound.asked (sound : Sound draftId s) (unwritten : written entry = none)
    (got : ∀ record ∈ obtained entry, record ∈ s.records)
    (fresh : (accepted entry).isSome = true → ∀ other ∈ s.log, accepted other.2 = none)
    (empty : missed entry = true → s.records = [])
    (truthful : ∀ sessionId, reported entry = some (sessionId, .active) → sessionId ∉ s.revoked) :
    Sound draftId (s.next i entry) := by
  have records := s.records_next (i := i) unwritten
  have silent : ∀ record, record ∉ written entry := by
    intro record member
    rw [unwritten] at member
    cases member
  have quiet : ¬Revokes entry := fun ⟨record, member, _⟩ => silent record member
  constructor
  · rw [records]
    exact sound.draft
  · rw [records]
    exact sound.alone
  · intro other member record present
    rw [records]
    rcases AuthorityState.mem_log.mp member with old | rfl
    · exact sound.traced other old record present
    · rcases present with found | put
      · exact ⟨record, got record found, .refl record⟩
      · exact absurd put (silent record)
  · intro record member
    rw [records] at member
    obtain ⟨j, ⟨handoff, handed, took⟩, put, wrote, present⟩ := sound.handed record member
    exact ⟨j, ⟨handoff, AuthorityState.mem_log.mpr (.inl handed), took⟩, put, AuthorityState.mem_log.mpr (.inl wrote), present⟩
  · intro one member other present first second
    rcases AuthorityState.mem_log.mp member with old | rfl
    · rcases AuthorityState.mem_log.mp present with also | rfl
      · exact sound.once one old other also first second
      · rw [fresh second one old] at first
        cases first
    · rcases AuthorityState.mem_log.mp present with also | rfl
      · rw [fresh first other also] at second
        cases second
      · rfl
  · show ((s.log ++ [(i, entry)]).filter _).length ≤ 1
    rw [List.filter_append, List.length_append]
    by_cases took : (accepted entry).isSome = true
    · have none : s.log.filter (fun other => (accepted other.2).isSome) = [] := by
        refine List.filter_eq_nil_iff.mpr fun other member => ?_
        rw [fresh took other member]
        exact Bool.false_ne_true
      rw [none, List.length_nil, Nat.zero_add]
      exact List.length_filter_le _ [(i, entry)]
    · have none : [(i, entry)].filter (fun other => (accepted other.2).isSome) = [] := by
        refine List.filter_eq_nil_iff.mpr fun other member => ?_
        rw [List.mem_singleton.mp member]
        exact took
      rw [none]
      exact sound.handoffs
  · refine AuthorityState.pairwise_log.mpr ⟨sound.looked, fun earlier member missing => ?_⟩
    refine Option.eq_none_iff_forall_not_mem.mpr fun record wrote => ?_
    obtain ⟨current, present, _⟩ := sound.traced earlier member record (.inr wrote)
    rw [empty missing] at present
    cases present
  · refine AuthorityState.pairwise_log.mpr ⟨sound.truthful, fun earlier member sessionId report record wrote status same => ?_⟩
    have known := sound.recorded earlier member record wrote status
    rw [same] at known
    exact truthful sessionId report known
  · intro other member sessionId report
    rcases AuthorityState.mem_log.mp member with old | rfl
    · exact AuthorityState.revoked_next (sound.reports other old sessionId report)
    · exact AuthorityState.mem_revoked_next report
  · intro other member record wrote status
    rcases AuthorityState.mem_log.mp member with old | rfl
    · exact AuthorityState.revoked_next (sound.recorded other old record wrote status)
    · exact absurd wrote (silent record)
  · intro ⟨other, member, revokes⟩
    rw [records]
    rcases AuthorityState.mem_log.mp member with old | rfl
    · exact sound.shown ⟨other, old, revokes⟩
    · exact absurd revokes quiet

theorem Sound.unrevoked (sound : Sound draftId s) (empty : s.records = []) : ¬∃ other ∈ s.log, Revokes other.2 := by
  rintro ⟨other, member, record, wrote, _⟩
  obtain ⟨current, present, _⟩ := sound.traced other member record (.inr wrote)
  rw [empty] at present
  cases present

theorem Sound.origin {request : AuthorityRequest} (sound : Sound draftId s)
    (mine : ∀ input, request = .confirm input → input.draftId = draftId)
    (puts : Puts request (System.ownCalls s.log i) record) :
    (s.records = [] ∧ record.draftId = draftId ∧ ∃ handoff, (i, handoff) ∈ s.log ∧ (accepted handoff).isSome = true) ∨
      ∃ current ∈ s.records, SameGrant current record := by
  rcases puts.origin with ⟨input, same, drafted, ⟨handoff, member, took⟩, unwritten⟩ | ⟨other, member, got, found, session, draft, authority⟩
  · refine .inl ⟨?_, drafted.trans (mine input same), handoff, System.mem_ownCalls.mp member, by rw [took]; rfl⟩
    refine List.eq_nil_iff_forall_not_mem.mpr fun current present => ?_
    obtain ⟨j, ⟨first, handed, accepts⟩, put, wrote, filled⟩ := sound.handed current present
    have own : j = i := sound.once _ handed _ (System.mem_ownCalls.mp member) accepts (by rw [took]; rfl)
    subst own
    have none := unwritten put (System.mem_ownCalls.mpr wrote)
    rw [none] at filled
    cases filled
  · obtain ⟨current, present, same⟩ := sound.traced (i, other) (System.mem_ownCalls.mp member) got (.inl found)
    exact .inr ⟨current, present, same.trans ⟨authority, draft, session⟩⟩

theorem Sound.stored_put (sound : Sound draftId s)
    (origin : s.records = [] ∨ ∃ current ∈ s.records, SameGrant current record) :
    (s.next i ⟨.put record, ()⟩).records = [record] := by
  show record :: s.records.filter _ = [record]
  refine congrArg (record :: ·) (List.filter_eq_nil_iff.mpr fun other member => ?_)
  rcases origin with empty | ⟨current, present, same⟩
  · rw [empty] at member
    cases member
  · rw [sound.alone other member current present, decide_eq_true_eq]
    exact not_not.mpr same.authority

theorem written_of_reported {report : String × SessionStatus} (found : reported entry = some report) :
    written entry = none := by
  unfold reported at found
  split at found
  · rfl
  · rfl
  · cases found

def Kept (record : CreatorAuthorityRecord) (report other : AuthorityEntry) : Prop :=
  reported report = some (record.descriptor.sessionId, .active) →
    ∀ put ∈ written other, put.observation.status = .revoked → put.descriptor.sessionId ≠ record.descriptor.sessionId

/-- A route that puts an active record in time finds none that is revoked. -/
theorem Sound.active_put {request : AuthorityRequest} (sound : Sound draftId s)
    (origin : s.records = [] ∨ ∃ current ∈ s.records, SameGrant current record)
    (puts : Puts request (System.ownCalls s.log i) record) (timely : Timely s i (.put record))
    (active : record.observation.status = .active) : ¬∃ other ∈ s.log, Revokes other.2 := by
  rcases origin with empty | ⟨current, present, same⟩
  · exact sound.unrevoked empty
  · rintro ⟨other, member, revoked, wrote, status⟩
    obtain ⟨entry, own, observed⟩ := puts.observed
    obtain ⟨report, found⟩ := Option.isSome_iff_exists.mp observed
    obtain ⟨session, shown⟩ := puts.status entry own report found
    have live : reported entry = some (record.descriptor.sessionId, .active) := by
      rw [found, ← session, ← active, ← shown (.inl active)]
    obtain ⟨stored, kept, grant⟩ := sound.traced other member revoked (.inr wrote)
    have sessions : revoked.descriptor.sessionId = record.descriptor.sessionId := by
      rw [← grant.session, ← same.session, sound.alone stored kept current present]
    have after : s.log.Pairwise fun earlier later => earlier.1 = i → Kept record earlier.2 later.2 :=
      (timely active).imp fun quiet mine live put wrote status _ =>
        quiet mine (by rw [live]; rfl) ⟨put, wrote, status⟩
    have before : s.log.Pairwise fun earlier later => later.1 = i → Kept record later.2 earlier.2 :=
      sound.truthful.imp fun quiet _ live => quiet _ live
    have same' : ∀ other ∈ s.log, other.1 = i → Kept record other.2 other.2 := by
      intro other _ _ live put wrote _ _
      rw [written_of_reported live] at wrote
      cases wrote
    have kept := List.Pairwise.forall_of_forall_of_flip same' after before (System.mem_ownCalls.mp own) member rfl
    exact kept live revoked wrote status sessions

/-- A put that is in time. -/
theorem Sound.put {request : AuthorityRequest} (sound : Sound draftId s)
    (mine : ∀ input, request = .confirm input → input.draftId = draftId)
    (puts : Puts request (System.ownCalls s.log i) record) (timely : Timely s i (.put record)) :
    Sound draftId (s.next i ⟨.put record, ()⟩) := by
  have origin := sound.origin mine puts
  have known : s.records = [] ∨ ∃ current ∈ s.records, SameGrant current record := by
    rcases origin with ⟨empty, _⟩ | continued
    · exact .inl empty
    · exact .inr continued
  have records := sound.stored_put (i := i) known
  have session : record.observation.status = .revoked → record.descriptor.sessionId ∈ s.revoked := by
    intro status
    obtain ⟨entry, own, observed⟩ := puts.observed
    obtain ⟨report, found⟩ := Option.isSome_iff_exists.mp observed
    obtain ⟨same, shown⟩ := puts.status entry own report found
    refine sound.reports (i, entry) (System.mem_ownCalls.mp own) _ ?_
    rw [found, ← same, ← status, ← shown (.inr status)]
  constructor
  · rw [records]
    intro other member
    rw [List.mem_singleton.mp member]
    rcases origin with ⟨_, drafted, _⟩ | ⟨current, present, same⟩
    · exact drafted
    · exact same.draft.symm.trans (sound.draft current present)
  · rw [records]
    intro one member other present
    rw [List.mem_singleton.mp member, List.mem_singleton.mp present]
  · rw [records]
    intro other member found present
    refine ⟨record, List.mem_singleton_self _, ?_⟩
    rcases AuthorityState.mem_log.mp member with old | rfl
    · obtain ⟨stored, kept, grant⟩ := sound.traced other old found present
      rcases known with empty | ⟨current, here, same⟩
      · rw [empty] at kept
        cases kept
      · rw [sound.alone stored kept current here] at grant
        exact ⟨same.authority.symm.trans grant.authority, same.draft.symm.trans grant.draft,
          same.session.symm.trans grant.session⟩
    · rcases present with got | put
      · cases got
      · cases put
        exact .refl record
  · intro other _
    rcases origin with ⟨_, _, handoff, member, took⟩ | ⟨current, present, _⟩
    · exact ⟨i, ⟨handoff, AuthorityState.mem_log.mpr (.inl member), took⟩, ⟨.put record, ()⟩,
        AuthorityState.mem_log.mpr (.inr rfl), rfl⟩
    · obtain ⟨j, ⟨handoff, member, took⟩, put, wrote, filled⟩ := sound.handed current present
      exact ⟨j, ⟨handoff, AuthorityState.mem_log.mpr (.inl member), took⟩, put, AuthorityState.mem_log.mpr (.inl wrote), filled⟩
  · intro one member other present first second
    rcases AuthorityState.mem_log.mp member with old | rfl
    · rcases AuthorityState.mem_log.mp present with also | rfl
      · exact sound.once one old other also first second
      · cases second
    · cases first
  · have kept : (s.next i ⟨.put record, ()⟩).log.filter (fun entry => (accepted entry.2).isSome) =
        s.log.filter fun entry => (accepted entry.2).isSome :=
      (List.filter_append s.log _).trans (List.append_nil _)
    rw [kept]
    exact sound.handoffs
  · exact AuthorityState.pairwise_log.mpr ⟨sound.looked, fun _ _ missing => (nomatch missing)⟩
  · exact AuthorityState.pairwise_log.mpr ⟨sound.truthful, fun _ _ _ report => (nomatch report)⟩
  · intro other member sessionId report
    rcases AuthorityState.mem_log.mp member with old | rfl
    · exact sound.reports other old sessionId report
    · cases report
  · intro other member found wrote status
    rcases AuthorityState.mem_log.mp member with old | rfl
    · exact sound.recorded other old found wrote status
    · cases wrote
      exact session status
  · rw [records]
    rintro ⟨other, member, revokes⟩ stored present active
    rw [List.mem_singleton.mp present] at active
    rcases AuthorityState.mem_log.mp member with old | rfl
    · have quiet := sound.active_put known puts timely active
      exact quiet ⟨other, old, revokes⟩
    · obtain ⟨found, wrote, status⟩ := revokes
      cases wrote
      rw [active] at status
      cases status

theorem Sound.first_handoff {material : Nat} {descriptor : RuntimeSessionDescriptor} {destination : SecretReference}
    (sound : Sound draftId s) (timely : Timely s i (.putRuntimeSession material descriptor destination)) :
    ∀ other ∈ s.log, accepted other.2 = none := by
  intro other member
  by_contra took
  obtain ⟨n, _, ⟨put, early, _, filled⟩, look, late, _, missing⟩ := timely other member (Option.isSome_iff_ne_none.mpr took)
  have looked := sound.looked
  rw [← List.take_append_drop n s.log] at looked
  rw [(List.pairwise_append.mp looked).2.2 put early look late missing] at filled
  cases filled

end

section
variable [Keccak256] {draftId : String} {pool : Authorities}

theorem Authorities.Reach.sound (reach : Authorities.Reach draftId Timely pool) : Sound draftId pool.state := by
  refine reach.guarded (authority_logs draftId Timely) (fun s first => by rw [first]) authority_keeps
    (fun s first => Sound.initial first) ?_ fun _ _ moved => moved.elim
  intro pool i request op next answer after reach found called permitted sound
  obtain ⟨timely, answered, rfl⟩ := called
  have mine : ∀ input, request = .confirm input → input.draftId = draftId :=
    System.Reach.requests reach (fun _ _ starts => starts) found
  cases op with
  | ownerAddressForDraft sought =>
    exact sound.asked rfl (fun _ got => (nomatch got)) (fun took => (nomatch took)) (fun missing => (nomatch missing))
      fun _ report => (nomatch report)
  | getByDraft sought =>
    refine sound.asked rfl (fun _ got => (nomatch got)) (fun took => (nomatch took)) (fun missing => ?_)
      fun _ report => (nomatch report)
    obtain ⟨input, same, drafted⟩ := permitted
    cases answer with
    | some record => cases missing
    | none =>
      refine List.eq_nil_iff_forall_not_mem.mpr fun record member => ?_
      have other := List.find?_eq_none.mp (Eq.symm answered) record member
      rw [decide_eq_true_eq, drafted, mine input same] at other
      exact other (sound.draft record member)
  | get authorityId =>
    refine sound.asked rfl (fun record got => ?_) (fun took => (nomatch took)) (fun missing => (nomatch missing))
      fun _ report => (nomatch report)
    exact List.mem_of_find?_eq_some (Eq.trans (Eq.symm answered) got)
  | put record => exact sound.put mine permitted timely
  | gatewayRead descriptor =>
    refine sound.asked rfl (fun _ got => (nomatch got)) (fun took => (nomatch took)) (fun missing => (nomatch missing))
      fun sessionId report => ?_
    cases answer with
    | error => cases report
    | ok observation =>
      obtain ⟨rfl, active⟩ := Prod.mk.inj (Option.some.inj report)
      exact answered active
  | gatewayRevoke descriptor =>
    refine sound.asked rfl (fun _ got => (nomatch got)) (fun took => (nomatch took)) (fun missing => (nomatch missing))
      fun sessionId report => ?_
    cases answer with
    | error => cases report
    | ok observation =>
      obtain ⟨rfl, active⟩ := Prod.mk.inj (Option.some.inj report)
      exact answered active
  | putRuntimeSession material descriptor destination =>
    exact sound.asked rfl (fun _ got => (nomatch got)) (fun _ => sound.first_handoff timely) (fun missing => (nomatch missing))
      fun _ report => (nomatch report)

/-- A confirmed revocation is not hidden, and one handoff is accepted, in every run whose steps are timely. -/
theorem Authorities.Reach.stays_revoked (reach : Authorities.Reach draftId Timely pool) :
    (∀ (i : Nat) (authorityId : String) (nowUnix : Int) (status : CreatorAuthorityPublicStatus),
      pool.threads[i]? = some ⟨.revoke authorityId nowUnix, .done (.ok status)⟩ →
        ∀ record ∈ pool.state.records, record.observation.status ≠ .active) ∧
      (pool.state.log.filter fun entry => (accepted entry.2).isSome).length ≤ 1 := by
  have sound := reach.sound
  refine ⟨fun i authorityId nowUnix status found => ?_, sound.handoffs⟩
  have ends := System.Reach.returned reach (authority_logs draftId Timely) (fun s first => by rw [first])
    authority_keeps found
  obtain ⟨entry, own, record, wrote, revoked⟩ := ends authorityId nowUnix status rfl rfl
  exact sound.shown ⟨(i, entry), System.mem_ownCalls.mp own, record, wrote, revoked⟩

end


@[reducible] def sampleKeccak256 : Keccak256 where
  keccak256 _ := "0xfeaa9ea35c290d2c9989e69c060e9589d14f6db1e1fa0241eb899a6d1ad5ca2e"

attribute [local instance] sampleKeccak256

def granted : RuntimeSessionDescriptor where
  sessionId := "session"
  policy := spendingPolicy [⟨.native, 10, .day⟩]
  policyDigest := some "0xfeaa9ea35c290d2c9989e69c060e9589d14f6db1e1fa0241eb899a6d1ad5ca2e"
  grantTransactionHash := none
  secretReference := none
  grantedAtUnix := 1700000000

def confirmation (material : Nat) : ConfirmInput where
  authorityId := "authority"
  draftId := "draft"
  ownerAddress := "0x1111111111111111111111111111111111111111"
  descriptor := granted
  material := material
  destination := ⟨.localTestOnly, "vault"⟩
  nowUnix := 1700000010

def observed (descriptor : RuntimeSessionDescriptor) (status : SessionStatus) : SessionStateObservation :=
  ⟨descriptor.sessionId, descriptor.policyDigest, status, 1700000010, some 1, .chainRead, none⟩

/-- A gateway that knows the session as active until it revokes it, and a sink that accepts new material. -/
def sampleAnswer (s : AuthorityState) : (op : AuthorityCall) → op.Answer
  | .ownerAddressForDraft _ => some "0x1111111111111111111111111111111111111111"
  | .getByDraft draftId => s.records.find? fun record => record.draftId = draftId
  | .get authorityId => s.records.find? fun record => record.authorityId = authorityId
  | .put _ => ()
  | .gatewayRead descriptor => .ok (observed descriptor (if descriptor.sessionId ∈ s.revoked then .revoked else .active))
  | .gatewayRevoke descriptor => .ok (observed descriptor .revoked)
  | .putRuntimeSession material descriptor destination =>
    if material ∈ s.consumed then .consumedBefore
    else .accepted ⟨"handoff", destination, descriptor.sessionId, descriptor.policyDigest, 1700000010, true⟩

theorem sampleAnswer_answers (s : AuthorityState) (op : AuthorityCall) : s.Answers ⟨op, sampleAnswer s op⟩ := by
  cases op with
  | ownerAddressForDraft => trivial
  | getByDraft => rfl
  | get => rfl
  | put => trivial
  | gatewayRead descriptor =>
    intro active known
    have revoked : (observed descriptor (if descriptor.sessionId ∈ s.revoked then .revoked else .active)).status = .revoked := by
      rw [if_pos known]
      rfl
    rw [revoked] at active
    cases active
  | gatewayRevoke => exact fun active => (nomatch active)
  | putRuntimeSession material descriptor destination =>
    show (if material ∈ s.consumed then SinkAnswer.consumedBefore else _) = .consumedBefore ↔ material ∈ s.consumed
    split
    · rename_i known
      exact iff_of_true rfl known
    · rename_i fresh
      exact iff_of_false (fun same => (nomatch same)) fresh

def samplePerformance (permits : AuthorityCondition) [∀ s i op, Decidable (permits s i op)] :
    Performance AuthorityRequest AuthorityCall AuthorityCall.Answer AuthorityState := fun i _ op s =>
  if permits s i op then some (sampleAnswer s op, s.next i ⟨op, sampleAnswer s op⟩) else none

theorem samplePerformance_exec {permits : AuthorityCondition} [∀ s i op, Decidable (permits s i op)] (i : Nat)
    (request : AuthorityRequest) (op : AuthorityCall) (s : AuthorityState) (answer : op.Answer) (after : AuthorityState)
    (performed : samplePerformance permits i request op s = some (answer, after)) :
    (authoritySystem "draft" permits).exec i request op s answer after := by
  unfold samplePerformance at performed
  split at performed
  · rename_i permitted
    cases performed
    exact ⟨permitted, sampleAnswer_answers s op, rfl⟩
  · cases performed

instance (s : AuthorityState) (i : Nat) (op : AuthorityCall) : Decidable (Timely s i op) :=
  match op with
  | .put record => inferInstanceAs (Decidable (record.observation.status = .active →
      s.log.Pairwise fun earlier later => earlier.1 = i → (reported earlier.2).isSome = true → ¬Revokes later.2))
  | .putRuntimeSession _ _ _ => inferInstanceAs (Decidable (∀ handoff ∈ s.log, (accepted handoff.2).isSome = true →
      ∃ n < s.log.length, (∃ put ∈ s.log.take n, put.1 = handoff.1 ∧ (written put.2).isSome = true) ∧
        ∃ look ∈ s.log.drop n, look.1 = i ∧ missed look.2 = true))
  | .ownerAddressForDraft _ => isTrue trivial
  | .getByDraft _ => isTrue trivial
  | .get _ => isTrue trivial
  | .gatewayRead _ => isTrue trivial
  | .gatewayRevoke _ => isTrue trivial

def untimed : AuthorityCondition := fun _ _ _ => True

instance (s : AuthorityState) (i : Nat) (op : AuthorityCall) : Decidable (untimed s i op) := isTrue trivial

def authorityRun (permits : AuthorityCondition) [∀ s i op, Decidable (permits s i op)] (turns : List (Cue AuthorityRequest)) :
    Option Authorities :=
  System.play AuthorityRequest.handler (samplePerformance permits) turns ⟨⟨[], [], [], []⟩, []⟩

theorem authorityRun_reach {permits : AuthorityCondition} [∀ s i op, Decidable (permits s i op)]
    {turns : List (Cue AuthorityRequest)} {pool : Authorities}
    (drafts : ∀ input, .start (.confirm input) ∈ turns → input.draftId = "draft")
    (run : authorityRun permits turns = some pool) : Authorities.Reach "draft" permits pool := by
  refine System.Reach.play (.start rfl) samplePerformance_exec (fun _ request member input same => ?_) run
  subst same
  exact drafts input member

def Authorities.returned (pool : Authorities) (i : Nat) : Bool :=
  match pool.threads[i]? with
  | some ⟨.revoke _ _, .done (.ok _)⟩ => true
  | _ => false

theorem Authorities.of_returned {pool : Authorities} {i : Nat} (ended : pool.returned i = true) :
    ∃ authorityId nowUnix status, pool.threads[i]? = some ⟨.revoke authorityId nowUnix, .done (.ok status)⟩ := by
  unfold returned at ended
  split at ended
  · rename_i found
    exact ⟨_, _, _, found⟩
  · cases ended

def interrupted (calls : Nat) : List (Cue AuthorityRequest) :=
  .start (.confirm (confirmation 1)) :: List.replicate 5 (.call 0) ++
    .start (.read "authority" 1700000020) :: List.replicate calls (.call 1) ++
    .start (.revoke "authority" 1700000020) :: List.replicate 3 (.call 2) ++ List.replicate (3 - calls) (.call 1)

theorem interrupted_drafts (calls : Nat) (input : ConfirmInput) (member : .start (.confirm input) ∈ interrupted calls) :
    input.draftId = "draft" := by
  simp [interrupted] at member
  rw [member]
  rfl

def overlapped : List (Cue AuthorityRequest) :=
  [.start (.confirm (confirmation 1)), .start (.confirm (confirmation 2)), .call 0, .call 0] ++
    List.replicate 5 (.call 1) ++ List.replicate 3 (.call 0)

theorem overlapped_drafts (input : ConfirmInput) (member : .start (.confirm input) ∈ overlapped) :
    input.draftId = "draft" := by
  simp [overlapped] at member
  rcases member with rfl | rfl
  · rfl
  · rfl

/-- The read asks the gateway after the revocation. -/
theorem Authorities.Reach.revoked_before_read : ∃ pool : Authorities, pool.returned 2 = true ∧
    (∃ record, record ∈ pool.state.records) ∧ ∀ record ∈ pool.state.records, record.observation.status ≠ .active := by
  have ends : ((authorityRun Timely (interrupted 1)).any fun pool =>
      pool.returned 2 && !pool.state.records.isEmpty) = true := by decide +kernel
  obtain ⟨pool, run, ended⟩ := (Option.any_eq_true _ _).mp ends
  obtain ⟨returned, stored⟩ := Bool.and_eq_true_iff.mp ended
  obtain ⟨authorityId, nowUnix, status, found⟩ := of_returned returned
  have reach := authorityRun_reach (interrupted_drafts 1) run
  refine ⟨pool, returned, ?_, reach.stays_revoked.1 2 authorityId nowUnix status found⟩
  exact List.exists_mem_of_ne_nil _ fun empty => by simp [empty] at stored

/-- The gateway reports the session as active to a read, the session is revoked, and the read puts its
report; and two confirmations that overlap hand off two wrappers. -/
theorem Authorities.Reach.revocation_hidden :
    (∃ pool : Authorities, Authorities.Reach "draft" untimed pool ∧
      (∃ (i : Nat) (authorityId : String) (nowUnix : Int) (status : CreatorAuthorityPublicStatus),
        pool.threads[i]? = some ⟨.revoke authorityId nowUnix, .done (.ok status)⟩) ∧
      ∃ record ∈ pool.state.records, record.observation.status = .active) ∧
    ∃ pool : Authorities, Authorities.Reach "draft" untimed pool ∧
      ¬(pool.state.log.filter fun entry => (accepted entry.2).isSome).length ≤ 1 := by
  constructor
  · have ends : ((authorityRun untimed (interrupted 2)).any fun pool =>
        pool.returned 2 && decide (∃ record ∈ pool.state.records, record.observation.status = .active)) = true := by
      decide +kernel
    obtain ⟨pool, run, ended⟩ := (Option.any_eq_true _ _).mp ends
    obtain ⟨returned, hidden⟩ := Bool.and_eq_true_iff.mp ended
    exact ⟨pool, authorityRun_reach (interrupted_drafts 2) run, ⟨2, of_returned returned⟩, of_decide_eq_true hidden⟩
  · have ends : ((authorityRun untimed overlapped).any fun pool =>
        decide ¬(pool.state.log.filter fun entry => (accepted entry.2).isSome).length ≤ 1) = true := by
      decide +kernel
    obtain ⟨pool, run, ended⟩ := (Option.any_eq_true _ _).mp ends
    exact ⟨pool, authorityRun_reach overlapped_drafts run, of_decide_eq_true ended⟩

end Bnbera.Altana
