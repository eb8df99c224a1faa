import Bnbera.Altana.Authority

namespace Bnbera.Altana

open Interleaving

inductive AuthorityRequest
  | confirm (input : ConfirmInput)
  | read (authorityId : String) (nowUnix : Int)
  | revoke (authorityId : String) (nowUnix : Int)

abbrev AuthorityOutcome := Except Thrown CreatorAuthorityPublicStatus

def AuthorityRequest.handler [Keccak256] : AuthorityRequest →
    Program AuthorityCall AuthorityCall.Answer AuthorityOutcome
  | confirm input => (confirmCreatorAuthority input).run
  | read authorityId nowUnix => (readCreatorAuthority authorityId nowUnix).run
  | revoke authorityId nowUnix => (revokeCreatorAuthority authorityId nowUnix).run

def reported : AuthorityEntry → Option (String × SessionStatus)
  | ⟨.gatewayRead descriptor, .ok observation⟩ => some (descriptor.sessionId, observation.status)
  | ⟨.gatewayRevoke descriptor, .ok observation⟩ => some (descriptor.sessionId, observation.status)
  | _ => none

def accepted : AuthorityEntry → Option String
  | ⟨.putRuntimeSession _ descriptor _, .accepted _⟩ => some descriptor.sessionId
  | _ => none

def written : AuthorityEntry → Option CreatorAuthorityRecord
  | ⟨.put record, _⟩ => some record
  | _ => none

def obtained : AuthorityEntry → Option CreatorAuthorityRecord
  | ⟨.get _, found⟩ => found
  | _ => none

def missed : AuthorityEntry → Bool
  | ⟨.getByDraft _, none⟩ => true
  | _ => false

def spent : AuthorityEntry → Option Nat
  | ⟨.putRuntimeSession material _ _, _⟩ => some material
  | _ => none

/-- The store, the sessions that a gateway has reported revoked, the wrappers that are consumed, and the
calls that were answered. -/
structure AuthorityState where
  records : List CreatorAuthorityRecord
  revoked : List String
  consumed : List Nat
  log : List (Nat × AuthorityEntry)

namespace AuthorityState

def Initial (s : AuthorityState) : Prop := s = ⟨[], [], [], []⟩

def Answers (s : AuthorityState) : AuthorityEntry → Prop
  | ⟨.getByDraft draftId, found⟩ => found = s.records.find? fun record => record.draftId = draftId
  | ⟨.get authorityId, found⟩ => found = s.records.find? fun record => record.authorityId = authorityId
  | ⟨.gatewayRead descriptor, .ok observation⟩ => observation.status = .active → descriptor.sessionId ∉ s.revoked
  | ⟨.gatewayRevoke descriptor, .ok observation⟩ => observation.status = .active → descriptor.sessionId ∉ s.revoked
  | ⟨.putRuntimeSession material _ _, answer⟩ => answer = .consumedBefore ↔ material ∈ s.consumed
  | _ => True

def stored (s : AuthorityState) (entry : AuthorityEntry) : List CreatorAuthorityRecord :=
  match written entry with
  | some record => record :: s.records.filter fun other => other.authorityId ≠ record.authorityId
  | none => s.records

def revocations (s : AuthorityState) (entry : AuthorityEntry) : List String :=
  match reported entry with
  | some (sessionId, .revoked) => sessionId :: s.revoked
  | _ => s.revoked

def next (s : AuthorityState) (i : Nat) (entry : AuthorityEntry) : AuthorityState where
  records := s.stored entry
  revoked := s.revocations entry
  consumed := (spent entry).toList ++ s.consumed
  log := s.log ++ [(i, entry)]

end AuthorityState

abbrev AuthorityCondition := AuthorityState → Nat → AuthorityCall → Prop

def authoritySystem [Keccak256] (draftId : String) (permits : AuthorityCondition) :
    System AuthorityRequest AuthorityCall AuthorityCall.Answer AuthorityOutcome AuthorityState where
  handler := AuthorityRequest.handler
  exec i _ op before answer after :=
    permits before i op ∧ before.Answers ⟨op, answer⟩ ∧ after = before.next i ⟨op, answer⟩
  environment _ _ := False
  mayStart _ request := ∀ input, request = .confirm input → input.draftId = draftId

abbrev Authorities := Pool AuthorityRequest AuthorityCall AuthorityCall.Answer AuthorityOutcome AuthorityState

abbrev Authorities.Reach [Keccak256] (draftId : String) (permits : AuthorityCondition) (pool : Authorities) : Prop :=
  (authoritySystem draftId permits).Reach AuthorityState.Initial pool

theorem authority_logs [Keccak256] (draftId : String) (permits : AuthorityCondition) :
    (authoritySystem draftId permits).Logs AuthorityState.log where
  exec _ _ _ _ _ _ called := by rw [called.2.2]; rfl
  environment _ _ moved := moved.elim

structure Puts (request : AuthorityRequest) (history : History AuthorityCall AuthorityCall.Answer)
    (record : CreatorAuthorityRecord) : Prop where
  observed : ∃ entry ∈ history, (reported entry).isSome = true
  status : ∀ entry ∈ history, ∀ report ∈ reported entry, report.1 = record.descriptor.sessionId ∧
    (record.observation.status = .active ∨ record.observation.status = .revoked → report.2 = record.observation.status)
  origin : (∃ input, request = .confirm input ∧ record.draftId = input.draftId ∧
      (∃ entry ∈ history, accepted entry = some record.descriptor.sessionId) ∧ ∀ entry ∈ history, written entry = none) ∨
    ∃ entry ∈ history, ∃ got ∈ obtained entry, got.descriptor.sessionId = record.descriptor.sessionId ∧
      got.draftId = record.draftId ∧ got.authorityId = record.authorityId

def AuthorityRequest.Guard (request : AuthorityRequest) (history : History AuthorityCall AuthorityCall.Answer) :
    AuthorityCall → Prop
  | .put record => Puts request history record
  | .putRuntimeSession _ _ _ => ∃ entry ∈ history, missed entry = true
  | .getByDraft draftId => ∃ input, request = .confirm input ∧ draftId = input.draftId
  | _ => True

def AuthorityRequest.Ends (request : AuthorityRequest) (outcome : AuthorityOutcome)
    (history : History AuthorityCall AuthorityCall.Answer) : Prop :=
  ∀ authorityId nowUnix status, request = .revoke authorityId nowUnix → outcome = .ok status →
    ∃ entry ∈ history, ∃ record ∈ written entry, record.observation.status = .revoked

section
variable {α : Type} {guard : History AuthorityCall AuthorityCall.Answer → AuthorityCall → Prop}
  {post : Except Thrown α → History AuthorityCall AuthorityCall.Answer → Prop}
  {history : History AuthorityCall AuthorityCall.Answer} {β : Type}

theorem keeps_check {result : Checked β} {rest : β → AuthorityWork α}
    (failed : ∀ error, post (.error (.boundary error)) history)
    (passed : ∀ value, result = .ok value → Keeps guard post (rest value).run history) :
    Keeps guard post (AuthorityWork.check result >>= rest).run history := by
  cases result with
  | error error => exact .done (failed error)
  | ok value => exact passed value rfl

theorem keeps_checked {result : Checked α} (failed : ∀ error, post (.error (.boundary error)) history)
    (passed : ∀ value, result = .ok value → post (.ok value) history) :
    Keeps guard post (AuthorityWork.check result).run history := by
  cases result with
  | error error => exact .done (failed error)
  | ok value => exact .done (passed value rfl)

theorem keeps_settle {result : Except Thrown β} {rest : β → AuthorityWork α}
    (failed : ∀ error, post (.error error) history)
    (passed : ∀ value, result = .ok value → Keeps guard post (rest value).run history) :
    Keeps guard post (AuthorityWork.settle result >>= rest).run history := by
  cases result with
  | error error => exact .done (failed error)
  | ok value => exact passed value rfl

end

abbrev AuthorityCalls := History AuthorityCall AuthorityCall.Answer

def Unobserved (history : AuthorityCalls) : Prop := ∀ entry ∈ history, reported entry = none

theorem Unobserved.add {history : AuthorityCalls} {entry : AuthorityEntry} (before : Unobserved history)
    (silent : reported entry = none) : Unobserved (history ++ [entry]) := by
  intro other member
  rcases List.mem_append.mp member with earlier | last
  · exact before other earlier
  · rw [List.mem_singleton.mp last]
    exact silent

theorem Unobserved.only {history : AuthorityCalls} {entry other : AuthorityEntry} {report : String × SessionStatus}
    (before : Unobserved history) (member : other ∈ history ++ [entry]) (found : report ∈ reported other) :
    other = entry := by
  rcases List.mem_append.mp member with earlier | last
  · rw [before other earlier] at found
    cases found
  · exact List.mem_singleton.mp last

theorem ends_of_other {request : AuthorityRequest} (other : ∀ authorityId nowUnix, request ≠ .revoke authorityId nowUnix)
    (outcome : AuthorityOutcome) (history : AuthorityCalls) : request.Ends outcome history :=
  fun authorityId nowUnix _ same => absurd same (other authorityId nowUnix)

theorem ends_of_error {request : AuthorityRequest} (error : Thrown) (history : AuthorityCalls) :
    request.Ends (.error error) history := fun _ _ _ _ failed => (nomatch failed)

theorem effectiveObservation_status {descriptor : RuntimeSessionDescriptor} {observation : SessionStateObservation}
    {nowUnix : Int} (shown : (effectiveObservation descriptor observation nowUnix).status = .active ∨
      (effectiveObservation descriptor observation nowUnix).status = .revoked) :
    observation.status = (effectiveObservation descriptor observation nowUnix).status := by
  unfold effectiveObservation at shown ⊢
  split at shown
  · rcases shown with active | revoked
    · cases active
    · cases revoked
  · rename_i live
    rw [if_neg live]

section
variable [Keccak256] {request : AuthorityRequest} {history : AuthorityCalls}

omit [Keccak256] in
theorem puts_of_record {record updated : CreatorAuthorityRecord} {authorityId : String} {entry : AuthorityEntry}
    {status : SessionStatus} (before : Unobserved history)
    (report : reported entry = some (record.descriptor.sessionId, status))
    (session : updated.descriptor.sessionId = record.descriptor.sessionId) (draft : updated.draftId = record.draftId)
    (authority : updated.authorityId = record.authorityId)
    (shown : updated.observation.status = .active ∨ updated.observation.status = .revoked →
      status = updated.observation.status) :
    Puts request (history ++ [⟨.get authorityId, some record⟩] ++ [entry]) updated where
  observed := ⟨entry, List.mem_append_right _ (List.mem_singleton_self _), by rw [report]; rfl⟩
  status other member found present := by
    have same := (before.add (rfl : reported ⟨.get authorityId, some record⟩ = none)).only member present
    rw [same, report] at present
    cases present
    exact ⟨session.symm, shown⟩
  origin := .inr ⟨⟨.get authorityId, some record⟩, List.mem_append_left _ (List.mem_append_right _ (List.mem_singleton_self _)),
    record, rfl, session.symm, draft.symm, authority.symm⟩

theorem readCreatorAuthority_keeps (authorityId : String) (nowUnix : Int) (before : Unobserved history)
    (other : ∀ authorityId nowUnix, request ≠ .revoke authorityId nowUnix) :
    Keeps request.Guard request.Ends (readCreatorAuthority authorityId nowUnix).run history := by
  refine Keeps.ask_bind trivial fun found => ?_
  cases found with
  | none => exact .done (ends_of_error _ _)
  | some record =>
    refine Keeps.ask_bind trivial fun answer => keeps_settle (fun error => ends_of_error _ _) fun observation same => ?_
    refine keeps_check (fun error => ends_of_error _ _) fun _ _ => ?_
    refine Keeps.ask_bind ?_ fun _ => keeps_checked (fun error => ends_of_error _ _) fun status _ => ends_of_other other _ _
    subst same
    exact puts_of_record before rfl rfl rfl rfl effectiveObservation_status

theorem revokeCreatorAuthority_keeps (authorityId : String) (nowUnix : Int) (before : Unobserved history) :
    Keeps request.Guard request.Ends (revokeCreatorAuthority authorityId nowUnix).run history := by
  refine Keeps.ask_bind trivial fun found => ?_
  cases found with
  | none => exact .done (ends_of_error _ _)
  | some record =>
    refine Keeps.ask_bind trivial fun answer => keeps_settle (fun error => ends_of_error _ _) fun observation same => ?_
    refine keeps_check (fun error => ends_of_error _ _) fun _ _ => keeps_check (fun error => ends_of_error _ _) fun _ passed => ?_
    refine Keeps.ask_bind ?_ fun _ => keeps_checked (fun error => ends_of_error _ _) fun status _ => ?_
    · subst same
      exact puts_of_record before rfl rfl rfl rfl fun _ => rfl
    · intro _ _ _ _ _
      exact ⟨⟨.put { record with observation := observation }, ()⟩, List.mem_append_right _ (List.mem_singleton_self _),
        _, rfl, not_not.mp (refuse_eq_ok.mp passed)⟩

theorem confirmNew_keeps (input : ConfirmInput) (before : Unobserved history)
    (unwritten : ∀ entry ∈ history, written entry = none) (sought : ∃ entry ∈ history, missed entry = true) :
    Keeps (AuthorityRequest.confirm input).Guard (AuthorityRequest.confirm input).Ends (confirmNew input).run history := by
  have other : ∀ authorityId nowUnix, AuthorityRequest.confirm input ≠ .revoke authorityId nowUnix :=
    fun _ _ same => (nomatch same)
  refine keeps_check (fun error => ends_of_error _ _) fun _ _ => Keeps.ask_bind trivial fun answer => ?_
  refine keeps_settle (fun error => ends_of_error _ _) fun observation same => ?_
  subst same
  refine keeps_check (fun error => ends_of_error _ _) fun _ _ => keeps_check (fun error => ends_of_error _ _) fun _ active => ?_
  refine Keeps.except_bind ?_
  refine keeps_check (fun error => ends_of_error _ _) fun digest _ => Keeps.ask_bind ?_ fun answer => ?_
  · obtain ⟨entry, member, missing⟩ := sought
    exact ⟨entry, List.mem_append_left _ member, missing⟩
  · cases answer with
    | consumedBefore => exact .done (ends_of_error _ _)
    | threw error =>
      cases error with
      | none => exact .done (ends_of_error _ _)
      | some error => exact .done (ends_of_error _ _)
    | accepted receipt =>
      refine keeps_checked (fun error => ends_of_error _ _) fun handoff _ => ?_
      refine Keeps.ask_bind ?_ fun _ => keeps_checked (fun error => ends_of_error _ _) fun status _ => ends_of_other other _ _
      have status : observation.status = .active := not_not.mp (refuse_eq_ok.mp active)
      have silent : reported ⟨.putRuntimeSession input.material input.descriptor input.destination, .accepted receipt⟩ = none := rfl
      refine ⟨⟨_, List.mem_append_left _ (List.mem_append_right _ (List.mem_singleton_self _)), rfl⟩, ?_, .inl ⟨input, rfl, rfl,
        ⟨_, List.mem_append_right _ (List.mem_singleton_self _), rfl⟩, ?_⟩⟩
      · intro entry member report present
        rcases List.mem_append.mp member with earlier | last
        · have only := before.only earlier present
          rw [only] at present
          cases present
          exact ⟨rfl, fun _ => rfl⟩
        · rw [List.mem_singleton.mp last, silent] at present
          cases present
      · intro entry member
        rcases List.mem_append.mp member with earlier | last
        · rcases List.mem_append.mp earlier with first | second
          · exact unwritten entry first
          · rw [List.mem_singleton.mp second]
            rfl
        · rw [List.mem_singleton.mp last]
          rfl

theorem confirmCreatorAuthority_keeps (input : ConfirmInput) :
    Keeps (AuthorityRequest.confirm input).Guard (AuthorityRequest.confirm input).Ends (confirmCreatorAuthority input).run [] := by
  have other : ∀ authorityId nowUnix, AuthorityRequest.confirm input ≠ .revoke authorityId nowUnix :=
    fun _ _ same => (nomatch same)
  refine keeps_check (fun error => ends_of_error _ _) fun _ _ => keeps_check (fun error => ends_of_error _ _) fun _ _ => ?_
  refine Keeps.ask_bind trivial fun owner => keeps_check (fun error => ends_of_error _ _) fun _ _ => ?_
  refine Keeps.ask_bind ⟨input, rfl, rfl⟩ fun existing => ?_
  have before : ∀ entry ∈ ([⟨.ownerAddressForDraft input.draftId, owner⟩, ⟨.getByDraft input.draftId, existing⟩] :
      AuthorityCalls), reported entry = none ∧ written entry = none := by
    intro entry member
    simp only [List.mem_cons, List.not_mem_nil, or_false] at member
    rcases member with rfl | rfl
    · exact ⟨rfl, rfl⟩
    · exact ⟨rfl, rfl⟩
  cases existing with
  | none =>
    exact confirmNew_keeps input (fun entry member => (before entry member).1)
      (fun entry member => (before entry member).2) ⟨_, List.mem_append_right _ (List.mem_singleton_self _), rfl⟩
  | some existing =>
    dsimp only
    split
    · exact readCreatorAuthority_keeps _ _ (fun entry member => (before entry member).1) other
    · exact .done (ends_of_error _ _)

theorem authority_keeps (request : AuthorityRequest) : Keeps request.Guard request.Ends request.handler [] := by
  have silent : Unobserved [] := fun _ member => (nomatch member)
  cases request with
  | confirm input => exact confirmCreatorAuthority_keeps input
  | read authorityId nowUnix =>
    exact readCreatorAuthority_keeps authorityId nowUnix silent fun _ _ same => (nomatch same)
  | revoke authorityId nowUnix => exact revokeCreatorAuthority_keeps authorityId nowUnix silent

end

end Bnbera.Altana
