import Mathlib.Data.List.Pairwise
import Bnbera.Registration.Witnessed

namespace Bnbera.Registration

open Creator Interleaving Publication

section
variable [Sha256] [ByteDigests] [RegistrationSdk] {column : JsonbColumn} {deploymentId : String} {permits : Circumstance}
  {pool : RegistrationPool} {s s' : RegistrationState} {i : Nat} {op : RegistrationCall} {answer : op.Answer}

def grants (phase : CreatorRegistrationPhase) : RegistrationEntry → Bool
  | ⟨.ensureIntent _ _ asked _ _, .ok prepared⟩ => asked = some phase && prepared.reservedPhase
  | _ => false

/-- A phase has been granted once at most, and where it has been an event says so. -/
structure GrantedOnce (phase : CreatorRegistrationPhase) (s : RegistrationState) : Prop where
  objects : Objects s.events
  once : s.log.Pairwise fun first second => grants phase first.2 = false ∨ grants phase second.2 = false
  reserved : ∀ entry ∈ s.log, grants phase entry.2 = true → ∃ event ∈ s.events, event.statusMessage = phaseIntent phase

theorem grants_reserves {phase : CreatorRegistrationPhase} (called : op.exec column deploymentId s answer s')
    (objects : Objects s.events) (granted : grants phase ⟨op, answer⟩ = true) :
    (∀ event ∈ s.events, event.statusMessage ≠ phaseIntent phase) ∧
      ∃ event ∈ s'.events, event.statusMessage = phaseIntent phase := by
  unfold grants at granted
  split at granted
  · rename_i startedAt userId asked requesterAddress reservePhase prepared same
    cases same
    obtain ⟨transaction, _, commits⟩ := called
    obtain ⟨stored, status, kept, shown, reserved, _⟩ := ensureIntent_eq_ok commits.ok
    simp only [Bool.and_eq_true, decide_eq_true_eq] at granted
    obtain ⟨rfl, granted⟩ := granted
    have inside : Objects stored ∧ ∀ event ∈ s.events, event ∈ stored := by
      rcases storedIntent_eq_ok kept with ⟨_, rfl⟩ | ⟨_, _, rfl⟩
      · exact ⟨objects, fun _ member => member⟩
      · exact ⟨objects.snoc (recordedRow_holds (intentRefs_nodup _)), fun _ member => List.mem_append_left _ member⟩
    rcases reserve_eq_ok reserved with ⟨none, _⟩ | ⟨phase, same, _, _, reserves⟩
    · rw [granted] at none
      cases none
    · cases same
      exact ⟨fun event member => reserves.unreserved shown inside.1 event (inside.2 event member), reserves.reserved⟩
  · cases granted

theorem GrantedOnce.called {phase : CreatorRegistrationPhase} (called : op.exec column deploymentId s answer s')
    (logged : s'.log = s.log ++ [(i, ⟨op, answer⟩)]) (once : GrantedOnce phase s) : GrantedOnce phase s' := by
  have grown := (exec_adds called).grows
  refine ⟨(exec_adds called).keeps (fun table after added objects => added.objects objects) once.objects, ?_, ?_⟩
  · rw [logged, List.pairwise_append]
    refine ⟨once.once, List.pairwise_singleton _ _, fun entry member other new => ?_⟩
    cases List.mem_singleton.mp new
    by_contra both
    rw [not_or, Bool.not_eq_false, Bool.not_eq_false] at both
    obtain ⟨event, inside, message⟩ := once.reserved entry member both.1
    exact (grants_reserves called once.objects both.2).1 event inside message
  · intro entry member granted
    rw [logged] at member
    rcases List.mem_append.mp member with old | new
    · obtain ⟨event, inside, message⟩ := once.reserved entry old granted
      exact ⟨event, grown event inside, message⟩
    · cases List.mem_singleton.mp new
      exact (grants_reserves called once.objects granted).2

omit [Sha256] [ByteDigests] [RegistrationSdk] in
theorem GrantedOnce.elsewhere {phase : CreatorRegistrationPhase} {before after : RegistrationState}
    (moved : Elsewhere before after) (once : GrantedOnce phase before) : GrantedOnce phase after where
  objects event member browsers := once.objects event (moved.browsers member browsers) browsers
  once := moved.log ▸ once.once
  reserved entry member granted := by
    obtain ⟨event, inside, message⟩ := once.reserved entry (moved.log ▸ member) granted
    exact ⟨event, moved.mem inside, message⟩

theorem RegistrationReach.grantedOnce (reach : RegistrationReach column deploymentId permits pool)
    (phase : CreatorRegistrationPhase) : GrantedOnce phase pool.state := by
  refine reach.guarded (fun s blank => ?_) (fun s s' i op answer _ called logged _ held => held.called called logged)
    fun before after moved held => held.elsewhere moved
  refine ⟨fun event member browsers => ?_, ?_, fun entry member => ?_⟩
  · obtain ⟨text, message⟩ := blank.events event member
    rw [message] at browsers
    cases browsers
  · rw [blank.log]
    exact List.Pairwise.nil
  · rw [blank.log] at member
    exact (List.not_mem_nil member).elim

omit [Sha256] [ByteDigests] [RegistrationSdk] in
theorem GrantedOnce.same {phase : CreatorRegistrationPhase} {j : Nat} {first second : RegistrationEntry}
    (once : GrantedOnce phase s) (member : (i, first) ∈ s.log) (member' : (j, second) ∈ s.log)
    (granted : grants phase first = true) (granted' : grants phase second = true) : i = j := by
  by_contra apart
  have different : (i, first) ≠ (j, second) := fun same => apart (Prod.mk.inj same).1
  have symmetric : Std.Symm fun (first second : Nat × RegistrationEntry) =>
      grants phase first.2 = false ∨ grants phase second.2 = false := ⟨fun _ _ either => either.symm⟩
  rcases once.once.forall member member' different with none | none
  · rw [granted] at none
    cases none
  · rw [granted'] at none
    cases none

end

def Prepares (pool : RegistrationPool) (i : Nat) (phase : CreatorRegistrationPhase)
    (response : CreatorRegistrationPrepareResponse) : Prop :=
  ∃ userId requesterAddress, pool.threads[i]? = some ⟨.prepare userId phase requesterAddress, .done (.ok (.prepared response))⟩

section
variable [Sha256] [ByteDigests] [RegistrationSdk] {column : JsonbColumn} {deploymentId : String} {pool : RegistrationPool}

theorem RegistrationReach.prepared {permits : Circumstance} (reach : RegistrationReach column deploymentId permits pool) {i : Nat}
    {phase : CreatorRegistrationPhase} {response : CreatorRegistrationPrepareResponse} (prepares : Prepares pool i phase response) :
    ∃ startedAt userId requesterAddress prepared,
      (i, (⟨.ensureIntent startedAt userId (some phase) requesterAddress true, .ok prepared⟩ : RegistrationEntry)) ∈ pool.state.log ∧
        prepareResponse deploymentId phase prepared = .ok response := by
  obtain ⟨userId, requesterAddress, found⟩ := prepares
  have answered := System.Reach.returned reach (registration_logs permits) blank_log (request_keeps deploymentId) found _ rfl
  obtain ⟨startedAt, prepared, member, made⟩ := answered
  exact ⟨startedAt, userId, requesterAddress, prepared, System.mem_ownCalls.mp member, made⟩

omit [Sha256] in
/-- The flags and the agent of an answer to `prepare`. -/
theorem prepareResponse_eq_ok {phase : CreatorRegistrationPhase} {prepared : Prepared}
    {response : CreatorRegistrationPrepareResponse} (made : prepareResponse deploymentId phase prepared = .ok response) :
    match phase with
    | .mint => response.canMint = prepared.reservedPhase ∧ response.canSetUri = (progressOf prepared.events).canSetUri
    | .uri => response.canMint = (progressOf prepared.events).canMint ∧ response.canSetUri = prepared.reservedPhase ∧
      response.agentId.isSome = true ∧ response.agentId = (progressOf prepared.events).agentId := by
  obtain ⟨status, shown, rest⟩ := bind_eq_ok.mp made
  have grants := statusFromEvents_grants shown
  have agent := statusFromEvents_agentId shown
  cases phase with
  | mint =>
    cases rest
    exact ⟨rfl, grants.2⟩
  | uri =>
    cases known : status.agentId with
    | none =>
      rw [known] at rest
      cases rest
    | some agentId =>
      rw [known] at rest
      obtain ⟨file, _, rest⟩ := bind_eq_ok.mp rest
      obtain ⟨uri, _, rest⟩ := bind_eq_ok.mp rest
      cases rest
      exact ⟨grants.1, rfl, rfl, by rw [← agent, known]⟩

def Confirmed (s : RegistrationState) : Prop :=
  ∀ i startedAt userId requesterAddress prepared,
    (i, (⟨.ensureIntent startedAt userId (some .uri) requesterAddress true, .ok prepared⟩ : RegistrationEntry)) ∈ s.log →
      prepared.reservedPhase = true → ∃ event ∈ s.events, event.Confirms (progressOf prepared.events).agentId

theorem grants_confirmed {startedAt : Int} {userId : String} {requesterAddress : Option String} {prepared : Prepared}
    {s s' : RegistrationState}
    (called : RegistrationCall.exec column deploymentId (.ensureIntent startedAt userId (some .uri) requesterAddress true) s
      (.ok prepared) s') (objects : Objects s.events) (granted : prepared.reservedPhase = true) :
    ∃ event ∈ s'.events, event.Confirms (progressOf prepared.events).agentId := by
  obtain ⟨transaction, _, commits⟩ := called
  obtain ⟨stored, status, kept, shown, reserved, same⟩ := ensureIntent_eq_ok commits.ok
  have inside : Objects stored := by
    rcases storedIntent_eq_ok kept with ⟨_, rfl⟩ | ⟨_, _, rfl⟩
    · exact objects
    · exact objects.snoc (recordedRow_holds (intentRefs_nodup _))
  rcases reserve_eq_ok reserved with ⟨none, _⟩ | ⟨phase, asked, _, _, reserves⟩
  · rw [granted] at none
    cases none
  · cases asked
    generalize s'.events = after at reserves same
    cases reserves with
    | uri can =>
      have can := (statusFromEvents_grants shown).2 ▸ can
      have sorted : Objects (eventsOf stored) := inside.mono fun event member => mem_eventsOf.mp member
      obtain ⟨event, member, confirms⟩ := mintStatus_event (canSetUri_confirmed sorted can).1
      refine ⟨event, List.mem_append_left _ (mem_eventsOf.mp member), ?_⟩
      rw [same, agentId_append, canSetUri_agentId can]
      · exact confirms
      · intro other new phase
        rw [List.mem_singleton.mp new]
        cases phase <;> rfl

theorem RegistrationReach.confirmed {permits : Circumstance} (reach : RegistrationReach column deploymentId permits pool) :
    Confirmed pool.state := by
  have both : Objects pool.state.events ∧ Confirmed pool.state := by
    refine @RegistrationReach.guarded _ _ _ column deploymentId permits pool (fun s => Objects s.events ∧ Confirmed s) reach
      (fun s blank => ⟨fun event member browsers => ?_, ?_⟩) (fun s s' i op answer _ called logged _ held => ⟨?_, ?_⟩) fun before after moved held => ⟨?_, ?_⟩
    · obtain ⟨text, message⟩ := blank.events event member
      rw [message] at browsers
      cases browsers
    · intro i startedAt userId requesterAddress prepared member
      rw [blank.log] at member
      exact (List.not_mem_nil member).elim
    · exact (exec_adds called).keeps (fun table after added objects => added.objects objects) held.1
    · intro j startedAt userId requesterAddress prepared member granted
      rw [logged] at member
      rcases List.mem_append.mp member with old | new
      · obtain ⟨event, inside, confirms⟩ := held.2 j startedAt userId requesterAddress prepared old granted
        exact ⟨event, (exec_adds called).grows event inside, confirms⟩
      · cases List.mem_singleton.mp new
        exact grants_confirmed called held.1 granted
    · exact fun event member browsers => held.1 event (moved.browsers member browsers) browsers
    · intro i startedAt userId requesterAddress prepared member granted
      obtain ⟨event, inside, confirms⟩ := held.2 i startedAt userId requesterAddress prepared (moved.log ▸ member) granted
      exact ⟨event, moved.mem inside, confirms⟩
  exact both.2

theorem RegistrationReach.unminted {permits : Circumstance} (reach : RegistrationReach column deploymentId permits pool) {i : Nat}
    {response : CreatorRegistrationPrepareResponse} (prepares : Prepares pool i .uri response) : response.canMint = false := by
  obtain ⟨startedAt, userId, requesterAddress, prepared, member, made⟩ := reach.prepared prepares
  obtain ⟨canMint, _, known, agent⟩ := prepareResponse_eq_ok made
  obtain ⟨inside, backed⟩ := reach.witnessed.prepared _ _ _ _ _ _ _ member
  have objects : Objects prepared.events := reach.witnessed.objects.mono inside
  have ofMint : ∃ event ∈ prepared.events, event.ofMint = true := by
    obtain ⟨event, found, kind⟩ := agentId_event (agent ▸ known)
    rcases kind with ofMint | ofUri
    · exact ⟨event, found, ofMint⟩
    · exact backed ⟨event, found, ofUri⟩
  obtain ⟨event, found, ofMint⟩ := ofMint
  rw [canMint, Bool.eq_false_iff]
  intro can
  rw [canMint_unminted objects can event found] at ofMint
  cases ofMint

end

end Bnbera.Registration
