import Bnbera.Registration.Sampling

namespace Bnbera.Registration

open Creator Interleaving Publication

section
attribute [local instance] configurationSha256 registrationDigests registrationSdk

def sampleRow (id : Nat) (statusMessage : StatusMessage) (refs : EventReference) (retryable : Bool) : EventRow :=
  ⟨statusMessage, .obj refs, none, retryable, 0, id⟩

def sampleResult : CreatorRegistrationResultInput := ⟨.mint, some "0x1", none, .confirmed, some "7", none⟩

section
variable (intent : CreatorRegistrationIntent)

def mintTable : List EventRow :=
  [sampleRow 0 .intent (intentRefs intent) true, sampleRow 1 .mintIntent (mintIntentRefs intent 100) true]

def confirmedTable : List EventRow :=
  mintTable intent ++ [sampleRow 4 .mintResult (resultRefs sampleResult (some intent.uriDigest)) false]

end

def sampleState (events : List EventRow) (log : List (Nat × RegistrationEntry)) : RegistrationState :=
  ⟨events, fun _ => some (sampleRegistration "Agent"), 0, log⟩

theorem sample_survives : Survives writtenColumn (sampleIntent "Agent") where
  file := rfl
  endpoint := by decide
  ownerAddress := by decide
  agentWallet := by decide
  name := by decide

theorem sample_stored {events : List EventRow}
    (last : lastIntent events = some (sampleRow 0 .intent (intentRefs (sampleIntent "Agent")) true)) :
    asIntent events sampleDeployment = .ok (some (sampleIntent "Agent")) := by
  have built := (buildIntent_built (sample_built sample_bound.1)).1
  have back : writtenColumn.read (.obj (intentRefs (sampleIntent "Agent"))) = .obj (intentRefs (sampleIntent "Agent")) := rfl
  rcases asIntent_stored built last back.symm with ⟨read, _⟩ | ⟨_, lost⟩
  · exact read
  · exact absurd sample_survives lost

section
variable (log : List (Nat × RegistrationEntry))

theorem sample_mint :
    ensureIntent writtenColumn ((sampleState [] log).transaction 0 "user-1") "user-1" sampleDeployment (some .mint) none true [] =
      .ok (⟨sampleIntent "Agent", mintTable (sampleIntent "Agent"), true⟩, mintTable (sampleIntent "Agent")) := by
  have stored : storedIntent writtenColumn ((sampleState [] log).transaction 0 "user-1") "user-1" sampleDeployment none [] =
      .ok (sampleIntent "Agent", [sampleRow 0 .intent (intentRefs (sampleIntent "Agent")) true]) :=
    bind_eq_ok.mpr ⟨none, rfl, bind_eq_ok.mpr ⟨_, sample_built sample_bound.1, rfl⟩⟩
  exact bind_eq_ok.mpr ⟨_, rfl, bind_eq_ok.mpr ⟨_, stored, bind_eq_ok.mpr ⟨_, rfl, bind_eq_ok.mpr ⟨_, rfl, rfl⟩⟩⟩⟩

theorem sample_unreserved {events : List EventRow} {phase : Option CreatorRegistrationPhase} {reservePhase : Bool}
    {status : CreatorRegistrationStatus}
    (last : lastIntent (eventsOf events) = some (sampleRow 0 .intent (intentRefs (sampleIntent "Agent")) true))
    (shown : statusFromEvents sampleDeployment (eventsOf events) (sampleIntent "Agent") = .ok status)
    (nothing : reserve writtenColumn ((sampleState events log).transaction 0 "user-1") phase reservePhase (sampleIntent "Agent") status
      events = .ok (false, events)) :
    ensureIntent writtenColumn ((sampleState events log).transaction 0 "user-1") "user-1" sampleDeployment phase none reservePhase
      events = .ok (⟨sampleIntent "Agent", eventsOf events, false⟩, events) := by
  have stored : storedIntent writtenColumn ((sampleState events log).transaction 0 "user-1") "user-1" sampleDeployment none events =
      .ok (sampleIntent "Agent", events) :=
    bind_eq_ok.mpr ⟨_, sample_stored last, rfl⟩
  exact bind_eq_ok.mpr ⟨_, rfl, bind_eq_ok.mpr ⟨_, stored, bind_eq_ok.mpr ⟨_, shown, bind_eq_ok.mpr ⟨_, nothing, rfl⟩⟩⟩⟩

theorem sample_recorded : recordResult writtenColumn ((sampleState (mintTable (sampleIntent "Agent")) log).transaction 0 "user-1")
    sampleDeployment sampleResult none (sampleIntent "Agent") (mintTable (sampleIntent "Agent")) =
      .ok (none, confirmedTable (sampleIntent "Agent")) := by
  have callsId : assertCallsId sampleResult.callsId = .ok (some "0x1") := rfl
  have agentId : assertAgentId sampleResult.agentId = .ok (some "7") := rfl
  refine bind_eq_ok.mpr ⟨_, rfl, bind_eq_ok.mpr ⟨_, sample_stored rfl, bind_eq_ok.mpr ⟨_, rfl, ?_⟩⟩⟩
  refine bind_eq_ok.mpr ⟨(), rfl, bind_eq_ok.mpr ⟨_, callsId, bind_eq_ok.mpr ⟨none, rfl, bind_eq_ok.mpr ⟨_, agentId, ?_⟩⟩⟩⟩
  exact bind_eq_ok.mpr ⟨none, rfl, bind_eq_ok.mpr ⟨_, rfl, bind_eq_ok.mpr ⟨(), rfl, rfl⟩⟩⟩

end

theorem sample_reload (log : List (Nat × RegistrationEntry)) (i : Nat) : ∃ response,
    Alone writtenColumn sampleDeployment i (sampleState (confirmedTable (sampleIntent "Agent")) log) (.prepare "user-1" .mint none)
        (.prepared response) (confirmedTable (sampleIntent "Agent")) ∧ response.canSetUri = true := by
  have made : prepareResponse sampleDeployment .mint
      ⟨sampleIntent "Agent", eventsOf (confirmedTable (sampleIntent "Agent")), false⟩ = .ok _ := rfl
  exact ⟨_, prepare_alone (sample_unreserved log rfl rfl rfl) made, rfl⟩

def sampleFinal : Json := .obj (setField (eventRefs (sampleFile "Agent")) "registrations" (.arr [.obj
  [("agentId", .nat 7), ("agentRegistry", .str ("eip155:97:" ++ creatorErc8004Registry))]]))

theorem sampleFinal_bound : sampleFinal.bound ≤ 1475 := by decide +kernel

theorem sample_finalized : finalizedCreatorRegistrationFile (sampleFile "Agent") "7" = .ok sampleFinal :=
  bind_eq_ok.mpr ⟨some "7", rfl, rfl⟩

def updateTable : List EventRow := confirmedTable (sampleIntent "Agent") ++ [sampleRow 8 .uriIntent
  (uriIntentRefs (sampleIntent "Agent") "7" sampleFinal (encodeErc8004AgentUri sampleFinal)) true]

theorem sample_update (log : List (Nat × RegistrationEntry)) (i : Nat) : ∃ response,
    Alone writtenColumn sampleDeployment i (sampleState (confirmedTable (sampleIntent "Agent")) log) (.prepare "user-1" .uri none)
        (.prepared response) updateTable ∧ response.canSetUri = true := by
  have encoded := encodedCreatorRegistrationUri_ok sampleFinal_bound
  have stored : storedIntent writtenColumn ((sampleState (confirmedTable (sampleIntent "Agent")) log).transaction 0 "user-1") "user-1"
      sampleDeployment none (confirmedTable (sampleIntent "Agent")) = .ok (sampleIntent "Agent", confirmedTable (sampleIntent "Agent")) :=
    bind_eq_ok.mpr ⟨_, sample_stored rfl, rfl⟩
  have reserved : reserveUri writtenColumn ((sampleState (confirmedTable (sampleIntent "Agent")) log).transaction 0 "user-1")
      (sampleIntent "Agent") true (some "7") (confirmedTable (sampleIntent "Agent")) = .ok (true, updateTable) :=
    bind_eq_ok.mpr ⟨_, sample_finalized, bind_eq_ok.mpr ⟨_, encoded, rfl⟩⟩
  have done : ensureIntent writtenColumn ((sampleState (confirmedTable (sampleIntent "Agent")) log).transaction 0 "user-1") "user-1"
      sampleDeployment (some .uri) none true (confirmedTable (sampleIntent "Agent")) =
        .ok (⟨sampleIntent "Agent", eventsOf updateTable, true⟩, updateTable) :=
    bind_eq_ok.mpr ⟨_, rfl, bind_eq_ok.mpr ⟨_, stored, bind_eq_ok.mpr ⟨_, rfl, bind_eq_ok.mpr ⟨_, reserved, rfl⟩⟩⟩⟩
  have made : prepareResponse sampleDeployment .uri ⟨sampleIntent "Agent", eventsOf updateTable, true⟩ = .ok _ :=
    bind_eq_ok.mpr ⟨_, rfl, bind_eq_ok.mpr ⟨_, sample_finalized, bind_eq_ok.mpr ⟨_, encoded, rfl⟩⟩⟩
  exact ⟨_, prepare_alone done made, rfl⟩

theorem sample_blank : RegistrationReach writtenColumn sampleDeployment anyTime ⟨sampleState [] [], []⟩ :=
  .start ⟨fun _ member => (List.not_mem_nil member).elim, rfl⟩

theorem sample_registration : ∃ log minted recorded first second updated,
    RegistrationReach writtenColumn sampleDeployment anyTime ⟨sampleState updateTable log,
      [⟨.prepare "user-1" .mint none, .done (.ok (.prepared minted))⟩,
        ⟨.recordResult "user-1" sampleResult none, .done (.ok (.status recorded))⟩,
        ⟨.prepare "user-1" .mint none, .done (.ok (.prepared first))⟩,
        ⟨.prepare "user-1" .mint none, .done (.ok (.prepared second))⟩,
        ⟨.prepare "user-1" .uri none, .done (.ok (.prepared updated))⟩]⟩ ∧
      minted.canMint = true ∧ first.canSetUri = true ∧ second.canSetUri = true ∧ updated.canSetUri = true := by
  obtain ⟨log₁, reach, _⟩ := sample_blank.alone (fun _ _ _ => trivial) (prepare_alone (sample_mint []) rfl)
  obtain ⟨log₂, reach, _⟩ := RegistrationReach.alone reach (fun _ _ _ => trivial)
    (recordResult_alone (sample_unreserved log₁ rfl rfl rfl) (sample_recorded log₁) (sample_stored rfl) rfl)
  obtain ⟨first, alone, shown⟩ := sample_reload log₂ 2
  obtain ⟨log₃, reach, _⟩ := RegistrationReach.alone reach (fun _ _ _ => trivial) alone
  obtain ⟨second, alone, shown'⟩ := sample_reload log₃ 3
  obtain ⟨log₄, reach, _⟩ := RegistrationReach.alone reach (fun _ _ _ => trivial) alone
  obtain ⟨updated, alone, granted⟩ := sample_update log₄ 4
  obtain ⟨log₅, reach, _⟩ := RegistrationReach.alone reach (fun _ _ _ => trivial) alone
  exact ⟨log₅, _, _, first, second, updated, reach, rfl, shown, shown', granted⟩

end

section
variable [Sha256] [ByteDigests] [RegistrationSdk] {column : JsonbColumn} {deploymentId : String} {pool : RegistrationPool}

/-- One signing grant for each phase: the mint is granted to one prepare, and the update of the URI to one prepare of the
URI. The flag for the update is raised only behind an event that confirms the mint, and in a grant for the agent of
that event. -/
theorem registration_grantedOnce (reach : RegistrationReach column deploymentId anyTime pool) :
    (∀ i j phase phase' response response', Prepares pool i phase response → Prepares pool j phase' response' →
      response.canMint = true → response'.canMint = true → i = j) ∧
    (∀ i j response response', Prepares pool i .uri response → Prepares pool j .uri response' →
      response.canSetUri = true → response'.canSetUri = true → i = j) ∧
    ∀ i phase response, Prepares pool i phase response → response.canSetUri = true →
      ∃ event ∈ pool.state.events, ∃ agentId, event.Confirms agentId ∧
        (phase = .uri → agentId.isSome = true ∧ response.agentId = agentId) := by
  have mintGrant : ∀ i phase response, Prepares pool i phase response → response.canMint = true →
      ∃ entry, (i, entry) ∈ pool.state.log ∧ grants .mint entry = true := by
    intro i phase response prepares can
    cases phase with
    | mint =>
      obtain ⟨startedAt, userId, requesterAddress, prepared, member, made⟩ := reach.prepared prepares
      have granted : prepared.reservedPhase = true := (prepareResponse_eq_ok made).1 ▸ can
      exact ⟨_, member, by simp only [grants, granted, decide_true, Bool.and_self]⟩
    | uri =>
      rw [reach.unminted prepares] at can
      cases can
  have uriGrant : ∀ i response, Prepares pool i .uri response → response.canSetUri = true →
      ∃ entry, (i, entry) ∈ pool.state.log ∧ grants .uri entry = true := by
    intro i response prepares can
    obtain ⟨startedAt, userId, requesterAddress, prepared, member, made⟩ := reach.prepared prepares
    have granted : prepared.reservedPhase = true := (prepareResponse_eq_ok made).2.1 ▸ can
    exact ⟨_, member, by simp only [grants, granted, decide_true, Bool.and_self]⟩
  refine ⟨fun i j phase phase' response response' first second can can' => ?_,
    fun i j response response' first second can can' => ?_, fun i phase response prepares can => ?_⟩
  · obtain ⟨entry, member, granted⟩ := mintGrant i phase response first can
    obtain ⟨entry', member', granted'⟩ := mintGrant j phase' response' second can'
    exact (reach.grantedOnce .mint).same member member' granted granted'
  · obtain ⟨entry, member, granted⟩ := uriGrant i response first can
    obtain ⟨entry', member', granted'⟩ := uriGrant j response' second can'
    exact (reach.grantedOnce .uri).same member member' granted granted'
  · obtain ⟨startedAt, userId, requesterAddress, prepared, member, made⟩ := reach.prepared prepares
    have flags := prepareResponse_eq_ok made
    cases phase with
    | mint =>
      have inside := (reach.witnessed.prepared _ _ _ _ _ _ _ member).1
      have objects : Objects prepared.events := reach.witnessed.objects.mono inside
      obtain ⟨event, found, confirms⟩ := mintStatus_event (canSetUri_confirmed objects (flags.2 ▸ can)).1
      exact ⟨event, inside event found, _, confirms, fun absent => (nomatch absent)⟩
    | uri =>
      obtain ⟨_, granted, known, agent⟩ := flags
      obtain ⟨event, found, confirms⟩ := reach.confirmed _ _ _ _ _ member (granted ▸ can)
      exact ⟨event, found, _, confirms, fun _ => ⟨agent ▸ known, agent⟩⟩

end

section
attribute [local instance] configurationSha256 registrationDigests registrationSdk

/-- The flag for the update of the URI is answered to two prepares, where a mint was confirmed and its page is loaded again. -/
theorem registration_setUri_shown_twice : ¬∀ (pool : RegistrationPool),
    RegistrationReach writtenColumn sampleDeployment anyTime pool → ∀ i j phase phase' response response',
      Prepares pool i phase response → Prepares pool j phase' response' →
      response.canSetUri = true → response'.canSetUri = true → i = j := by
  intro once
  obtain ⟨log, minted, recorded, first, second, updated, reach, _, shown, shown', _⟩ := sample_registration
  have same := once _ reach 2 3 .mint .mint first second ⟨_, _, rfl⟩ ⟨_, _, rfl⟩ shown shown'
  cases same

/-- In that run the theorem gives the event that confirms the agent of the granted update. -/
theorem registration_grantedOnce_sample : ∃ pool updated, Prepares pool 4 .uri updated ∧ updated.canSetUri = true ∧
    ∃ event ∈ pool.state.events, event.Confirms updated.agentId := by
  obtain ⟨log, minted, recorded, first, second, updated, reach, _, _, _, granted⟩ := sample_registration
  obtain ⟨_, _, confirmed⟩ := registration_grantedOnce reach
  obtain ⟨event, member, agentId, confirms, same⟩ := confirmed 4 .uri updated ⟨_, _, rfl⟩ granted
  exact ⟨_, updated, ⟨_, _, rfl⟩, granted, event, member, (same rfl).2 ▸ confirms⟩

end

end Bnbera.Registration
