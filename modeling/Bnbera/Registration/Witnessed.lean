import Bnbera.Registration.Contracts

namespace Bnbera.Registration

open Creator Interleaving Publication

def EventRow.ofMint (event : EventRow) : Bool :=
  event.statusMessage = .mintIntent || event.statusMessage = .mintResult || event.settles .mint

def EventRow.ofUri (event : EventRow) : Bool :=
  event.statusMessage = .uriIntent || event.statusMessage = .uriResult || event.settles .uri

theorem EventRow.settles_message {event : EventRow} {phase : CreatorRegistrationPhase} (settles : event.settles phase = true) :
    event.statusMessage = .reconcile := by
  simp only [EventRow.settles, Bool.and_eq_true, decide_eq_true_eq] at settles
  exact settles.1.1

def Backed (table : List EventRow) : Prop :=
  (∃ event ∈ table, event.ofUri = true) → ∃ event ∈ table, event.ofMint = true

section
variable {events : List EventRow}

theorem effectiveMintResult_event {fields : EventReference} (found : (progressOf events).effectiveMintResult = some fields) :
    ∃ event ∈ events, (event.settles .mint = true ∨ event.statusMessage = .mintResult) ∧ event.refs = some fields := by
  rw [Progress.effectiveMintResult, progressOf_reconciledMintResult, progressOf_mintResult, Option.or_eq_some_iff] at found
  rcases found with reconciled | ⟨_, recorded⟩
  · obtain ⟨event, last, refs⟩ := Option.bind_eq_some_iff.mp reconciled
    obtain ⟨member, settles⟩ := lastOf_mem last
    exact ⟨event, member, .inl settles, refs⟩
  · obtain ⟨event, last, refs⟩ := Option.bind_eq_some_iff.mp recorded
    obtain ⟨member, message⟩ := lastOf_mem last
    exact ⟨event, member, .inr (of_decide_eq_true message), refs⟩

theorem effectiveUriResult_event {fields : EventReference} (found : (progressOf events).effectiveUriResult = some fields) :
    ∃ event ∈ events, (event.settles .uri = true ∨ event.statusMessage = .uriResult) ∧ event.refs = some fields := by
  rw [Progress.effectiveUriResult, progressOf_reconciledUriResult, progressOf_uriResult, Option.or_eq_some_iff] at found
  rcases found with reconciled | ⟨_, recorded⟩
  · obtain ⟨event, last, refs⟩ := Option.bind_eq_some_iff.mp reconciled
    obtain ⟨member, settles⟩ := lastOf_mem last
    exact ⟨event, member, .inl settles, refs⟩
  · obtain ⟨event, last, refs⟩ := Option.bind_eq_some_iff.mp recorded
    obtain ⟨member, message⟩ := lastOf_mem last
    exact ⟨event, member, .inr (of_decide_eq_true message), refs⟩

theorem refsText_some {refs : Option EventReference} {key text : String} (found : refsText refs key = some text) :
    ∃ fields, refs = some fields := by
  cases refs with
  | none => cases found
  | some fields => exact ⟨fields, rfl⟩

theorem agentId_event (known : (progressOf events).agentId.isSome = true) :
    ∃ event ∈ events, event.ofMint = true ∨ event.ofUri = true := by
  obtain ⟨agentId, found⟩ := Option.isSome_iff_exists.mp known
  rw [Progress.agentId, Option.or_eq_some_iff] at found
  rcases found with named | ⟨_, named⟩
  · obtain ⟨fields, effective⟩ := refsText_some named
    obtain ⟨event, member, kind, _⟩ := effectiveUriResult_event effective
    refine ⟨event, member, .inr ?_⟩
    rcases kind with settles | message
    · rw [EventRow.ofUri, settles, Bool.or_true]
    · simp only [EventRow.ofUri, message, reduceCtorEq, decide_false, decide_true, Bool.or_true, Bool.true_or]
  · obtain ⟨fields, effective⟩ := refsText_some named
    obtain ⟨event, member, kind, _⟩ := effectiveMintResult_event effective
    refine ⟨event, member, .inl ?_⟩
    rcases kind with settles | message
    · rw [EventRow.ofMint, settles, Bool.or_true]
    · simp only [EventRow.ofMint, message, reduceCtorEq, decide_false, decide_true, Bool.or_true, Bool.true_or]

def EventRow.Confirms (event : EventRow) (agentId : Option String) : Prop :=
  event.ofMint = true ∧ event.text "status" = some "CONFIRMED" ∧ event.text "agentId" = agentId

theorem mintStatus_event (confirmed : (progressOf events).mintStatus = some "CONFIRMED") :
    ∃ event ∈ events, event.Confirms (refsText (progressOf events).effectiveMintResult "agentId") := by
  obtain ⟨fields, effective⟩ := refsText_some confirmed
  obtain ⟨event, member, kind, refs⟩ := effectiveMintResult_event effective
  have same : event.refs = (progressOf events).effectiveMintResult := by rw [refs, effective]
  refine ⟨event, member, ?_, ?_, ?_⟩
  · rcases kind with settles | message
    · rw [EventRow.ofMint, settles, Bool.or_true]
    · simp only [EventRow.ofMint, message, reduceCtorEq, decide_false, decide_true, Bool.or_true, Bool.true_or]
  · rw [EventRow.text, same]
    exact confirmed
  · rw [EventRow.text, same]

theorem Objects.snoc {event : EventRow} {refs : EventReference} (objects : Objects events) (holds : event.Holds refs) :
    Objects (events ++ [event]) := by
  intro other member browsers
  rcases List.mem_append.mp member with old | new
  · exact objects other old browsers
  · obtain ⟨fields, found, _⟩ := holds
    exact ⟨fields, List.mem_singleton.mp new ▸ found⟩

theorem Backed.snoc {event : EventRow} (backed : Backed events)
    (mine : event.ofUri = true → ∃ event ∈ events, event.ofMint = true) : Backed (events ++ [event]) := by
  rintro ⟨other, member, ofUri⟩
  have earlier : ∃ event ∈ events, event.ofMint = true := by
    rcases List.mem_append.mp member with old | new
    · exact backed ⟨other, old, ofUri⟩
    · exact mine (List.mem_singleton.mp new ▸ ofUri)
  obtain ⟨first, inside, ofMint⟩ := earlier
  exact ⟨first, List.mem_append_left _ inside, ofMint⟩

theorem ofUri_message {event : EventRow} (ofUri : event.ofUri = true) : event.statusMessage = .uriIntent ∨
    event.statusMessage = .uriResult ∨ event.statusMessage = .reconcile := by
  simp only [EventRow.ofUri, Bool.or_eq_true, decide_eq_true_eq] at ofUri
  rcases ofUri with (intent | result) | settles
  · exact .inl intent
  · exact .inr (.inl result)
  · exact .inr (.inr (event.settles_message settles))

theorem settles_browsers (phase : CreatorRegistrationPhase) (event : EventRow) (settles : event.settles phase = true) :
    event.statusMessage.isBrowsers = true := by
  rw [event.settles_message settles]
  rfl

theorem message_browsers {message : StatusMessage} (browsers : message.isBrowsers = true) (event : EventRow)
    (same : decide (event.statusMessage = message) = true) : event.statusMessage.isBrowsers = true := by
  rw [of_decide_eq_true same]
  exact browsers

theorem canMint_unminted (objects : Objects events) (can : (progressOf events).canMint = true) :
    ∀ event ∈ events, event.ofMint = false := by
  simp only [Progress.canMint, Bool.and_eq_true, Option.isNone_iff_eq_none] at can
  obtain ⟨⟨intent, result⟩, reconciled⟩ := can
  rw [progressOf_mintIntent] at intent
  rw [progressOf_mintResult] at result
  rw [progressOf_reconciledMintResult] at reconciled
  intro event member
  have first := objects.lastOf_refs (message_browsers rfl) intent event member
  have second := objects.lastOf_refs (message_browsers rfl) result event member
  have third := objects.lastOf_refs (settles_browsers .mint) reconciled event member
  rw [EventRow.ofMint, first, second, third]
  rfl

theorem canSetUri_confirmed (objects : Objects events) (can : (progressOf events).canSetUri = true) :
    (progressOf events).mintStatus = some "CONFIRMED" ∧ ∀ event ∈ events, event.ofUri = false := by
  simp only [Progress.canSetUri, Bool.and_eq_true, Option.isNone_iff_eq_none, decide_eq_true_eq] at can
  obtain ⟨⟨⟨confirmed, intent⟩, result⟩, reconciled⟩ := can
  rw [progressOf_uriIntent] at intent
  rw [progressOf_uriResult] at result
  rw [progressOf_reconciledUriResult] at reconciled
  refine ⟨confirmed, fun event member => ?_⟩
  have first := objects.lastOf_refs (message_browsers rfl) intent event member
  have second := objects.lastOf_refs (message_browsers rfl) result event member
  have third := objects.lastOf_refs (settles_browsers .uri) reconciled event member
  rw [EventRow.ofUri, first, second, third]
  rfl

theorem canSetUri_agentId (can : (progressOf events).canSetUri = true) :
    (progressOf events).agentId = refsText (progressOf events).effectiveMintResult "agentId" := by
  simp only [Progress.canSetUri, Bool.and_eq_true, Option.isNone_iff_eq_none] at can
  rw [Progress.agentId, Progress.effectiveUriResult, can.2, can.1.2]
  rfl

end

section
variable [Sha256] [ByteDigests] [RegistrationSdk] {column : JsonbColumn} {deploymentId : String} {op : RegistrationCall}
  {table after : List EventRow}

theorem Added.holds (added : Added column deploymentId op table after) :
    ∃ event refs, after = table ++ [event] ∧ event.Holds refs := by
  cases added with
  | intent => exact ⟨_, _, rfl, recordedRow_holds (intentRefs_nodup _)⟩
  | reservation _ _ reserves =>
    cases reserves with
    | mint => exact ⟨_, _, rfl, recordedRow_holds (mintIntentRefs_nodup _ _)⟩
    | uri => exact ⟨_, _, rfl, recordedRow_holds (uriIntentRefs_nodup _ _ _ _)⟩
  | result => exact ⟨_, _, rfl, recordedRow_holds (resultRefs_nodup _ _)⟩
  | finding => exact ⟨_, _, rfl, recordedRow_holds (Finding.event_nodup _)⟩
  | operation => exact ⟨_, _, rfl, recordedRow_holds (operationRefs_nodup _ _ _)⟩

theorem Added.objects (added : Added column deploymentId op table after) (objects : Objects table) : Objects after := by
  obtain ⟨event, refs, rfl, holds⟩ := added.holds
  exact objects.snoc holds

omit [Sha256] in
theorem Reserves.unreserved {transaction : Transaction} {intent : CreatorRegistrationIntent} {status : CreatorRegistrationStatus}
    {phase : CreatorRegistrationPhase} (reserves : Reserves column transaction intent status table phase after)
    (shown : statusFromEvents deploymentId (eventsOf table) intent = .ok status) (objects : Objects table) :
    ∀ event ∈ table, event.statusMessage ≠ phaseIntent phase := by
  have sorted : Objects (eventsOf table) := objects.mono fun event member => mem_eventsOf.mp member
  obtain ⟨canMint, canSetUri⟩ := statusFromEvents_grants shown
  intro event member message
  have inside : event ∈ eventsOf table := mem_eventsOf.mpr member
  cases reserves with
  | mint can =>
    have none := canMint_unminted sorted (canMint ▸ can) event inside
    simp only [EventRow.ofMint, Bool.or_eq_false_iff, decide_eq_false_iff_not] at none
    exact none.1.1 message
  | uri can =>
    have none := (canSetUri_confirmed sorted (canSetUri ▸ can)).2 event inside
    simp only [EventRow.ofUri, Bool.or_eq_false_iff, decide_eq_false_iff_not] at none
    exact none.1.1 message

omit [Sha256] in
theorem Reserves.reserved {transaction : Transaction} {intent : CreatorRegistrationIntent} {status : CreatorRegistrationStatus}
    {phase : CreatorRegistrationPhase} (reserves : Reserves column transaction intent status table phase after) :
    ∃ event ∈ after, event.statusMessage = phaseIntent phase := by
  cases reserves <;> exact ⟨_, List.mem_append_right _ (List.mem_singleton_self _), rfl⟩

theorem Added.backed (added : Added column deploymentId op table after) (objects : Objects table) (backed : Backed table)
    (shown : ∀ startedAt userId requesterAddress finding, op = .appendReconcile startedAt userId requesterAddress finding →
      finding.outcome.map (·.1) = some .uri → ∃ event ∈ table, event.ofMint = true) : Backed after := by
  cases added with
  | intent =>
    refine backed.snoc fun ofUri => ?_
    rcases ofUri_message ofUri with message | message | message <;> cases message
  | reservation _ current reserves =>
    cases reserves with
    | mint =>
      refine backed.snoc fun ofUri => ?_
      rcases ofUri_message ofUri with message | message | message <;> cases message
    | uri can =>
      refine backed.snoc fun _ => ?_
      have sorted : Objects (eventsOf table) := objects.mono fun event member => mem_eventsOf.mp member
      obtain ⟨confirmed, _⟩ := canSetUri_confirmed sorted ((statusFromEvents_grants current).2 ▸ can)
      obtain ⟨event, member, confirms⟩ := mintStatus_event confirmed
      exact ⟨event, mem_eventsOf.mp member, confirms.1⟩
  | @result _ _ _ _ _ input _ _ _ _ _ _ granted =>
    refine backed.snoc fun ofUri => ?_
    cases phase : input.phase with
    | mint =>
      rw [phase] at ofUri
      rcases ofUri_message ofUri with message | message | message <;> cases message
    | uri =>
      obtain ⟨event, member, message⟩ := granted
      rw [phase] at message
      refine backed ⟨event, member, ?_⟩
      simp only [EventRow.ofUri, message, phaseIntent, decide_true, Bool.true_or]
  | @finding startedAt userId requesterAddress _ finding =>
    refine backed.snoc fun ofUri => shown _ _ _ _ rfl ?_
    simp only [EventRow.ofUri, Bool.or_eq_true, decide_eq_true_eq] at ofUri
    rcases ofUri with (message | message) | settles
    · cases message
    · cases message
    · exact finding_settles.mp settles
  | operation =>
    refine backed.snoc fun ofUri => ?_
    rcases ofUri_message ofUri with message | message | message <;> cases message

end

/-- What the log says of the events is there, and what they say of the URI stands on the mint. -/
structure Witnessed (s : RegistrationState) : Prop where
  objects : Objects s.events
  backed : Backed s.events
  read : ∀ i events, (i, (⟨.events, .ok events⟩ : RegistrationEntry)) ∈ s.log → ∀ event ∈ events, event ∈ s.events
  appended : ∀ i startedAt userId requesterAddress finding,
    (i, (⟨.appendReconcile startedAt userId requesterAddress finding, .ok ()⟩ : RegistrationEntry)) ∈ s.log →
      ∃ event ∈ s.events, ∀ phase, event.settles phase = true ↔ finding.outcome.map (·.1) = some phase
  prepared : ∀ i startedAt userId phase requesterAddress reservePhase prepared,
    (i, (⟨.ensureIntent startedAt userId phase requesterAddress reservePhase, .ok prepared⟩ : RegistrationEntry)) ∈ s.log →
      (∀ event ∈ prepared.events, event ∈ s.events) ∧ Backed prepared.events

theorem Witnessed.agent {s : RegistrationState} (witnessed : Witnessed s) {i : Nat} {entry : RegistrationEntry}
    (member : (i, entry) ∈ s.log) (shows : showsAgent entry = true) : ∃ event ∈ s.events, event.ofMint = true := by
  unfold showsAgent at shows
  split at shows
  · obtain ⟨event, inside, kind⟩ := agentId_event shows
    have present := witnessed.read _ _ member event inside
    rcases kind with ofMint | ofUri
    · exact ⟨event, present, ofMint⟩
    · exact witnessed.backed ⟨event, present, ofUri⟩
  · obtain ⟨event, present, settles⟩ := witnessed.appended _ _ _ _ _ member
    refine ⟨event, present, ?_⟩
    rw [EventRow.ofMint, (settles .mint).mpr (of_decide_eq_true shows), Bool.or_true]
  · cases shows

theorem Commits.ok {α : Type} {result : Except RegistrationFailure (α × List EventRow)} {s s' : RegistrationState} {value : α}
    (commits : Commits result s (.ok value) s') : result = .ok (value, s'.events) := by
  rcases commits with ⟨found, done, same | ⟨error, absent⟩⟩ | ⟨_, error, absent⟩
  · cases same
    exact done
  · cases absent
  · cases absent

theorem Reads.ok {α : Type} {value answered : α} {s s' : RegistrationState} (reads : Reads value s (.ok answered) s') :
    answered = value := by
  rcases reads.2 with same | ⟨error, absent⟩
  · exact Except.ok.inj same
  · cases absent

theorem Elsewhere.mem {before after : RegistrationState} (moved : Elsewhere before after) {event : EventRow}
    (member : event ∈ before.events) : event ∈ after.events := by
  obtain ⟨others, same, _⟩ := moved.events
  exact same ▸ List.mem_append_left _ member

theorem Elsewhere.browsers {before after : RegistrationState} (moved : Elsewhere before after) {event : EventRow}
    (member : event ∈ after.events) (browsers : event.statusMessage.isBrowsers = true) : event ∈ before.events := by
  obtain ⟨others, same, other⟩ := moved.events
  rw [same] at member
  rcases List.mem_append.mp member with old | new
  · exact old
  · obtain ⟨text, message⟩ := other event new
    rw [message] at browsers
    cases browsers

theorem ofUri_browsers {event : EventRow} (ofUri : event.ofUri = true) : event.statusMessage.isBrowsers = true := by
  rcases ofUri_message ofUri with message | message | message <;> rw [message] <;> rfl

theorem Witnessed.elsewhere {before after : RegistrationState} (moved : Elsewhere before after) (witnessed : Witnessed before) :
    Witnessed after where
  objects event member browsers := witnessed.objects event (moved.browsers member browsers) browsers
  backed := by
    rintro ⟨event, member, ofUri⟩
    obtain ⟨first, inside, ofMint⟩ := witnessed.backed ⟨event, moved.browsers member (ofUri_browsers ofUri), ofUri⟩
    exact ⟨first, moved.mem inside, ofMint⟩
  read i events member event inside := moved.mem (witnessed.read i events (moved.log ▸ member) event inside)
  appended i startedAt userId requesterAddress finding member := by
    obtain ⟨event, inside, settles⟩ := witnessed.appended i startedAt userId requesterAddress finding (moved.log ▸ member)
    exact ⟨event, moved.mem inside, settles⟩
  prepared i startedAt userId phase requesterAddress reservePhase prepared member := by
    obtain ⟨inside, backed⟩ := witnessed.prepared i startedAt userId phase requesterAddress reservePhase prepared
      (moved.log ▸ member)
    exact ⟨fun event found => moved.mem (inside event found), backed⟩

section
variable [Sha256] [ByteDigests] [RegistrationSdk] {column : JsonbColumn} {deploymentId : String} {permits : Circumstance}
  {pool : RegistrationPool} {s s' : RegistrationState} {i : Nat} {op : RegistrationCall} {answer : op.Answer}

/-- A call that its thread may make keeps the tables and the log together. -/
theorem Witnessed.called (called : op.exec column deploymentId s answer s') (logged : s'.log = s.log ++ [(i, ⟨op, answer⟩)])
    (guarded : callGuard (System.ownCalls s.log i) op) (witnessed : Witnessed s) : Witnessed s' := by
  have adds := exec_adds called
  have grown := adds.grows
  have shown : ∀ startedAt userId requesterAddress finding, op = .appendReconcile startedAt userId requesterAddress finding →
      finding.outcome.map (·.1) = some .uri → ∃ event ∈ s.events, event.ofMint = true := by
    rintro startedAt userId requesterAddress finding rfl ofUri
    obtain ⟨entry, member, shows⟩ := guarded ofUri
    exact witnessed.agent (System.mem_ownCalls.mp member) shows
  have kept := @Adds.keeps _ _ _ column deploymentId s.events s'.events op
    (fun table => Objects table ∧ Backed table ∧ ∀ event ∈ s.events, event ∈ table) adds (fun table after added held => by
      obtain ⟨objects, backed, inside⟩ := held
      refine ⟨added.objects objects, added.backed objects backed ?_, ?_⟩
      · intro startedAt userId requesterAddress finding same ofUri
        obtain ⟨event, member, ofMint⟩ := shown startedAt userId requesterAddress finding same ofUri
        exact ⟨event, inside event member, ofMint⟩
      · obtain ⟨event, rfl⟩ := added.grows
        exact fun other member => List.mem_append_left _ (inside other member))
    ⟨witnessed.objects, witnessed.backed, fun _ member => member⟩
  have entry : ∀ {j entry}, (j, entry) ∈ s'.log → (j, entry) ∈ s.log ∨ entry = ⟨op, answer⟩ := by
    intro j entry member
    rw [logged] at member
    rcases List.mem_append.mp member with old | new
    · exact .inl old
    · exact .inr (Prod.mk.inj (List.mem_singleton.mp new)).2
  refine ⟨kept.1, kept.2.1, fun j events member event inside => ?_, ?_, ?_⟩
  · rcases entry member with old | new
    · exact grown event (witnessed.read j events old event inside)
    · cases new
      have same : events = eventsOf s.events := Reads.ok called
      rw [same, mem_eventsOf] at inside
      exact grown event inside
  · intro j startedAt userId requesterAddress finding member
    rcases entry member with old | new
    · obtain ⟨event, inside, settles⟩ := witnessed.appended j _ _ _ _ old
      exact ⟨event, grown event inside, settles⟩
    · cases new
      obtain ⟨transaction, _, commits⟩ := called
      rw [appendReconcile_eq_ok commits.ok]
      exact ⟨_, List.mem_append_right _ (List.mem_singleton_self _), fun phase => finding_settles⟩
  · intro j startedAt userId phase requesterAddress reservePhase prepared member
    rcases entry member with old | new
    · obtain ⟨inside, backed⟩ := witnessed.prepared j _ _ _ _ _ _ old
      exact ⟨fun event found => grown event (inside event found), backed⟩
    · cases new
      obtain ⟨transaction, _, commits⟩ := called
      obtain ⟨_, _, _, _, _, same⟩ := ensureIntent_eq_ok commits.ok
      rw [same]
      refine ⟨fun event found => mem_eventsOf.mp found, ?_⟩
      rintro ⟨event, found, ofUri⟩
      obtain ⟨first, inside, ofMint⟩ := kept.2.1 ⟨event, mem_eventsOf.mp found, ofUri⟩
      exact ⟨first, mem_eventsOf.mpr inside, ofMint⟩

theorem RegistrationReach.guarded {holds : RegistrationState → Prop} (reach : RegistrationReach column deploymentId permits pool)
    (start : ∀ s, Blank s → holds s)
    (exec : ∀ (s s' : RegistrationState) i (op : RegistrationCall) (answer : op.Answer), permits s op answer →
      op.exec column deploymentId s answer s' → s'.log = s.log ++ [(i, ⟨op, answer⟩)] →
      callGuard (System.ownCalls s.log i) op → holds s → holds s')
    (environment : ∀ before after, Elsewhere before after → holds before → holds after) : holds pool.state := by
  refine System.Reach.guarded reach (registration_logs permits) blank_log (request_keeps deploymentId) start ?_ environment
  intro pool i request op next answer s' _ _ called guarded held
  exact exec pool.state s' i op answer called.1 called.2.1 called.2.2.2.2 guarded held

theorem RegistrationReach.witnessed (reach : RegistrationReach column deploymentId permits pool) : Witnessed pool.state := by
  refine reach.guarded (fun s blank => ?_) (fun s s' i op answer _ called logged guarded held => held.called called logged guarded)
    fun before after moved held => held.elsewhere moved
  have nothing : ∀ event ∈ s.events, event.statusMessage.isBrowsers = false := by
    intro event member
    obtain ⟨text, message⟩ := blank.events event member
    rw [message]
    rfl
  refine ⟨fun event member browsers => ?_, ?_, ?_, ?_, ?_⟩
  · rw [nothing event member] at browsers
    cases browsers
  · rintro ⟨event, member, ofUri⟩
    have browsers := ofUri_browsers ofUri
    rw [nothing event member] at browsers
    cases browsers
  all_goals
    intros
    simp only [blank.log, List.not_mem_nil] at *

end

end Bnbera.Registration
