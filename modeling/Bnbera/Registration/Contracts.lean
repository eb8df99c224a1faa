import Bnbera.Registration.System

namespace Bnbera.Registration

open Creator Interleaving Publication

abbrev RegistrationHistory := History RegistrationCall RegistrationCall.Answer

def showsAgent : RegistrationEntry → Bool
  | ⟨.events, .ok events⟩ => (progressOf events).agentId.isSome
  | ⟨.appendReconcile _ _ _ finding, .ok _⟩ => finding.outcome.map (·.1) = some .mint
  | _ => false

def preparedBy (intent : CreatorRegistrationIntent) : RegistrationEntry → Prop
  | ⟨.ensureIntent .., .ok prepared⟩ => prepared.intent = intent
  | _ => False

/-- What has been answered before a call: an agent, before an event on its URI; and an intent, before a result. -/
def callGuard (history : RegistrationHistory) : RegistrationCall → Prop
  | .appendReconcile _ _ _ finding =>
    finding.outcome.map (·.1) = some .uri → ∃ entry ∈ history, showsAgent entry = true
  | .recordResult _ _ _ _ intent => ∃ entry ∈ history, preparedBy intent entry
  | _ => True

theorem last_mem {history : RegistrationHistory} {entry : RegistrationEntry} : entry ∈ history ++ [entry] :=
  List.mem_append_right _ (List.mem_singleton_self _)

section
variable [Sha256] [ByteDigests] [RegistrationSdk] {deploymentId userId : String} {requesterAddress : Option String}
  {history : RegistrationHistory} {α : Type}

/-- The intent of a status: one that was prepared, or the one of the events, or a new one where they have none. -/
def IntentOf (deploymentId : String) (history : RegistrationHistory) (events : List EventRow)
    (intent : CreatorRegistrationIntent) : Prop :=
  (∃ entry ∈ history, preparedBy intent entry) ∨ asIntent events deploymentId = .ok (some intent) ∨
    asIntent events deploymentId = .ok none

def Sourced (deploymentId : String) (status : CreatorRegistrationStatus) (history : RegistrationHistory) : Prop :=
  (∃ events intent, (⟨.events, .ok events⟩ : RegistrationEntry) ∈ history ∧ IntentOf deploymentId history events intent ∧
      statusFromEvents deploymentId events intent = .ok status) ∨
    ∃ startedAt userId input requesterAddress intent,
      (⟨.recordResult startedAt userId input requesterAddress intent, .ok (some status)⟩ : RegistrationEntry) ∈ history

def Answers (deploymentId : String) : RegistrationRequest → RegistrationResponse → RegistrationHistory → Prop
  | .prepare userId phase requesterAddress, .prepared response, history => ∃ startedAt prepared,
    (⟨.ensureIntent startedAt userId (some phase) requesterAddress true, .ok prepared⟩ : RegistrationEntry) ∈ history ∧
      prepareResponse deploymentId phase prepared = .ok response
  | .prepare .., .status _, _ => False
  | _, .prepared _, _ => False
  | _, .status status, history => Sourced deploymentId status history

abbrev Guarded (fact : α → RegistrationHistory → Prop) (work : Work α) (history : RegistrationHistory) : Prop :=
  Warrants callGuard fact work history

omit [Sha256] [ByteDigests] [RegistrationSdk] in
theorem asked (op : RegistrationCall) {fact : op.Value → RegistrationHistory → Prop} (permitted : callGuard history op)
    (holds : ∀ value, fact value (history ++ [⟨op, .ok value⟩])) : Guarded fact (ask op) history :=
  Warrants.asked permitted holds

omit [Sha256] [ByteDigests] [RegistrationSdk] in
theorem ensureIntentCall_guarded (phase : Option CreatorRegistrationPhase) (reservePhase : Bool) :
    Guarded (fun prepared history => ∃ startedAt,
      (⟨.ensureIntent startedAt userId phase requesterAddress reservePhase, .ok prepared⟩ : RegistrationEntry) ∈ history)
      (ensureIntentCall userId requesterAddress phase reservePhase) history := by
  refine Warrants.asked_bind trivial fun startedAt => ?_
  exact asked (.ensureIntent ..) trivial fun prepared => ⟨startedAt, last_mem⟩

theorem prepare_guarded (phase : CreatorRegistrationPhase) :
    Guarded (fun response => Answers deploymentId (.prepare userId phase requesterAddress) (.prepared response))
      (prepare deploymentId userId requesterAddress phase) history := by
  refine Warrants.bind (ensureIntentCall_guarded (some phase) true) fun prepared later _ found => ?_
  obtain ⟨startedAt, member⟩ := found
  exact Warrants.settled fun response made => ⟨startedAt, prepared, member, made⟩

omit [RegistrationSdk] in
theorem refreshedStatus_guarded {intent : CreatorRegistrationIntent} (prepared : ∃ entry ∈ history, preparedBy intent entry) :
    Guarded (Sourced deploymentId) (refreshedStatus deploymentId intent) history := by
  refine Warrants.asked_bind trivial fun events => Warrants.settled fun status shown => ?_
  obtain ⟨entry, member, made⟩ := prepared
  exact .inl ⟨events, intent, last_mem, .inl ⟨entry, List.mem_append_left _ member, made⟩, shown⟩

omit [RegistrationSdk] in
theorem recordResultCall_guarded (input : CreatorRegistrationResultInput) :
    Guarded (Sourced deploymentId) (recordResultCall deploymentId userId requesterAddress input) history := by
  refine Warrants.bind (ensureIntentCall_guarded (some input.phase) false) fun prepared later _ found => ?_
  obtain ⟨began, member⟩ := found
  refine Warrants.asked_bind trivial fun startedAt => ?_
  have known : ∃ entry ∈ later ++ [⟨.begin, .ok startedAt⟩], preparedBy prepared.intent entry :=
    ⟨_, List.mem_append_left _ member, rfl⟩
  refine Warrants.asked_bind known fun recorded => ?_
  cases recorded with
  | some current => exact Warrants.returned (.inr ⟨startedAt, userId, input, requesterAddress, prepared.intent, last_mem⟩)
  | none =>
    refine Warrants.asked_bind trivial fun refreshed => Warrants.settled_bind fun stored read => Warrants.settled fun status shown => ?_
    refine .inl ⟨refreshed, stored.getD prepared.intent, last_mem, ?_, shown⟩
    cases stored with
    | some intent => exact .inr (.inl read)
    | none =>
      obtain ⟨entry, inside, made⟩ := known
      exact .inl ⟨entry, List.mem_append_left _ (List.mem_append_left _ inside), made⟩

/-- What is known while an intent is reconciled: it was prepared, and the agent was shown. -/
structure Reconciling (intent : CreatorRegistrationIntent) (history : RegistrationHistory) : Prop where
  prepared : ∃ entry ∈ history, preparedBy intent entry
  agent : ∃ entry ∈ history, showsAgent entry = true

omit [Sha256] [ByteDigests] [RegistrationSdk] in
theorem Reconciling.mono {intent : CreatorRegistrationIntent} {later : RegistrationHistory} (reconciling : Reconciling intent history)
    (grown : ∀ entry ∈ history, entry ∈ later) : Reconciling intent later := by
  obtain ⟨⟨first, inside, made⟩, ⟨second, inside', shown⟩⟩ := reconciling
  exact ⟨⟨first, grown _ inside, made⟩, ⟨second, grown _ inside', shown⟩⟩

omit [Sha256] [ByteDigests] [RegistrationSdk] in
theorem appendReconcileCall_guarded {finding : Finding}
    (shown : finding.outcome.map (·.1) = some .uri → ∃ entry ∈ history, showsAgent entry = true) :
    Guarded (fun _ history => ∃ startedAt,
      (⟨.appendReconcile startedAt userId requesterAddress finding, .ok ()⟩ : RegistrationEntry) ∈ history)
      (appendReconcileCall userId requesterAddress finding) history := by
  refine Warrants.asked_bind trivial fun startedAt => ?_
  refine asked (.appendReconcile ..) ?_ fun _ => ⟨startedAt, last_mem⟩
  intro ofUri
  obtain ⟨entry, member, shows⟩ := shown ofUri
  exact ⟨entry, List.mem_append_left _ member, shows⟩

omit [RegistrationSdk] in
theorem conclude_guarded {intent : CreatorRegistrationIntent} {finding : Finding}
    (prepared : ∃ entry ∈ history, preparedBy intent entry)
    (shown : finding.outcome.map (·.1) = some .uri → ∃ entry ∈ history, showsAgent entry = true) :
    Guarded (Sourced deploymentId) (conclude deploymentId userId requesterAddress intent finding) history := by
  refine Warrants.bind (appendReconcileCall_guarded shown) fun _ later grown _ => refreshedStatus_guarded ?_
  obtain ⟨entry, member, made⟩ := prepared
  exact ⟨entry, grown _ member, made⟩

def ReadStatus (deploymentId : String) (intent : CreatorRegistrationIntent) (read : List EventRow × CreatorRegistrationStatus)
    (history : RegistrationHistory) : Prop :=
  (⟨.events, .ok read.1⟩ : RegistrationEntry) ∈ history ∧ statusFromEvents deploymentId read.1 intent = .ok read.2

omit [Sha256] [ByteDigests] [RegistrationSdk] in
theorem noted_guarded {intent : CreatorRegistrationIntent} {worth : Bool} {finding : Finding} {events : List EventRow}
    {status : CreatorRegistrationStatus}
    (shown : finding.outcome.map (·.1) = some .uri → ∃ entry ∈ history, showsAgent entry = true)
    (read : ReadStatus deploymentId intent (events, status) history) :
    Guarded (fun noted history => ReadStatus deploymentId intent noted history ∧
        (worth = true → ∃ startedAt,
          (⟨.appendReconcile startedAt userId requesterAddress finding, .ok ()⟩ : RegistrationEntry) ∈ history) ∧
        (worth = false → noted = (events, status)))
      (noted deploymentId userId requesterAddress intent worth finding events status) history := by
  unfold noted
  cases worth with
  | false =>
    rw [if_neg Bool.false_ne_true]
    exact Warrants.returned ⟨read, fun absent => (nomatch absent), fun _ => rfl⟩
  | true =>
    rw [if_pos rfl]
    refine Warrants.bind (appendReconcileCall_guarded shown) fun _ later _ appended => ?_
    obtain ⟨startedAt, member⟩ := appended
    refine Warrants.asked_bind trivial fun events => Warrants.settled_bind fun status shown => ?_
    exact Warrants.returned ⟨⟨last_mem, shown⟩, fun _ => ⟨startedAt, List.mem_append_left _ member⟩,
      fun absent => (nomatch absent)⟩

omit [RegistrationSdk] in
theorem Reconciling.status {intent : CreatorRegistrationIntent} {read : List EventRow × CreatorRegistrationStatus}
    (reconciling : Reconciling intent history) (readStatus : ReadStatus deploymentId intent read history) :
    Sourced deploymentId read.2 history :=
  .inl ⟨read.1, intent, readStatus.1, .inl reconciling.prepared, readStatus.2⟩

omit [RegistrationSdk] in
theorem reconcileIdentity_guarded {intent : CreatorRegistrationIntent} {agentId finalUri finalDigest : String}
    {status : CreatorRegistrationStatus} (reconciling : Reconciling intent history) :
    Guarded (Sourced deploymentId)
      (reconcileIdentity deploymentId userId requesterAddress intent agentId finalUri finalDigest status) history := by
  refine Warrants.asked_bind trivial fun row => ?_
  have later := reconciling.mono (fun entry member => @List.mem_append_left _ entry history
    [⟨.finalizedIdentity userId agentId finalUri intent, .ok row⟩] member)
  split
  · exact conclude_guarded later.prepared fun absent => (nomatch absent)
  · refine Warrants.asked_bind trivial fun startedAt => Warrants.asked_bind trivial fun _ => refreshedStatus_guarded ?_
    obtain ⟨entry, member, made⟩ := later.prepared
    exact ⟨entry, List.mem_append_left _ (List.mem_append_left _ member), made⟩

theorem reconcileUri_guarded {intent : CreatorRegistrationIntent} {agentId : String}
    {chainAgent : CreatorRegistrationChainAgent} {events : List EventRow} {status : CreatorRegistrationStatus}
    (reconciling : Reconciling intent history) (read : ReadStatus deploymentId intent (events, status) history) :
    Guarded (Sourced deploymentId)
      (reconcileUri deploymentId userId requesterAddress intent agentId chainAgent events status) history := by
  refine Warrants.settled_bind fun finalFile _ => Warrants.settled_bind fun finalUri _ => ?_
  by_cases ended : status.state = .failed ∨ status.state = .mintPending
  · rw [if_pos ended]
    exact Warrants.returned (reconciling.status read)
  · rw [if_neg ended]
    by_cases other : chainAgent.agentUri ≠ (if events.any (·.statusMessage = .uriIntent) then finalUri else intent.registrationUri)
    · rw [if_pos other]
      exact conclude_guarded reconciling.prepared fun _ => reconciling.agent
    · rw [if_neg other]
      by_cases unreserved : (!events.any (·.statusMessage = .uriIntent)) = true
      · rw [if_pos unreserved]
        exact Warrants.returned (reconciling.status read)
      · rw [if_neg unreserved]
        refine Warrants.bind (noted_guarded (fun _ => reconciling.agent) read) fun noted later grown _ => ?_
        exact reconcileIdentity_guarded (reconciling.mono grown)

theorem reconcileAgent_guarded {intent : CreatorRegistrationIntent} {finalizedBlock : Int} {agentId : String}
    {mintTransactionHash : Option String} (prepared : ∃ entry ∈ history, preparedBy intent entry) :
    Guarded (Sourced deploymentId)
      (reconcileAgent deploymentId userId requesterAddress intent finalizedBlock agentId mintTransactionHash) history := by
  refine Warrants.asked_bind trivial fun chainAgent => ?_
  have known : ∃ entry ∈ history ++ [⟨.readAgent agentId finalizedBlock, .ok chainAgent⟩], preparedBy intent entry := by
    obtain ⟨entry, member, made⟩ := prepared
    exact ⟨entry, List.mem_append_left _ member, made⟩
  dsimp only
  split
  · exact conclude_guarded known fun absent => (nomatch absent)
  · rename_i agent _
    refine Warrants.asked_bind trivial fun events => Warrants.settled_bind fun status shown => ?_
    refine Warrants.bind (noted_guarded (fun absent => (nomatch absent)) ⟨last_mem, shown⟩) fun noted later grown holds => ?_
    obtain ⟨read, appended, kept⟩ := holds
    obtain ⟨entry, member, made⟩ := known
    refine reconcileUri_guarded ⟨⟨entry, grown _ (List.mem_append_left _ member), made⟩, ?_⟩ read
    -- either the mint was confirmed just now, or the events show this agent
    cases worth : status.mintCallsId.isNone || status.agentId ≠ some agentId with
    | true =>
      obtain ⟨startedAt, inside⟩ := appended worth
      exact ⟨_, inside, rfl⟩
    | false =>
      refine ⟨⟨.events, .ok events⟩, grown _ last_mem, ?_⟩
      have same : status.agentId = some agentId := by
        simp only [Bool.or_eq_false_iff, decide_eq_false_iff_not, not_not] at worth
        exact worth.2
      rw [showsAgent, ← statusFromEvents_agentId shown, same]
      rfl

theorem reconcileLogs_guarded {intent : CreatorRegistrationIntent} {finalizedBlock scanStartBlock scanCursor scanToBlock : Int}
    {mintTransactionHash : Option String} {logs : List CreatorRegistrationChainLog}
    (prepared : ∃ entry ∈ history, preparedBy intent entry) :
    Guarded (Sourced deploymentId) (reconcileLogs deploymentId userId requesterAddress intent finalizedBlock scanStartBlock
      scanCursor scanToBlock mintTransactionHash logs) history := by
  unfold reconcileLogs
  split
  · exact conclude_guarded prepared fun absent => (nomatch absent)
  · refine Warrants.settled_bind fun _ _ => ?_
    refine Warrants.bind (appendReconcileCall_guarded fun absent => (nomatch absent)) fun _ later grown _ => ?_
    obtain ⟨entry, member, made⟩ := prepared
    exact reconcileAgent_guarded ⟨entry, grown _ member, made⟩
  · exact conclude_guarded prepared fun absent => (nomatch absent)

theorem reconcileScan_guarded {intent : CreatorRegistrationIntent} {status : CreatorRegistrationStatus} {finalizedBlock : Int}
    (prepared : ∃ entry ∈ history, preparedBy intent entry) :
    Guarded (Sourced deploymentId) (reconcileScan deploymentId userId requesterAddress intent status finalizedBlock) history := by
  unfold reconcileScan
  split
  · exact conclude_guarded prepared fun absent => (nomatch absent)
  · dsimp only
    split
    · refine Warrants.asked_bind trivial fun logs => reconcileLogs_guarded ?_
      obtain ⟨entry, member, made⟩ := prepared
      exact ⟨entry, List.mem_append_left _ member, made⟩
    · exact refreshedStatus_guarded prepared

theorem reconcileMint_guarded {intent : CreatorRegistrationIntent} {status : CreatorRegistrationStatus} {finalizedBlock : Int}
    {agentId mintTransactionHash : String} {receipt : Option CreatorRegistrationChainReceipt}
    (prepared : ∃ entry ∈ history, preparedBy intent entry) :
    Guarded (Sourced deploymentId)
      (reconcileMint deploymentId userId requesterAddress intent status finalizedBlock agentId mintTransactionHash receipt)
      history := by
  unfold reconcileMint
  split
  · exact reconcileAgent_guarded prepared
  · split
    · exact conclude_guarded prepared fun absent => (nomatch absent)
    · split
      · exact reconcileScan_guarded prepared
      · exact reconcileAgent_guarded prepared

theorem reconcile_guarded : Guarded (Sourced deploymentId) (reconcile deploymentId userId requesterAddress) history := by
  refine Warrants.bind (ensureIntentCall_guarded none true) fun prepared later _ found => ?_
  obtain ⟨began, member⟩ := found
  refine Warrants.asked_bind trivial fun events => Warrants.settled_bind fun status _ => Warrants.asked_bind trivial fun block => ?_
  have known : ∃ entry ∈ (later ++ [⟨.events, .ok events⟩]) ++ [⟨.finalizedBlock, .ok block⟩],
      preparedBy prepared.intent entry :=
    ⟨_, List.mem_append_left _ (List.mem_append_left _ member), rfl⟩
  split
  · rename_i agentId hash _ _
    refine Warrants.asked_bind trivial fun receipt => reconcileMint_guarded ?_
    obtain ⟨entry, inside, made⟩ := known
    exact ⟨entry, List.mem_append_left _ inside, made⟩
  · exact reconcileAgent_guarded known
  · exact reconcileScan_guarded known

theorem shownIntent_guarded (stored : Option CreatorRegistrationIntent) :
    Guarded (fun intent _ => ∀ found, stored = some found → intent = found)
      (shownIntent deploymentId userId requesterAddress stored) history := by
  cases stored with
  | some found => exact Warrants.returned fun _ same => Option.some.inj same
  | none =>
    have nothing : ∀ (intent found : CreatorRegistrationIntent), none = some found → intent = found :=
      fun _ _ absent => (nomatch absent)
    refine Warrants.asked_bind trivial fun row => Warrants.settled_bind fun usable _ => ?_
    refine Warrants.settled_bind fun _ _ => Warrants.asked_bind trivial fun endpoint => ?_
    exact Warrants.settled fun intent _ => nothing intent

theorem status_guarded : Guarded (Sourced deploymentId) (status deploymentId userId requesterAddress) history := by
  refine Warrants.asked_bind trivial fun row => Warrants.settled_bind fun _ _ => Warrants.asked_bind trivial fun events => ?_
  refine Warrants.settled_bind fun stored read => ?_
  refine Warrants.bind (shownIntent_guarded stored) fun intent later grown shown => ?_
  refine Warrants.settled fun status made => .inl ⟨events, intent, grown _ last_mem, ?_, made⟩
  cases stored with
  | some found => exact .inr (.inl (by rw [read, shown found rfl]))
  | none => exact .inr (.inr read)

theorem request_keeps (deploymentId : String) (request : RegistrationRequest) :
    Guarded (Answers deploymentId request) (request.work deploymentId) [] := by
  cases request with
  | prepare userId phase requesterAddress => exact Warrants.map (prepare_guarded phase)
  | recordResult userId input requesterAddress => exact Warrants.map (recordResultCall_guarded input)
  | reconcile userId requesterAddress => exact Warrants.map reconcile_guarded
  | status userId requesterAddress => exact Warrants.map status_guarded

end

end Bnbera.Registration
