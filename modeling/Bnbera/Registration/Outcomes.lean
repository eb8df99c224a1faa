import Bnbera.Registration.Transactions

namespace Bnbera.Registration

open Creator Publication

theorem assertCallsId_eq_ok {value checked : Option String} (done : assertCallsId value = .ok checked) : checked = value := by
  unfold assertCallsId at done
  split at done
  · cases done
    rfl
  · split at done <;> cases done
    rfl

theorem assertTransactionHash_eq_ok {value checked : Option String} (done : assertTransactionHash value = .ok checked) :
    checked = value := by
  unfold assertTransactionHash at done
  split at done
  · cases done
    rfl
  · split at done <;> cases done
    rfl

theorem assertAgentId_eq_ok {value checked : Option String} (done : assertAgentId value = .ok checked) : checked = value := by
  unfold assertAgentId at done
  split at done
  · cases done
    rfl
  · split at done
    · cases done
    · split at done <;> cases done
      rfl

def EventRow.refs (event : EventRow) : Option EventReference := asObject (some event.externalResourceReferences)

def EventRow.text (event : EventRow) (key : String) : Option String := refsText event.refs key

/-- An event of `reconcile` with a status for a phase. -/
def EventRow.settles (event : EventRow) (phase : CreatorRegistrationPhase) : Bool :=
  event.statusMessage = .reconcile && isText phase.text (refsField event.refs "phase") &&
    (eventStatus (refsField event.refs "status")).isSome

def lastOf (kind : EventRow → Bool) (events : List EventRow) : Option EventRow := (events.filter kind).getLast?

theorem lastOf_mem {kind : EventRow → Bool} {events : List EventRow} {event : EventRow} (last : lastOf kind events = some event) :
    event ∈ events ∧ kind event = true := by
  have member := List.mem_of_getLast? last
  exact List.mem_filter.mp member

theorem lastOf_none {kind : EventRow → Bool} {events : List EventRow} :
    lastOf kind events = none ↔ ∀ event ∈ events, kind event = false := by
  rw [lastOf, List.getLast?_eq_none_iff, List.filter_eq_nil_iff]
  simp only [Bool.not_eq_true]

theorem lastOf_concat {kind : EventRow → Bool} {events : List EventRow} {event : EventRow} :
    lastOf kind (events ++ [event]) = if kind event then some event else lastOf kind events := by
  unfold lastOf
  rw [List.filter_append]
  by_cases found : kind event = true
  · rw [if_pos found, List.filter_cons_of_pos found, List.filter_nil, List.getLast?_concat]
  · rw [if_neg found, List.filter_cons_of_neg found, List.filter_nil, List.append_nil]

theorem foldl_last {α : Type} {field : Progress → Option α} {kind : EventRow → Bool} {value : EventRow → Option α}
    (start : field {} = none)
    (step : ∀ progress event, field (observe progress event) = if kind event then value event else field progress)
    (events : List EventRow) : field (progressOf events) = (lastOf kind events).bind value := by
  induction events using List.reverseRecOn with
  | nil => exact start
  | append_singleton events event ih =>
    rw [progressOf, List.foldl_append, List.foldl_cons, List.foldl_nil, step, lastOf_concat]
    by_cases found : kind event = true
    · rw [if_pos found, if_pos found]
      rfl
    · rw [if_neg found, if_neg found]
      exact ih

section
variable (events : List EventRow)

theorem progressOf_mintIntent :
    (progressOf events).mintIntent = (lastOf (·.statusMessage = .mintIntent) events).bind EventRow.refs := by
  refine foldl_last rfl (fun progress event => ?_) events
  obtain ⟨message, _⟩ := event
  cases message <;> rfl

theorem progressOf_mintResult :
    (progressOf events).mintResult = (lastOf (·.statusMessage = .mintResult) events).bind EventRow.refs := by
  refine foldl_last rfl (fun progress event => ?_) events
  obtain ⟨message, _⟩ := event
  cases message <;> rfl

theorem progressOf_uriIntent :
    (progressOf events).uriIntent = (lastOf (·.statusMessage = .uriIntent) events).bind EventRow.refs := by
  refine foldl_last rfl (fun progress event => ?_) events
  obtain ⟨message, _⟩ := event
  cases message <;> rfl

theorem progressOf_uriResult :
    (progressOf events).uriResult = (lastOf (·.statusMessage = .uriResult) events).bind EventRow.refs := by
  refine foldl_last rfl (fun progress event => ?_) events
  obtain ⟨message, _⟩ := event
  cases message <;> rfl

theorem progressOf_reconciledMintResult :
    (progressOf events).reconciledMintResult = (lastOf (·.settles .mint) events).bind EventRow.refs := by
  refine foldl_last rfl (fun progress event => ?_) events
  obtain ⟨message, _⟩ := event
  cases message <;> rfl

theorem progressOf_reconciledUriResult :
    (progressOf events).reconciledUriResult = (lastOf (·.settles .uri) events).bind EventRow.refs := by
  refine foldl_last rfl (fun progress event => ?_) events
  obtain ⟨message, _⟩ := event
  cases message <;> rfl

end

theorem statusFromEvents_agentId {deploymentId : String} {events : List EventRow} {intent : CreatorRegistrationIntent}
    {status : CreatorRegistrationStatus} (shown : statusFromEvents deploymentId events intent = .ok status) :
    status.agentId = (progressOf events).agentId := by
  obtain ⟨agentId, checked, rest⟩ := bind_eq_ok.mp shown
  cases rest
  exact assertAgentId_eq_ok checked

theorem statusFromEvents_grants {deploymentId : String} {events : List EventRow} {intent : CreatorRegistrationIntent}
    {status : CreatorRegistrationStatus} (shown : statusFromEvents deploymentId events intent = .ok status) :
    status.canMint = (progressOf events).canMint ∧ status.canSetUri = (progressOf events).canSetUri := by
  obtain ⟨agentId, checked, rest⟩ := bind_eq_ok.mp shown
  cases rest
  exact ⟨rfl, rfl⟩

def StatusMessage.isBrowsers : StatusMessage → Bool
  | .other _ => false
  | _ => true

def Objects (events : List EventRow) : Prop :=
  ∀ event ∈ events, event.statusMessage.isBrowsers = true → ∃ fields, event.refs = some fields

theorem Objects.mono {events events' : List EventRow} (objects : Objects events') (fewer : ∀ event ∈ events, event ∈ events') :
    Objects events := fun event member => objects event (fewer event member)

theorem Objects.lastOf_refs {events : List EventRow} {kind : EventRow → Bool} (objects : Objects events)
    (browsers : ∀ event, kind event = true → event.statusMessage.isBrowsers = true)
    (missing : (lastOf kind events).bind EventRow.refs = none) : ∀ event ∈ events, kind event = false := by
  cases last : lastOf kind events with
  | none => exact lastOf_none.mp last
  | some event =>
    obtain ⟨member, found⟩ := lastOf_mem last
    obtain ⟨fields, refs⟩ := objects event member (browsers event found)
    rw [last, Option.bind_some, refs] at missing
    cases missing

section
variable {α : Type} {r : α → α → Prop} [DecidableRel r] {p : α → Bool}

theorem filter_orderedInsert [IsTrans α r] {item : α} {items : List α} (sorted : items.Pairwise r) :
    (items.orderedInsert r item).filter p =
      if p item then (items.filter p).orderedInsert r item else items.filter p := by
  induction items with
  | nil => cases kept : p item <;> simp [kept]
  | cons head rest ih =>
    rw [List.pairwise_cons] at sorted
    have later := ih sorted.2
    rw [List.orderedInsert_cons]
    by_cases first : r item head
    · rw [if_pos first]
      by_cases kept : p item = true
      · rw [if_pos kept, List.filter_cons_of_pos kept]
        cases others : (head :: rest).filter p with
        | nil => rfl
        | cons next others' =>
          have member : next ∈ (head :: rest).filter p := others ▸ List.mem_cons_self
          have precedes : r item next := by
            rcases List.mem_cons.mp (List.mem_filter.mp member).1 with rfl | inside
            · exact first
            · exact IsTrans.trans _ _ _ first (sorted.1 next inside)
          rw [List.orderedInsert_cons, if_pos precedes]
      · rw [if_neg kept, List.filter_cons_of_neg kept]
    · rw [if_neg first]
      by_cases found : p head = true
      · rw [List.filter_cons_of_pos found, List.filter_cons_of_pos found, later]
        by_cases kept : p item = true
        · rw [if_pos kept, if_pos kept, List.orderedInsert_cons, if_neg first]
        · rw [if_neg kept, if_neg kept]
      · rw [List.filter_cons_of_neg found, List.filter_cons_of_neg found, later]

theorem filter_sorted [Std.Total r] [IsTrans α r] (items : List α) :
    (items.insertionSort r).filter p = (items.filter p).insertionSort r := by
  induction items with
  | nil => rfl
  | cons head rest ih =>
    rw [List.insertionSort_cons, filter_orderedInsert (List.pairwise_insertionSort r rest), ih]
    by_cases kept : p head = true
    · rw [if_pos kept, List.filter_cons_of_pos kept, List.insertionSort_cons]
    · rw [if_neg kept, List.filter_cons_of_neg kept]

end

instance : Std.Total EventRow.Precedes := ⟨fun a b => by
  simp only [EventRow.Precedes]
  omega⟩

instance : IsTrans EventRow EventRow.Precedes := ⟨fun a b c first second => by
  simp only [EventRow.Precedes] at first second ⊢
  omega⟩

theorem lastOf_append {kind : EventRow → Bool} {table others : List EventRow} (apart : ∀ event ∈ others, kind event = false) :
    lastOf kind (eventsOf (table ++ others)) = lastOf kind (eventsOf table) := by
  have nothing : others.filter kind = [] := by
    rw [List.filter_eq_nil_iff]
    intro event member
    rw [apart event member]
    exact Bool.false_ne_true
  rw [lastOf, lastOf, eventsOf, eventsOf, filter_sorted, filter_sorted, List.filter_append, nothing, List.append_nil]

theorem eventsOf_perm (table : List EventRow) : (eventsOf table).Perm table := List.perm_insertionSort _ table

@[simp] theorem mem_eventsOf {table : List EventRow} {event : EventRow} : event ∈ eventsOf table ↔ event ∈ table :=
  (eventsOf_perm table).mem_iff

def EventRow.isResult (event : EventRow) (phase : CreatorRegistrationPhase) : Bool :=
  event.settles phase || event.statusMessage = phaseResult phase

theorem EventRow.not_result {event : EventRow} {phase : CreatorRegistrationPhase} (other : event.isResult phase = false) :
    event.settles phase = false ∧ decide (event.statusMessage = phaseResult phase) = false :=
  Bool.or_eq_false_iff.mp other

theorem effectiveMintResult_append {table others : List EventRow} (apart : ∀ event ∈ others, event.isResult .mint = false) :
    (progressOf (eventsOf (table ++ others))).effectiveMintResult = (progressOf (eventsOf table)).effectiveMintResult := by
  have settled : lastOf (·.settles .mint) (eventsOf (table ++ others)) = lastOf (·.settles .mint) (eventsOf table) :=
    lastOf_append fun event member => (EventRow.not_result (apart event member)).1
  have recorded : lastOf (·.statusMessage = .mintResult) (eventsOf (table ++ others)) =
      lastOf (·.statusMessage = .mintResult) (eventsOf table) :=
    lastOf_append fun event member => (EventRow.not_result (apart event member)).2
  simp only [Progress.effectiveMintResult, progressOf_reconciledMintResult, progressOf_mintResult, settled, recorded]

theorem effectiveUriResult_append {table others : List EventRow} (apart : ∀ event ∈ others, event.isResult .uri = false) :
    (progressOf (eventsOf (table ++ others))).effectiveUriResult = (progressOf (eventsOf table)).effectiveUriResult := by
  have settled : lastOf (·.settles .uri) (eventsOf (table ++ others)) = lastOf (·.settles .uri) (eventsOf table) :=
    lastOf_append fun event member => (EventRow.not_result (apart event member)).1
  have recorded : lastOf (·.statusMessage = .uriResult) (eventsOf (table ++ others)) =
      lastOf (·.statusMessage = .uriResult) (eventsOf table) :=
    lastOf_append fun event member => (EventRow.not_result (apart event member)).2
  simp only [Progress.effectiveUriResult, progressOf_reconciledUriResult, progressOf_uriResult, settled, recorded]

theorem agentId_append {table others : List EventRow} (apart : ∀ event ∈ others, ∀ phase, event.isResult phase = false) :
    (progressOf (eventsOf (table ++ others))).agentId = (progressOf (eventsOf table)).agentId := by
  rw [Progress.agentId, Progress.agentId, effectiveMintResult_append fun event member => apart event member .mint,
    effectiveUriResult_append fun event member => apart event member .uri]

/-- What reads one field of a reference and is not interested in the order of the fields of what it finds. -/
def Blind {α : Type} (seen : Option Json → α) : Prop :=
  ∀ value value', SameJson value value' → seen (some value) = seen (some value')

theorem blind_asString : Blind asString := by
  intro value value' same
  cases same <;> rfl

theorem blind_isText (text : String) : Blind (isText text) := by
  intro value value' same
  cases same <;> rfl

theorem blind_eventStatus : Blind eventStatus := by
  intro value value' same
  cases same <;> rfl

section
variable (column : JsonbColumn) (transaction : Transaction)

/-- The row that `recordEvent` adds. -/
def recordedRow (table : List EventRow) (statusMessage : StatusMessage) (refs : EventReference)
    (transactionHash : Option String) (retryable : Bool) : EventRow where
  statusMessage := statusMessage
  externalResourceReferences := column.read (.obj refs)
  transactionHash := transactionHash
  retryable := retryable
  createdAt := transaction.startedAt
  id := transaction.newId table.length

end

def EventRow.Holds (event : EventRow) (refs : EventReference) : Prop :=
  ∃ fields, event.refs = some fields ∧ ∀ key, Option.Rel SameJson (fieldOf refs key) (fieldOf fields key)

theorem recordedRow_holds {column : JsonbColumn} {transaction : Transaction} {table : List EventRow}
    {statusMessage : StatusMessage} {refs : EventReference} {transactionHash : Option String} {retryable : Bool}
    (nodup : (refs.map (·.1)).Nodup) :
    (recordedRow column transaction table statusMessage refs transactionHash retryable).Holds refs := by
  obtain ⟨fields, same, each⟩ := (column.same (.obj refs)).fields nodup
  refine ⟨fields, ?_, each⟩
  rw [EventRow.refs, recordedRow, same]
  rfl

theorem EventRow.Holds.seen {α : Type} {event : EventRow} {refs : EventReference} (holds : event.Holds refs)
    {seen : Option Json → α} (blind : Blind seen) (key : String) : seen (refsField event.refs key) = seen (fieldOf refs key) := by
  obtain ⟨fields, same, each⟩ := holds
  rw [same]
  exact (field_congr blind (each key)).symm

theorem EventRow.Holds.text {event : EventRow} {refs : EventReference} (holds : event.Holds refs) (key : String) :
    event.text key = asString (fieldOf refs key) := holds.seen blind_asString key

theorem intentRefs_nodup (intent : CreatorRegistrationIntent) : ((intentRefs intent).map (·.1)).Nodup := by
  simp [intentRefs, deploymentEventRefs]

theorem mintIntentRefs_nodup (intent : CreatorRegistrationIntent) (scanStartBlock : Int) :
    ((mintIntentRefs intent scanStartBlock).map (·.1)).Nodup := by
  simp [mintIntentRefs, deploymentEventRefs, setField]

theorem uriIntentRefs_nodup [ByteDigests] (intent : CreatorRegistrationIntent) (agentId : String) (finalFile : Json) (finalUri : String) :
    ((uriIntentRefs intent agentId finalFile finalUri).map (·.1)).Nodup := by
  simp [uriIntentRefs]

theorem operationRefs_nodup (intent : CreatorRegistrationIntent) (identity : RegistrationIdentity) (uriDigest : String) :
    ((operationRefs intent identity uriDigest).map (·.1)).Nodup := by
  simp [operationRefs]

theorem resultRefs_nodup (input : CreatorRegistrationResultInput) (expected : Option String) :
    ((resultRefs input expected).map (·.1)).Nodup := by
  simp [resultRefs]

def Finding.outcome : Finding → Option (CreatorRegistrationPhase × CreatorRegistrationResultStatus)
  | mintReverted .. => some (.mint, .failed)
  | anchorMissing .. | ambiguous .. | agentUnreadable .. => some (.mint, .unknown)
  | registeredEvent .. | mintConfirmed .. => some (.mint, .confirmed)
  | mintNotFound .. => some (.mint, .pending)
  | finalUriNotConfirmed .. | initialUriUnreadable .. => some (.uri, .unknown)
  | uriConfirmed .. => some (.uri, .confirmed)
  | identityPending .. => none

def Finding.event (finding : Finding) : EventReference := ("reason", .str finding.reason) :: finding.refs

theorem Finding.event_nodup (finding : Finding) : (finding.event.map (·.1)).Nodup := by
  cases finding <;> simp [Finding.event, Finding.refs]

theorem Finding.event_status (finding : Finding) :
    eventStatus (fieldOf finding.event "status") = finding.outcome.map (·.2) := by
  cases finding <;> rfl

theorem Finding.event_phase (finding : Finding) (phase : CreatorRegistrationPhase) :
    isText phase.text (fieldOf finding.event "phase") = decide (finding.outcome.map (·.1) = some phase) := by
  cases finding <;> cases phase <;> rfl

theorem EventRow.Holds.settles {event : EventRow} {finding : Finding} (holds : event.Holds finding.event)
    (message : event.statusMessage = .reconcile) (phase : CreatorRegistrationPhase) :
    event.settles phase = true ↔ finding.outcome.map (·.1) = some phase := by
  rw [EventRow.settles, holds.seen (blind_isText _), holds.seen blind_eventStatus, message, finding.event_phase,
    finding.event_status]
  cases finding.outcome <;> simp

theorem finding_settles {column : JsonbColumn} {transaction : Transaction} {table : List EventRow} {finding : Finding}
    {transactionHash : Option String} {retryable : Bool} {phase : CreatorRegistrationPhase} :
    (recordedRow column transaction table .reconcile finding.event transactionHash retryable).settles phase = true ↔
      finding.outcome.map (·.1) = some phase :=
  (recordedRow_holds finding.event_nodup).settles rfl phase

theorem checkResult_eq_ok {input : CreatorRegistrationResultInput} {currentAgentId callsId uriDigest : Option String} {done : Unit}
    (checked : checkResult input currentAgentId callsId input.agentId uriDigest = .ok done) :
    (input.phase = .uri → currentAgentId.isSome = true ∧ (input.agentId.isSome = true → input.agentId = currentAgentId)) ∧
      (input.status = .confirmed → input.phase = .mint → input.agentId.isSome = true) := by
  unfold checkResult at checked
  split at checked
  · cases checked
  · split at checked
    · cases checked
    · split at checked
      · cases checked
      · split at checked
        · cases checked
        · rename_i mismatch unnamed _ pending
          refine ⟨fun ofUri => ?_, fun confirmed ofMint => ?_⟩
          · have known : currentAgentId.isSome = true :=
              Option.isSome_iff_ne_none.mpr fun missing => pending ⟨ofUri, by rw [missing]; rfl⟩
            refine ⟨known, fun given => ?_⟩
            by_contra other
            exact mismatch ⟨ofUri, known, given, other⟩
          · refine Option.isSome_iff_ne_none.mpr fun missing => ?_
            exact unnamed ⟨confirmed, ofMint, .inl (by rw [missing]; rfl)⟩

section
variable [Sha256] [ByteDigests] [RegistrationSdk] {column : JsonbColumn} {transaction : Transaction}
  {userId deploymentId : String} {requesterAddress : Option String} {table after : List EventRow}

theorem storedIntent_eq_ok {intent : CreatorRegistrationIntent}
    (stored : storedIntent column transaction userId deploymentId requesterAddress table = .ok (intent, after)) :
    asIntent (eventsOf table) deploymentId = .ok (some intent) ∧ after = table ∨
    asIntent (eventsOf table) deploymentId = .ok none ∧
      buildIntent userId deploymentId transaction.row requesterAddress transaction.agentCardEndpoint = .ok intent ∧
      after = table ++ [recordedRow column transaction table .intent (intentRefs intent) none true] := by
  obtain ⟨found, read, rest⟩ := bind_eq_ok.mp stored
  cases found with
  | some shown =>
    cases rest
    exact .inl ⟨read, rfl⟩
  | none =>
    obtain ⟨built, made, rest⟩ := bind_eq_ok.mp rest
    cases rest
    exact .inr ⟨read, made, rfl⟩

/-- A reservation of a phase: an event that was asked for and is the first of its kind. -/
inductive Reserves (column : JsonbColumn) (transaction : Transaction) (intent : CreatorRegistrationIntent)
    (status : CreatorRegistrationStatus) (table : List EventRow) : CreatorRegistrationPhase → List EventRow → Prop
  | mint {scanStartBlock : Int} : status.canMint = true → transaction.finalizedBlock = .ok scanStartBlock → 0 ≤ scanStartBlock →
      Reserves column transaction intent status table .mint
        (table ++ [recordedRow column transaction table .mintIntent (mintIntentRefs intent scanStartBlock) none true])
  | uri {agentId : String} {finalFile : Json} {finalUri : String} : status.canSetUri = true → status.agentId = some agentId →
      finalizedCreatorRegistrationFile intent.registrationFile agentId = .ok finalFile →
      encodedCreatorRegistrationUri finalFile = .ok finalUri →
      Reserves column transaction intent status table .uri
        (table ++ [recordedRow column transaction table .uriIntent (uriIntentRefs intent agentId finalFile finalUri) none true])

omit [Sha256] in
theorem reserve_eq_ok {phase : Option CreatorRegistrationPhase} {reservePhase reserved : Bool}
    {intent : CreatorRegistrationIntent} {status : CreatorRegistrationStatus}
    (done : reserve column transaction phase reservePhase intent status table = .ok (reserved, after)) :
    reserved = false ∧ after = table ∨
      ∃ asked, phase = some asked ∧ reservePhase = true ∧ reserved = true ∧
        Reserves column transaction intent status table asked after := by
  unfold reserve at done
  split at done
  · unfold reserveMint at done
    split at done
    · rename_i canMint
      obtain ⟨block, finalized, rest⟩ := bind_eq_ok.mp done
      obtain ⟨passed, checked, rest⟩ := bind_eq_ok.mp rest
      have whole : 0 ≤ block := Int.not_lt.mp (refuseIf_eq_ok.mp checked)
      cases rest
      exact .inr ⟨.mint, rfl, rfl, rfl, .mint canMint finalized whole⟩
    · cases done
      exact .inl ⟨rfl, rfl⟩
  · unfold reserveUri at done
    split at done
    · rename_i agentId canSetUri known
      obtain ⟨finalFile, finalized, rest⟩ := bind_eq_ok.mp done
      obtain ⟨finalUri, encoded, rest⟩ := bind_eq_ok.mp rest
      cases rest
      exact .inr ⟨.uri, rfl, rfl, rfl, .uri canSetUri known finalized encoded⟩
    · cases done
      exact .inl ⟨rfl, rfl⟩
  · cases done
    exact .inl ⟨rfl, rfl⟩

/-- What `ensureIntent` does where it does not throw. -/
theorem ensureIntent_eq_ok {phase : Option CreatorRegistrationPhase} {reservePhase : Bool} {prepared : Prepared}
    (done : ensureIntent column transaction userId deploymentId phase requesterAddress reservePhase table = .ok (prepared, after)) :
    ∃ stored status,
      storedIntent column transaction userId deploymentId requesterAddress table = .ok (prepared.intent, stored) ∧
      statusFromEvents deploymentId (eventsOf stored) prepared.intent = .ok status ∧
      reserve column transaction phase reservePhase prepared.intent status stored = .ok (prepared.reservedPhase, after) ∧
      prepared.events = eventsOf after := by
  obtain ⟨_, _, rest⟩ := bind_eq_ok.mp done
  obtain ⟨⟨intent, stored⟩, kept, rest⟩ := bind_eq_ok.mp rest
  obtain ⟨status, shown, rest⟩ := bind_eq_ok.mp rest
  obtain ⟨⟨reserved, left⟩, reserved_ok, rest⟩ := bind_eq_ok.mp rest
  cases rest
  exact ⟨stored, status, kept, shown, reserved_ok, rfl⟩

/-- What `recordResult` does where it does not throw: nothing where the phase has an outcome, or one event more. -/
theorem recordResult_eq_ok {input : CreatorRegistrationResultInput} {prepared : CreatorRegistrationIntent}
    {outcome : Option CreatorRegistrationStatus}
    (done : recordResult column transaction deploymentId input requesterAddress prepared table = .ok (outcome, after)) :
    ∃ stored current, asIntent (eventsOf table) deploymentId = .ok stored ∧
      statusFromEvents deploymentId (eventsOf table) (stored.getD prepared) = .ok current ∧
      (∃ event ∈ table, event.statusMessage = phaseIntent input.phase) ∧
      (outcome = some current ∧ after = table ∧ hasOutcome input.phase (eventsOf table) = true ∨
        outcome = none ∧ hasOutcome input.phase (eventsOf table) = false ∧
          (input.phase = .uri → current.agentId.isSome = true ∧ (input.agentId.isSome = true → input.agentId = current.agentId)) ∧
          (input.status = .confirmed → input.phase = .mint → input.agentId.isSome = true) ∧
          ∃ uriDigest expected, after = table ++ [recordedRow column transaction table (phaseResult input.phase)
            (resultRefs ⟨input.phase, input.callsId, input.transactionHash, input.status,
              if input.phase = .uri then current.agentId else input.agentId, uriDigest⟩ expected)
            input.transactionHash (input.status ≠ .confirmed)]) := by
  obtain ⟨_, _, rest⟩ := bind_eq_ok.mp done
  obtain ⟨stored, read, rest⟩ := bind_eq_ok.mp rest
  obtain ⟨current, shown, rest⟩ := bind_eq_ok.mp rest
  obtain ⟨_, reserved, rest⟩ := bind_eq_ok.mp rest
  obtain ⟨callsId, calls, rest⟩ := bind_eq_ok.mp rest
  obtain ⟨transactionHash, hashed, rest⟩ := bind_eq_ok.mp rest
  obtain ⟨agentId, agent, rest⟩ := bind_eq_ok.mp rest
  obtain ⟨uriDigest, _, rest⟩ := bind_eq_ok.mp rest
  obtain ⟨expected, _, rest⟩ := bind_eq_ok.mp rest
  obtain ⟨_, _, rest⟩ := bind_eq_ok.mp rest
  have granted : ∃ event ∈ table, event.statusMessage = phaseIntent input.phase := by
    have present := refuseIf_eq_ok.mp reserved
    simp only [Bool.not_eq_true', Bool.not_eq_false, List.any_eq_true, decide_eq_true_eq, mem_eventsOf] at present
    exact present
  refine ⟨stored, current, read, shown, granted, ?_⟩
  rw [assertCallsId_eq_ok calls, assertTransactionHash_eq_ok hashed, assertAgentId_eq_ok agent] at rest
  by_cases had : hasOutcome input.phase (eventsOf table) = true
  · rw [if_pos had] at rest
    cases rest
    exact .inl ⟨rfl, rfl, had⟩
  · rw [if_neg had] at rest
    obtain ⟨_, checked, rest⟩ := bind_eq_ok.mp rest
    cases rest
    obtain ⟨ofUri, ofMint⟩ := checkResult_eq_ok checked
    exact .inr ⟨rfl, Bool.eq_false_iff.mpr had, ofUri, ofMint, uriDigest, expected, rfl⟩

omit [Sha256] [ByteDigests] [RegistrationSdk] in
theorem appendReconcile_eq_ok {finding : Finding} {value : Unit}
    (done : appendReconcile column transaction requesterAddress finding table = .ok (value, after)) :
    after = table ++ [recordedRow column transaction table .reconcile finding.event finding.rowHash true] := by
  obtain ⟨_, _, rest⟩ := bind_eq_ok.mp done
  cases rest
  rfl

omit [Sha256] [ByteDigests] [RegistrationSdk] in
theorem appendOperation_eq_ok {intent : CreatorRegistrationIntent} {identity : RegistrationIdentity}
    {transactionHash : Option String} {uriDigest : String} {value : Unit}
    (done : appendOperation column transaction requesterAddress intent identity transactionHash uriDigest table =
      .ok (value, after)) :
    after = table ∧ (∃ event ∈ table, event.statusMessage = .operation) ∨
      (∀ event ∈ table, event.statusMessage ≠ .operation) ∧
      after = table ++ [recordedRow column transaction table .operation (operationRefs intent identity uriDigest)
        transactionHash false] := by
  obtain ⟨_, _, rest⟩ := bind_eq_ok.mp done
  by_cases present : table.any (·.statusMessage = .operation) = true
  · rw [if_pos present] at rest
    cases rest
    simp only [List.any_eq_true, decide_eq_true_eq] at present
    exact .inl ⟨rfl, present⟩
  · rw [if_neg present] at rest
    cases rest
    simp only [List.any_eq_true, decide_eq_true_eq, not_exists, not_and] at present
    exact .inr ⟨present, rfl⟩

end

end Bnbera.Registration
