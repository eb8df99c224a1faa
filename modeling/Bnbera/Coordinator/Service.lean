import Bnbera.Coordinator.Sending

namespace Bnbera

open Interleaving OperationRepository

section

variable {number : Nat}

theorem assertSettlementApproved_meets {approvals : Bool} {prepared : PreparedOperation} {state : CoordinatorState}
    (ready : state.Ready number) :
    CallMeets number (fun result state => state.Ready number ∧
      ∀ failure, result = .error failure → failure.hasCode .idempotencyConflict = false)
      (assertSettlementApproved approvals prepared) state := by
  unfold assertSettlementApproved
  split
  · split
    · rename_i jobId _
      constructor
      intro s' moved answer s'' called
      have neutral : Call.IsNeutral (.assertBuyerApproval prepared.chainId jobId) :=
        ⟨fun _ => (nomatch ·), fun _ => (nomatch ·)⟩
      obtain ⟨mine, still⟩ := (ready.stable moved).neutral neutral called
      exact ⟨mine, fun s' later => ⟨still.stable later, called.2⟩⟩
    · exact .lift fun s' moved => ⟨ready.stable moved, fun failure failed => by cases failed; rfl⟩
  · exact .pure fun s' moved => ⟨ready.stable moved, fun failure failed => (nomatch failed)⟩

theorem assertAuthority_code {prepared : PreparedOperation} {authority : AltanaAuthority} {failure : Failure}
    (failed : assertAuthority prepared authority = .error failure) :
    failure.hasCode .idempotencyConflict = false := by
  unfold assertAuthority at failed
  split at failed
  · cases failed
  · split at failed
    · rename_i invalid
      unfold authorityAddress normalizeAddress at invalid
      split at invalid
      · cases invalid
      · cases failed
        cases invalid
        rfl
    · split at failed
      · cases failed
        rfl
      · cases failed

theorem recordResult_records {prepared : PreparedOperation} {operationId : String} {result : AdapterExecution} :
    (recordResult prepared operationId result).Only (Call.Records operationId) := by
  refine .bind attachCallsId_records fun _ => ?_
  split
  · exact recordConfirmation_records
  · exact recordUnconfirmed_records

/-- The first call of the `try` starts the SDK, and all later ones only record. -/
theorem sendReserved_run {prepared : PreparedOperation} {operationId : String} :
    ∃ next, (sendReserved prepared operationId).run = .call (.run operationId) next ∧
      ∀ answer, (next answer).Calls (Call.Records operationId) := by
  let after : Except Failure AdapterExecution → Handler (CoordinatorResult AdapterExecution) := fun answer =>
    tryCatch (do let result ← answer; recordResult prepared operationId result) fun cause => do
      recordFailure operationId cause
      throwThe Failure cause
  refine ⟨fun answer => (after answer).run, rfl, fun answer => ?_⟩
  exact (Handler.Only.catch' (.lift_bind fun result _ => recordResult_records) fun cause =>
    .bind recordFailure_records fun _ => .throw _).calls

structure CoordinatorState.Sent (state : CoordinatorState) (number : Nat) : Prop where
  started : ∃ id reservation, state.creator id = some (number, reservation) ∧ (state.calls number).started = [id]

theorem CoordinatorState.Sent.kept {before after : CoordinatorState} (sent : before.Sent number)
    (moves : before.Moves after) (history : (after.calls number).started = (before.calls number).started) :
    after.Sent number := by
  obtain ⟨id, reservation, known, started⟩ := sent.started
  exact ⟨id, reservation, moves.extends' _ _ known, history.trans started⟩

theorem CoordinatorState.Sent.stable {before after : CoordinatorState} (sent : before.Sent number)
    (moved : CoordinatorRely number before after) : after.Sent number :=
  sent.kept moved.moves (congrArg Trace.started moved.history)

theorem sendReserved_meets {prepared : PreparedOperation} {id : String} {reservation : Reservation}
    {state : CoordinatorState} (unsent : (state.calls number).started = [])
    (mine : state.creator id = some (number, reservation)) :
    CallMeets number (fun _ state => state.Sent number) (sendReserved prepared id) state := by
  obtain ⟨next, starts, records⟩ : ∃ next, (sendReserved prepared id).run = .call (.run id) next ∧
      ∀ answer, (next answer).Calls (Call.Records id) := sendReserved_run
  constructor
  rw [starts]
  intro s moved answer after called
  have sent : after.Sent number := by
    refine ⟨id, reservation, (coordinatorExec_moves called).extends' _ _ (moved.moves.extends' _ _ mine), ?_⟩
    cases called
    simp only [CoordinatorState.record_self, Trace.start, moved.history, unsent, List.nil_append]
  refine ⟨⟨fun _ => coordinatorExec_others called, coordinatorExec_moves called, .inr sent.started⟩, ?_⟩
  refine Interleaving.Meets.of_calls (records answer) (fun _ _ moved sent => CoordinatorState.Sent.stable sent moved)
    ?_ sent
  intro op s answer s' recorded called sent
  have moves := coordinatorExec_moves called
  have still := CoordinatorState.Sent.kept sent moves (coordinatorExec_started called (recorded.neutral op).1)
  exact ⟨⟨fun _ => coordinatorExec_others called, moves, .inr still.started⟩, still⟩

variable [Sha256]

/-- What `executeSdk` returns or throws when its key was already reserved. -/
def executeReplay (input : ReserveInput) (reservation : Reservation) (stored : OperationRow) :
    Except Failure (CoordinatorResult AdapterExecution) := do
  let (operation, _) ← replayOutcome input reservation stored
  replayReservation operation

theorem replayOutcome_flag {input : ReserveInput} {reservation : Reservation} {stored : OperationRow}
    {operation : OperationRecord} {flag : Bool}
    (outcome : replayOutcome input reservation stored = .ok (operation, flag)) : flag = true := by
  obtain ⟨existing, _, rest⟩ := bind_eq_ok.mp outcome
  obtain ⟨_, _, done⟩ := bind_eq_ok.mp rest
  cases done
  rfl

/-- How a call of `executeSdk` ends: it sent the operation it created, or it was
refused before its reservation or by the database, or it replayed a stored row. -/
inductive ExecuteEnded (number : Nat) (input : ReserveInput) (state : CoordinatorState) :
    Except Failure (CoordinatorResult AdapterExecution) → Prop
  | sent {result} : state.Sent number → ExecuteEnded number input state result
  | refused {failure} : (state.calls number).started = [] → Refusal input (state.calls number) failure →
      ExecuteEnded number input state (.error failure)
  | replayed {reservation old} : (state.calls number).started = [] → ReservationOf input reservation →
      state.Stored reservation.idempotencyKey old →
      ExecuteEnded number input state (executeReplay input reservation old)

theorem ExecuteEnded.stable {input : ReserveInput} {before after : CoordinatorState}
    {result : Except Failure (CoordinatorResult AdapterExecution)} (moved : CoordinatorRely number before after)
    (ended : ExecuteEnded number input before result) : ExecuteEnded number input after result := by
  have history := moved.history
  cases ended with
  | sent sent => exact .sent (sent.stable moved)
  | refused unsent cause => exact .refused (history ▸ unsent) (history ▸ cause)
  | replayed unsent given stored => exact .replayed (history ▸ unsent) given (stored.stable moved.moves)

theorem executeSdk_meets {approvals : Bool} {prepared : PreparedOperation} {idempotencyKey : String}
    {authority : AltanaAuthority} {state : CoordinatorState} (ready : state.Ready number) :
    CallMeets number (fun result state => ExecuteEnded number (reserveInput prepared idempotencyKey) state result)
      (executeSdk approvals prepared idempotencyKey authority) state := by
  unfold executeSdk
  refine .lift_bind (fun failure failed s' moved => ?_) fun _ _ => ?_
  · exact ExecuteEnded.stable moved (.refused ready.started (.early ready.asked (assertAuthority_code failed)))
  refine .bind coordinatorRely_closed ((assertSettlementApproved_meets ready).mono ?_)
  rintro (failure | _) s ⟨ready, code⟩
  · exact fun s' moved => ExecuteEnded.stable moved (.refused ready.started (.early ready.asked (code failure rfl)))
  refine .bind coordinatorRely_closed ((reserve_meets ready).mono ?_)
  intro result s ended
  cases ended with
  | refused unsent cause => exact fun s' moved => ExecuteEnded.stable moved (.refused unsent cause)
  | created unsent mine => exact (sendReserved_meets unsent mine).mono fun _ _ sent => .sent sent
  | @replayed reservation old unsent given stored =>
    have replayed := ExecuteEnded.replayed unsent given stored
    unfold executeReplay at replayed
    cases outcome : replayOutcome (reserveInput prepared idempotencyKey) reservation old with
    | error failure =>
      rw [outcome] at replayed
      exact fun s' moved => ExecuteEnded.stable moved replayed
    | ok found =>
      obtain ⟨operation, flag⟩ := found
      cases replayOutcome_flag outcome
      rw [outcome] at replayed
      exact .lift fun s' moved => ExecuteEnded.stable moved replayed

end

variable {number : Nat}

theorem quiet_meets {α : Type} {handler : Handler α} {state : CoordinatorState} (quiet : handler.Only Call.IsQuiet)
    (unsent : (state.calls number).started = []) :
    CallMeets number (fun _ state => (state.calls number).started = []) handler state := by
  refine Handler.Meets.only quiet (fun _ _ moved holds => moved.history ▸ holds) ?_ unsent
  intro op s answer s' quiet called holds
  have still := (coordinatorExec_started called quiet).trans holds
  exact ⟨⟨fun _ => coordinatorExec_others called, coordinatorExec_moves called, .inl still⟩, still⟩

/-- A call of `executeSdk` reserves its own input and nothing else. -/
def Call.ReservesOnly (input : ReserveInput) (call : Call) : Prop :=
  ∀ reservation, call = .operations (.reserve reservation) → ReservationOf input reservation

theorem Call.IsNeutral.reservesOnly {input : ReserveInput} (call : Call) (neutral : call.IsNeutral) :
    call.ReservesOnly input := fun reservation same => absurd same (neutral.2 reservation)

theorem RepositoryCall.handler_quiet (call : RepositoryCall) : call.handler.Only Call.IsQuiet := by
  refine call.handler_only.mono fun op touches => ?_
  cases touches with
  | read isRead => exact isRead.neutral.1
  | update => exact fun _ => (nomatch ·)

def CoordinatorRequest.Reserves (request : CoordinatorRequest) (call : Call) : Prop :=
  match request with
  | .executeSdk _ prepared idempotencyKey _ => call.ReservesOnly (reserveInput prepared idempotencyKey)
  | _ => True

/-- Every row that an `executeSdk` created holds its own input. -/
def CoordinatorRequest.Created (request : CoordinatorRequest) (number : Nat) (state : CoordinatorState) : Prop :=
  match request with
  | .executeSdk _ prepared idempotencyKey _ => ∀ id reservation, state.creator id = some (number, reservation) →
      ReservationOf (reserveInput prepared idempotencyKey) reservation
  | _ => True

theorem CoordinatorRequest.created_step {request : CoordinatorRequest} {op : Call} {before after : CoordinatorState}
    {answer : op.Answer} (permitted : request.Reserves op) (called : coordinatorExec number op before answer after)
    (holds : request.Created number before) : request.Created number after := by
  cases request with
  | executeSdk =>
    intro id reservation recorded
    rcases coordinatorExec_creator called recorded with old | ⟨made, query, same⟩
    · exact holds id reservation old
    · cases same
      exact permitted reservation query
  | _ => trivial

theorem CoordinatorRequest.created_other {request : CoordinatorRequest} {op : Call} {before after : CoordinatorState}
    {answer : op.Answer} {other : Nat} (differs : other ≠ number) (called : coordinatorExec other op before answer after)
    (holds : request.Created number before) : request.Created number after := by
  cases request with
  | executeSdk =>
    intro id reservation recorded
    rcases coordinatorExec_creator called recorded with old | ⟨made, _, same⟩
    · exact holds id reservation old
    · exact absurd (congrArg Prod.fst same).symm differs
  | _ => trivial

def coordinatorRespond (outside : (call : Call) → call.Answer) (number : Nat) :
    (call : Call) → CoordinatorState → call.Answer × CoordinatorState
  | .operations query, state => ((query.run state.table).1,
      ⟨(query.run state.table).2, state.created number query (query.run state.table).2,
        state.record number ((state.calls number).statement query (query.run state.table).1)⟩)
  | .run operationId, state => (outside (.run operationId),
      { state with calls := state.record number ((state.calls number).start operationId) })
  | .assertBuyerApproval _ _, state => (.ok (), state)
  | call, state => (outside call, state)

theorem coordinatorRespond_allowed (outside : (call : Call) → call.Answer) (number : Nat) (call : Call)
    (state : CoordinatorState) :
    coordinatorExec number call state (coordinatorRespond outside number call state).1
      (coordinatorRespond outside number call state).2 := by
  cases call with
  | operations query => exact ⟨.answered, rfl, rfl⟩
  | assertBuyerApproval => exact ⟨rfl, fun _ failed => (nomatch failed)⟩
  | _ => rfl

variable [Sha256] {pool : CoordinatorPool}

theorem reserve_quiet {input : ReserveInput} : (reserve input).Only Call.IsQuiet := by
  refine reserve_only.mono fun op reserves => ?_
  cases reserves with
  | read isRead => exact isRead.neutral.1
  | reserve => exact fun _ => (nomatch ·)

/-- What a finished request tells: only the answers of `executeSdk` say something. -/
def coordinatorPost (number : Nat) (request : CoordinatorRequest) (result : CoordinatorAnswer)
    (state : CoordinatorState) : Prop :=
  match request with
  | .executeSdk _ prepared idempotencyKey _ => ∃ inner, result = inner.map some ∧
      ExecuteEnded number (reserveInput prepared idempotencyKey) state inner
  | _ => True

theorem CoordinatorRequest.meets {request : CoordinatorRequest} {state : CoordinatorState}
    (ready : state.Ready number) : CallMeets number (coordinatorPost number request) request.handler state := by
  have quiet : ∀ {α : Type} {handler : Handler α} {post}, handler.Only Call.IsQuiet → (∀ result s, post result s) →
      CallMeets number post handler state :=
    fun quiet trivial => (quiet_meets quiet ready.started).mono fun result s _ => trivial result s
  have records : ∀ {α β : Type} {id : String} {handler : Handler α} {value : β}, handler.Only (Call.Records id) →
      (do let _ ← handler; return value).Only Call.IsQuiet :=
    fun only => .bind (only.mono fun op recorded => (recorded.neutral op).1) fun _ => .pure _
  cases request with
  | executeSdk approvals prepared idempotencyKey authority =>
    refine .bind coordinatorRely_closed ((executeSdk_meets ready).mono ?_)
    rintro (failure | value) s ended
    · exact fun s' moved => ⟨_, rfl, ended.stable moved⟩
    · exact .pure fun s' moved => ⟨_, rfl, ended.stable moved⟩
  | attachExternalExecution => exact quiet (records attachExternalExecution_records) fun _ _ => trivial
  | reconcile fuel => exact quiet (records (reconcile_records fuel)) fun _ _ => trivial
  | reserve => exact quiet (.bind reserve_quiet fun _ => .pure _) fun _ _ => trivial
  | repository call => exact quiet (.bind call.handler_quiet fun _ => .pure _) fun _ _ => trivial

theorem coordinator_contract :
    coordinator.Contract CoordinatorState.Initial CoordinatorRely CoordinatorGuarantee coordinatorPost where
  closed _ := coordinatorRely_closed
  environment _ _ _ moved := moved.elim
  fellows _ _ _ _ differs mine := ⟨mine.others _ differs, mine.moves⟩
  handlers pool request reach _ := by
    have fresh := CoordinatorReach.fresh reach pool.threads.length (Nat.le_refl _)
    have ready : pool.state.Ready pool.threads.length :=
      ⟨congrArg Trace.asked fresh, congrArg Trace.started fresh, CoordinatorReach.owned reach⟩
    exact (CoordinatorRequest.meets ready).meets

theorem CoordinatorReach.sends (reach : CoordinatorReach pool) : ∀ i, pool.state.Sends i := by
  let holds : CoordinatorState → Prop := fun state => ∀ i, state.Sends i
  suffices holds pool.state from this
  refine coordinator_contract.invariant reach ?_ ?_ (fun _ _ moved => moved.elim)
  · intro state first i
    have fresh : state.calls i = {} := by rw [first.2.2]
    exact .inl (congrArg Trace.started fresh)
  · intro i before after mine holds j
    by_cases same : j = i
    · exact same ▸ mine.sends
    · rcases holds j with unsent | ⟨id, reservation, known, started⟩
      · exact .inl (mine.others j same ▸ unsent)
      · exact .inr ⟨id, reservation, mine.moves.extends' _ _ known, mine.others j same ▸ started⟩

theorem executeSdk_only {approvals : Bool} {prepared : PreparedOperation} {idempotencyKey : String}
    {authority : AltanaAuthority} : (executeSdk approvals prepared idempotencyKey authority).Only
      (Call.ReservesOnly (reserveInput prepared idempotencyKey)) := by
  have approved : (assertSettlementApproved approvals prepared).Only
      (Call.ReservesOnly (reserveInput prepared idempotencyKey)) := by
    unfold assertSettlementApproved
    split
    · split
      · exact ⟨fun _ => (nomatch ·), fun _ => trivial⟩
      · exact .lift _
    · exact .pure ()
  unfold executeSdk
  refine .lift_bind fun _ _ => .bind approved fun _ => .bind (reserve_only.mono ?_) fun found => ?_
  · intro call reserves reservation same
    subst same
    cases reserves with
    | read isRead => cases isRead
    | reserve given => exact given
  · obtain ⟨operation, replayed⟩ := found
    cases replayed with
    | true => exact .lift _
    | false =>
      obtain ⟨next, starts, records⟩ : ∃ next, (sendReserved prepared operation.id).run = .call (.run operation.id) next ∧
          ∀ answer, (next answer).Calls (Call.Records operation.id) := sendReserved_run
      constructor
      simp only [Bool.false_eq_true, if_false]
      rw [starts]
      exact ⟨fun _ => (nomatch ·), fun answer => (records answer).mono fun call recorded =>
        (recorded.neutral call).reservesOnly⟩

theorem CoordinatorRequest.handler_reserves (request : CoordinatorRequest) :
    request.handler.Only request.Reserves := by
  have any : ∀ {α β : Type} {allowed : Call → Prop} {handler : Handler α} {value : β}, handler.Only allowed →
      (do let _ ← handler; return value).Only (fun _ => True) :=
    fun only => .bind (only.mono fun _ _ => trivial) fun _ => .pure _
  cases request with
  | executeSdk => exact .bind executeSdk_only fun _ => .pure _
  | attachExternalExecution => exact any attachExternalExecution_records
  | reconcile fuel => exact any (reconcile_records fuel)
  | reserve => exact any reserve_only
  | repository call => exact any call.handler_only

theorem CoordinatorReach.uncreated (reach : CoordinatorReach pool) {id : String} {creation : Nat × Reservation}
    (recorded : pool.state.creator id = some creation) : creation.1 < pool.threads.length := by
  induction reach with
  | start first =>
    rw [first.2.1] at recorded
    cases recorded
  | @next before after previous step ih =>
    cases step with
    | start =>
      have bound := ih recorded
      simp only [List.length_append, List.length_singleton]
      omega
    | @call k request op next answer s' atThread called =>
      rw [List.length_set]
      rcases coordinatorExec_creator called recorded with old | ⟨_, _, rfl⟩
      · exact ih old
      · exact (List.getElem?_eq_some_iff.mp atThread).1
    | environment moved => exact moved.elim

theorem CoordinatorReach.created (reach : CoordinatorReach pool) {i : Nat}
    {thread : Thread CoordinatorRequest Call Call.Answer CoordinatorAnswer} (found : pool.threads[i]? = some thread) :
    thread.request.Created i pool.state := by
  let holds : Nat → CoordinatorRequest → CoordinatorState → Prop := fun i request state => request.Created i state
  have start : ∀ (pool : CoordinatorPool) (request : CoordinatorRequest), CoordinatorReach pool →
      holds pool.threads.length request pool.state := by
    intro pool request reach
    cases request with
    | executeSdk => exact fun id reservation recorded => absurd (reach.uncreated recorded) (Nat.lt_irrefl _)
    | _ => trivial
  suffices thread.program.Calls thread.request.Reserves ∧ holds i thread.request pool.state from this.2
  refine System.Reach.thread reach (fun request => request.handler_reserves.calls) start ?_ ?_
    (fun _ _ _ _ moved => moved.elim) found
  · exact fun i request op before answer after permitted called => CoordinatorRequest.created_step permitted called
  · exact fun i j request other op before answer after differs called => CoordinatorRequest.created_other differs called

def CoordinatorPool.serve (outside : (call : Call) → call.Answer) (pool : CoordinatorPool)
    (request : CoordinatorRequest) : CoordinatorPool :=
  let run := request.handler.run.eval (coordinatorRespond outside pool.threads.length) pool.state
  ⟨run.2, pool.threads ++ [⟨request, .done run.1⟩]⟩

theorem CoordinatorReach.serve {pool : CoordinatorPool} (reach : CoordinatorReach pool)
    (outside : (call : Call) → call.Answer) (request : CoordinatorRequest) :
    CoordinatorReach (pool.serve outside request) :=
  reach.handled trivial (Runs.of_eval (coordinatorRespond_allowed outside _) request.handler.run pool.state)

theorem CoordinatorPool.serve_last (pool : CoordinatorPool) (outside : (call : Call) → call.Answer)
    (request : CoordinatorRequest) : ∃ result,
      (pool.serve outside request).threads[pool.threads.length]? = some ⟨request, .done result⟩ :=
  ⟨_, List.getElem?_concat_length⟩

theorem CoordinatorPool.serve_earlier {pool : CoordinatorPool} {outside : (call : Call) → call.Answer}
    {request : CoordinatorRequest} {i : Nat} {thread : Thread CoordinatorRequest Call Call.Answer CoordinatorAnswer}
    (found : pool.threads[i]? = some thread) : (pool.serve outside request).threads[i]? = some thread := by
  rw [CoordinatorPool.serve, List.getElem?_append_left (List.getElem?_eq_some_iff.mp found).1]
  exact found

def emptyPool : CoordinatorPool := ⟨⟨.empty, fun _ => none, fun _ => {}⟩, []⟩

theorem emptyPool_reach : CoordinatorReach emptyPool := .start ⟨rfl, rfl, rfl⟩

end Bnbera
