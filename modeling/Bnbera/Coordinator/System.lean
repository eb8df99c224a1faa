import Bnbera.Coordinator.Definitions
import Bnbera.Operations.Evidence
import Bnbera.Operations.Identity

namespace Bnbera

open Interleaving

section

variable [Sha256]

/-- What is remembered of one call: whether it sent its reservation, the operations
for which it started the SDK, and whether a statement failed. -/
structure Trace where
  asked : Bool := false
  started : List String := []
  failed : Bool := false

/-- The operation table, which call created each row and with which values, and the
history of every call by its number. -/
structure CoordinatorState where
  table : OperationTable
  creator : String → Option (Nat × Reservation)
  calls : Nat → Trace

inductive CoordinatorRequest
  | executeSdk (approvals : Bool) (prepared : PreparedOperation) (idempotencyKey : String) (authority : AltanaAuthority)
  | attachExternalExecution (fuel : Nat) (operationId callsId : String) (transactionHash : Option String)
  | reconcile (fuel : Nat) (operationId : String)
  | reserve (input : ReserveInput)
  | repository (call : RepositoryCall)

abbrev CoordinatorAnswer := Except Failure (Option (CoordinatorResult AdapterExecution))

/-- Only the result of `executeSdk` is kept. -/
def CoordinatorRequest.handler : CoordinatorRequest → Handler (Option (CoordinatorResult AdapterExecution))
  | executeSdk approvals prepared idempotencyKey authority => do
    let result ← Bnbera.executeSdk approvals prepared idempotencyKey authority
    return some result
  | attachExternalExecution fuel operationId callsId transactionHash => do
    let _ ← Bnbera.attachExternalExecution fuel operationId callsId transactionHash
    return none
  | reconcile fuel operationId => do
    let _ ← Bnbera.reconcile fuel operationId
    return none
  | reserve input => do
    let _ ← OperationRepository.reserve input
    return none
  | repository call => do
    let _ ← call.handler
    return none

def Trace.statement (trace : Trace) (query : OperationQuery) (answer : Except Failure (Option OperationRow)) : Trace where
  asked := match query with
    | .reserve _ => true
    | _ => trace.asked
  started := trace.started
  failed := match answer with
    | .ok _ => trace.failed
    | .error _ => true

def Trace.start (trace : Trace) (operationId : String) : Trace :=
  { trace with started := trace.started ++ [operationId] }

namespace CoordinatorState

def record (state : CoordinatorState) (number : Nat) (trace : Trace) : Nat → Trace :=
  fun other => if other = number then trace else state.calls other

def created (state : CoordinatorState) (number : Nat) (query : OperationQuery) (after : OperationTable) (id : String) :
    Option (Nat × Reservation) :=
  (state.creator id).or (match query with
    | .reserve reservation => if reservation.id = id ∧ (after.get id).isSome then some (number, reservation) else none
    | _ => none)

end CoordinatorState

/-- What the call with the given number does to the state. The reader of approvals
throws its own codes, and none of them is a conflict. -/
def coordinatorExec (number : Nat) : Semantics Call Call.Answer CoordinatorState
  | .operations query, before, answer, after => query.Answers before.table answer after.table ∧
      after.creator = before.created number query after.table ∧
      after.calls = before.record number ((before.calls number).statement query answer)
  | .run operationId, before, _, after =>
      after = { before with calls := before.record number ((before.calls number).start operationId) }
  | .assertBuyerApproval _ _, before, answer, after => after = before ∧
      ∀ failure, (answer : Except Failure Unit) = .error failure → failure.hasCode .idempotencyConflict = false
  | _, before, _, after => after = before

def coordinator : System CoordinatorRequest Call Call.Answer CoordinatorAnswer CoordinatorState where
  handler request := request.handler.run
  exec number _ := coordinatorExec number
  environment _ _ := False
  mayStart _ _ := True

def CoordinatorState.Initial (state : CoordinatorState) : Prop :=
  state.table = .empty ∧ (state.creator = fun _ => none) ∧ state.calls = fun _ => {}

abbrev CoordinatorPool := Pool CoordinatorRequest Call Call.Answer CoordinatorAnswer CoordinatorState

def CoordinatorReach (pool : CoordinatorPool) : Prop := coordinator.Reach CoordinatorState.Initial pool

end

variable {number : Nat} {op : Call} {answer : op.Answer} {before after : CoordinatorState}

def Call.IsQuiet (call : Call) : Prop := ∀ operationId, call ≠ .run operationId

theorem CoordinatorState.record_self {state : CoordinatorState} {trace : Trace} :
    state.record number trace number = trace := if_pos rfl

theorem CoordinatorState.record_other {state : CoordinatorState} {trace : Trace} {other : Nat}
    (differs : other ≠ number) : state.record number trace other = state.calls other := if_neg differs

def CoordinatorState.Extends (before after : CoordinatorState) : Prop :=
  ∀ id creation, before.creator id = some creation → after.creator id = some creation

/-- Every row has a creator, whose values it still carries, and only rows have one. -/
structure CoordinatorState.Owned (state : CoordinatorState) : Prop where
  row : ∀ id row, state.table.get id = some row →
    ∃ i reservation, state.creator id = some (i, reservation) ∧ reservation.row.Continues row
  known : ∀ id, state.creator id ≠ none → state.table.get id ≠ none

structure CoordinatorState.Moves (before after : CoordinatorState) : Prop where
  continues : before.table.Continues after.table
  extends' : before.Extends after
  owned : before.Owned → after.Owned

theorem CoordinatorState.Moves.refl (state : CoordinatorState) : state.Moves state :=
  ⟨.refl _, fun _ _ known => known, fun owned => owned⟩

theorem CoordinatorState.Moves.trans {before middle after : CoordinatorState} (first : before.Moves middle)
    (second : middle.Moves after) : before.Moves after where
  continues := first.continues.trans second.continues
  extends' id creation known := second.extends' id creation (first.extends' id creation known)
  owned known := second.owned (first.owned known)

theorem CoordinatorState.created_owned {query : OperationQuery} {answer : Except Failure (Option OperationRow)}
    (answers : query.Answers before.table answer after.table)
    (creators : after.creator = before.created number query after.table) (owned : before.Owned) : after.Owned := by
  constructor
  · intro id row found
    rw [creators]
    unfold created
    cases past : before.table.get id with
    | some old =>
      obtain ⟨i, reservation, known, same⟩ := owned.row id old past
      obtain ⟨next, atNext, still⟩ := answers.continues id old past
      cases Option.some.inj (atNext.symm.trans found)
      exact ⟨i, reservation, by rw [known, Option.some_or], same.trans still⟩
    | none =>
      obtain ⟨reservation, rfl, _, rfl, rfl⟩ := answers.effect.new_row past found
      have unknown : before.creator reservation.id = none := by
        by_contra known
        exact owned.known _ known past
      refine ⟨number, reservation, ?_, .refl _⟩
      rw [unknown, Option.none_or]
      exact if_pos ⟨rfl, by rw [found]; rfl⟩
  · intro id recorded absent
    rw [creators] at recorded
    unfold created at recorded
    have unknown : before.creator id = none := by
      by_contra known
      cases past : before.table.get id with
      | none => exact owned.known id known past
      | some old =>
        obtain ⟨next, atNext, _⟩ := answers.continues id old past
        cases absent.symm.trans atNext
    rw [unknown, Option.none_or] at recorded
    cases query <;> simp [absent] at recorded

theorem coordinatorExec_moves (called : coordinatorExec number op before answer after) : before.Moves after := by
  cases op with
  | operations query =>
    obtain ⟨answers, creators, _⟩ := called
    refine ⟨answers.continues, fun id creation known => ?_, CoordinatorState.created_owned answers creators⟩
    rw [creators]
    unfold CoordinatorState.created
    rw [known, Option.some_or]
  | run operationId =>
    cases called
    exact ⟨.refl _, fun _ _ known => known, fun owned => ⟨owned.row, owned.known⟩⟩
  | assertBuyerApproval =>
    cases called.1
    exact .refl _
  | _ =>
    cases called
    exact .refl _

theorem coordinatorExec_others (called : coordinatorExec number op before answer after) {other : Nat}
    (differs : other ≠ number) : after.calls other = before.calls other := by
  cases op with
  | operations query =>
    rw [called.2.2]
    exact CoordinatorState.record_other differs
  | run operationId =>
    cases called
    exact CoordinatorState.record_other differs
  | assertBuyerApproval =>
    cases called.1
    rfl
  | _ =>
    cases called
    rfl

theorem coordinatorExec_started (called : coordinatorExec number op before answer after) (quiet : op.IsQuiet) :
    (after.calls number).started = (before.calls number).started := by
  cases op with
  | operations query =>
    rw [called.2.2, CoordinatorState.record_self]
    rfl
  | run operationId => exact absurd rfl (quiet operationId)
  | assertBuyerApproval =>
    cases called.1
    rfl
  | _ =>
    cases called
    rfl

/-- A new creator is the call that just reserved the row. -/
theorem coordinatorExec_creator (called : coordinatorExec number op before answer after) {id : String}
    {creation : Nat × Reservation} (recorded : after.creator id = some creation) :
    before.creator id = some creation ∨
      ∃ reservation, op = .operations (.reserve reservation) ∧ creation = (number, reservation) := by
  cases op with
  | operations query =>
    rw [called.2.1] at recorded
    unfold CoordinatorState.created at recorded
    cases known : before.creator id with
    | some old =>
      rw [known, Option.some_or] at recorded
      exact .inl recorded
    | none =>
      rw [known, Option.none_or] at recorded
      cases query with
      | reserve reservation =>
        simp only [Option.ite_none_right_eq_some] at recorded
        exact .inr ⟨reservation, rfl, (Option.some.inj recorded.2).symm⟩
      | _ => cases recorded
  | run operationId =>
    cases called
    exact .inl recorded
  | assertBuyerApproval =>
    cases called.1
    exact .inl recorded
  | _ =>
    cases called
    exact .inl recorded

theorem CoordinatorState.Initial.owned {state : CoordinatorState} (initial : state.Initial) : state.Owned := by
  obtain ⟨table, creators, _⟩ := initial
  constructor
  · intro id row found
    rw [table] at found
    cases found
  · intro id recorded
    rw [creators] at recorded
    exact absurd rfl recorded

theorem CoordinatorState.Owned.creator_of_key {state : CoordinatorState} {key id : String} {row : OperationRow}
    {i : Nat} {reservation : Reservation} (owned : state.Owned)
    (found : state.table.getByIdempotencyKey key = some row) (recorded : state.creator id = some (i, reservation))
    (same : reservation.idempotencyKey = key) : row.id = id ∧ reservation.row.Continues row := by
  obtain ⟨other, atOther⟩ := Option.ne_none_iff_exists'.mp (owned.known id (by simp [recorded]))
  obtain ⟨j, again, known, continues⟩ := owned.row id other atOther
  cases Option.some.inj (recorded.symm.trans known)
  have byKey := OperationTable.getByIdempotencyKey_of_get atOther
  rw [continues.idempotencyKey] at byKey
  have key' : reservation.row.idempotencyKey = key := same
  rw [key'] at byKey
  cases Option.some.inj (byKey.symm.trans found)
  exact ⟨OperationTable.get_identity atOther, continues⟩

variable [Sha256] {pool : CoordinatorPool}

theorem CoordinatorReach.owned (reach : CoordinatorReach pool) : pool.state.Owned :=
  reach.invariant (fun _ initial => initial.owned)
    (fun _ _ _ _ _ _ called => (coordinatorExec_moves called).owned) (fun _ _ moved => moved.elim)

theorem CoordinatorReach.fresh (reach : CoordinatorReach pool) :
    ∀ i, pool.threads.length ≤ i → pool.state.calls i = {} := by
  induction reach with
  | start first =>
    intro i _
    rw [first.2.2]
  | next _ step ih =>
    intro i later
    cases step with
    | start =>
      simp only [List.length_append, List.length_singleton] at later
      exact ih i (by omega)
    | @call k request op next answer s' atThread called =>
      have bound := (List.getElem?_eq_some_iff.mp atThread).1
      simp only [List.length_set] at later
      rw [coordinatorExec_others called (by omega)]
      exact ih i later
    | environment moved => exact moved.elim

end Bnbera
