import Bnbera.Browser.Server
import Bnbera.Coordinator.Definitions
import Bnbera.Operations.Identity
import Bnbera.Operations.Footprint
import Bnbera.Operations.Evidence

namespace Bnbera

section

open Interleaving OperationRepository

def Call.LeavesDispatch (call : Call) : Prop :=
  ∀ operationId change, call = .operations (.update operationId change) → change.IsRecording

theorem Call.IsRead.leavesDispatch (call : Call) (isRead : call.IsRead) : call.LeavesDispatch := by
  cases isRead <;> exact fun _ _ => (nomatch ·)

theorem Call.Records.leavesDispatch {operationId : String} (call : Call) (records : call.Records operationId) :
    call.LeavesDispatch := by
  cases records with
  | touches touches =>
    cases touches with
    | read isRead => exact isRead.leavesDispatch
    | update recording =>
      intro _ _ same
      cases same
      exact recording
  | _ => exact fun _ _ => (nomatch ·)

theorem Call.Reserves.leavesDispatch {input : ReserveInput} (call : Call) (reserves : call.Reserves input) :
    call.LeavesDispatch := by
  cases reserves with
  | read isRead => exact isRead.leavesDispatch
  | reserve => exact fun _ _ => (nomatch ·)

namespace Handler.Only

variable {α : Type} {operationId : String} {handler : Handler α}

theorem reading (only : handler.Only Call.IsRead) : handler.Only Call.LeavesDispatch :=
  only.mono fun call => Call.IsRead.leavesDispatch call

theorem recording (only : handler.Only (Call.Records operationId)) : handler.Only Call.LeavesDispatch :=
  only.mono fun call => Call.Records.leavesDispatch call

theorem ite {condition : Prop} [Decidable condition] {first second : Handler α} {allowed : Call → Prop}
    (yes : first.Only allowed) (no : second.Only allowed) : (if condition then first else second).Only allowed := by
  split
  · exact yes
  · exact no

end Handler.Only

theorem browserResult_leavesDispatch {operation : OperationRecord} {replayed : Bool}
    {dispatch : Except Failure (Option Json)} {jobId : Option DecimalUint} :
    (browserResult operation replayed dispatch jobId).Only Call.LeavesDispatch :=
  .lift_bind fun _ _ => .bind ⟨fun _ _ => (nomatch ·), fun _ => trivial⟩ fun _ => .pure _

theorem assertBrowserOperationActor_leavesDispatch {operationId : String} :
    (assertBrowserOperationActor operationId).Only Call.LeavesDispatch := by
  refine .bind ⟨fun _ _ => (nomatch ·), fun _ => trivial⟩ fun identity => .bind get_only.reading ?_
  rintro (_ | existing)
  · exact .failWith _
  · exact .ite (.pure _) (.failWith _)

theorem authorizeClaim_leavesDispatch {server : CommerceServer} {operationId : String} :
    (server.authorizeClaim operationId).Only Call.LeavesDispatch := by
  refine .bind assertBrowserOperationActor_leavesDispatch fun existing => ?_
  split
  · exact .failWith _
  · refine .bind (.performIf ?_) fun _ => .performFor fun context => ⟨fun _ _ => (nomatch ·), fun _ => trivial⟩
    refine .bind ⟨fun _ _ => (nomatch ·), fun _ => trivial⟩ fun _ => ?_
    split
    · exact .failWith _
    · exact ⟨fun _ _ => (nomatch ·), fun _ => trivial⟩

theorem verifyEoa_leavesDispatch {advance : OperationRecord → Option VerifiedEoaReceipt → Handler BrowserResult}
    {step : EoaStep} {operation submitted : OperationRecord} {transactionHash : String}
    (rest : ∀ operation verified, (advance operation verified).Only Call.LeavesDispatch) :
    (verifyEoa advance step operation submitted transactionHash).Only Call.LeavesDispatch := by
  refine .bind ⟨fun _ _ => (nomatch ·), fun _ => trivial⟩ fun verified => ?_
  refine .bind (.ite (.pure _) markReceipt_records.recording) fun confirmed => ?_
  refine .bind (.ite attachJobId_records.recording (.pure _)) fun current => ?_
  refine .bind (.performIf ⟨fun _ _ => (nomatch ·), fun _ => trivial⟩) fun _ => ?_
  refine .bind (.performIf ⟨fun _ _ => (nomatch ·), fun _ => trivial⟩) fun _ => ?_
  exact .bind (.performIf ⟨fun _ _ => (nomatch ·), fun _ => trivial⟩) fun _ => rest current _

theorem confirmEoaFailure_leavesDispatch {operation : OperationRecord} {transactionHash : String} {cause : Failure} :
    (confirmEoaFailure operation transactionHash cause).Only Call.LeavesDispatch := by
  unfold confirmEoaFailure
  refine .ite browserResult_leavesDispatch (.ite (.ite browserResult_leavesDispatch ?_) ?_)
  · exact .bind markUnknown_records.recording fun _ => browserResult_leavesDispatch
  · refine .bind (.ite ⟨fun _ _ => (nomatch ·), fun _ => trivial⟩ (.pure _)) ?_
    rintro (_ | receipt)
    · exact .bind (.ignoreFailure markManualReview_records.recording) fun _ => .throw _
    · exact .bind markReceipt_records.recording fun _ => browserResult_leavesDispatch

variable {server : CommerceServer}

theorem confirmEoaWith_leavesDispatch {advance : OperationRecord → Option VerifiedEoaReceipt → Handler BrowserResult}
    {operation : OperationRecord} {suppliedHash : Option String}
    (rest : ∀ operation verified, (advance operation verified).Only Call.LeavesDispatch) :
    (confirmEoaWith server advance operation suppliedHash).Only Call.LeavesDispatch := by
  unfold confirmEoaWith
  split
  · exact .failWith _
  · refine .ite (rest _ _) ?_
    split
    · exact .ite browserResult_leavesDispatch (.bind markUnknown_records.recording fun _ => browserResult_leavesDispatch)
    · refine .ite (.failWith _) (.bind (.ite markSubmitted_records.recording (.pure _)) fun submitted => ?_)
      exact .catch' (verifyEoa_leavesDispatch rest) fun _ => confirmEoaFailure_leavesDispatch

variable [Sha256]

theorem reserveExternal_leavesDispatch {approvals : Bool} {prepared : PreparedOperation} {idempotencyKey : String} :
    (reserveExternal approvals prepared idempotencyKey).Only Call.LeavesDispatch := by
  refine .bind ?_ fun _ => .bind (reserve_only.mono fun call => Call.Reserves.leavesDispatch call) fun _ => .pure _
  unfold assertSettlementApproved
  split
  · split
    · exact ⟨fun _ _ => (nomatch ·), fun _ => trivial⟩
    · exact .lift _
  · exact .pure _

theorem advanceEoa_leavesDispatch (fuel : Nat) (operation : OperationRecord) (verified : Option VerifiedEoaReceipt) :
    (advanceEoa server fuel operation verified).Only Call.LeavesDispatch := by
  induction fuel generalizing operation verified with
  | zero => exact .throw _
  | succ fuel ih =>
    unfold advanceEoa
    dsimp only
    split
    · exact .failWith _
    · split
      · exact browserResult_leavesDispatch
      · exact .failWith _
      · refine .lift_bind fun prepared _ => .bind reserveExternal_leavesDispatch fun reservation => ?_
        have confirms : (confirmEoaWith server (advanceEoa server fuel) reservation.operation none).Only
            Call.LeavesDispatch := confirmEoaWith_leavesDispatch ih
        exact .ite (.ite confirms (ih _ _)) (.ite confirms browserResult_leavesDispatch)

theorem confirmEoa_leavesDispatch {fuel : Nat} {operation : OperationRecord} {suppliedHash : Option String} :
    (confirmEoa server fuel operation suppliedHash).Only Call.LeavesDispatch :=
  confirmEoaWith_leavesDispatch (advanceEoa_leavesDispatch fuel)

theorem attachExternalExecution_leavesDispatch {fuel : Nat} {operationId : String} {callsId transactionHash : Option String} :
    (server.attachExternalExecution fuel operationId callsId transactionHash).Only Call.LeavesDispatch := by
  refine .bind assertBrowserOperationActor_leavesDispatch fun existing => .ite ?_ ?_
  · split
    · exact .bind (.ite markUnknown_records.recording (.pure _)) fun _ => browserResult_leavesDispatch
    · exact confirmEoa_leavesDispatch
  · unfold CommerceServer.attachRelayExecution
    split
    · exact .failWith _
    · refine .bind attachExternalExecution_records.recording fun result => ?_
      refine .bind (.performFor fun _ => ⟨fun _ _ => (nomatch ·), fun _ => trivial⟩) fun _ => ?_
      exact .lift_bind fun _ _ => .pure _

theorem operationStatus_leavesDispatch {fuel : Nat} {operationId : String} :
    (server.operationStatus fuel operationId).Only Call.LeavesDispatch := by
  refine .bind assertBrowserOperationActor_leavesDispatch fun operation => ?_
  split
  · refine .bind (.ite (.catch' ?_ fun cause => ?_) (.pure _)) fun _ => browserResult_leavesDispatch
    · exact .bind (reconcile_records fuel).recording fun _ => .pure _
    · exact .ite (.bind get_only.reading fun _ => .pure _) (.throw _)
  · exact .ite (advanceEoa_leavesDispatch _ _ _) (.ite confirmEoa_leavesDispatch
      (.ite (advanceEoa_leavesDispatch _ _ _) browserResult_leavesDispatch))

theorem reconcile_leavesDispatch {fuel : Nat} {operationId : String} :
    (server.reconcile fuel operationId).Only Call.LeavesDispatch := by
  refine .bind ⟨fun _ _ => (nomatch ·), fun _ => trivial⟩ fun identity => .bind get_only.reading ?_
  rintro (_ | existing)
  · exact .failWith _
  · dsimp only
    split
    · exact .failWith _
    · refine .ite (.failWith _) (.ite confirmEoa_leavesDispatch ?_)
      exact .bind (reconcile_records fuel).recording fun _ => .pure _

end

section

open Interleaving

/-- The operation table, the calls whose claim took effect, in order, the claims that
were released, and the dispatches that a wallet rejected. A dispatch is known by the
number of the call that claimed it. -/
structure DispatchState where
  table : OperationTable
  claims : String → List Nat
  released : String → List Nat
  rejected : List Nat

/-- The requests of the browsers. A release names the dispatch whose rejection it
reports, although the server is not told. -/
inductive BrowserRequest
  | claimExternalDispatch (operationId : String)
  | releaseExternalDispatch (operationId : String) (dispatch : Nat)
  | attachExternalExecution (fuel : Nat) (operationId : String) (callsId transactionHash : Option String)
  | operationStatus (fuel : Nat) (operationId : String)
  | reconcile (fuel : Nat) (operationId : String)
  | reserveExternal (prepared : PreparedOperation) (idempotencyKey : String)

abbrev BrowserAnswer := Except Failure BrowserResult

def BrowserRequest.handler [Sha256] (server : CommerceServer) : BrowserRequest → Handler BrowserResult
  | claimExternalDispatch operationId => server.claimExternalDispatch operationId
  | releaseExternalDispatch operationId _ => server.releaseExternalDispatch operationId
  | attachExternalExecution fuel operationId callsId transactionHash =>
    server.attachExternalExecution fuel operationId callsId transactionHash
  | operationStatus fuel operationId => server.operationStatus fuel operationId
  | reconcile fuel operationId => server.reconcile fuel operationId
  | reserveExternal prepared idempotencyKey => do
    let reservation ← Bnbera.reserveExternal server.approvals prepared idempotencyKey
    return { operation := reservation.operation, replayed := reservation.replayed, dispatch := none }

namespace DispatchState

/-- Both updates of a dispatch change the status of their row, and nothing else does
so under their name. -/
def Moved (before after : OperationTable) (operationId : String) : Prop :=
  (before.get operationId).map (·.status) ≠ (after.get operationId).map (·.status)

instance (before after : OperationTable) (operationId : String) : Decidable (Moved before after operationId) :=
  inferInstanceAs (Decidable (_ ≠ _))

def claimed (state : DispatchState) (number : Nat) (query : OperationQuery) (after : OperationTable) (id : String) :
    List Nat :=
  match query with
  | .update operationId (.claimExternalDispatch _) =>
    if operationId = id ∧ Moved state.table after id then state.claims id ++ [number] else state.claims id
  | _ => state.claims id

def releasedBy (state : DispatchState) (request : BrowserRequest) (query : OperationQuery) (after : OperationTable)
    (id : String) : List Nat :=
  match request, query with
  | .releaseExternalDispatch _ dispatch, .update operationId (.releaseExternalDispatch _) =>
    if operationId = id ∧ Moved state.table after id then state.released id ++ [dispatch] else state.released id
  | _, _ => state.released id

def log (state : DispatchState) (number : Nat) (request : BrowserRequest) (query : OperationQuery)
    (after : OperationTable) : DispatchState where
  table := after
  claims := state.claimed number query after
  released := state.releasedBy request query after
  rejected := state.rejected

end DispatchState

abbrev DispatchCondition := DispatchState → BrowserRequest → OperationQuery → Prop

def browserExec (meets : DispatchCondition) (number : Nat) (request : BrowserRequest) :
    Semantics Call Call.Answer DispatchState
  | .operations query, before, answer, after => meets before request query ∧
      ∃ table, query.Answers before.table answer table ∧ after = before.log number request query table
  | _, before, _, after => after = before

abbrev BrowserPool := Pool BrowserRequest Call Call.Answer BrowserAnswer DispatchState

def BrowserRequest.MayStart (pool : BrowserPool) : BrowserRequest → Prop
  | releaseExternalDispatch operationId dispatch => dispatch ∈ pool.state.rejected ∧
      ∃ result, pool.threads[dispatch]? = some ⟨.claimExternalDispatch operationId, .done (.ok result)⟩ ∧
        result.replayed = false
  | _ => True

def browser [Sha256] (server : CommerceServer) (meets : DispatchCondition) :
    System BrowserRequest Call Call.Answer BrowserAnswer DispatchState where
  handler request := (request.handler server).run
  exec := browserExec meets
  environment before after := ∃ dispatch, after = { before with rejected := before.rejected ++ [dispatch] }
  mayStart pool request := request.MayStart pool

def DispatchState.Initial (state : DispatchState) : Prop :=
  state.table = .empty ∧ (state.claims = fun _ => []) ∧ (state.released = fun _ => []) ∧ state.rejected = []

def BrowserReach [Sha256] (server : CommerceServer) (meets : DispatchCondition) (pool : BrowserPool) : Prop :=
  (browser server meets).Reach DispatchState.Initial pool

def Timely : DispatchCondition := fun before request query =>
  ∀ operationId dispatch id now row, request = .releaseExternalDispatch operationId dispatch →
    query = .update id (.releaseExternalDispatch now) → before.table.get id = some row →
    (OperationUpdate.releaseExternalDispatch now).guard row = true → (before.claims id).getLast? = some dispatch

end

end Bnbera
