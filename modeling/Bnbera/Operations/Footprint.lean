import Bnbera.Operations.Repository

namespace Bnbera

open Interleaving

structure Handler.Only {α : Type} (allowed : Call → Prop) (handler : Handler α) : Prop where
  calls : handler.run.Calls allowed

namespace Handler.Only

variable {α β : Type} {allowed wider : Call → Prop}

theorem mono {handler : Handler α} (only : handler.Only allowed) (implies : ∀ call, allowed call → wider call) :
    handler.Only wider := ⟨only.calls.mono implies⟩

theorem pure (value : α) : (Pure.pure value : Handler α).Only allowed := ⟨trivial⟩

theorem throw (failure : Failure) : (throwThe Failure failure : Handler α).Only allowed := ⟨trivial⟩

theorem lift (result : Except Failure α) : (liftM result : Handler α).Only allowed := ⟨trivial⟩

theorem bind {handler : Handler α} {after : α → Handler β} (first : handler.Only allowed)
    (rest : ∀ value, (after value).Only allowed) : (handler >>= after).Only allowed := by
  refine ⟨Program.Calls.bind first.calls ?_⟩
  rintro (failure | value)
  · trivial
  · exact (rest value).calls

theorem lift_bind {result : Except Failure α} {after : α → Handler β}
    (rest : ∀ value, result = .ok value → (after value).Only allowed) :
    (do let value ← result; after value : Handler β).Only allowed := by
  cases result with
  | error failure => exact ⟨trivial⟩
  | ok value => exact ⟨(rest value rfl).calls⟩

theorem catch' {handler : Handler α} {handle : Failure → Handler α} (first : handler.Only allowed)
    (second : ∀ failure, (handle failure).Only allowed) : (tryCatch handler handle).Only allowed := by
  refine ⟨Program.Calls.bind first.calls ?_⟩
  rintro (failure | value)
  · exact (second failure).calls
  · trivial

theorem ask {call : Call} (permitted : allowed call) : (Handler.ask call).Only allowed :=
  ⟨permitted, fun _ => trivial⟩

theorem statement {query : OperationQuery} (permitted : allowed (.operations query)) :
    (Handler.statement query).Only allowed := ⟨permitted, fun _ => trivial⟩

end Handler.Only

inductive UpdateMethod
  | markSubmitted
  | attachJobId
  | attachCallsId
  | claimExternalDispatch
  | releaseExternalDispatch
  | markReceipt
  | markUnknown
  | markFailed
  | reconcile
  | markManualReview
deriving DecidableEq

def OperationUpdate.method : OperationUpdate → UpdateMethod
  | markSubmitted .. => .markSubmitted
  | attachJobId _ => .attachJobId
  | attachCallsId _ => .attachCallsId
  | claimExternalDispatch _ => .claimExternalDispatch
  | releaseExternalDispatch _ => .releaseExternalDispatch
  | markReceipt .. => .markReceipt
  | markUnknown .. => .markUnknown
  | markFailed .. => .markFailed
  | reconcile .. => .reconcile
  | markManualReview .. => .markManualReview

inductive Call.IsRead : Call → Prop
  | get {operationId} : IsRead (.operations (.get operationId))
  | getByIdempotencyKey {key} : IsRead (.operations (.getByIdempotencyKey key))
  | unixNow : IsRead .unixNow
  | randomUuid : IsRead .randomUuid

inductive Call.Touches (operationId : String) (changes : OperationUpdate → Prop) : Call → Prop
  | read {call} : call.IsRead → Touches operationId changes call
  | update {change} : changes change → Touches operationId changes (.operations (.update operationId change))

theorem Call.Touches.mono {operationId : String} {changes wider : OperationUpdate → Prop}
    (implies : ∀ change, changes change → wider change) (call : Call) (touches : call.Touches operationId changes) :
    call.Touches operationId wider := by
  cases touches with
  | read isRead => exact .read isRead
  | update changed => exact .update (implies _ changed)

theorem assertNow_only {nowUnix : Option Int} : (assertNow nowUnix).Only Call.IsRead := by
  cases nowUnix with
  | none => exact .bind (.ask .unixNow) fun _ => .lift _
  | some given => exact .lift _

namespace OperationRepository

theorem getRecord_only {query : OperationQuery} {allowed : Call → Prop} (permitted : allowed (.operations query)) :
    (getRecord query).Only allowed := by
  unfold getRecord
  refine .bind (.statement permitted) ?_
  rintro (_ | row)
  · exact .pure _
  · exact .bind (.lift _) fun _ => .pure _

theorem get_only {operationId : String} : (get operationId).Only Call.IsRead := getRecord_only .get

theorem updateOrReplay_only {operationId refusal : String} {change : OperationUpdate}
    {replays : OperationRecord → Bool} {changes : OperationUpdate → Prop} (changed : changes change) :
    (updateOrReplay operationId change replays refusal).Only (Call.Touches operationId changes) := by
  unfold updateOrReplay
  refine .bind (.statement (.update changed)) ?_
  rintro (_ | row)
  · refine .bind (get_only.mono fun _ => .read) ?_
    rintro (_ | existing)
    · exact .lift _
    · dsimp only
      split
      · exact .pure _
      · exact .lift _
  · exact .lift _

theorem updateDispatch_only {operationId missing : String} {change : OperationUpdate}
    {changes : OperationUpdate → Prop} (changed : changes change) :
    (updateDispatch operationId change missing).Only (Call.Touches operationId changes) := by
  unfold updateDispatch
  refine .bind (.statement (.update changed)) ?_
  rintro (_ | row)
  · refine .bind (get_only.mono fun _ => .read) ?_
    rintro (_ | existing)
    · exact .lift _
    · exact .pure _
  · exact .bind (.lift _) fun _ => .pure _

variable {operationId : String} {nowUnix : Option Int}

theorem markSubmitted_only {transactionHash : String} :
    (markSubmitted operationId transactionHash nowUnix).Only
      (Call.Touches operationId (·.method = .markSubmitted)) :=
  .lift_bind fun _ _ => .bind (assertNow_only.mono fun _ => .read) fun _ => updateOrReplay_only rfl

theorem attachJobId_only {jobId : String} :
    (attachJobId operationId jobId).Only (Call.Touches operationId (·.method = .attachJobId)) := by
  refine .lift_bind ?_
  rintro (_ | _) _
  · exact .lift _
  · exact updateOrReplay_only rfl

theorem attachCallsId_only {callsId : String} :
    (attachCallsId operationId callsId).Only (Call.Touches operationId (·.method = .attachCallsId)) :=
  .lift_bind fun _ _ => updateOrReplay_only rfl

theorem claimExternalDispatch_only :
    (claimExternalDispatch operationId nowUnix).Only
      (Call.Touches operationId (·.method = .claimExternalDispatch)) :=
  .bind (assertNow_only.mono fun _ => .read) fun _ => updateDispatch_only rfl

theorem releaseExternalDispatch_only :
    (releaseExternalDispatch operationId nowUnix).Only
      (Call.Touches operationId (·.method = .releaseExternalDispatch)) :=
  .bind (assertNow_only.mono fun _ => .read) fun _ => updateDispatch_only rfl

def IsReceiptOf (transactionHash : String) : OperationUpdate → Prop
  | .markReceipt _ hash .. => normalizeHash transactionHash "transaction hash" = .ok hash
  | _ => False

theorem IsReceiptOf.method {transactionHash : String} {change : OperationUpdate}
    (receipt : IsReceiptOf transactionHash change) : change.method = .markReceipt := by
  cases change <;> first | rfl | cases receipt

theorem markReceipt_only {status : ReceiptStatus} {transactionHash blockNumber blockHash : String}
    {logIndex : Option Int} {failureCode : Option String} :
    (markReceipt operationId status transactionHash blockNumber blockHash logIndex failureCode nowUnix).Only
      (Call.Touches operationId (IsReceiptOf transactionHash)) := by
  refine .lift_bind fun hash hashed => .lift_bind fun _ _ => .lift_bind fun _ _ => .lift_bind fun _ _ => ?_
  refine .bind (assertNow_only.mono fun _ => .read) fun _ => updateOrReplay_only ?_
  exact hashed

theorem markUnknown_only {failureCode : Option String} :
    (markUnknown operationId failureCode nowUnix).Only (Call.Touches operationId (·.method = .markUnknown)) :=
  .bind (assertNow_only.mono fun _ => .read) fun _ => updateOrReplay_only rfl

theorem markFailed_only {failureCode : Option String} :
    (markFailed operationId failureCode nowUnix).Only (Call.Touches operationId (·.method = .markFailed)) :=
  .bind (assertNow_only.mono fun _ => .read) fun _ => updateOrReplay_only rfl

theorem reconcile_only {status : ReconciledStatus} :
    (reconcile operationId status nowUnix).Only (Call.Touches operationId (·.method = .reconcile)) :=
  .bind (assertNow_only.mono fun _ => .read) fun _ => updateOrReplay_only rfl

theorem markManualReview_only {failureCode : Option String} :
    (markManualReview operationId failureCode nowUnix).Only
      (Call.Touches operationId (·.method = .markManualReview)) :=
  .bind (assertNow_only.mono fun _ => .read) fun _ => updateOrReplay_only rfl

end OperationRepository

/-- `Meets` of a handler: its result, thrown or returned, satisfies `post`. -/
structure Handler.Meets {α σ : Type} (exec : Semantics Call Call.Answer σ) (rely guarantee : σ → σ → Prop)
    (post : Except Failure α → σ → Prop) (handler : Handler α) (s : σ) : Prop where
  meets : Interleaving.Meets exec rely guarantee post handler.run s

namespace Handler.Meets

variable {α β σ : Type} {exec : Semantics Call Call.Answer σ} {rely guarantee : σ → σ → Prop} {s : σ}

theorem pure {post : Except Failure α → σ → Prop} {value : α} (holds : ∀ s', rely s s' → post (.ok value) s') :
    Handler.Meets exec rely guarantee post (Pure.pure value) s := ⟨holds⟩

theorem throw {post : Except Failure α → σ → Prop} {failure : Failure}
    (holds : ∀ s', rely s s' → post (.error failure) s') :
    Handler.Meets exec rely guarantee post (throwThe Failure failure) s := ⟨holds⟩

theorem lift {post : Except Failure α → σ → Prop} {result : Except Failure α}
    (holds : ∀ s', rely s s' → post result s') : Handler.Meets exec rely guarantee post (liftM result) s := ⟨holds⟩

theorem mono {post weaker : Except Failure α → σ → Prop} {handler : Handler α}
    (meets : Handler.Meets exec rely guarantee post handler s)
    (implies : ∀ result s, post result s → weaker result s) : Handler.Meets exec rely guarantee weaker handler s :=
  ⟨meets.meets.mono implies⟩

theorem bind {post : Except Failure β → σ → Prop} {handler : Handler α} {after : α → Handler β}
    (closed : Rely rely)
    (first : Handler.Meets exec rely guarantee (fun result s => match result with
      | .ok value => Handler.Meets exec rely guarantee post (after value) s
      | .error failure => ∀ s', rely s s' → post (.error failure) s') handler s) :
    Handler.Meets exec rely guarantee post (handler >>= after) s := by
  refine ⟨Interleaving.Meets.except_bind closed (first.meets.mono ?_)⟩
  rintro (failure | value) s holds
  · exact holds
  · exact holds.meets

theorem lift_bind {post : Except Failure β → σ → Prop} {result : Except Failure α} {after : α → Handler β}
    (failed : ∀ failure, result = .error failure → ∀ s', rely s s' → post (.error failure) s')
    (rest : ∀ value, result = .ok value → Handler.Meets exec rely guarantee post (after value) s) :
    Handler.Meets exec rely guarantee post (do let value ← result; after value) s := by
  cases result with
  | error failure => exact ⟨failed failure rfl⟩
  | ok value => exact ⟨(rest value rfl).meets⟩

theorem statement_bind {post : Except Failure β → σ → Prop} {query : OperationQuery}
    {after : Option OperationRow → Handler β}
    (each : ∀ s', rely s s' → ∀ answer s'', exec (.operations query) s' answer s'' → guarantee s' s'' ∧
      match (answer : Except Failure (Option OperationRow)) with
      | .ok found => Handler.Meets exec rely guarantee post (after found) s''
      | .error failure => ∀ s', rely s'' s' → post (.error failure) s') :
    Handler.Meets exec rely guarantee post (do let found ← Handler.statement query; after found) s := by
  constructor
  intro s' moved answer s'' called
  obtain ⟨mine, rest⟩ := each s' moved answer s'' called
  refine ⟨mine, ?_⟩
  cases answer with
  | error failure => exact rest
  | ok found => exact rest.meets

theorem ask {post : Except Failure α → σ → Prop} {call : Call} {after : call.Answer → Handler α}
    (each : ∀ s', rely s s' → ∀ answer s'', exec call s' answer s'' → guarantee s' s'' ∧
      Handler.Meets exec rely guarantee post (after answer) s'') :
    Handler.Meets exec rely guarantee post (do let answer ← Handler.ask call; after answer) s := by
  constructor
  intro s' moved answer s'' called
  obtain ⟨mine, rest⟩ := each s' moved answer s'' called
  exact ⟨mine, rest.meets⟩

theorem only {allowed : Call → Prop} {holds : σ → Prop} {handler : Handler α} (only : handler.Only allowed)
    (others : ∀ s s', rely s s' → holds s → holds s')
    (kept : ∀ op s answer after, allowed op → exec op s answer after → holds s → guarantee s after ∧ holds after)
    (start : holds s) : Handler.Meets exec rely guarantee (fun _ s => holds s) handler s :=
  ⟨Interleaving.Meets.of_calls only.calls others kept start⟩

end Handler.Meets

end Bnbera
