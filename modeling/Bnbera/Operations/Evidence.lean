import Bnbera.Operations.Footprint
import Bnbera.Operations.TableFacts
import Bnbera.Operations.Context

namespace Bnbera

open Interleaving

def tableExec : Semantics Call Call.Answer OperationTable
  | .operations query, before, answer, after => query.Answers before answer after
  | _, before, _, after => after = before

def respond (outside : (call : Call) → call.Answer) : (call : Call) → OperationTable → call.Answer × OperationTable
  | .operations query, table => query.run table
  | call, table => (outside call, table)

theorem respond_allowed (outside : (call : Call) → call.Answer) (call : Call) (table : OperationTable) :
    tableExec call table (respond outside call table).1 (respond outside call table).2 := by
  cases call with
  | operations query => exact .answered
  | _ => rfl

theorem Call.IsRead.unchanged {call : Call} {answer : call.Answer} {before after : OperationTable}
    (isRead : call.IsRead) (called : tableExec call before answer after) : after = before := by
  have query : ∀ query : OperationQuery, (query.run before).2 = before → ∀ {answer},
      query.Answers before answer after → after = before := by
    intro query same answer answers
    cases answers with
    | answered => exact same
    | lost => rfl
    | unanswered => exact same
  cases isRead with
  | get => exact query (.get _) rfl called
  | getByIdempotencyKey => exact query (.getByIdempotencyKey _) rfl called
  | unixNow => exact called
  | randomUuid => exact called

theorem Call.Touches.row {operationId id : String} {changes : OperationUpdate → Prop} {call : Call}
    {answer : call.Answer} {before after : OperationTable} {row : OperationRow}
    (touches : call.Touches operationId changes) (called : tableExec call before answer after)
    (found : before.get id = some row) :
    after.get id = some row ∨ ∃ change next, id = operationId ∧ changes change ∧
      before.Updates id change row next ∧ after.get id = some next := by
  cases touches with
  | read isRead =>
    left
    rwa [isRead.unchanged called]
  | update changed =>
    rcases (OperationQuery.Answers.effect called).row found with same | ⟨change, next, update, done, result⟩
    · exact .inl same
    · cases update
      exact .inr ⟨_, next, rfl, changed, done, result⟩

theorem Call.Touches.no_new_row {operationId id : String} {changes : OperationUpdate → Prop} {call : Call}
    {answer : call.Answer} {before after : OperationTable} (touches : call.Touches operationId changes)
    (called : tableExec call before answer after) (absent : before.get id = none) : after.get id = none := by
  cases touches with
  | read isRead => rwa [isRead.unchanged called]
  | update =>
    cases found : after.get id with
    | none => rfl
    | some row =>
      obtain ⟨_, inserted, _⟩ := (OperationQuery.Answers.effect called).new_row absent found
      cases inserted

def callsIdOf (row : OperationRow) : Option String := jsonbText row.context "callsId"

def OperationStatus.isTerminal (status : OperationStatus) : Bool := status == .reverted || status == .reconciled

structure KeepsEvidence (row after : OperationRow) : Prop where
  transactionHash : ∀ hash, row.transactionHash = some hash → after.transactionHash = some hash
  jobId : ∀ jobId, row.jobId = some jobId → after.jobId = some jobId
  callsId : ∀ callsId, callsIdOf row = some callsId → callsIdOf after = some callsId
  status : row.status.isTerminal = true → after.status = row.status

theorem KeepsEvidence.refl (row : OperationRow) : KeepsEvidence row row :=
  ⟨fun _ => id, fun _ => id, fun _ => id, fun _ => rfl⟩

theorem KeepsEvidence.trans {row middle after : OperationRow} (first : KeepsEvidence row middle)
    (second : KeepsEvidence middle after) : KeepsEvidence row after where
  transactionHash hash stored := second.transactionHash hash (first.transactionHash hash stored)
  jobId jobId stored := second.jobId jobId (first.jobId jobId stored)
  callsId callsId stored := second.callsId callsId (first.callsId callsId stored)
  status terminal := by
    have same := first.status terminal
    exact (second.status (same ▸ terminal)).trans same

def OperationUpdate.FitsHash (row : OperationRow) : OperationUpdate → Prop
  | markReceipt _ hash .. => ∀ stored, row.transactionHash = some stored → stored = hash
  | _ => True

theorem callsIdOf_setDispatchClaimed {row : OperationRow} {claimed : Bool} {context : Option Json}
    (written : setContext row "dispatchClaimed" (.bool claimed) = .ok context) :
    jsonbText context "callsId" = callsIdOf row := by
  unfold setContext jsonbSet at written
  cases stored : row.context with
  | none =>
    simp only [stored, Except.ok.injEq] at written
    subst written
    simp only [callsIdOf, stored, jsonbText, fieldOf_cons, fieldOf_nil, String.reduceEq, ↓reduceIte]
  | some value =>
    cases value with
    | obj fields =>
      simp only [stored, Except.ok.injEq] at written
      subst written
      simp only [callsIdOf, stored, jsonbText, fieldOf_setField, String.reduceEq, ↓reduceIte]
    | _ => simp [stored] at written

structure OperationRow.Consistent (row : OperationRow) : Prop where
  unsent : row.status = .awaitingSignature → row.transactionHash = none
  sent : row.status = .submitted ∨ row.status = .confirmed → row.transactionHash ≠ none

theorem Reservation.consistent (reservation : Reservation) : OperationRow.Consistent reservation.row :=
  ⟨fun _ => rfl, by rintro (sent | sent) <;> cases sent⟩

namespace OperationUpdate

variable {change : OperationUpdate} {row after : OperationRow}

theorem not_terminal (allowed : change.guard row = true) (jobId : change.method ≠ .attachJobId)
    (callsId : change.method ≠ .attachCallsId) : row.status.isTerminal = false := by
  cases status : row.status with
  | reverted | reconciled => cases change <;> simp_all [guard, method]
  | _ => rfl

theorem consistent (allowed : change.guard row = true) (written : change.set row = .ok after)
    (before : OperationRow.Consistent row) : OperationRow.Consistent after := by
  have settled : after.status ≠ .awaitingSignature → after.status ≠ .submitted → after.status ≠ .confirmed →
      OperationRow.Consistent after := fun unsent submitted confirmed =>
    ⟨fun awaiting => absurd awaiting unsent, fun sent => sent.elim (absurd · submitted) (absurd · confirmed)⟩
  cases change with
  | markSubmitted hash nowUnix =>
    cases Except.ok.inj written
    exact ⟨(nomatch ·), fun _ => Option.some_ne_none _⟩
  | attachJobId jobId =>
    cases Except.ok.inj written
    exact ⟨before.unsent, before.sent⟩
  | attachCallsId callsId =>
    obtain ⟨context, _, rfl⟩ := exists_context written
    exact ⟨before.unsent, before.sent⟩
  | claimExternalDispatch nowUnix =>
    obtain ⟨context, _, rfl⟩ := exists_context written
    exact settled (by simp) (by simp) (by simp)
  | releaseExternalDispatch nowUnix =>
    obtain ⟨context, _, rfl⟩ := exists_context written
    simp only [guard, Bool.and_eq_true, beq_iff_eq] at allowed
    exact ⟨fun _ => allowed.1.1.2, by rintro (sent | sent) <;> cases sent⟩
  | markReceipt status hash blockNumber blockHash logIndex failureCode nowUnix =>
    cases Except.ok.inj written
    exact ⟨fun awaiting => (by cases status <;> cases awaiting), fun _ => Option.some_ne_none _⟩
  | reconcile status nowUnix =>
    cases Except.ok.inj written
    cases status <;> exact settled (by simp) (by simp) (by simp)
  | _ =>
    cases Except.ok.inj written
    exact settled (by simp) (by simp) (by simp)

/-- Each guarded update keeps the evidence of its row, given that a receipt fits the stored hash. -/
theorem keepsEvidence (allowed : change.guard row = true) (written : change.set row = .ok after)
    (before : OperationRow.Consistent row) (fits : change.FitsHash row) : KeepsEvidence row after := by
  have final : ∀ {status : OperationStatus}, change.method ≠ .attachJobId → change.method ≠ .attachCallsId →
      row.status.isTerminal = true → status = row.status := by
    intro status jobId callsId terminal
    rw [not_terminal allowed jobId callsId] at terminal
    cases terminal
  cases change with
  | markSubmitted hash nowUnix =>
    cases Except.ok.inj written
    refine ⟨fun stored same => ?_, fun _ => id, fun _ => id, final (by simp [method]) (by simp [method])⟩
    simp only [guard, Bool.or_eq_true, Bool.and_eq_true, beq_iff_eq] at allowed
    rcases allowed with awaiting | ⟨_, none | same'⟩
    · rw [before.unsent awaiting] at same
      cases same
    · rw [none] at same
      cases same
    · rw [← same, same']
  | attachJobId jobId =>
    cases Except.ok.inj written
    refine ⟨fun _ => id, fun stored same => ?_, fun _ => id, fun _ => rfl⟩
    simp only [guard, beq_iff_eq] at allowed
    rw [allowed] at same
    cases same
  | attachCallsId callsId =>
    obtain ⟨context, _, rfl⟩ := exists_context written
    refine ⟨fun _ => id, fun _ => id, fun stored same => ?_, fun _ => rfl⟩
    simp only [guard, beq_iff_eq] at allowed
    rw [callsIdOf, allowed] at same
    cases same
  | claimExternalDispatch nowUnix | releaseExternalDispatch nowUnix =>
    obtain ⟨context, stored, rfl⟩ := exists_context written
    exact ⟨fun _ => id, fun _ => id, fun _ same => (callsIdOf_setDispatchClaimed stored).trans same,
      final (by simp [method]) (by simp [method])⟩
  | markReceipt status hash blockNumber blockHash logIndex failureCode nowUnix =>
    cases Except.ok.inj written
    exact ⟨fun stored same => congrArg some (fits stored same).symm, fun _ => id, fun _ => id,
      final (by simp [method]) (by simp [method])⟩
  | _ =>
    cases Except.ok.inj written
    exact ⟨fun _ => id, fun _ => id, fun _ => id, final (by simp [method]) (by simp [method])⟩

end OperationUpdate

/-- The calls of the repository that change an operation, with their arguments. -/
inductive RepositoryCall
  | markSubmitted (operationId transactionHash : String) (nowUnix : Option Int)
  | attachJobId (operationId jobId : String)
  | attachCallsId (operationId callsId : String)
  | claimExternalDispatch (operationId : String) (nowUnix : Option Int)
  | releaseExternalDispatch (operationId : String) (nowUnix : Option Int)
  | markReceipt (operationId : String) (status : ReceiptStatus) (transactionHash blockNumber blockHash : String)
      (logIndex : Option Int) (failureCode : Option String) (nowUnix : Option Int)
  | markUnknown (operationId : String) (failureCode : Option String) (nowUnix : Option Int)
  | markFailed (operationId : String) (failureCode : Option String) (nowUnix : Option Int)
  | reconcile (operationId : String) (status : ReconciledStatus) (nowUnix : Option Int)
  | markManualReview (operationId : String) (failureCode : Option String) (nowUnix : Option Int)

namespace RepositoryCall

def operationId : RepositoryCall → String
  | markSubmitted id .. => id
  | attachJobId id _ => id
  | attachCallsId id _ => id
  | claimExternalDispatch id _ => id
  | releaseExternalDispatch id _ => id
  | markReceipt id .. => id
  | markUnknown id .. => id
  | markFailed id .. => id
  | reconcile id .. => id
  | markManualReview id .. => id

def handler : RepositoryCall → Handler Unit
  | markSubmitted id hash now => do let _ ← OperationRepository.markSubmitted id hash now
  | attachJobId id jobId => do let _ ← OperationRepository.attachJobId id jobId
  | attachCallsId id callsId => do let _ ← OperationRepository.attachCallsId id callsId
  | claimExternalDispatch id now => do let _ ← OperationRepository.claimExternalDispatch id now
  | releaseExternalDispatch id now => do let _ ← OperationRepository.releaseExternalDispatch id now
  | markReceipt id status hash number block log failure now => do
    let _ ← OperationRepository.markReceipt id status hash number block log failure now
  | markUnknown id failure now => do let _ ← OperationRepository.markUnknown id failure now
  | markFailed id failure now => do let _ ← OperationRepository.markFailed id failure now
  | reconcile id status now => do let _ ← OperationRepository.reconcile id status now
  | markManualReview id failure now => do let _ ← OperationRepository.markManualReview id failure now

def changes : RepositoryCall → OperationUpdate → Prop
  | markReceipt _ _ hash .. => OperationRepository.IsReceiptOf hash
  | _ => (·.method ≠ .markReceipt)

open OperationRepository in
theorem handler_only (call : RepositoryCall) :
    call.handler.Only (Call.Touches call.operationId call.changes) := by
  have finish : ∀ {α : Type} {method : UpdateMethod} {id : String} {handler : Handler α}, method ≠ .markReceipt →
      handler.Only (Call.Touches id (·.method = method)) →
      (do let _ ← handler : Handler Unit).Only (Call.Touches id (·.method ≠ .markReceipt)) :=
    fun other only => .bind (only.mono (Call.Touches.mono fun _ same => same ▸ other)) fun _ => .pure _
  cases call with
  | markSubmitted => exact finish (by decide) markSubmitted_only
  | attachJobId => exact finish (by decide) attachJobId_only
  | attachCallsId => exact finish (by decide) attachCallsId_only
  | claimExternalDispatch => exact finish (by decide) claimExternalDispatch_only
  | releaseExternalDispatch => exact finish (by decide) releaseExternalDispatch_only
  | markReceipt => exact .bind markReceipt_only fun _ => .pure _
  | markUnknown => exact finish (by decide) markUnknown_only
  | markFailed => exact finish (by decide) markFailed_only
  | reconcile => exact finish (by decide) reconcile_only
  | markManualReview => exact finish (by decide) markManualReview_only

def SameReceipt (table : OperationTable) : RepositoryCall → Prop
  | markReceipt id _ hash .. => ∀ row stored, table.get id = some row →
      row.status = .submitted ∨ row.status = .unknown ∨ row.status = .manualReview →
      row.transactionHash = some stored → normalizeHash hash "transaction hash" = .ok stored
  | _ => True

end RepositoryCall

/-- Calls made one after the other, in any order and with any arguments, each of
which meets a condition on the table before it. -/
inductive RepositoryRun (meets : OperationTable → RepositoryCall → Prop) : OperationTable → OperationTable → Prop
  | start {table} : RepositoryRun meets table table
  | next {table before after call result} : RepositoryRun meets table before → meets before call →
      Runs tableExec call.handler.run before result after → RepositoryRun meets table after

/-- One step of a call keeps the evidence of every row, and the call's own condition. -/
theorem RepositoryCall.step_keeps {call : RepositoryCall} {op : Call} {answer : op.Answer}
    {before after : OperationTable} (touches : op.Touches call.operationId call.changes)
    (called : tableExec op before answer after) (same : call.SameReceipt before) :
    call.SameReceipt after ∧ ∀ id row, before.get id = some row → row.Consistent →
      ∃ next, after.get id = some next ∧ next.Consistent ∧ KeepsEvidence row next := by
  have fits : ∀ {id change row next}, id = call.operationId → call.changes change →
      before.Updates id change row next → change.FitsHash row := by
    intro id change row next here changed done
    cases change with
    | markReceipt status hash =>
      intro stored known
      have allowed := done.allowed
      simp only [OperationUpdate.guard, List.contains_cons, List.contains_nil, Bool.or_false, Bool.or_eq_true,
        beq_iff_eq] at allowed
      cases call with
      | markReceipt id' _ given =>
        have found := done.found
        rw [here] at found
        have normal : normalizeHash given "transaction hash" = .ok hash := changed
        have again := same row stored found allowed known
        exact Except.ok.inj (again.symm.trans normal)
      | _ => exact absurd rfl changed
    | _ => trivial
  refine ⟨?_, fun id row found consistent => ?_⟩
  · cases call with
    | markReceipt id status given =>
      intro row stored found open' known
      cases past : before.get id with
      | none =>
        rw [touches.no_new_row called past] at found
        cases found
      | some old =>
        rcases touches.row called past with kept | ⟨change, next, _, changed, done, result⟩
        · cases Option.some.inj (kept.symm.trans found)
          exact same row stored past open' known
        · cases Option.some.inj (result.symm.trans found)
          cases change with
          | markReceipt _ hash =>
            cases Except.ok.inj done.written
            cases Option.some.inj known
            exact changed
          | _ => cases changed
    | _ => trivial
  · rcases touches.row called found with kept | ⟨change, next, here, changed, done, result⟩
    · exact ⟨row, kept, consistent, .refl row⟩
    · exact ⟨next, result, change.consistent done.allowed done.written consistent,
        change.keepsEvidence done.allowed done.written consistent (fits here changed done)⟩

theorem RepositoryCall.run_keeps {call : RepositoryCall} {before after : OperationTable} {id : String}
    {result : Except Failure Unit} {row : OperationRow} (run : Runs tableExec call.handler.run before result after)
    (same : call.SameReceipt before) (found : before.get id = some row) (consistent : row.Consistent) :
    ∃ next, after.get id = some next ∧ next.Consistent ∧ KeepsEvidence row next := by
  let kept : OperationTable → Prop := fun table => call.SameReceipt table ∧
    ∃ next, table.get id = some next ∧ next.Consistent ∧ KeepsEvidence row next
  have start : kept before := ⟨same, row, found, consistent, .refl row⟩
  suffices kept after from this.2
  refine Runs.invariant ?_ call.handler_only.calls run start
  rintro op table answer later touches called ⟨again, next, stored, fine, kept⟩
  obtain ⟨still, keeps⟩ := call.step_keeps touches called again
  obtain ⟨last, atLast, sound, more⟩ := keeps id next stored fine
  exact ⟨still, last, atLast, sound, kept.trans more⟩

theorem RepositoryRun.keeps {table after : OperationTable} {id : String} {row : OperationRow}
    (run : RepositoryRun (fun table call => call.SameReceipt table) table after) (found : table.get id = some row)
    (consistent : row.Consistent) :
    ∃ next, after.get id = some next ∧ next.Consistent ∧ KeepsEvidence row next := by
  induction run with
  | start => exact ⟨row, found, consistent, .refl row⟩
  | next _ same ran ih =>
    obtain ⟨middle, atMiddle, fine, kept⟩ := ih
    obtain ⟨next, atNext, sound, more⟩ := RepositoryCall.run_keeps ran same atMiddle fine
    exact ⟨next, atNext, sound, kept.trans more⟩

/-- Evidence is write-once over every run in which a receipt names the hash the
operation already has: whatever an earlier state of a reserved row holds, every
later state of the run still holds. -/
theorem RepositoryRun.evidence_write_once {reserved earlier later : OperationTable} {reservation : Reservation}
    (start : reserved.get reservation.id = some reservation.row)
    (first : RepositoryRun (fun table call => call.SameReceipt table) reserved earlier)
    (second : RepositoryRun (fun table call => call.SameReceipt table) earlier later) :
    ∃ row after, earlier.get reservation.id = some row ∧ later.get reservation.id = some after ∧
      KeepsEvidence row after := by
  obtain ⟨row, found, consistent, _⟩ := first.keeps start reservation.consistent
  obtain ⟨after, atAfter, _, kept⟩ := second.keeps found consistent
  exact ⟨row, after, found, atAfter, kept⟩

def submittedHash : Hash :=
  ⟨"0x1111111111111111111111111111111111111111111111111111111111111111", by decide +kernel, by decide +kernel⟩

theorem foreignHash_ok : isHash "0x2222222222222222222222222222222222222222222222222222222222222222" = true := by decide +kernel

theorem foreignHash_lower :
    lower "0x2222222222222222222222222222222222222222222222222222222222222222" =
      "0x2222222222222222222222222222222222222222222222222222222222222222" := by decide +kernel

def foreignHash : Hash := ⟨_, foreignHash_ok, foreignHash_lower⟩

def hireReservation : Reservation where
  id := "operation-1"
  idempotencyKey := "hire-key-1"
  requestDigest :=
    ⟨"3333333333333333333333333333333333333333333333333333333333333333", by decide +kernel, by decide +kernel⟩
  chainId := .testnet
  commerceContract := ⟨"0x4444444444444444444444444444444444444444", by decide +kernel, by decide +kernel⟩
  jobId := none
  kind := .create
  signerRole := .client
  context := none
  nowUnix := ⟨1, one_low, one_high⟩

def RepositoryCall.after (call : RepositoryCall) (table : OperationTable) : OperationTable :=
  (call.handler.run.eval (respond (offline 2)) table).2

theorem RepositoryRun.after {meets : OperationTable → RepositoryCall → Prop} {table before : OperationTable}
    {call : RepositoryCall} (run : RepositoryRun meets table before) (met : meets before call) :
    RepositoryRun meets table (call.after before) :=
  run.next met (Runs.of_eval (respond_allowed _) call.handler.run before)

def reservedTable : OperationTable := (OperationTable.empty.insert hireReservation).2

def submittedTable : OperationTable :=
  RepositoryCall.after (.markSubmitted "operation-1" submittedHash.text none) reservedTable

def receiptCall (hash : Hash) : RepositoryCall :=
  .markReceipt "operation-1" .confirmed hash.text "7" hash.text none none none

theorem RepositoryRun.evidence_write_once_receipt :
    ∃ row after, submittedTable.get "operation-1" = some row ∧
      ((receiptCall submittedHash).after submittedTable).get "operation-1" = some after ∧ KeepsEvidence row after := by
  have sameReceipt : (receiptCall submittedHash).SameReceipt submittedTable := by
    intro row stored found _ known
    have hash : (submittedTable.get "operation-1").bind (·.transactionHash) = some submittedHash := by rfl
    rw [found, Option.bind_some, known] at hash
    cases Option.some.inj hash
    exact normalizeHash_text _ _
  exact RepositoryRun.evidence_write_once (by rfl : reservedTable.get hireReservation.id = some hireReservation.row)
    (RepositoryRun.start.after trivial) (RepositoryRun.start.after sameReceipt)

/-- A receipt with another hash is applied to a submitted operation: the stored
hash is replaced, which `markSubmitted` refuses in the same state. -/
theorem RepositoryRun.receipt_rebinds_hash :
    RepositoryRun (fun _ _ => True) reservedTable submittedTable ∧
    RepositoryRun (fun _ _ => True) submittedTable ((receiptCall foreignHash).after submittedTable) ∧
    ∃ row after, submittedTable.get "operation-1" = some row ∧
      ((receiptCall foreignHash).after submittedTable).get "operation-1" = some after ∧
      row.transactionHash = some submittedHash ∧ after.transactionHash = some foreignHash ∧
      ¬ KeepsEvidence row after := by
  refine ⟨RepositoryRun.start.after trivial, RepositoryRun.start.after trivial, _, _, rfl, rfl, rfl, rfl, ?_⟩
  intro kept
  have same := Option.some.inj (kept.transactionHash submittedHash rfl)
  exact absurd (congrArg Normalized.text same) (by decide)

end Bnbera
