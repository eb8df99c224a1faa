import Bnbera.Coordinator.Recovery
import Bnbera.Coordinator.AtMostOnce

namespace Bnbera

section

open Interleaving OperationRepository

variable {answers : (call : Call) → call.Answer → Prop} {table : OperationTable} {id : String} {row : OperationRow}
  {callsId : HexData} {hash : Hash} {receipt : RpcReceipt} {job : Option OnchainJob}

/-- The calls id in the column is the one of the parsed context. -/
theorem parseContext_callsId {context : Option OperationContext} (readable : parseContext row.context = .ok context)
    (recorded : callsIdOf row = some callsId.text) :
    (context.bind fun context => context.callsId.join) = some callsId := by
  unfold callsIdOf jsonbText at recorded
  cases column : row.context with
  | none =>
    rw [column] at recorded
    cases recorded
  | some value =>
    cases value with
    | obj fields =>
      rw [column] at recorded readable
      cases parsed : parseContextFields fields with
      | error failure =>
        rw [parseContext, parsed] at readable
        cases readable
      | ok value =>
        rw [parseContext, parsed] at readable
        obtain rfl := Except.ok.inj readable
        have read := (parseContextFields_eq_ok.mp parsed).2.2.2.2.1
        dsimp only at recorded
        cases given : fieldOf fields "callsId" with
        | none => simp [given] at recorded
        | some item =>
          rw [given] at recorded read
          cases item with
          | str text =>
            obtain rfl := Option.some.inj recorded
            simp only [whenNotNull, assertHex_text, Except.map, Except.ok.injEq] at read
            simp [← read]
          | null => cases recorded
          | _ => cases read
    | _ =>
      rw [column] at recorded
      cases recorded

def OperationTable.Consistent (table : OperationTable) : Prop :=
  ∀ id row, table.get id = some row → row.Consistent

theorem OperationQuery.Answers.consistent {query : OperationQuery} {before after : OperationTable}
    {answer : Except Failure (Option OperationRow)} (answers : query.Answers before answer after)
    (consistent : before.Consistent) : after.Consistent := by
  intro id row found
  cases past : before.get id with
  | none =>
    obtain ⟨reservation, _, _, _, rfl⟩ := answers.effect.new_row past found
    exact reservation.consistent
  | some old =>
    rcases answers.effect.row past with same | ⟨change, next, _, done, result⟩
    · cases Option.some.inj (same.symm.trans found)
      exact consistent id row past
    · cases Option.some.inj (result.symm.trans found)
      exact OperationUpdate.consistent done.allowed done.written (consistent id old past)

theorem CoordinatorReach.consistent [Sha256] {pool : CoordinatorPool} (reach : CoordinatorReach pool) :
    pool.state.table.Consistent := by
  refine @System.Reach.invariant _ _ _ _ _ _ _ (fun state => state.table.Consistent) _ reach ?_ ?_
    (fun _ _ moved => moved.elim)
  · rintro state ⟨empty, _⟩ id row found
    rw [empty] at found
    cases found
  · intro number _ op before answer after called consistent
    cases op with
    | operations query => exact called.1.consistent consistent
    | run operationId =>
      cases called
      exact consistent
    | assertBuyerApproval =>
      cases called.1
      exact consistent
    | _ =>
      cases called
      exact consistent

def OperationUpdate.StoresOnly (hash : Hash) : OperationUpdate → Prop
  | markSubmitted stored _ => stored = hash
  | markReceipt _ stored .. => stored = hash
  | _ => True

theorem OperationUpdate.StoresOnly.kept {change : OperationUpdate} {after : OperationRow} (only : change.StoresOnly hash)
    (written : change.set row = .ok after) (stored : row.transactionHash = some hash) :
    after.transactionHash = some hash := by
  cases change with
  | markSubmitted | markReceipt =>
    cases Except.ok.inj written
    exact congrArg some only
  | attachCallsId | claimExternalDispatch | releaseExternalDispatch =>
    obtain ⟨_, _, rfl⟩ := exists_context written
    exact stored
  | _ =>
    cases Except.ok.inj written
    exact stored

inductive Call.RecordsHash (operationId : String) (hash : Hash) : Call → Prop
  | touches {call} : call.Touches operationId (·.StoresOnly hash) → RecordsHash operationId hash call
  | persistCanonicalReconciliation {operation job receipt} :
      RecordsHash operationId hash (.persistCanonicalReconciliation operation job receipt)

theorem Call.RecordsHash.kept {call : Call} {before after : OperationTable} {answer : call.Answer}
    (records : call.RecordsHash id hash) (called : aloneExec answers call before answer after)
    (stored : ∃ current, before.get id = some current ∧ current.transactionHash = some hash) :
    ∃ current, after.get id = some current ∧ current.transactionHash = some hash := by
  obtain ⟨current, found, kept⟩ := stored
  cases records with
  | persistCanonicalReconciliation =>
    cases called.2
    exact ⟨current, found, kept⟩
  | touches touches =>
    have table : tableExec call before answer after := by
      cases call with
      | operations query =>
        obtain ⟨rfl, rfl⟩ := called
        exact .answered
      | _ => exact called.2
    rcases touches.row table found with same | ⟨change, next, _, only, done, result⟩
    · exact ⟨current, same, kept⟩
    · exact ⟨next, result, only.kept done.written kept⟩

theorem Handler.Only.recordsHash {α : Type} {method : UpdateMethod} {handler : Handler α}
    (only : handler.Only (Call.Touches id (·.method = method))) (submitted : method ≠ .markSubmitted)
    (receipt : method ≠ .markReceipt) : handler.Only (Call.RecordsHash id hash) := by
  refine only.mono fun call touches => .touches (Call.Touches.mono ?_ call touches)
  rintro change rfl
  cases change with
  | markSubmitted => exact absurd rfl submitted
  | markReceipt => exact absurd rfl receipt
  | _ => trivial

theorem recordAccepted_recordsHash {existing : OperationRecord} {checked : VerifiedReceipt}
    (same : checked.receipt.transactionHash = hash) :
    (recordAccepted id existing checked).Only (Call.RecordsHash id hash) := by
  have receipt : (markReceipt id .confirmed checked.receipt.transactionHash.text checked.receipt.blockNumber.text
      checked.receipt.blockHash.text).Only (Call.RecordsHash id hash) := by
    refine markReceipt_only.mono fun call touches => .touches (Call.Touches.mono ?_ call touches)
    intro change carries
    cases change with
    | markReceipt =>
      have normal := carries
      rw [IsReceiptOf, normalizeHash_text] at normal
      exact (Except.ok.inj normal).symm.trans same
    | _ => cases carries
  refine .bind receipt fun _ => .bind (.performFor fun _ => attachJobId_only.recordsHash (by decide) (by decide)) fun _ => ?_
  refine .bind (get_only.mono fun _ isRead => .touches (.read isRead)) ?_
  rintro (_ | afterReceipt)
  · exact .failWith _
  · refine .bind ⟨.persistCanonicalReconciliation, fun _ => trivial⟩ fun _ => ?_
    exact .bind (reconcile_only.recordsHash (by decide) (by decide)) fun _ => .pure _

theorem reconcileFailure_recordsHash {given : Hash} {cause : Failure} :
    (reconcileFailure id given cause).Only (Call.RecordsHash id hash) := by
  unfold reconcileFailure
  split
  · exact .bind (.ignoreFailure (markUnknown_only.recordsHash (by decide) (by decide))) fun _ => .throw _
  · refine .bind (.ignoreFailure (markManualReview_only.recordsHash (by decide) (by decide))) fun _ => ?_
    split
    · exact .throw _
    · exact .failWith _

theorem verifyAndReconcile_other {other : Hash} {existing : OperationRecord}
    (confirms : RelayConfirms answers row callsId hash receipt job)
    (stored : ∃ current, table.get id = some current ∧ current.transactionHash = some other) :
    (tryCatch (verifyAndReconcile id existing other) (reconcileFailure id other)).Ends answers
      (fun _ after => ∃ current, after.get id = some current ∧ current.transactionHash = some other) table := by
  have kept : ∀ op s answer s', Call.RecordsHash id other op → aloneExec answers op s answer s' →
      (∃ current, s.get id = some current ∧ current.transactionHash = some other) →
      ∃ current, s'.get id = some current ∧ current.transactionHash = some other :=
    fun _ _ _ _ records called => records.kept called
  refine .catch' (.of_call rfl (fun _ => (nomatch ·)) fun checked allowed => ?_)
  cases checked with
  | error failure => exact ⟨fun result after run => by
      obtain ⟨rfl, rfl⟩ := Runs.done_iff.mp run
      exact .only reconcileFailure_recordsHash kept stored⟩
  | ok checked =>
    refine ⟨((Handler.Ends.only (recordAccepted_recordsHash (confirms.asked _ _ allowed)) kept stored).mono ?_).runs⟩
    rintro (failure | value) after still
    · exact .only reconcileFailure_recordsHash kept still
    · exact still

def OperationRow.submitting (row : OperationRow) (hash : Hash) (now : UnixSeconds) : OperationRow :=
  { row with status := .submitted, transactionHash := some hash, updatedAtUnix := now }

theorem RelayConfirms.submitting (confirms : RelayConfirms answers row callsId hash receipt job) (now : UnixSeconds) :
    RelayConfirms answers (row.submitting hash now) callsId hash receipt job := by
  refine ⟨confirms.clock, confirms.relay, fun record checked parsed allowed => ?_, confirms.asked, confirms.persisted⟩
  cases readable : parseContext row.context with
  | error failure =>
    rw [parseOperationRow, OperationRow.submitting, readable] at parsed
    cases parsed
  | ok context =>
    have read : parseContext (row.submitting hash now).context = .ok context := readable
    cases Except.ok.inj (parsed.symm.trans (parseOperationRow_ok read))
    exact confirms.accepted _ checked (parseOperationRow_ok readable) allowed

/-- The round of `reconcile` that finds the hash. -/
theorem reconcile_stored {context : Option OperationContext} {fuel : Nat}
    (confirms : RelayConfirms answers row callsId hash receipt job) (found : table.get id = some row)
    (readable : parseContext row.context = .ok context) (stored : row.transactionHash = some hash)
    (unresolved : row.status = .submitted ∨ row.status = .unknown ∨ row.status = .manualReview ∨
      row.status = .confirmed) :
    (reconcile (fuel + 1) id).Ends answers
      (fun result after => Recovered id hash receipt result after ↔ (row.status = .confirmed →
        row.blockHash = some receipt.blockHash ∧ row.blockNumber = some receipt.blockNumber)) table := by
  refine .bind ((get_ends found (parseOperationRow_ok readable)).mono ?_)
  rintro result after ⟨rfl, rfl⟩
  have waiting : ¬(row.status = .reverted ∨ row.status = .reconciled) := by
    rcases unresolved with status | status | status | status <;> simp [status]
  simp only [if_neg waiting, stored]
  have := verifyAndReconcile_ends confirms found readable stored unresolved
  exact this

/-- The round of `reconcile` that asks the relay. -/
theorem reconcile_asks {context : Option OperationContext} {fuel : Nat}
    {post : Except Failure (CoordinatorResult ConfirmedOperation) → OperationTable → Prop}
    (confirms : RelayConfirms answers row callsId hash receipt job) (found : table.get id = some row)
    (readable : parseContext row.context = .ok context) (recorded : callsIdOf row = some callsId.text)
    (unsent : row.transactionHash = none) (waiting : ¬(row.status = .reverted ∨ row.status = .reconciled))
    (rest : (do let _ ← markSubmitted id hash.text; reconcile fuel id).Ends answers post table) :
    (reconcile (fuel + 1) id).Ends answers post table := by
  refine .bind ((get_ends found (parseOperationRow_ok readable)).mono ?_)
  rintro result after ⟨rfl, rfl⟩
  simp only [if_neg waiting, unsent, reconcileRelay, callsIdOfRecord, parseContext_callsId readable recorded]
  refine .of_call rfl (fun _ => (nomatch ·)) fun status allowed => ?_
  obtain ⟨code, rfl⟩ := confirms.relay status allowed
  exact ⟨rest.runs⟩

theorem reconcile_relayed {context : Option OperationContext} {fuel : Nat}
    (confirms : RelayConfirms answers row callsId hash receipt job) (found : table.get id = some row)
    (readable : parseContext row.context = .ok context) (recorded : callsIdOf row = some callsId.text)
    (unsent : row.transactionHash = none) (takes : row.status = .awaitingSignature ∨ row.status = .unknown) :
    (reconcile (fuel + 2) id).Ends answers (Recovered id hash receipt) table := by
  have waiting : ¬(row.status = .reverted ∨ row.status = .reconciled) := by
    rcases takes with status | status <;> simp [status]
  have submits : (markSubmitted id hash.text).Ends answers (fun result later => (∃ record, result = .ok record) ∧
      ∃ now, later.get id = some (row.submitting hash now)) table := by
    refine .lift_bind (normalizeHash_text _ _) ((timed_applied (fun now => row.submitting hash now) confirms.clock found
      (fun now => ?_) (fun now => rfl) (fun now => ⟨_, parseOperationRow_ok readable⟩)).mono ?_)
    · rcases takes with status | status <;> simp [OperationUpdate.guard, status, unsent]
    · rintro result later ⟨now, record, atId, _, rfl⟩
      exact ⟨⟨record, rfl⟩, now, atId⟩
  refine reconcile_asks confirms found readable recorded unsent waiting (.bind (submits.mono ?_))
  rintro result later ⟨⟨record, rfl⟩, now, stored⟩
  refine (reconcile_stored (confirms.submitting now) stored readable rfl (.inl rfl)).mono fun result last recovered => ?_
  exact recovered.mpr (by rintro ⟨⟩)

theorem reconcile_refused {context : Option OperationContext} {fuel : Nat}
    (confirms : RelayConfirms answers row callsId hash receipt job) (found : table.get id = some row)
    (readable : parseContext row.context = .ok context) (recorded : callsIdOf row = some callsId.text)
    (unsent : row.transactionHash = none) (review : row.status = .manualReview) :
    (reconcile (fuel + 1) id).Ends answers (fun result _ => ∃ failure, result = .error failure) table := by
  have waiting : ¬(row.status = .reverted ∨ row.status = .reconciled) := by simp [review]
  have refuses : (markSubmitted id hash.text).Ends answers (fun result _ => ∃ failure, result = .error failure) table := by
    refine .lift_bind (normalizeHash_text _ _) ((timed_refused confirms.clock found (fun now => ?_)
      (parseOperationRow_ok readable)).mono ?_)
    · simp [OperationUpdate.guard, review]
    · rintro result later ⟨rfl, rfl⟩
      simp [review, throwCommerce]
  refine reconcile_asks confirms found readable recorded unsent waiting (.bind (refuses.mono ?_))
  rintro result later ⟨failure, rfl⟩
  exact ⟨failure, rfl⟩

theorem reconcile_final {context : Option OperationContext} {fuel : Nat} (found : table.get id = some row)
    (readable : parseContext row.context = .ok context) (final : row.status = .reverted ∨ row.status = .reconciled) :
    (reconcile (fuel + 1) id).Ends answers (fun result after => (∃ value, result = .ok value) ∧ after = table) table := by
  refine .bind ((get_ends found (parseOperationRow_ok readable)).mono ?_)
  rintro result after ⟨rfl, rfl⟩
  simp only [if_pos final]
  exact .pure ⟨⟨_, rfl⟩, rfl⟩

/-- The round of `reconcile` on a row with another hash. -/
theorem reconcile_other {context : Option OperationContext} {other : Hash} {fuel : Nat}
    (confirms : RelayConfirms answers row callsId hash receipt job) (found : table.get id = some row)
    (readable : parseContext row.context = .ok context) (stored : row.transactionHash = some other)
    (waiting : ¬(row.status = .reverted ∨ row.status = .reconciled)) :
    (reconcile (fuel + 1) id).Ends answers
      (fun _ after => ∃ current, after.get id = some current ∧ current.transactionHash = some other) table := by
  refine .bind ((get_ends found (parseOperationRow_ok readable)).mono ?_)
  rintro result after ⟨rfl, rfl⟩
  simp only [if_neg waiting, stored]
  exact verifyAndReconcile_other confirms ⟨row, found, stored⟩

theorem Recovered.not_error {failure : Failure} {after : OperationTable} :
    ¬Recovered id hash receipt (.error failure) after := by
  rintro ⟨⟨value, impossible⟩, _⟩
  cases impossible

theorem reconcile_ends {fuel : Nat} (confirms : RelayConfirms answers row callsId hash receipt job)
    (found : table.get id = some row) (recorded : callsIdOf row = some callsId.text) (consistent : row.Consistent) :
    (reconcile (fuel + 2) id).Ends answers
      (fun result after => Recovered id hash receipt result after ↔ row.Recoverable hash receipt) table := by
  cases readable : parseContext row.context with
  | error failure =>
    have failed : parseOperationRow row = .error failure := by rw [parseOperationRow, readable]; rfl
    refine .bind ((get_unreadable found failed).mono ?_)
    rintro result after ⟨rfl, rfl⟩
    refine iff_of_false Recovered.not_error fun recoverable => ?_
    obtain ⟨context, read⟩ := recoverable.readable
    cases readable.symm.trans read
  | ok context =>
    by_cases final : row.status = .reverted ∨ row.status = .reconciled
    · refine (reconcile_final found readable final).mono ?_
      rintro result after ⟨returned, rfl⟩
      constructor
      · rintro ⟨_, current, atId, settled⟩
        cases Option.some.inj (found.symm.trans atId)
        exact ⟨⟨context, readable⟩, by simp [settled.status], .inl settled.transactionHash,
          fun _ => ⟨settled.blockHash, settled.blockNumber⟩⟩
      · intro recoverable
        have reconciled := final.resolve_left recoverable.status
        rcases recoverable.transactionHash with stored | ⟨_, awaiting | unknown⟩
        · obtain ⟨block, number⟩ := recoverable.receipt (.inr reconciled)
          exact ⟨returned, row, found, reconciled, stored, block, number⟩
        · cases reconciled.symm.trans awaiting
        · cases reconciled.symm.trans unknown
    · cases stored : row.transactionHash with
      | none =>
        by_cases takes : row.status = .awaitingSignature ∨ row.status = .unknown
        · refine (reconcile_relayed confirms found readable recorded stored takes).mono fun result after recovered => ?_
          refine iff_of_true recovered ⟨⟨context, readable⟩, fun reverted => final (.inl reverted), .inr ⟨stored, takes⟩, ?_⟩
          rcases takes with status | status <;> simp [status]
        · have review : row.status = .manualReview := by
            cases status : row.status with
            | submitted => exact absurd stored (consistent.sent (.inl status))
            | confirmed => exact absurd stored (consistent.sent (.inr status))
            | manualReview => rfl
            | _ => simp [status] at final takes
          refine (reconcile_refused confirms found readable recorded stored review).mono ?_
          rintro result after ⟨failure, rfl⟩
          refine iff_of_false Recovered.not_error fun recoverable => ?_
          rcases recoverable.transactionHash with same | ⟨_, open'⟩
          · cases stored.symm.trans same
          · exact takes open'
      | some other =>
        by_cases same : other = hash
        · subst same
          have unresolved : row.status = .submitted ∨ row.status = .unknown ∨ row.status = .manualReview ∨
              row.status = .confirmed := by
            cases status : row.status with
            | awaitingSignature => cases stored.symm.trans (consistent.unsent status)
            | _ => simp_all
          refine (reconcile_stored confirms found readable stored unresolved).mono fun result after recovered => ?_
          refine recovered.trans ⟨fun block => ?_, fun recoverable confirmed => recoverable.receipt (.inl confirmed)⟩
          refine ⟨⟨context, readable⟩, fun reverted => final (.inl reverted), .inl stored, ?_⟩
          rintro (confirmed | reconciled)
          · exact block confirmed
          · exact absurd (.inr reconciled) final
        · refine (reconcile_other confirms found readable stored final).mono ?_
          rintro result after ⟨current, atId, kept⟩
          refine iff_of_false ?_ fun recoverable => ?_
          · rintro ⟨_, last, found', settled⟩
            cases Option.some.inj (atId.symm.trans found')
            exact same (Option.some.inj (kept.symm.trans settled.transactionHash))
          · rcases recoverable.transactionHash with right | ⟨none, _⟩
            · exact same (Option.some.inj (stored.symm.trans right))
            · cases stored.symm.trans none

end

section

open Interleaving

/-- After any history of calls, an undisturbed `reconcile` of an operation whose relay
call is confirmed recovers it exactly when its row is recoverable. -/
theorem CoordinatorReach.recovered_iff [Sha256] {pool : CoordinatorPool} (reach : CoordinatorReach pool) {id : String}
    {row : OperationRow} (found : pool.state.table.get id = some row) {callsId : HexData}
    (recorded : callsIdOf row = some callsId.text) {answers : (call : Call) → call.Answer → Prop} {hash : Hash}
    {receipt : RpcReceipt} {job : Option OnchainJob} (confirms : RelayConfirms answers row callsId hash receipt job)
    {fuel : Nat} {result : Except Failure (CoordinatorResult ConfirmedOperation)} {after : OperationTable}
    (run : Runs (aloneExec answers) (reconcile (fuel + 2) id).run pool.state.table result after) :
    Recovered id hash receipt result after ↔ row.Recoverable hash receipt :=
  (reconcile_ends confirms found recorded (reach.consistent id row found)).runs result after run

structure SdkError where
  message : String
  transactionHash : Option String := none
  relayCallsId : Option String := none
  callsId : Option String := none

def errorField (candidate : Option String) : Option Hash := candidate.bind (TextFormat.normalize _)

/-- `/network|rpc|relay|wallet|sign|provider|address|chain|status|job/` -/
def mentionsProvider (message : String) : Bool :=
  ["network", "rpc", "relay", "wallet", "sign", "provider", "address", "chain", "status", "job"].any fun word =>
    message.toList.tails.any word.toList.isPrefixOf

def sdkCallError (action : String) (cause : SdkError) : CommerceError :=
  let providerFailure := mentionsProvider (lower cause.message)
  { code := if providerFailure then .chainProviderInvalid else .transactionUnknown
    message := if providerFailure then "Altana SDK " ++ action ++ " could not be completed by the configured provider."
      else "Altana SDK " ++ action ++ " returned an unknown outcome; reconcile before retrying."
    nextAction := "reconcile_transaction"
    transactionHash := (errorField cause.transactionHash).map (·.text)
    relayCallsId := ((errorField cause.relayCallsId).or (errorField cause.callsId)).map (·.text) }

def relayCallsId : HexData :=
  ⟨"0xabababababababababababababababababababababababababababababababab", by decide +kernel, by decide +kernel⟩

def relayHash : Hash := submittedHash

def relayReceipt : RpcReceipt := ⟨.success, ⟨"12", by decide +kernel⟩, relayHash, relayHash⟩

def failingSdk (error : CommerceError) : (call : Call) → call.Answer
  | .run _ => .error (.commerce error)
  | call => sampleOutside "operation-1" call

def failedPool [Sha256] (error : CommerceError) : CoordinatorPool :=
  emptyPool.serve (failingSdk error) (sampleCall .create sampleDigest buyer.text)

def afterRelay (message : String) : CommerceError := sdkCallError "hire" { message, relayCallsId := some relayCallsId.text }

def relayJob : OnchainJob where
  id := ⟨"7", seven_decimal⟩
  client := buyer
  provider := buyer
  evaluator := buyer
  hook := buyer
  budgetAtomic := ⟨"1", one_decimal⟩
  expiredAtUnix := ⟨9, by decide, by decide⟩
  chainDeliverable := relayCallsId

def confirmingRelay : (call : Call) → call.Answer
  | .getCallsStatus _ => .ok ⟨.confirmed, none, some relayHash⟩
  | .verifyReceiptForOperation request => .ok ⟨{ relayReceipt with transactionHash := request.transactionHash }, some relayJob⟩
  | .persistCanonicalReconciliation .. => .ok ()
  | call => offline 3 call

theorem confirmingRelay_confirms (row : OperationRow) (callsId : HexData) :
    RelayConfirms (fun call answer => answer = confirmingRelay call) row callsId relayHash relayReceipt (some relayJob) where
  clock shown allowed := ⟨⟨3, by decide, by decide⟩, allowed⟩
  relay status allowed := ⟨none, allowed⟩
  accepted record checked _ allowed := allowed
  asked request checked allowed := by
    cases Except.ok.inj allowed
    rfl
  persisted operation job receipt written allowed := allowed

theorem respond_alone (outside : (call : Call) → call.Answer) (call : Call) (table : OperationTable) :
    aloneExec (fun call answer => answer = outside call) call table (respond outside call table).1
      (respond outside call table).2 := by
  cases call with
  | operations query => exact ⟨rfl, rfl⟩
  | _ => exact ⟨rfl, rfl⟩

theorem confirmingRelay_runs [Sha256] (table : OperationTable) : ∃ result after,
    Runs (aloneExec fun call answer => answer = confirmingRelay call) (reconcile 2 "operation-1").run table result after :=
  ⟨_, _, Runs.of_eval (respond_alone confirmingRelay) _ table⟩

def failedRow [Sha256] (error : CommerceError) : Option (OperationStatus × Option Hash × Option String × Bool) :=
  ((failedPool error).state.table.get "operation-1").map fun row =>
    (row.status, row.transactionHash, callsIdOf row, (parseContext row.context).toBool)

theorem failedRow_eq [Sha256] {error : CommerceError} {status : OperationStatus} {stored : Option Hash}
    {callsId : Option String} (left : failedRow error = some (status, stored, callsId, true)) :
    ∃ row, (failedPool error).state.table.get "operation-1" = some row ∧ row.status = status ∧
      row.transactionHash = stored ∧ callsIdOf row = callsId ∧ ∃ context, parseContext row.context = .ok context := by
  obtain ⟨row, found, same⟩ := Option.map_eq_some_iff.mp left
  simp only [Prod.mk.injEq] at same
  obtain ⟨rfl, rfl, rfl, readable⟩ := same
  refine ⟨row, found, rfl, rfl, rfl, ?_⟩
  cases read : parseContext row.context with
  | error failure => simp [read, Except.toBool] at readable
  | ok context => exact ⟨context, rfl⟩

theorem CoordinatorReach.recovered_iff_unknown :
    let _ := nullSha256
    ∃ result after, Runs (aloneExec fun call answer => answer = confirmingRelay call) (reconcile 2 "operation-1").run
      (failedPool (afterRelay "timeout")).state.table result after ∧
      Recovered "operation-1" relayHash relayReceipt result after := by
  intro _
  have error : afterRelay "timeout" = { code := .transactionUnknown, nextAction := "reconcile_transaction", message :=
      "Altana SDK hire returned an unknown outcome; reconcile before retrying.", relayCallsId := some relayCallsId.text } := by
    decide +kernel
  have left : failedRow (afterRelay "timeout") = some (.unknown, none, some relayCallsId.text, true) := by
    rw [error]
    decide +kernel
  obtain ⟨row, found, status, unsent, recorded, readable⟩ := failedRow_eq left
  obtain ⟨result, after, run⟩ := confirmingRelay_runs (failedPool (afterRelay "timeout")).state.table
  have recoverable : row.Recoverable relayHash relayReceipt := by
    refine ⟨readable, ?_, .inr ⟨unsent, .inr status⟩, ?_⟩
    · simp [status]
    · simp [status]
  exact ⟨result, after, run, (CoordinatorReach.recovered_iff (emptyPool_reach.serve _ _) found recorded
    (confirmingRelay_confirms row relayCallsId) run).mpr recoverable⟩

/-- The relay accepted the call, but the SDK failed with another code than an unknown
outcome: the operation goes to manual review without its hash, and stays there. -/
theorem CoordinatorReach.stranded_operation :
    let _ := nullSha256
    CoordinatorReach (failedPool (afterRelay "wallet closed")) ∧
    ∃ row result after, (failedPool (afterRelay "wallet closed")).state.table.get "operation-1" = some row ∧
      callsIdOf row = some relayCallsId.text ∧ RelayConfirms (fun call answer => answer = confirmingRelay call) row
        relayCallsId relayHash relayReceipt (some relayJob) ∧
      Runs (aloneExec fun call answer => answer = confirmingRelay call) (reconcile 2 "operation-1").run
        (failedPool (afterRelay "wallet closed")).state.table result after ∧
      ¬Recovered "operation-1" relayHash relayReceipt result after := by
  intro _
  have error : afterRelay "wallet closed" = { code := .chainProviderInvalid, nextAction := "reconcile_transaction", message :=
      "Altana SDK hire could not be completed by the configured provider.", relayCallsId := some relayCallsId.text } := by
    decide +kernel
  have left : failedRow (afterRelay "wallet closed") = some (.manualReview, none, some relayCallsId.text, true) := by
    rw [error]
    decide +kernel
  obtain ⟨row, found, status, unsent, recorded, readable⟩ := failedRow_eq left
  obtain ⟨result, after, run⟩ := confirmingRelay_runs (failedPool (afterRelay "wallet closed")).state.table
  have reach : CoordinatorReach (failedPool (afterRelay "wallet closed")) := emptyPool_reach.serve _ _
  have confirms := confirmingRelay_confirms row relayCallsId
  refine ⟨reach, row, result, after, found, recorded, confirms, run, fun recovered => ?_⟩
  have recoverable := ((reconcile_ends confirms found recorded (reach.consistent _ _ found)).runs _ _ run).mp recovered
  rcases recoverable.transactionHash with stored | ⟨_, awaiting | unknown⟩
  · cases unsent.symm.trans stored
  · cases status.symm.trans awaiting
  · cases status.symm.trans unknown

end

end Bnbera
