import Bnbera.Coordinator.System
import Bnbera.Operations.Endings

namespace Bnbera

open Interleaving OperationRepository

variable {answers : (call : Call) → call.Answer → Prop} {table : OperationTable} {id : String} {row : OperationRow}

/-- The relay reports the calls ID confirmed with the hash, the receipt of the hash is
accepted for the operation in the row, and the canonical projection is written. -/
structure RelayConfirms (answers : (call : Call) → call.Answer → Prop) (row : OperationRow) (callsId : HexData)
    (hash : Hash) (receipt : RpcReceipt) (job : Option OnchainJob) : Prop where
  clock : ClockRuns answers
  relay : ∀ status : Except Failure RelayStatus, answers (.getCallsStatus callsId) status →
    ∃ code, status = .ok ⟨.confirmed, code, some hash⟩
  accepted : ∀ record (checked : Except Failure VerifiedReceipt), parseOperationRow row = .ok record →
    answers (.verifyReceiptForOperation (receiptRequest record hash)) checked → checked = .ok ⟨receipt, job⟩
  /-- A receipt is accepted only for the hash that was asked for. -/
  asked : ∀ request (checked : VerifiedReceipt),
    answers (.verifyReceiptForOperation request) (.ok checked : Except Failure VerifiedReceipt) →
    checked.receipt.transactionHash = request.transactionHash
  persisted : ∀ operation job receipt (written : Except Failure Unit),
    answers (.persistCanonicalReconciliation operation job receipt) written → written = .ok ()

structure OperationRow.Settled (row : OperationRow) (hash : Hash) (receipt : RpcReceipt) : Prop where
  status : row.status = .reconciled
  transactionHash : row.transactionHash = some hash
  blockHash : row.blockHash = some receipt.blockHash
  blockNumber : row.blockNumber = some receipt.blockNumber

structure OperationRow.Recoverable (row : OperationRow) (hash : Hash) (receipt : RpcReceipt) : Prop where
  readable : ∃ context, parseContext row.context = .ok context
  status : row.status ≠ .reverted
  transactionHash : row.transactionHash = some hash ∨
    row.transactionHash = none ∧ (row.status = .awaitingSignature ∨ row.status = .unknown)
  receipt : row.status = .confirmed ∨ row.status = .reconciled →
    row.blockHash = some receipt.blockHash ∧ row.blockNumber = some receipt.blockNumber

/-- Where `reconcile` is to end up. -/
def Recovered (id : String) (hash : Hash) (receipt : RpcReceipt)
    (result : Except Failure (CoordinatorResult ConfirmedOperation)) (after : OperationTable) : Prop :=
  (∃ value, result = .ok value) ∧ ∃ final, after.get id = some final ∧ final.Settled hash receipt

variable {callsId : HexData} {hash : Hash} {receipt : RpcReceipt} {job : Option OnchainJob} {existing : OperationRecord}

theorem persistAndReconcile_ends {context : Option OperationContext} {checked : VerifiedReceipt}
    (confirms : RelayConfirms answers row callsId hash receipt job) {current : OperationRow}
    (found : table.get id = some current) (confirmed : current.status = .confirmed)
    (readable : parseContext current.context = .ok context) :
    (persistAndReconcile id checked).Ends answers (fun result after => (∃ value, result = .ok value) ∧
      ∃ now, after.get id = some { current with status := .reconciled, updatedAtUnix := now }) table := by
  refine .bind ((get_ends found (parseOperationRow_ok readable)).mono ?_)
  rintro result later ⟨rfl, rfl⟩
  refine .of_call rfl (fun _ => (nomatch ·)) fun written allowed => ?_
  obtain rfl := confirms.persisted _ _ _ _ allowed
  have settles : (OperationRepository.reconcile id .reconciled).Ends answers (fun result after => (∃ value, result = .ok value) ∧
      ∃ now, after.get id = some { current with status := .reconciled, updatedAtUnix := now }) later := by
    refine (timed_applied (fun now => { current with status := .reconciled, updatedAtUnix := now }) confirms.clock found
      (fun now => ?_) (fun now => rfl) (fun now => ⟨_, parseOperationRow_ok readable⟩)).mono ?_
    · simp [OperationUpdate.guard, confirmed]
    · rintro result after ⟨now, record, atId, _, rfl⟩
      exact ⟨⟨record, rfl⟩, now, atId⟩
  refine ⟨(Handler.Ends.bind (settles.mono ?_)).runs⟩
  rintro result after ⟨⟨record, rfl⟩, stored⟩
  exact .pure ⟨⟨_, rfl⟩, stored⟩

theorem attachJob_ends {context : Option OperationContext} {current : OperationRow} {given : Option OnchainJob}
    (found : table.get id = some current) (readable : parseContext current.context = .ok context)
    (unbound : given ≠ none → current.jobId = none) :
    (performFor given fun job => attachJobId id job.id.text).Ends answers (fun result after => result = .ok () ∧
      ∃ jobId, after.get id = some { current with jobId }) table := by
  cases given with
  | none => exact .pure ⟨rfl, current.jobId, found⟩
  | some job =>
    have done : table.Updates id (.attachJobId job.id) current { current with jobId := some job.id } :=
      ⟨found, by simp [OperationUpdate.guard, unbound], rfl⟩
    have parsed : assertJobId (some job.id.text) = .ok (some job.id) := by
      simp only [assertJobId, check_text]
    refine .bind (.lift_bind parsed ((updateOrReplay_applied done (parseOperationRow_ok readable)).mono ?_))
    rintro result after ⟨rfl, rfl⟩
    exact .pure ⟨rfl, some job.id, done.get_modify⟩

def OperationRow.accepting (row : OperationRow) (receipt : RpcReceipt) (now : UnixSeconds) : OperationRow :=
  { row with status := .confirmed, transactionHash := some receipt.transactionHash, blockNumber := some receipt.blockNumber,
             blockHash := some receipt.blockHash, logIndex := none, failureCode := none, updatedAtUnix := now }

/-- `markReceipt` as `reconcile` calls it. -/
theorem markReceipt_accepts {context : Option OperationContext} {current : OperationRow} (clock : ClockRuns answers)
    (found : table.get id = some current) (readable : parseContext current.context = .ok context)
    (unresolved : current.status = .submitted ∨ current.status = .unknown ∨ current.status = .manualReview) :
    (markReceipt id .confirmed receipt.transactionHash.text receipt.blockNumber.text receipt.blockHash.text).Ends answers
      (fun result after => (∃ value, result = .ok value) ∧
        ∃ now, after.get id = some (current.accepting receipt now)) table := by
  have logIndex : assertLogIndex none = .ok none := rfl
  refine .lift_bind (normalizeHash_text _ _) (.lift_bind (normalizeHash_text _ _) (.lift_bind (readDecimal_text _ _)
    (.lift_bind logIndex ((timed_applied (fun now => current.accepting receipt now) clock found
      (fun now => ?_) (fun now => rfl) (fun now => ⟨_, parseOperationRow_ok readable⟩)).mono ?_))))
  · rcases unresolved with status | status | status <;> simp [OperationUpdate.guard, status]
  · rintro result after ⟨now, record, atId, _, rfl⟩
    exact ⟨⟨record, rfl⟩, now, atId⟩

theorem markReceipt_confirmed {context : Option OperationContext} {current : OperationRow} (clock : ClockRuns answers)
    (found : table.get id = some current) (readable : parseContext current.context = .ok context)
    (confirmed : current.status = .confirmed) (stored : current.transactionHash = some receipt.transactionHash) :
    (markReceipt id .confirmed receipt.transactionHash.text receipt.blockNumber.text receipt.blockHash.text).Ends answers
      (fun result after => after = table ∧
        ((∃ value, result = .ok value) ↔ current.blockHash = some receipt.blockHash)) table := by
  have logIndex : assertLogIndex none = .ok none := rfl
  refine .lift_bind (normalizeHash_text _ _) (.lift_bind (normalizeHash_text _ _) (.lift_bind (readDecimal_text _ _)
    (.lift_bind logIndex ((timed_refused clock found (fun now => ?_) (parseOperationRow_ok readable)).mono ?_))))
  · simp [OperationUpdate.guard, confirmed]
  · rintro result after ⟨rfl, rfl⟩
    refine ⟨rfl, ?_⟩
    by_cases same : current.blockHash = some receipt.blockHash
    · simp [confirmed, stored, same]
    · simp [stored, same, throwCommerce]

/-- The last steps of `reconcile` on a row whose receipt is stored. -/
theorem settle_ends {context : Option OperationContext} {checked : VerifiedReceipt} {current : OperationRow}
    (given : Option OnchainJob) (confirms : RelayConfirms answers row callsId hash receipt job)
    (found : table.get id = some current) (confirmed : current.status = .confirmed)
    (readable : parseContext current.context = .ok context) (unbound : given ≠ none → current.jobId = none)
    (stored : current.transactionHash = some hash) (block : current.blockHash = some receipt.blockHash) :
    (do performFor given fun job => attachJobId id job.id.text
        persistAndReconcile id checked : Handler (CoordinatorResult ConfirmedOperation)).Ends answers
      (fun result after => (∃ value, result = .ok value) ∧
        (Recovered id hash receipt result after ↔ current.blockNumber = some receipt.blockNumber)) table := by
  refine .bind ((attachJob_ends found readable unbound).mono ?_)
  rintro result after ⟨rfl, jobId, attached⟩
  refine (persistAndReconcile_ends confirms attached confirmed readable).mono ?_
  rintro result after ⟨returned, now, atId⟩
  refine ⟨returned, ?_, ?_⟩
  · rintro ⟨_, final, last, settled⟩
    cases Option.some.inj (atId.symm.trans last)
    exact settled.blockNumber
  · intro number
    exact ⟨returned, _, atId, ⟨rfl, stored, block, number⟩⟩

theorem recordAccepted_ends {context : Option OperationContext} {current : OperationRow}
    (confirms : RelayConfirms answers row callsId hash receipt job) (same : receipt.transactionHash = hash)
    (found : table.get id = some current) (readable : parseContext current.context = .ok context)
    (stored : current.transactionHash = some hash)
    (unresolved : current.status = .submitted ∨ current.status = .unknown ∨ current.status = .manualReview) :
    (recordAccepted id { current with context } ⟨receipt, job⟩).Ends answers (Recovered id hash receipt) table := by
  subst same
  refine .bind ((markReceipt_accepts confirms.clock found readable unresolved).mono ?_)
  rintro result after ⟨⟨record, rfl⟩, now, accepted⟩
  refine (settle_ends (if current.jobId = none then job else none) confirms accepted rfl readable ?_ rfl rfl).mono
    fun result after settled => settled.2.mpr rfl
  intro given
  by_contra bound
  exact given (if_neg bound)

theorem recordAccepted_confirmed {context : Option OperationContext} {current : OperationRow}
    (confirms : RelayConfirms answers row callsId hash receipt job) (same : receipt.transactionHash = hash)
    (found : table.get id = some current) (readable : parseContext current.context = .ok context)
    (stored : current.transactionHash = some hash) (confirmed : current.status = .confirmed) :
    (recordAccepted id { current with context } ⟨receipt, job⟩).Ends answers
      (fun result after => (∃ value, result = .ok value) ∧ (Recovered id hash receipt result after ↔
        current.blockHash = some receipt.blockHash ∧ current.blockNumber = some receipt.blockNumber) ∨
        (∃ failure, result = .error failure) ∧ current.blockHash ≠ some receipt.blockHash) table := by
  subst same
  refine .bind ((markReceipt_confirmed confirms.clock found readable confirmed stored).mono ?_)
  rintro (failure | record) after ⟨rfl, accepted⟩
  · right
    refine ⟨⟨failure, rfl⟩, fun block => ?_⟩
    obtain ⟨value, impossible⟩ := accepted.mpr block
    cases impossible
  · have block := accepted.mp ⟨record, rfl⟩
    refine (settle_ends (if current.jobId = none then job else none) confirms found confirmed readable ?_ stored
      block).mono ?_
    · intro given
      by_contra bound
      exact given (if_neg bound)
    · rintro result later ⟨returned, settled⟩
      exact .inl ⟨returned, settled.trans (and_iff_right block).symm⟩

theorem reconcileFailure_ends {given : Hash} {cause : Failure} :
    (reconcileFailure id given cause).Ends answers (fun result _ => ∃ failure, result = .error failure) table := by
  unfold reconcileFailure
  split
  · refine .bind ⟨?_⟩
    rintro (failure | _) after _
    · exact ⟨failure, rfl⟩
    · exact .throw ⟨_, rfl⟩
  · refine .bind ⟨?_⟩
    rintro (failure | _) after _
    · exact ⟨failure, rfl⟩
    · dsimp only
      split
      · exact .throw ⟨_, rfl⟩
      · exact .throw ⟨_, rfl⟩

/-- The verification of the hash that a row holds. -/
theorem verifyAndReconcile_ends {context : Option OperationContext} {current : OperationRow}
    (confirms : RelayConfirms answers current callsId hash receipt job) (found : table.get id = some current)
    (readable : parseContext current.context = .ok context) (stored : current.transactionHash = some hash)
    (unresolved : current.status = .submitted ∨ current.status = .unknown ∨ current.status = .manualReview ∨
      current.status = .confirmed) :
    (tryCatch (verifyAndReconcile id { current with context } hash) (reconcileFailure id hash)).Ends answers
      (fun result after => Recovered id hash receipt result after ↔ (current.status = .confirmed →
        current.blockHash = some receipt.blockHash ∧ current.blockNumber = some receipt.blockNumber)) table := by
  refine .catch' (.of_call rfl (fun _ => (nomatch ·)) fun checked allowed => ?_)
  obtain rfl := confirms.accepted _ checked (parseOperationRow_ok readable) allowed
  have same : receipt.transactionHash = hash := confirms.asked _ _ allowed
  refine ⟨?_⟩
  by_cases confirmed : current.status = .confirmed
  · refine ((recordAccepted_confirmed confirms same found readable stored confirmed).mono ?_).runs
    rintro result after (⟨⟨value, rfl⟩, settled⟩ | ⟨⟨failure, rfl⟩, differs⟩)
    · exact ⟨fun recovered _ => settled.mp recovered, fun block => settled.mpr (block confirmed)⟩
    · refine reconcileFailure_ends.mono ?_
      rintro result last ⟨cause, rfl⟩
      constructor
      · rintro ⟨⟨value, impossible⟩, _⟩
        cases impossible
      · exact fun block => absurd (block confirmed).1 differs
  · have open' : current.status = .submitted ∨ current.status = .unknown ∨ current.status = .manualReview := by
      rcases unresolved with status | status | status | status <;> simp_all
    refine ((recordAccepted_ends confirms same found readable stored open').mono ?_).runs
    rintro result after recovered
    obtain ⟨value, rfl⟩ := recovered.1
    exact ⟨fun _ status => absurd status confirmed, fun _ => recovered⟩

end Bnbera
