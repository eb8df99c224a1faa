import Bnbera.Domain
import Bnbera.Errors
import Bnbera.Interleaving.Relying

/-! The scan for the provider's submission of a funded job, by any number of callers at once. -/

namespace Bnbera.Seller

open Interleaving

/-- A `JobSubmitted` log of the job and its provider. -/
structure SubmittedLog where
  blockNumber : Nat
  deliverable : String
  removed : Bool
  transactionHash : TransactionHash
deriving DecidableEq

inductive ChainJobState
  | funded
  | submitted
  | completed
  | rejected
deriving DecidableEq

/-- What `assertJob` returns of the job on the chain. -/
structure ChainJob where
  state : ChainJobState
  deliverable : Option String

/-- A funded job: the block of its funding receipt, the deliverable that the chain shows once work is submitted,
and the logs that `getLogs` may find for it. -/
structure HiredJob where
  fundingTransactionHash : TransactionHash
  fundingBlock : Nat
  deliverable : String
  logs : List SubmittedLog

inductive RefreshCall
  | bound
  | assertJob
  | claim
  | getTransactionReceipt
  | getFinalizedBlock
  | readCursor
  | getLogs (fromBlock toBlock : Nat)
  | writeCursor (block : Nat)
  | verifyReceiptForOperation (transactionHash : TransactionHash)
  | recordResult (transactionHash : TransactionHash)

/-- What a call returns: the stored funding hash, the job, a receipt's block, a head, the cursor, logs, a digest. -/
def RefreshCall.Value : RefreshCall → Type
  | bound => Option TransactionHash
  | assertJob => ChainJob
  | claim => Unit
  | getTransactionReceipt => Option Nat
  | getFinalizedBlock => Nat
  | readCursor => Option String
  | getLogs _ _ => List SubmittedLog
  | writeCursor _ => Unit
  | verifyReceiptForOperation _ => Unit
  | recordResult _ => String

inductive RefreshOutcome
  | awaitingProvider
  | resultVerified (resultDigest : String) (transactionHash : TransactionHash)

def receiptOutsideLookup : CommerceError where
  code := .reconciliationRequired
  message := "Work matches the onchain digest, but its submission receipt is outside the bounded lookup. " ++
    "Provide the public provider submission transaction hash."
  nextAction := "provide_submission_transaction"

def ambiguousReceipt : CommerceError where
  code := .onchainMismatch
  message := "The job has ambiguous submission receipt evidence."

def receiptMissing (message : String) : CommerceError where
  code := .reconciliationRequired
  message

abbrev RefreshProgram := ExceptT CommerceError (Program RefreshCall fun call => Except CommerceError call.Value)

def request (call : RefreshCall) : RefreshProgram call.Value := Program.attempt call

/-- `last && /^[0-9]+$/u.test(last)`, and the block that the text names. -/
def cursorBlock (last : Option String) : Option Nat :=
  match last with
  | some text => if text ≠ "" ∧ text.toList.all isDigit = true then some (decimalValue text) else none
  | none => none

def matching (deliverable : String) (logs : List SubmittedLog) : List SubmittedLog :=
  logs.filter fun log => log.deliverable = deliverable && !log.removed

/-- The loop over windows of 500 blocks, with `count` windows left. -/
def scanWindows (deliverable : String) (finalized : Nat) : (count fromBlock : Nat) → RefreshProgram (Option TransactionHash)
  | 0, _ => pure none
  | count + 1, fromBlock =>
    if fromBlock ≤ finalized then do
      let toBlock := if fromBlock + 499 < finalized then fromBlock + 499 else finalized
      let logs : List SubmittedLog ← request (.getLogs fromBlock toBlock)
      match matching deliverable logs with
      | [] => do
        request (.writeCursor toBlock)
        scanWindows deliverable finalized count (fromBlock + 500)
      | [found] => pure (some found.transactionHash)
      | _ :: _ :: _ => throw ambiguousReceipt
    else pure none

/-- What `refresh` does for a job without a supplied hash. -/
def findSubmission (fundingTransactionHash : Option TransactionHash) (deliverable : String) :
    RefreshProgram (Option TransactionHash) :=
  match fundingTransactionHash with
  | none => throw (receiptMissing "The funded job receipt must be reconciled before retrieving work.")
  | some _ => do
    let funded : Option Nat ← request .getTransactionReceipt
    match funded with
    | none => throw (receiptMissing "The funding receipt is temporarily unavailable.")
    | some fundedBlock => do
      let finalized : Nat ← request .getFinalizedBlock
      let last : Option String ← request .readCursor
      let first := match cursorBlock last with
        | some last => last + 1
        | none => fundedBlock
      scanWindows deliverable finalized 10 first

def settleSubmission : Option TransactionHash → RefreshProgram RefreshOutcome
  | none => throw receiptOutsideLookup
  | some transactionHash => do
    request (.verifyReceiptForOperation transactionHash)
    let resultDigest : String ← request (.recordResult transactionHash)
    return .resultVerified resultDigest transactionHash

def refresh (suppliedTransactionHash : Option TransactionHash) : RefreshProgram RefreshOutcome := do
  let fundingTransactionHash : Option TransactionHash ← request .bound
  let chainJob : ChainJob ← request .assertJob
  match chainJob.state, chainJob.deliverable with
  | .funded, _ => return .awaitingProvider
  | _, none => return .awaitingProvider
  | _, some deliverable => do
    request .claim
    match suppliedTransactionHash with
    | some transactionHash => settleSubmission (some transactionHash)
    | none => findSubmission fundingTransactionHash deliverable >>= settleSubmission

/-! ### What the calls see and do -/

/-- The delivery row's cursor, and the hashes that `verifyReceiptForOperation` was asked about, in order. -/
structure Delivery where
  lastCheckedBlock : Option String
  verified : List TransactionHash

def Delivery.written (delivery : Delivery) (block : Nat) : Delivery := { delivery with lastCheckedBlock := some block.repr }

@[simp] theorem Delivery.written_lastCheckedBlock (delivery : Delivery) (block : Nat) :
    (delivery.written block).lastCheckedBlock = some block.repr := rfl

@[simp] theorem Delivery.written_verified (delivery : Delivery) (block : Nat) :
    (delivery.written block).verified = delivery.verified := rfl

def HiredJob.logsIn (job : HiredJob) (fromBlock toBlock : Nat) : List SubmittedLog :=
  job.logs.filter fun log => fromBlock ≤ log.blockNumber && log.blockNumber ≤ toBlock

/-- Any call may fail. A failed write may have been made all the same; any head may be finalised. -/
def observe (job : HiredJob) : Semantics RefreshCall (fun call => Except CommerceError call.Value) Delivery
  | .assertJob, s, answer, s' =>
    s' = s ∧ ∀ chainJob : ChainJob, answer = .ok chainJob → ∀ deliverable ∈ chainJob.deliverable, deliverable = job.deliverable
  | .getTransactionReceipt, s, answer, s' => s' = s ∧ ∀ block : Nat, answer = .ok (some block) → block = job.fundingBlock
  | .readCursor, s, answer, s' => s' = s ∧ ∀ last : Option String, answer = .ok last → last = s.lastCheckedBlock
  | .getLogs fromBlock toBlock, s, answer, s' =>
    s' = s ∧ ∀ logs : List SubmittedLog, answer = .ok logs → logs = job.logsIn fromBlock toBlock
  | .writeCursor block, s, answer, s' => s' = s.written block ∨ s' = s ∧ ∃ error, answer = .error error
  | .verifyReceiptForOperation transactionHash, s, _, s' => s' = { s with verified := s.verified ++ [transactionHash] }
  | .bound, s, _, s' => s' = s
  | .claim, s, _, s' => s' = s
  | .getFinalizedBlock, s, _, s' => s' = s
  | .recordResult _, s, _, s' => s' = s

/-- The service for one job: every caller runs `refresh`, with or without a hash of its own. -/
def refreshSystem (job : HiredJob) :
    System (Option TransactionHash) RefreshCall (fun call => Except CommerceError call.Value)
      (Except CommerceError RefreshOutcome) Delivery where
  handler supplied := (refresh supplied).run
  exec _ _ := observe job
  environment _ _ := False
  mayStart _ _ := True

def Fresh (delivery : Delivery) : Prop := delivery.lastCheckedBlock = none

/-- The provider's submission: the only matching log, not before the funding. -/
structure HiredJob.Submission (job : HiredJob) (log : SubmittedLog) : Prop where
  only : matching job.deliverable job.logs = [log]
  funded : job.fundingBlock ≤ log.blockNumber

def Below (block : Nat) (delivery : Delivery) : Prop := ∀ last, cursorBlock delivery.lastCheckedBlock = some last → last < block

@[simp] theorem cursorBlock_repr (block : Nat) : cursorBlock (some block.repr) = some block := by
  have digits : block.repr.toList.all isDigit = true := by
    rw [List.all_eq_true]
    intro c member
    rw [Nat.repr_eq_ofList_toDigits, String.toList_ofList] at member
    have digit := Nat.isDigit_of_mem_toDigits (by decide) (by decide) member
    simpa [isDigit, Char.isDigit, Char.le_def] using digit
  have value := decimalValue_repr block
  rw [String.ofList_toList] at value
  rw [cursorBlock, if_pos ⟨Nat.repr_ne_empty, digits⟩, value]

theorem below_written {block written : Nat} {delivery : Delivery} : Below block (delivery.written written) ↔ written < block := by
  unfold Below
  rw [Delivery.written_lastCheckedBlock, cursorBlock_repr]
  exact ⟨fun below => below written rfl, fun lower last same => Option.some.inj same ▸ lower⟩

/-! ### No call writes a cursor past the submission -/

def mayAnswer (job : HiredJob) (block : Nat) : (call : RefreshCall) → Except CommerceError call.Value → Prop
  | .assertJob, answer =>
    ∀ chainJob : ChainJob, answer = .ok chainJob → ∀ deliverable ∈ chainJob.deliverable, deliverable = job.deliverable
  | .getTransactionReceipt, answer => ∀ funded : Nat, answer = .ok (some funded) → funded = job.fundingBlock
  | .readCursor, answer => ∀ last : Option String, answer = .ok last → ∀ checked, cursorBlock last = some checked → checked < block
  | .getLogs fromBlock toBlock, answer =>
    ∀ logs : List SubmittedLog, answer = .ok logs → logs = job.logsIn fromBlock toBlock
  | _, _ => True

def mayWrite (block : Nat) : RefreshCall → Prop
  | .writeCursor written => written < block
  | _ => True

section
variable {job : HiredJob} {log : SubmittedLog}

theorem HiredJob.Submission.matching_logsIn (submission : job.Submission log) (fromBlock toBlock : Nat) :
    matching job.deliverable (job.logsIn fromBlock toBlock) =
      if fromBlock ≤ log.blockNumber ∧ log.blockNumber ≤ toBlock then [log] else [] := by
  have swapped : matching job.deliverable (job.logsIn fromBlock toBlock) =
      (matching job.deliverable job.logs).filter fun log => fromBlock ≤ log.blockNumber && log.blockNumber ≤ toBlock := by
    unfold matching HiredJob.logsIn
    rw [List.filter_filter, List.filter_filter]
    exact List.filter_congr fun _ _ => Bool.and_comm _ _
  rw [swapped, submission.only]
  by_cases inside : fromBlock ≤ log.blockNumber ∧ log.blockNumber ≤ toBlock
  · rw [if_pos inside]
    exact List.filter_eq_self.mpr fun other member => by simpa [List.mem_singleton.mp member] using inside
  · rw [if_neg inside]
    exact List.filter_eq_nil_iff.mpr fun other member => by simpa [List.mem_singleton.mp member] using inside

theorem window_end {fromBlock finalized : Nat} (reached : fromBlock ≤ finalized) {toBlock : Nat}
    (ending : toBlock = if fromBlock + 499 < finalized then fromBlock + 499 else finalized) :
    fromBlock ≤ toBlock ∧ toBlock ≤ finalized ∧ toBlock ≤ fromBlock + 499 ∧ (toBlock < finalized → toBlock = fromBlock + 499) := by
  split at ending <;> omega

theorem scanWindows_guarded (submission : job.Submission log) {finalized : Nat} (count fromBlock : Nat)
    (start : fromBlock ≤ log.blockNumber ∨ finalized < fromBlock) :
    (scanWindows job.deliverable finalized count fromBlock).run.Guarded (mayAnswer job log.blockNumber)
      (mayWrite log.blockNumber) := by
  induction count generalizing fromBlock with
  | zero => trivial
  | succ count ih =>
    unfold scanWindows
    by_cases reached : fromBlock ≤ finalized
    · rw [if_pos reached]
      refine Program.Guarded.attempt_bind trivial fun logs read => ?_
      have seen : logs = job.logsIn _ _ := read logs rfl
      obtain ⟨forward, _, short, full⟩ := window_end reached rfl
      rw [seen, submission.matching_logsIn]
      by_cases inside : fromBlock ≤ log.blockNumber ∧
          log.blockNumber ≤ if fromBlock + 499 < finalized then fromBlock + 499 else finalized
      · rw [if_pos inside]
        trivial
      · rw [if_neg inside]
        refine Program.Guarded.attempt_bind ?_ fun _ _ => ih (fromBlock + 500) ?_
        · show (if fromBlock + 499 < finalized then fromBlock + 499 else finalized) < log.blockNumber
          omega
        · omega
    · rw [if_neg reached]
      trivial

theorem findSubmission_guarded (submission : job.Submission log) (fundingTransactionHash : Option TransactionHash) :
    (findSubmission fundingTransactionHash job.deliverable).run.Guarded (mayAnswer job log.blockNumber)
      (mayWrite log.blockNumber) := by
  cases fundingTransactionHash with
  | none => trivial
  | some _ =>
    refine Program.Guarded.attempt_bind trivial fun funded receipt => ?_
    cases funded with
    | none => trivial
    | some funded =>
      have paid : funded = job.fundingBlock := receipt funded rfl
      refine Program.Guarded.attempt_bind trivial fun finalized _ => ?_
      refine Program.Guarded.attempt_bind trivial fun last read => ?_
      refine scanWindows_guarded submission 10 _ (Or.inl ?_)
      cases checked : cursorBlock last with
      | none => exact paid ▸ submission.funded
      | some checked' => exact read last rfl checked' checked

theorem settleSubmission_guarded {may : (call : RefreshCall) → Except CommerceError call.Value → Prop} {block : Nat}
    (transactionHash : Option TransactionHash) :
    (settleSubmission transactionHash).run.Guarded may (mayWrite block) := by
  cases transactionHash with
  | none => trivial
  | some transactionHash =>
    exact Program.Guarded.attempt_bind trivial fun _ _ => Program.Guarded.attempt_bind trivial fun _ _ => trivial

theorem refresh_guarded (submission : job.Submission log) (supplied : Option TransactionHash) :
    (refresh supplied).run.Guarded (mayAnswer job log.blockNumber) (mayWrite log.blockNumber) := by
  refine Program.Guarded.attempt_bind trivial fun fundingTransactionHash _ => ?_
  refine Program.Guarded.attempt_bind trivial fun chainJob read => ?_
  obtain ⟨state, deliverable⟩ := chainJob
  cases deliverable with
  | none => cases state <;> trivial
  | some deliverable =>
    have same : deliverable = job.deliverable := read _ rfl deliverable rfl
    rw [same]
    have claimed : ∀ claim : Unit, ((match supplied with
        | some transactionHash => settleSubmission (some transactionHash)
        | none => findSubmission fundingTransactionHash job.deliverable >>= settleSubmission) :
          RefreshProgram RefreshOutcome).run.Guarded (mayAnswer job log.blockNumber) (mayWrite log.blockNumber) := by
      intro _
      cases supplied with
      | some transactionHash => exact settleSubmission_guarded _
      | none => exact Program.Guarded.except_bind (findSubmission_guarded submission _) settleSubmission_guarded
    cases state with
    | funded => trivial
    | submitted => exact Program.Guarded.attempt_bind trivial fun claim _ => claimed claim
    | completed => exact Program.Guarded.attempt_bind trivial fun claim _ => claimed claim
    | rejected => exact Program.Guarded.attempt_bind trivial fun claim _ => claimed claim

theorem observe_below {block : Nat} {call : RefreshCall} {before after : Delivery}
    {answer : Except CommerceError call.Value} (permitted : mayWrite block call) (observed : observe job call before answer after)
    (below : Below block before) : mayAnswer job block call answer ∧ Below block after := by
  cases call with
  | writeCursor written =>
    rcases observed with rfl | ⟨rfl, _⟩
    · exact ⟨trivial, below_written.mpr permitted⟩
    · exact ⟨trivial, below⟩
  | verifyReceiptForOperation transactionHash =>
    obtain rfl := observed
    exact ⟨trivial, below⟩
  | readCursor =>
    obtain ⟨rfl, read⟩ := observed
    exact ⟨fun last answered checked at' => below checked (read last answered ▸ at'), below⟩
  | assertJob => exact ⟨observed.2, observed.1 ▸ below⟩
  | getTransactionReceipt => exact ⟨fun funded => observed.2 funded, observed.1 ▸ below⟩
  | getLogs fromBlock toBlock => exact ⟨observed.2, observed.1 ▸ below⟩
  | bound => exact ⟨trivial, observed ▸ below⟩
  | claim => exact ⟨trivial, observed ▸ below⟩
  | getFinalizedBlock => exact ⟨trivial, observed ▸ below⟩
  | recordResult _ => exact ⟨trivial, observed ▸ below⟩

theorem cursor_below (submission : job.Submission log)
    {pool : Pool (Option TransactionHash) RefreshCall (fun call => Except CommerceError call.Value)
      (Except CommerceError RefreshOutcome) Delivery}
    (reach : (refreshSystem job).Reach Fresh pool) : Below log.blockNumber pool.state := by
  refine (reach.permitted_calls (refresh_guarded submission) ?_ ?_ fun _ _ moved => moved.elim).1
  · intro s fresh last checked
    rw [show s.lastCheckedBlock = none from fresh] at checked
    cases checked
  · exact fun _ _ _ _ _ _ permitted observed below => observe_below permitted observed below

end

/-! ### Undisturbed calls find it -/

def succeeds (job : HiredJob) (head : Nat) : (call : RefreshCall) → Except CommerceError call.Value → Prop
  | .bound, answer => answer = .ok (some job.fundingTransactionHash)
  | .assertJob, answer => ∃ state, state ≠ .funded ∧ answer = .ok (⟨state, some job.deliverable⟩ : ChainJob)
  | .getTransactionReceipt, answer => answer = .ok (some job.fundingBlock)
  | .getFinalizedBlock, answer => answer = .ok head
  | .verifyReceiptForOperation _, _ => True
  | .recordResult _, _ => True
  | _, answer => ∃ value, answer = .ok value

def undisturbed (job : HiredJob) (head : Nat) :
    Semantics RefreshCall (fun call => Except CommerceError call.Value) Delivery :=
  fun call s answer s' => observe job call s answer s' ∧ succeeds job head call answer

def RefreshRun (job : HiredJob) (head : Nat) (s : Delivery) (result : Except CommerceError RefreshOutcome) (s' : Delivery) :
    Prop :=
  Runs (undisturbed job head) (refresh none).run s result s'

def HiredJob.position (job : HiredJob) (delivery : Delivery) : Nat :=
  match cursorBlock delivery.lastCheckedBlock with
  | some last => last + 1
  | none => job.fundingBlock

section
variable {job : HiredJob} {log : SubmittedLog} {head : Nat} {α : Type}

theorem Runs.request_bind {call : RefreshCall} {after : call.Value → RefreshProgram α} {s s' : Delivery}
    {result : Except CommerceError α} (run : Runs (undisturbed job head) (request call >>= after).run s result s')
    (certain : ∀ answer, succeeds job head call answer → ∃ value, answer = .ok value) :
    ∃ value middle, undisturbed job head call s (.ok value) middle ∧
      Runs (undisturbed job head) (after value).run middle result s' := by
  rw [ExceptT.run_bind] at run
  obtain ⟨answer, middle, observed, rest⟩ := Runs.call_iff.mp run
  obtain ⟨value, rfl⟩ := certain answer observed.2
  exact ⟨value, middle, observed, rest⟩

/-- A scan nobody disturbs finds the submission, or leaves the cursor at the end of its last window. -/
theorem scanWindows_run (submission : job.Submission log) (count : Nat) {fromBlock : Nat}
    (start : fromBlock ≤ log.blockNumber ∨ head < fromBlock) {s s' : Delivery}
    {result : Except CommerceError (Option TransactionHash)}
    (run : Runs (undisturbed job head) (scanWindows job.deliverable head count fromBlock).run s result s') :
    s'.verified = s.verified ∧ (result = .ok (some log.transactionHash) ∨
      result = .ok none ∧ (s' = s ∧ (count = 0 ∨ head < fromBlock) ∨
        ∃ last, cursorBlock s'.lastCheckedBlock = some last ∧ fromBlock ≤ last ∧ last < log.blockNumber ∧
          (log.blockNumber ≤ head → last + 1 = fromBlock + 500 * count))) := by
  induction count generalizing fromBlock s with
  | zero =>
    obtain ⟨rfl, rfl⟩ := Runs.done_iff.mp run
    exact ⟨rfl, Or.inr ⟨rfl, Or.inl ⟨rfl, Or.inl rfl⟩⟩⟩
  | succ count ih =>
    unfold scanWindows at run
    by_cases reached : fromBlock ≤ head
    · rw [if_pos reached] at run
      obtain ⟨logs, middle, ⟨⟨rfl, read⟩, _⟩, rest⟩ := Runs.request_bind run fun _ succeeded => succeeded
      have seen : logs = job.logsIn _ _ := read logs rfl
      obtain ⟨forward, within, short, full⟩ := window_end reached rfl
      rw [seen, submission.matching_logsIn] at rest
      generalize (if fromBlock + 499 < head then fromBlock + 499 else head) = toBlock at *
      by_cases inside : fromBlock ≤ log.blockNumber ∧ log.blockNumber ≤ toBlock
      · rw [if_pos inside] at rest
        obtain ⟨rfl, rfl⟩ := Runs.done_iff.mp rest
        exact ⟨rfl, Or.inl rfl⟩
      · rw [if_neg inside] at rest
        obtain ⟨_, written, ⟨wrote, _⟩, others⟩ := Runs.request_bind rest fun _ succeeded => succeeded
        have moved : written = middle.written toBlock := by
          rcases wrote with same | ⟨_, _, failed⟩
          · exact same
          · cases failed
        obtain ⟨verified, outcome⟩ := ih (by omega) others
        rw [moved] at verified outcome
        refine ⟨verified, outcome.imp_right fun ⟨missed, further⟩ => ⟨missed, Or.inr ?_⟩⟩
        rcases further with ⟨rfl, ended⟩ | ⟨last, checked, ahead, before, whole⟩
        · refine ⟨toBlock, cursorBlock_repr toBlock, forward, by omega, fun passed => ?_⟩
          omega
        · exact ⟨last, checked, by omega, before, fun passed => by have ends := whole passed; omega⟩
    · rw [if_neg reached] at run
      obtain ⟨rfl, rfl⟩ := Runs.done_iff.mp run
      exact ⟨rfl, Or.inr ⟨rfl, Or.inl ⟨rfl, Or.inr (by omega)⟩⟩⟩

theorem position_eq {delivery : Delivery} {last : Nat} (checked : cursorBlock delivery.lastCheckedBlock = some last) :
    job.position delivery = last + 1 := by
  rw [HiredJob.position, checked]

theorem HiredJob.Submission.position_le (submission : job.Submission log) {s : Delivery} (below : Below log.blockNumber s) :
    job.position s ≤ log.blockNumber := by
  unfold HiredJob.position
  split
  · rename_i last checked
    exact below last checked
  · exact submission.funded

/-- What a failing scan has done: it stands still only where the head is before its first block. -/
structure Advanced (job : HiredJob) (log : SubmittedLog) (head : Nat) (s s' : Delivery) : Prop where
  below : Below log.blockNumber s'
  moved : s' = s ∧ head < job.position s ∨ job.position s < job.position s'
  passed : log.blockNumber ≤ head → job.position s' = job.position s + 5000

theorem findSubmission_run (submission : job.Submission log) {s s' : Delivery} (below : Below log.blockNumber s)
    {result : Except CommerceError (Option TransactionHash)}
    (run : Runs (undisturbed job head) (findSubmission (some job.fundingTransactionHash) job.deliverable).run s result s') :
    s'.verified = s.verified ∧
      (result = .ok (some log.transactionHash) ∨ result = .ok none ∧ Advanced job log head s s') := by
  have start := submission.position_le below
  obtain ⟨funded, s₁, ⟨⟨same, _⟩, receipt⟩, reading⟩ := Runs.request_bind run fun _ succeeded => ⟨_, succeeded⟩
  obtain rfl : s₁ = s := same
  obtain rfl : funded = some job.fundingBlock := Except.ok.inj receipt
  obtain ⟨finalized, s₂, ⟨same, read⟩, scanning⟩ := Runs.request_bind reading fun _ succeeded => ⟨_, succeeded⟩
  obtain rfl : s₂ = s₁ := same
  obtain rfl : finalized = head := Except.ok.inj read
  obtain ⟨last, s₃, ⟨⟨same, stored⟩, _⟩, windows⟩ := Runs.request_bind scanning fun _ succeeded => succeeded
  obtain rfl : s₃ = s₂ := same
  obtain rfl : last = s₃.lastCheckedBlock := stored last rfl
  have scan : Runs (undisturbed job finalized) (scanWindows job.deliverable finalized 10 (job.position s₃)).run s₃ result s' :=
    windows
  obtain ⟨verified, found | ⟨missed, still⟩⟩ := scanWindows_run submission 10 (Or.inl start) scan
  · exact ⟨verified, Or.inl found⟩
  · refine ⟨verified, Or.inr ⟨missed, ?_⟩⟩
    rcases still with ⟨rfl, ended⟩ | ⟨last, checked, ahead, before, whole⟩
    · exact ⟨below, Or.inl ⟨rfl, by omega⟩, by omega⟩
    · refine ⟨fun other same => ?_, Or.inr ?_, fun reached => ?_⟩
      · rw [checked] at same
        exact Option.some.inj same ▸ before
      · rw [position_eq checked]
        omega
      · rw [position_eq checked, whole reached]

/-- A refresh nobody disturbs goes on to verify the submission's receipt, or it fails outside the lookup and has
advanced the scan. -/
theorem refresh_run (submission : job.Submission log) {s s' : Delivery} (below : Below log.blockNumber s)
    {result : Except CommerceError RefreshOutcome} (run : RefreshRun job head s result s') :
    s'.verified = s.verified ++ [log.transactionHash] ∨
      result = .error receiptOutsideLookup ∧ s'.verified = s.verified ∧ Advanced job log head s s' := by
  obtain ⟨funding, s₁, ⟨same, bound⟩, asking⟩ := Runs.request_bind run fun _ succeeded => ⟨_, succeeded⟩
  obtain rfl : s₁ = s := same
  obtain rfl : funding = some job.fundingTransactionHash := Except.ok.inj bound
  obtain ⟨chainJob, s₂, ⟨⟨same, _⟩, state, submitted, seen⟩, claiming⟩ :=
    Runs.request_bind asking fun _ ⟨state, _, succeeded⟩ => ⟨_, succeeded⟩
  obtain rfl : s₂ = s₁ := same
  obtain rfl : chainJob = ⟨state, some job.deliverable⟩ := Except.ok.inj seen
  have search : Runs (undisturbed job head) (request .claim >>= fun _ : Unit =>
      findSubmission (some job.fundingTransactionHash) job.deliverable >>= settleSubmission).run s₂ result s' := by
    cases state with
    | funded => exact absurd rfl submitted
    | submitted => exact claiming
    | completed => exact claiming
    | rejected => exact claiming
  obtain ⟨_, s₃, ⟨same, _⟩, finding⟩ := Runs.request_bind search fun _ succeeded => succeeded
  obtain rfl : s₃ = s₂ := same
  rcases Runs.except_bind_iff.mp finding with ⟨error, failed, _⟩ | ⟨found, middle, ran, settled⟩
  · rcases (findSubmission_run submission below failed).2 with same | ⟨same, _⟩ <;> cases same
  · obtain ⟨verified, same | ⟨same, advanced⟩⟩ := findSubmission_run submission below ran
    · obtain rfl : found = some log.transactionHash := Except.ok.inj same
      refine Or.inl ?_
      obtain ⟨answer, after, ⟨checked, _⟩, later⟩ := Runs.call_iff.mp settled
      have asked : after.verified = s₃.verified ++ [log.transactionHash] := by
        rw [show after = _ from checked, verified]
      rw [← asked]
      cases answer with
      | error error =>
        obtain ⟨_, rfl⟩ := Runs.done_iff.mp later
        rfl
      | ok _ =>
        obtain ⟨digest, last, ⟨kept, _⟩, ended⟩ := Runs.call_iff.mp later
        obtain rfl : last = after := kept
        cases digest <;> exact (Runs.done_iff.mp ended).2 ▸ rfl
    · obtain rfl : found = none := Except.ok.inj same
      obtain ⟨rfl, rfl⟩ := Runs.done_iff.mp settled
      exact Or.inr ⟨rfl, verified, advanced⟩

end

/-- Refreshes one after the other that nobody disturbs, with their heads, none of which found a hash to verify. -/
inductive Missed (job : HiredJob) : List Nat → Delivery → Delivery → Prop
  | nil {s} : Missed job [] s s
  | cons {head heads s middle s' result} : RefreshRun job head s result middle → middle.verified = s.verified →
      Missed job heads middle s' → Missed job (head :: heads) s s'

theorem Missed.position {job : HiredJob} {log : SubmittedLog} (submission : job.Submission log) {heads : List Nat}
    {s s' : Delivery} (missed : Missed job heads s s') (below : Below log.blockNumber s)
    (passed : ∀ head ∈ heads, log.blockNumber ≤ head) : job.position s + 5000 * heads.length ≤ log.blockNumber := by
  induction missed with
  | nil => exact submission.position_le below
  | cons run same _ ih =>
    rcases refresh_run submission below run with found | ⟨_, _, advanced⟩
    · rw [found] at same
      exact absurd same (by simp)
    · have later := ih advanced.below fun head member => passed head (List.mem_cons_of_mem _ member)
      have here := advanced.passed (passed _ List.mem_cons_self)
      rw [List.length_cons]
      omega

def smooth (job : HiredJob) (head : Nat) : (call : RefreshCall) → Delivery → Except CommerceError call.Value × Delivery
  | .bound, s => (.ok (some job.fundingTransactionHash), s)
  | .assertJob, s => (.ok (⟨.submitted, some job.deliverable⟩ : ChainJob), s)
  | .claim, s => (.ok (), s)
  | .getTransactionReceipt, s => (.ok (some job.fundingBlock), s)
  | .getFinalizedBlock, s => (.ok head, s)
  | .readCursor, s => (.ok s.lastCheckedBlock, s)
  | .getLogs fromBlock toBlock, s => (.ok (job.logsIn fromBlock toBlock), s)
  | .writeCursor block, s => (.ok (), s.written block)
  | .verifyReceiptForOperation transactionHash, s => (.ok (), { s with verified := s.verified ++ [transactionHash] })
  | .recordResult _, s => (.ok "digest", s)

theorem smooth_undisturbed (job : HiredJob) (head : Nat) (call : RefreshCall) (s : Delivery) :
    undisturbed job head call s (smooth job head call s).1 (smooth job head call s).2 := by
  cases call with
  | bound => exact ⟨rfl, rfl⟩
  | assertJob =>
    refine ⟨⟨rfl, fun chainJob same deliverable member => ?_⟩, .submitted, nofun, rfl⟩
    cases same
    exact (Option.some.inj member).symm
  | claim => exact ⟨rfl, _, rfl⟩
  | getTransactionReceipt => exact ⟨⟨rfl, fun block same => (Option.some.inj (Except.ok.inj same)).symm⟩, rfl⟩
  | getFinalizedBlock => exact ⟨rfl, rfl⟩
  | readCursor => exact ⟨⟨rfl, fun last same => (Except.ok.inj same).symm⟩, _, rfl⟩
  | getLogs fromBlock toBlock => exact ⟨⟨rfl, fun logs same => (Except.ok.inj same).symm⟩, _, rfl⟩
  | writeCursor block => exact ⟨Or.inl rfl, _, rfl⟩
  | verifyReceiptForOperation transactionHash => exact ⟨rfl, trivial⟩
  | recordResult transactionHash => exact ⟨rfl, trivial⟩

def sampleHash (digit : Char) (hex : isTransactionHash (String.ofList ('0' :: 'x' :: List.replicate 64 digit)) = true) :
    TransactionHash := ⟨_, hex⟩

def sampleSubmission : SubmittedLog := ⟨700, "0xdd", false, sampleHash 'b' (by decide +kernel)⟩

def sampleJob : HiredJob := ⟨sampleHash 'a' (by decide +kernel), 100, "0xdd", [sampleSubmission]⟩

end Bnbera.Seller
