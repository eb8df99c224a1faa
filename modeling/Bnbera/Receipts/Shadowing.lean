import Bnbera.Receipts.Verification

/-! What logs of other jobs do to the verification of a receipt. -/

namespace Bnbera.Receipts

section
variable {α β : Type} {find : α → Option β} {wanted : β → Bool} {items : List α}

theorem findSome?_wanted_iff {found : β} : (items.findSome? find = some found ∧ wanted found = true) ↔
    items.findSome? (fun item => (find item).filter wanted) = some found ∧
      ¬∃ other, items.findSome? find = some other ∧ wanted other = false := by
  induction items with
  | nil => simp
  | cons item rest ih =>
    cases first : find item with
    | none => simpa [List.findSome?_cons, first] using ih
    | some other =>
      by_cases admitted : wanted other = true
      · simp only [List.findSome?_cons, first, Option.filter_some, admitted, if_true, Option.some.injEq]
        constructor
        · rintro ⟨rfl, _⟩
          exact ⟨rfl, fun ⟨_, same, unwanted⟩ => by rw [← same, admitted] at unwanted; cases unwanted⟩
        · rintro ⟨rfl, _⟩
          exact ⟨rfl, admitted⟩
      · have unwanted := Bool.not_eq_true _ ▸ admitted
        simp only [List.findSome?_cons, first, Option.filter_some, unwanted, Option.some.injEq]
        constructor
        · rintro ⟨rfl, wanted⟩
          exact absurd wanted admitted
        · rintro ⟨_, unshadowed⟩
          exact absurd ⟨other, rfl, unwanted⟩ unshadowed

theorem findSome?_filter {keeps : α → Bool} (covers : ∀ item found, find item = some found → keeps item = true) :
    (items.filter keeps).findSome? find = items.findSome? find := by
  induction items with
  | nil => rfl
  | cons item rest ih =>
    by_cases kept : keeps item = true
    · rw [List.filter_cons_of_pos kept, List.findSome?_cons, List.findSome?_cons, ih]
    · rw [List.filter_cons_of_neg kept, List.findSome?_cons, ih]
      cases first : find item with
      | none => rfl
      | some found => exact absurd (covers item found first) kept

end

def concerns (id : String) (args : EventArgs) : Bool :=
  ((args "jobId").bind EventValue.toBigInt).any fun value => bigIntOf id = some value

theorem concerns_iff {args : EventArgs} {id : String} : concerns id args = true ↔
    ∃ value, (args "jobId").bind EventValue.toBigInt = some value ∧ bigIntOf id = some value := by
  simp only [concerns, Option.any_eq_true, decide_eq_true_eq]

section
variable [EventDecoder] {pin : Pin} {reads : ChainReads} {input : VerificationInput} {receipt first second : LoggedReceipt}
  {search : EventSearch} {id : String} {args : EventArgs}

def Pin.contracts (pin : Pin) : List (Abi × Address) :=
  [(erc8183CommerceEventsAbi, pin.commerceContract), (erc8183RouterEventsAbi, pin.routerContract),
    (erc8183PolicyEventsAbi, pin.policyContract)]

def RpcLog.ofJob (log : RpcLog) (pin : Pin) (id : String) : Bool :=
  pin.contracts.any fun contract => lower log.address == lower contract.2.text &&
    ((EventDecoder.decodeEventLog contract.1 log.topics log.data).bind (·.args)).any (concerns id)

structure SameJobLogs (pin : Pin) (id : String) (first second : LoggedReceipt) : Prop where
  status : first.status = second.status
  blockNumber : first.blockNumber = second.blockNumber
  blockHash : first.blockHash = second.blockHash
  transactionHash : first.transactionHash = second.transactionHash
  logs : (first.logs.getD []).filter (·.ofJob pin id) = (second.logs.getD []).filter (·.ofJob pin id)

def EventSearch.found (search : EventSearch) (receipt : LoggedReceipt) : Option EventArgs :=
  (receipt.logs.getD []).findSome? (search.argsOf receipt)

def EventSearch.foundOwn (search : EventSearch) (id : String) (receipt : LoggedReceipt) : Option EventArgs :=
  (receipt.logs.getD []).findSome? fun log => (search.argsOf receipt log).filter (concerns id)

def EventSearch.Shadowed (search : EventSearch) (id : String) (receipt : LoggedReceipt) : Prop :=
  ∃ args, search.found receipt = some args ∧ concerns id args = false

theorem EventSearch.found_concerns_iff : (search.found receipt = some args ∧ concerns id args = true) ↔
    search.foundOwn id receipt = some args ∧ ¬search.Shadowed id receipt :=
  findSome?_wanted_iff

theorem eventFromLogs_args (position : Nat) (logs : List RpcLog) :
    (eventFromLogs search receipt position logs).map (·.args) = logs.findSome? (search.argsOf receipt) := by
  induction logs generalizing position with
  | nil => rfl
  | cons log rest ih =>
    rw [eventFromLogs, List.findSome?_cons]
    cases search.argsOf receipt log with
    | none => exact ih _
    | some args => rfl

theorem requireReceiptEvent_eq_ok {action : String} : (∃ event, requireReceiptEvent receipt search action = .ok event ∧
    event.args = args) ↔ search.found receipt = some args := by
  have searched : (eventFromReceipt receipt search).map (·.args) = search.found receipt := eventFromLogs_args 0 _
  rw [← searched, requireReceiptEvent]
  cases eventFromReceipt receipt search with
  | none => simp
  | some event => simp

theorem argsOf_some {log : RpcLog} (event : search.argsOf receipt log = some args) :
    lower log.address = lower search.expectedAddress.text ∧
      (∃ decoded, EventDecoder.decodeEventLog search.abi log.topics log.data = some decoded ∧ decoded.args = some args) ∧
      ∀ jobId ∈ search.jobId, ((args "jobId").map EventValue.display).getD "undefined" = jobId := by
  unfold EventSearch.argsOf at event
  split at event
  · rename_i emitted
    obtain ⟨decoded, read, rest⟩ := Option.bind_eq_some_iff.mp event
    obtain ⟨found, given, rest⟩ := Option.bind_eq_some_iff.mp rest
    split at rest
    · rename_i named
      cases Option.some.inj rest
      exact ⟨emitted.1, ⟨decoded, read, given⟩, named.2⟩
    · cases rest
  · cases event

theorem ofJob_of_argsOf {log : RpcLog} (pinned : (search.abi, search.expectedAddress) ∈ pin.contracts)
    (event : (search.argsOf receipt log).filter (concerns id) = some args) : log.ofJob pin id = true := by
  obtain ⟨found, concerned⟩ := Option.filter_eq_some_iff.mp event
  obtain ⟨emitted, ⟨decoded, read, given⟩, _⟩ := argsOf_some found
  refine List.any_eq_true.mpr ⟨_, pinned, Bool.and_eq_true_iff.mpr ⟨beq_iff_eq.mpr emitted, ?_⟩⟩
  rw [read, Option.bind_some, given]
  exact concerned

theorem argsOf_same (hash : lower first.transactionHash = lower second.transactionHash)
    (block : lower first.blockHash = lower second.blockHash) (number : first.blockNumber = second.blockNumber) (log : RpcLog) :
    search.argsOf first log = search.argsOf second log := by
  have belongs : log.belongs first ↔ log.belongs second := by
    simp only [RpcLog.belongs, hash, block, number]
  exact if_congr (and_congr_right' belongs) rfl rfl

theorem foundOwn_same (pinned : (search.abi, search.expectedAddress) ∈ pin.contracts)
    (same : SameJobLogs pin id first second) : search.foundOwn id first = search.foundOwn id second := by
  have own : ∀ receipt : LoggedReceipt, search.foundOwn id receipt =
      ((receipt.logs.getD []).filter (·.ofJob pin id)).findSome? fun log => (search.argsOf receipt log).filter (concerns id) := by
    intro receipt
    exact (findSome?_filter fun log found event => ofJob_of_argsOf pinned event).symm
  rw [own, own, same.logs]
  simp only [argsOf_same (congrArg lower same.transactionHash) (congrArg lower same.blockHash) same.blockNumber]

omit [EventDecoder] in
theorem asHash_eq_ok {value label : String} {hash : Hash} (read : asHash value label = .ok hash) : hash.text = lower value := by
  unfold asHash at read
  split at read
  · rename_i normal
    cases Except.ok.inj read
    exact TextFormat.normalize_eq normal
  · cases read

omit [EventDecoder] in
theorem assertReceipt_eq_ok {hash action : String} {parsed : LoggedReceipt}
    (read : assertReceipt receipt hash action = .ok parsed) : parsed.transactionHash = lower receipt.transactionHash ∧
      parsed.blockHash = lower receipt.blockHash ∧ parsed.blockNumber = receipt.blockNumber ∧
      parsed.logs.getD [] = receipt.logs.getD [] := by
  obtain ⟨normal, normalized, rest⟩ := bind_eq_ok.mp read
  obtain ⟨_, rest⟩ := refuseIf_bind_eq_ok.mp rest
  obtain ⟨_, rest⟩ := refuseIf_bind_eq_ok.mp rest
  cases Except.ok.inj rest
  obtain ⟨blockHash, block, rest⟩ := bind_eq_ok.mp normalized
  obtain ⟨transactionHash, transaction, rest⟩ := bind_eq_ok.mp rest
  cases Except.ok.inj rest
  exact ⟨asHash_eq_ok transaction, asHash_eq_ok block, rfl, rfl⟩

theorem argsOf_parsed {hash action : String} {parsed : LoggedReceipt}
    (read : assertReceipt receipt hash action = .ok parsed) : search.argsOf parsed = search.argsOf receipt := by
  obtain ⟨transaction, block, number, _⟩ := assertReceipt_eq_ok read
  funext log
  refine argsOf_same ?_ ?_ number log
  · rw [transaction, lower_lower]
  · rw [block, lower_lower]

theorem found_parsed {hash action : String} {parsed : LoggedReceipt} (read : assertReceipt receipt hash action = .ok parsed) :
    search.foundOwn id parsed = search.foundOwn id receipt ∧ (search.Shadowed id parsed ↔ search.Shadowed id receipt) := by
  have logs := (assertReceipt_eq_ok read).2.2.2
  simp only [EventSearch.Shadowed, EventSearch.foundOwn, EventSearch.found, logs, argsOf_parsed read, and_self]

theorem assertReceipt_same {hash action : String} (same : SameJobLogs pin id first second) {parsed : LoggedReceipt}
    (read : assertReceipt first hash action = .ok parsed) :
    assertReceipt second hash action = .ok { parsed with logs := some (second.logs.getD []) } := by
  obtain ⟨normal, normalized, rest⟩ := bind_eq_ok.mp read
  obtain ⟨sameHash, rest⟩ := refuseIf_bind_eq_ok.mp rest
  obtain ⟨success, rest⟩ := refuseIf_bind_eq_ok.mp rest
  cases Except.ok.inj rest
  obtain ⟨blockHash, block, rest⟩ := bind_eq_ok.mp normalized
  obtain ⟨transactionHash, transaction, rest⟩ := bind_eq_ok.mp rest
  cases Except.ok.inj rest
  refine bind_eq_ok.mpr ⟨⟨first.status, first.blockNumber, blockHash.text, transactionHash.text, some (second.logs.getD [])⟩,
    ?_, refuseIf_bind_eq_ok.mpr ⟨sameHash, refuseIf_bind_eq_ok.mpr ⟨success, rfl⟩⟩⟩
  rw [same.blockHash] at block
  rw [same.transactionHash] at transaction
  refine bind_eq_ok.mpr ⟨blockHash, block, bind_eq_ok.mpr ⟨transactionHash, transaction, ?_⟩⟩
  rw [same.status, same.blockNumber]
  rfl

omit [EventDecoder] in
theorem concerns_of_assert {action label hash : String} {done : Unit}
    (passed : assertIntegerArgument args "jobId" action id label hash = .ok done) : concerns id args = true := by
  obtain ⟨actual, read, rest⟩ := bind_eq_ok.mp passed
  obtain ⟨expected, wanted, rest⟩ := bind_eq_ok.mp rest
  have same : actual = expected := not_not.mp (refuseIf_eq_ok.mp rest)
  refine concerns_iff.mpr ⟨actual, ?_, ?_⟩
  · unfold eventBigInt at read
    split at read
    · rename_i value found
      cases Except.ok.inj read
      exact found
    · cases read
  · unfold toBigInt at wanted
    split at wanted
    · rename_i value found
      cases Except.ok.inj wanted
      rw [found, same]
    · cases wanted

theorem required_iff {action : String} {passes : EventArgs → Prop} (concerned : ∀ args, passes args → concerns id args = true) :
    (∃ args, search.foundOwn id receipt = some args ∧ passes args) ∧ ¬search.Shadowed id receipt ↔
      ∃ event, requireReceiptEvent receipt search action = .ok event ∧ passes event.args := by
  have found : (∃ event, requireReceiptEvent receipt search action = .ok event ∧ passes event.args) ↔
      ∃ args, search.found receipt = some args ∧ passes args := by
    constructor
    · rintro ⟨event, required, passed⟩
      exact ⟨event.args, requireReceiptEvent_eq_ok.mp ⟨event, required, rfl⟩, passed⟩
    · rintro ⟨args, found, passed⟩
      obtain ⟨event, required, rfl⟩ := requireReceiptEvent_eq_ok.mpr found
      exact ⟨event, required, passed⟩
  rw [found]
  constructor
  · rintro ⟨⟨args, own, passed⟩, unshadowed⟩
    exact ⟨args, (EventSearch.found_concerns_iff.mpr ⟨own, unshadowed⟩).1, passed⟩
  · rintro ⟨args, found, passed⟩
    obtain ⟨own, unshadowed⟩ := EventSearch.found_concerns_iff.mp ⟨found, concerned args passed⟩
    exact ⟨⟨args, own, passed⟩, unshadowed⟩

def VerificationInput.searches (input : VerificationInput) (pin : Pin) (id : String) : List EventSearch :=
  match input.kind with
  | .create => [pin.commerceEvent "JobCreated", pin.commerceEvent "JobFunded"]
  | .submit => [pin.commerceEvent "JobSubmitted"]
  | .settle =>
    match input.action.getD .approve with
    | .approve => [pin.routerEvent "JobSettled", pin.routerEvent "JobFinalised", pin.commerceEvent "JobCompleted"]
    | .dispute => [pin.policyEvent "Disputed"]
  | .claimRefund => [pin.commerceEvent "Refunded" (some id), pin.commerceEvent "JobExpired" (some id)]
  | _ => []

def Shadowed (pin : Pin) (input : VerificationInput) (id : String) (receipt : LoggedReceipt) : Prop :=
  ∃ search ∈ input.searches pin id, search.Shadowed id receipt

/-- The events of the job prove the operation, whatever else is in the receipt. -/
def ProvesKind (pin : Pin) (input : VerificationInput) (id : String) (receipt : LoggedReceipt) (signer : Option Address)
    (job : StatedJob) : Prop :=
  let hash := input.transactionHash
  let digest := input.expectation.bind (·.digest)
  match input.kind with
  | .create => ∃ created, (pin.commerceEvent "JobCreated").foundOwn id receipt = some created ∧
      ∃ funded, (pin.commerceEvent "JobFunded").foundOwn id receipt = some funded ∧
        assertHireEvents pin created funded id signer input.expectation hash = .ok () ∧
        assertHireState job input.expectation hash = .ok ()
  | .submit => isDecimal id = true ∧ ∃ event, (pin.commerceEvent "JobSubmitted").foundOwn id receipt = some event ∧
      assertSubmitEvent event id signer digest hash = .ok () ∧ assertSubmittedJob job digest hash = .ok ()
  | .settle => isDecimal id = true ∧ assertActor signer job.client.text "client" hash = .ok () ∧
      match input.action.getD .approve with
      | .approve => ∃ settled, (pin.routerEvent "JobSettled").foundOwn id receipt = some settled ∧
          ∃ finalised, (pin.routerEvent "JobFinalised").foundOwn id receipt = some finalised ∧
            ∃ completed, (pin.commerceEvent "JobCompleted").foundOwn id receipt = some completed ∧
              assertApproval pin settled finalised completed id job hash = .ok ()
      | .dispute => ∃ disputed, (pin.policyEvent "Disputed").foundOwn id receipt = some disputed ∧
          assertDispute disputed id (signer.getD job.client).text job hash = .ok ()
  | .claimRefund => isDecimal id = true ∧ assertActor signer job.client.text "client" hash = .ok () ∧
      ∃ refunded, (pin.commerceEvent "Refunded" (some id)).foundOwn id receipt = some refunded ∧
        ∃ expired, (pin.commerceEvent "JobExpired" (some id)).foundOwn id receipt = some expired ∧
          assertRefund refunded expired id (signer.getD job.client).text job receipt.transactionHash = .ok ()
  | _ => False

variable {signer : Option Address} {job : StatedJob}

omit [EventDecoder] in
theorem requireOperationJobId_eq_ok {hash given : String} :
    requireOperationJobId (some id) hash = .ok given ↔ given = id ∧ isDecimal id = true := by
  unfold requireOperationJobId
  by_cases decimal : isDecimal id = true
  · simp only [decimal, if_true, Except.ok.injEq, and_true, eq_comm]
  · simp only [decimal, if_false, reduceCtorEq, and_false]

theorem required_next_iff {action : String} {rest own : EventArgs → Prop} {shadowed : Prop}
    (concerned : ∀ args, own args → concerns id args = true) (next : ∀ args, own args ∧ ¬shadowed ↔ rest args) :
    (∃ args, search.foundOwn id receipt = some args ∧ own args) ∧ ¬(search.Shadowed id receipt ∨ shadowed) ↔
      ∃ event, requireReceiptEvent receipt search action = .ok event ∧ rest event.args := by
  rw [← required_iff fun args passed => concerned args ((next args).mpr passed).1]
  constructor
  · rintro ⟨⟨args, found, proves⟩, neither⟩
    obtain ⟨unshadowed, free⟩ := not_or.mp neither
    exact ⟨⟨args, found, (next args).mp ⟨proves, free⟩⟩, unshadowed⟩
  · rintro ⟨⟨args, found, passed⟩, unshadowed⟩
    obtain ⟨proves, free⟩ := (next args).mpr passed
    exact ⟨⟨args, found, proves⟩, not_or.mpr ⟨unshadowed, free⟩⟩

omit [EventDecoder] in
theorem assertHireEvents_concerns {created funded : EventArgs} {expectation : Option Expectation} {hash : String} {done : Unit}
    (passed : assertHireEvents pin created funded id signer expectation hash = .ok done) :
    concerns id created = true ∧ concerns id funded = true := by
  obtain ⟨_, first, rest⟩ := bind_eq_ok.mp passed
  obtain ⟨_, next, _⟩ := bind_eq_ok.mp rest
  exact ⟨concerns_of_assert first, concerns_of_assert next⟩

omit [EventDecoder] in
theorem assertApproval_concerns {settled finalised completed : EventArgs} {hash : String} {done : Unit}
    (passed : assertApproval pin settled finalised completed id job hash = .ok done) :
    concerns id settled = true ∧ concerns id finalised = true ∧ concerns id completed = true := by
  obtain ⟨_, first, rest⟩ := bind_eq_ok.mp passed
  obtain ⟨_, _, rest⟩ := bind_eq_ok.mp rest
  obtain ⟨_, _, rest⟩ := bind_eq_ok.mp rest
  obtain ⟨_, rest⟩ := refuseIf_bind_eq_ok.mp rest
  obtain ⟨_, next, rest⟩ := bind_eq_ok.mp rest
  obtain ⟨_, _, rest⟩ := bind_eq_ok.mp rest
  obtain ⟨_, rest⟩ := refuseIf_bind_eq_ok.mp rest
  obtain ⟨_, last, _⟩ := bind_eq_ok.mp rest
  exact ⟨concerns_of_assert first, concerns_of_assert next, concerns_of_assert last⟩

omit [EventDecoder] in
theorem assertRefund_concerns {refunded expired : EventArgs} {client hash : String} {done : Unit}
    (passed : assertRefund refunded expired id client job hash = .ok done) :
    concerns id refunded = true ∧ concerns id expired = true := by
  obtain ⟨_, first, rest⟩ := bind_eq_ok.mp passed
  obtain ⟨_, _, rest⟩ := bind_eq_ok.mp rest
  obtain ⟨_, _, last⟩ := bind_eq_ok.mp rest
  exact ⟨concerns_of_assert first, concerns_of_assert last⟩

omit [EventDecoder] in
theorem requireJob_eq_ok {given : StatedJob} {message hash : String} :
    requireJob (some job) message hash = .ok given ↔ job = given := by
  simp only [requireJob, Except.ok.injEq]

theorem verifyKind_create (kind : input.kind = .create) :
    verifyKind pin input receipt signer (some id) (some job) = .ok () ↔
      ProvesKind pin input id receipt signer job ∧ ¬Shadowed pin input id receipt := by
  unfold verifyKind ProvesKind Shadowed VerificationInput.searches
  simp only [kind, bind_eq_ok, Option.getD_some, List.mem_cons, List.not_mem_nil, or_false, exists_eq_or_imp, exists_eq_left,
    Unique.exists_iff, PUnit.default_eq_unit]
  rw [iff_comm]
  refine required_next_iff ?_ fun created => required_iff ?_
  · rintro created ⟨funded, _, passed, _⟩
    exact (assertHireEvents_concerns passed).1
  · rintro funded ⟨passed, _⟩
    exact (assertHireEvents_concerns passed).2

theorem verifyKind_submit (kind : input.kind = .submit) (known : input.jobId = some id) :
    verifyKind pin input receipt signer (some id) (some job) = .ok () ↔
      ProvesKind pin input id receipt signer job ∧ ¬Shadowed pin input id receipt := by
  unfold verifyKind ProvesKind Shadowed VerificationInput.searches
  simp only [kind, known, bind_eq_ok, requireOperationJobId_eq_ok, requireJob_eq_ok, List.mem_cons, List.not_mem_nil, or_false,
    exists_eq_left, exists_eq_left', Unique.exists_iff, PUnit.default_eq_unit, and_assoc]
  refine and_congr_right fun decimal => ?_
  rw [iff_comm]
  refine required_iff ?_
  rintro event ⟨passed, _⟩
  obtain ⟨_, first, _⟩ := bind_eq_ok.mp passed
  exact concerns_of_assert first

theorem verifyKind_settle (kind : input.kind = .settle) (known : input.jobId = some id) :
    verifyKind pin input receipt signer (some id) (some job) = .ok () ↔
      ProvesKind pin input id receipt signer job ∧ ¬Shadowed pin input id receipt := by
  unfold verifyKind ProvesKind Shadowed VerificationInput.searches
  simp only [kind, known, bind_eq_ok, requireOperationJobId_eq_ok, requireJob_eq_ok, exists_eq_left', Unique.exists_iff,
    PUnit.default_eq_unit, and_assoc, exists_eq_left]
  refine and_congr_right fun decimal => and_congr_right fun actor => ?_
  cases input.action.getD .approve with
  | approve =>
    simp only [bind_eq_ok, List.mem_cons, List.not_mem_nil, or_false, exists_eq_or_imp, exists_eq_left]
    rw [iff_comm]
    refine required_next_iff ?_ fun settled => required_next_iff ?_ fun finalised => required_iff ?_
    · rintro settled ⟨finalised, _, completed, _, passed⟩
      exact (assertApproval_concerns passed).1
    · rintro finalised ⟨completed, _, passed⟩
      exact (assertApproval_concerns passed).2.1
    · intro completed passed
      exact (assertApproval_concerns passed).2.2
  | dispute =>
    simp only [bind_eq_ok, List.mem_cons, List.not_mem_nil, or_false, exists_eq_left]
    rw [iff_comm]
    refine required_iff fun disputed passed => ?_
    obtain ⟨_, first, _⟩ := bind_eq_ok.mp passed
    exact concerns_of_assert first

theorem verifyKind_claimRefund (kind : input.kind = .claimRefund) (known : input.jobId = some id) :
    verifyKind pin input receipt signer (some id) (some job) = .ok () ↔
      ProvesKind pin input id receipt signer job ∧ ¬Shadowed pin input id receipt := by
  unfold verifyKind ProvesKind Shadowed VerificationInput.searches
  simp only [kind, known, bind_eq_ok, requireOperationJobId_eq_ok, requireJob_eq_ok, exists_eq_left', Unique.exists_iff,
    PUnit.default_eq_unit, and_assoc, exists_eq_left, assertRefundReceipt, List.mem_cons, List.not_mem_nil, or_false,
    exists_eq_or_imp]
  refine and_congr_right fun decimal => and_congr_right fun actor => ?_
  rw [iff_comm]
  refine required_next_iff ?_ fun refunded => required_iff ?_
  · rintro refunded ⟨expired, _, passed⟩
    exact (assertRefund_concerns passed).1
  · intro expired passed
    exact (assertRefund_concerns passed).2

theorem verifyKind_iff (known : input.jobId = some id) :
    verifyKind pin input receipt signer (some id) (some job) = .ok () ↔
      ProvesKind pin input id receipt signer job ∧ ¬Shadowed pin input id receipt := by
  by_cases create : input.kind = .create
  · exact verifyKind_create create
  by_cases submit : input.kind = .submit
  · exact verifyKind_submit submit known
  by_cases settle : input.kind = .settle
  · exact verifyKind_settle settle known
  by_cases refund : input.kind = .claimRefund
  · exact verifyKind_claimRefund refund known
  unfold verifyKind ProvesKind
  cases kind : input.kind <;> simp_all

def Accepts (pin : Pin) (reads : ChainReads) (input : VerificationInput) (receipt : LoggedReceipt) : Prop :=
  ∃ result, verifyReceiptForOperation pin { reads with receipt := .ok (some receipt) } input = .ok result

/-- The receipt succeeded, the job is in the right state and the events of the job prove the operation,
whatever other logs the receipt has. -/
def Proves (pin : Pin) (reads : ChainReads) (input : VerificationInput) (id : String) (receipt : LoggedReceipt) : Prop :=
  ∃ parsed signer job, assertReceipt receipt input.transactionHash "reconciliation" = .ok parsed ∧
    input.signerAddress.mapM (fun signer => normalizeAddress signer "operation signer") = .ok signer ∧
    readJob pin reads id = .ok job ∧ ProvesKind pin input id parsed signer job ∧
    ∀ expectation ∈ input.expectation, assertExpectation job expectation input.transactionHash = .ok ()

theorem accepts_iff (known : input.jobId = some id) :
    Accepts pin reads input receipt ↔ Proves pin reads input id receipt ∧ ¬Shadowed pin input id receipt := by
  have found : requireReceipt { reads with receipt := .ok (some receipt) } input.transactionHash "reconciliation" = .ok receipt := rfl
  have shadows : ∀ parsed, assertReceipt receipt input.transactionHash "reconciliation" = .ok parsed →
      (Shadowed pin input id parsed ↔ Shadowed pin input id receipt) := by
    intro parsed read
    exact exists_congr fun search => and_congr_right fun _ => (found_parsed read).2
  unfold Accepts verifyReceiptForOperation Proves
  simp only [bind_eq_ok, found, known, Option.some_or, Option.mapM_some, Except.ok.injEq, exists_eq_left', refuseIf_eq_ok]
  constructor
  · rintro ⟨_, parsed, read, signer, signed, _, _, _, jobRead, _, kind, _, expected, _⟩
    obtain ⟨job, jobFound, rfl⟩ := map_eq_ok.mp jobRead
    obtain ⟨proves, unshadowed⟩ := (verifyKind_iff known).mp kind
    exact ⟨⟨parsed, signer, job, read, signed, jobFound, proves, forM_eq_ok.mp expected⟩,
      fun shadowed => unshadowed ((shadows parsed read).mpr shadowed)⟩
  · rintro ⟨⟨parsed, signer, job, read, signed, jobRead, proves, expected⟩, unshadowed⟩
    have kind := (verifyKind_iff known).mpr ⟨proves, fun shadowed => unshadowed ((shadows parsed read).mp shadowed)⟩
    have checked : input.expectation.forM (fun expectation => assertExpectation job expectation input.transactionHash) = .ok () :=
      forM_eq_ok.mpr expected
    exact ⟨_, parsed, read, signer, signed, (), by rintro ⟨_, ⟨⟩⟩, _, map_eq_ok.mpr ⟨job, jobRead, rfl⟩,
      (), kind, (), checked, rfl⟩

omit [EventDecoder] in
theorem VerificationInput.searches_pinned (member : search ∈ input.searches pin id) :
    (search.abi, search.expectedAddress) ∈ pin.contracts := by
  unfold VerificationInput.searches at member
  split at member
  any_goals split at member
  all_goals simp only [List.mem_cons, List.not_mem_nil, or_false] at member
  all_goals rcases member with rfl | rfl | rfl
  all_goals simp [Pin.contracts, Pin.commerceEvent, Pin.routerEvent, Pin.policyEvent]

theorem provesKind_congr (found : ∀ search ∈ input.searches pin id, search.foundOwn id first = search.foundOwn id second)
    (hash : first.transactionHash = second.transactionHash) (proves : ProvesKind pin input id first signer job) :
    ProvesKind pin input id second signer job := by
  unfold VerificationInput.searches at found
  unfold ProvesKind at proves ⊢
  split at proves
  · simp_all
  · simp_all
  · split at proves
    · simp_all
    · simp_all
  · simp_all
  · exact proves.elim

theorem proves_same (same : SameJobLogs pin id first second) (proves : Proves pin reads input id first) :
    Proves pin reads input id second := by
  obtain ⟨parsed, signer, job, read, signed, jobRead, kind, expected⟩ := proves
  have other := assertReceipt_same same read
  have found : ∀ search ∈ input.searches pin id,
      search.foundOwn id parsed = search.foundOwn id { parsed with logs := some (second.logs.getD []) } := by
    intro search member
    rw [(found_parsed read).1, (found_parsed other).1]
    exact foundOwn_same (VerificationInput.searches_pinned member) same
  exact ⟨_, signer, job, other, signed, jobRead, provesKind_congr found rfl kind, expected⟩

theorem SameJobLogs.symm (same : SameJobLogs pin id first second) : SameJobLogs pin id second first :=
  ⟨same.status.symm, same.blockNumber.symm, same.blockHash.symm, same.transactionHash.symm, same.logs.symm⟩

/-- Of two receipts with the same logs of the job, both are accepted or neither is, exactly if the logs of
the job do not prove the operation, or both of its receipts are shadowed or neither is. -/
theorem accepts_same_iff (known : input.jobId = some id) (same : SameJobLogs pin id first second) :
    (Accepts pin reads input first ↔ Accepts pin reads input second) ↔
      (Proves pin reads input id first → (Shadowed pin input id first ↔ Shadowed pin input id second)) := by
  have proves : Proves pin reads input id first ↔ Proves pin reads input id second :=
    ⟨proves_same same, proves_same same.symm⟩
  rw [accepts_iff known, accepts_iff known, ← proves]
  tauto

end

/-- The arguments of a `JobSubmitted` event of the provider below. -/
def submissionArgs (jobId : Nat) : EventArgs := fun name =>
  if name = "jobId" then some (.bigint jobId)
  else if name = "provider" then some (.text "0x4444444444444444444444444444444444444444")
  else if name = "deliverable" then some (.text "0x6666666666666666666666666666666666666666666666666666666666666666")
  else none

/-- A decoder that is right on the `JobSubmitted` events below. -/
@[reducible] def submissionDecoder : EventDecoder where
  decodeEventLog abi topics _ :=
    match topics with
    | [_, job, _] =>
      if abi.any (·.name == "JobSubmitted") then
        (digitsValue 16 (job.toList.drop 2)).map fun jobId => ⟨some "JobSubmitted", some (submissionArgs jobId)⟩
      else none
    | _ => none

def samplePin : Pin where
  chainId := .testnet
  commerceContract := ⟨"0x1111111111111111111111111111111111111111", by decide +kernel, by decide +kernel⟩
  routerContract := ⟨"0x2222222222222222222222222222222222222222", by decide +kernel, by decide +kernel⟩
  policyContract := ⟨"0x3333333333333333333333333333333333333333", by decide +kernel, by decide +kernel⟩

def sampleHash : Hash :=
  ⟨"0x5555555555555555555555555555555555555555555555555555555555555555", by decide +kernel, by decide +kernel⟩

def submissionLog (job : String) : RpcLog :=
  ⟨"0x1111111111111111111111111111111111111111",
    ["0x80c17db79857f338a6a6df68a6883ecc0ce78e2202fe61ed979733573f40538e", job,
      "0x0000000000000000000000004444444444444444444444444444444444444444"],
    "0x6666666666666666666666666666666666666666666666666666666666666666", none, none, none, none⟩

def sampleReceipt (logs : List RpcLog) : LoggedReceipt := ⟨.success, 12, sampleHash.text, sampleHash.text, some logs⟩

def ownSubmission : RpcLog := submissionLog "0x0000000000000000000000000000000000000000000000000000000000000007"

def foreignSubmission : RpcLog := submissionLog "0x0000000000000000000000000000000000000000000000000000000000000008"

theorem provider_ok : isAddress "0x4444444444444444444444444444444444444444" = true := by decide +kernel

theorem provider_lower : lower "0x4444444444444444444444444444444444444444" = "0x4444444444444444444444444444444444444444" := by decide +kernel

def sampleJob : StatedJob where
  id := ⟨"7", seven_decimal⟩
  client := samplePin.routerContract
  provider := ⟨_, provider_ok, provider_lower⟩
  evaluator := samplePin.routerContract
  hook := samplePin.routerContract
  budgetAtomic := ⟨"5", by decide⟩
  expiredAtUnix := ⟨100, hundred_low, hundred_high⟩
  chainDeliverable := ⟨"0x66", by decide, by decide⟩
  status := .submitted

def sampleReads : ChainReads := ⟨.ok (), .ok none, fun _ => .ok sampleJob⟩

def sampleInput : VerificationInput := ⟨sampleHash.text, .submit, some "7", none, none, none⟩

section
attribute [local instance] submissionDecoder

variable {logs : List RpcLog} {job : String} {jobId : Nat}

theorem decode_submission (digits : digitsValue 16 (job.toList.drop 2) = some jobId) (abi : Abi) :
    EventDecoder.decodeEventLog abi (submissionLog job).topics (submissionLog job).data =
      if abi.any (·.name == "JobSubmitted") then some ⟨some "JobSubmitted", some (submissionArgs jobId)⟩ else none := by
  show (if _ then (digitsValue 16 (job.toList.drop 2)).map _ else none) = _
  rw [digits]
  rfl

theorem argsOf_submission (digits : digitsValue 16 (job.toList.drop 2) = some jobId) :
    (samplePin.commerceEvent "JobSubmitted").argsOf (sampleReceipt logs) (submissionLog job) = some (submissionArgs jobId) := by
  have emitted : lower (submissionLog job).address = lower samplePin.commerceContract.text := rfl
  have belongs : (submissionLog job).belongs (sampleReceipt logs) := ⟨nofun, nofun, nofun⟩
  have listed : erc8183CommerceEventsAbi.any (·.name == "JobSubmitted") = true := by decide
  have decoded : EventDecoder.decodeEventLog (samplePin.commerceEvent "JobSubmitted").abi (submissionLog job).topics
      (submissionLog job).data = some ⟨some "JobSubmitted", some (submissionArgs jobId)⟩ :=
    (decode_submission digits _).trans (if_pos listed)
  unfold EventSearch.argsOf
  rw [if_pos ⟨emitted, belongs⟩, decoded]
  simp [Pin.commerceEvent]

theorem ownSubmission_args :
    (samplePin.commerceEvent "JobSubmitted").argsOf (sampleReceipt logs) ownSubmission = some (submissionArgs 7) :=
  argsOf_submission (by decide +kernel)

theorem foreignSubmission_args :
    (samplePin.commerceEvent "JobSubmitted").argsOf (sampleReceipt logs) foreignSubmission = some (submissionArgs 8) :=
  argsOf_submission (by decide +kernel)

theorem submissionArgs_concerns : concerns "7" (submissionArgs 7) = true ∧ concerns "7" (submissionArgs 8) = false := by
  decide

theorem sampleReceipts_same :
    SameJobLogs samplePin "7" (sampleReceipt [ownSubmission]) (sampleReceipt [foreignSubmission, ownSubmission]) := by
  have digits : digitsValue 16 ("0x0000000000000000000000000000000000000000000000000000000000000008".toList.drop 2) = some 8 := by
    decide +kernel
  have foreign : foreignSubmission.ofJob samplePin "7" = false := by
    refine List.any_eq_false.mpr fun contract _ accepted => ?_
    obtain ⟨_, concerned⟩ := Bool.and_eq_true_iff.mp accepted
    have decoded : EventDecoder.decodeEventLog contract.1 foreignSubmission.topics foreignSubmission.data = _ :=
      decode_submission digits contract.1
    rw [decoded] at concerned
    split at concerned
    · rw [Option.bind_some, Option.any_some, submissionArgs_concerns.2] at concerned
      cases concerned
    · cases concerned
  refine ⟨rfl, rfl, rfl, rfl, ?_⟩
  show [ownSubmission].filter _ = [foreignSubmission, ownSubmission].filter _
  rw [List.filter_cons_of_neg (a := foreignSubmission)]
  rw [foreign]
  exact Bool.false_ne_true

theorem assertReceipt_sample : assertReceipt (sampleReceipt logs) sampleHash.text "reconciliation" = .ok (sampleReceipt logs) := by
  have hash : ∀ label, asHash sampleHash.text label = .ok sampleHash := by
    intro label
    rw [asHash, TextFormat.normalize_text]
  refine bind_eq_ok.mpr ⟨sampleReceipt logs, bind_eq_ok.mpr ⟨_, hash _, bind_eq_ok.mpr ⟨_, hash _, rfl⟩⟩, ?_⟩
  exact refuseIf_bind_eq_ok.mpr ⟨not_not.mpr rfl, refuseIf_bind_eq_ok.mpr ⟨nofun, rfl⟩⟩

theorem ownSubmission_proves : Proves samplePin sampleReads sampleInput "7" (sampleReceipt [ownSubmission]) := by
  have found : (samplePin.commerceEvent "JobSubmitted").foundOwn "7" (sampleReceipt [ownSubmission]) = some (submissionArgs 7) := by
    show ([ownSubmission].findSome? _) = _
    rw [List.findSome?_cons, ownSubmission_args, Option.filter_some, if_pos submissionArgs_concerns.1]
  refine ⟨_, none, sampleJob, assertReceipt_sample, rfl, rfl, ⟨by decide, _, found, ?_, ?_⟩, nofun⟩
  · rfl
  · rfl

/-- The submission of another job in front of its own makes the receipt of a job refused. -/
theorem accepts_not_same :
    SameJobLogs samplePin "7" (sampleReceipt [ownSubmission]) (sampleReceipt [foreignSubmission, ownSubmission]) ∧
      Accepts samplePin sampleReads sampleInput (sampleReceipt [ownSubmission]) ∧
      ¬Accepts samplePin sampleReads sampleInput (sampleReceipt [foreignSubmission, ownSubmission]) := by
  refine ⟨sampleReceipts_same, (accepts_iff rfl).mpr ⟨ownSubmission_proves, ?_⟩, fun accepted => ?_⟩
  · rintro ⟨search, member, args, found, foreign⟩
    cases List.mem_singleton.mp member
    have first : some args = some (submissionArgs 7) := found.symm.trans (by
      show ([ownSubmission].findSome? _) = _
      rw [List.findSome?_cons, ownSubmission_args])
    rw [Option.some.inj first, submissionArgs_concerns.1] at foreign
    cases foreign
  · refine ((accepts_iff rfl).mp accepted).2 ⟨_, List.mem_singleton_self _, submissionArgs 8, ?_, submissionArgs_concerns.2⟩
    show ([foreignSubmission, ownSubmission].findSome? _) = _
    rw [List.findSome?_cons, foreignSubmission_args]

theorem accepts_same_iff_sample :
    (Accepts samplePin sampleReads sampleInput (sampleReceipt [ownSubmission]) ↔
        Accepts samplePin sampleReads sampleInput (sampleReceipt [foreignSubmission, ownSubmission])) ↔
      (Proves samplePin sampleReads sampleInput "7" (sampleReceipt [ownSubmission]) →
        (Shadowed samplePin sampleInput "7" (sampleReceipt [ownSubmission]) ↔
          Shadowed samplePin sampleInput "7" (sampleReceipt [foreignSubmission, ownSubmission]))) :=
  accepts_same_iff rfl sampleReceipts_same

end

end Bnbera.Receipts
