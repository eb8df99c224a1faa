import Bnbera.KeyedRows
import Bnbera.Operations.Context

namespace Bnbera

inductive BscChainId
  | mainnet
  | testnet
deriving DecidableEq

def BscChainId.number : BscChainId → Nat
  | mainnet => 56
  | testnet => 97

inductive ChainRole
  | client
  | provider
  | evaluator
  | voter
  | system
deriving DecidableEq

inductive OperationKind
  | create
  | register
  | setBudget
  | approve
  | fund
  | submit
  | settle
  | claimRefund
  | markExpired
  | cancel
  | reject
  | dispute
  | vote
deriving DecidableEq

inductive OperationStatus
  | awaitingSignature
  | submitted
  | confirmed
  | reverted
  | unknown
  | reconciled
  | manualReview
deriving DecidableEq

/-- The columns of `erc8183_operations`. The check constraints of the table and the
normalization before each write are the types of the columns; only the `jsonb`
context is stored unchecked, and is parsed on every read. -/
structure Operation (Context : Type) where
  id : String
  idempotencyKey : String
  requestDigest : Digest
  chainId : BscChainId
  commerceContract : Address
  jobId : Option DecimalUint
  kind : OperationKind
  signerRole : ChainRole
  status : OperationStatus
  transactionHash : Option Hash
  blockNumber : Option DecimalUint
  blockHash : Option Hash
  logIndex : Option Nat
  failureCode : Option String
  context : Context
  createdAtUnix : UnixSeconds
  updatedAtUnix : UnixSeconds

abbrev OperationRow := Operation (Option Json)
abbrev OperationRecord := Operation (Option OperationContext)

def parseOperationRow (row : OperationRow) : Except Failure OperationRecord :=
  (parseContext row.context).map fun context => { row with context }

/-- The values of the `INSERT` in `reserve`. -/
structure Reservation where
  id : String
  idempotencyKey : String
  requestDigest : Digest
  chainId : BscChainId
  commerceContract : Address
  jobId : Option DecimalUint
  kind : OperationKind
  signerRole : ChainRole
  context : Option Json
  nowUnix : UnixSeconds

def Reservation.row (reservation : Reservation) : OperationRow where
  id := reservation.id
  idempotencyKey := reservation.idempotencyKey
  requestDigest := reservation.requestDigest
  chainId := reservation.chainId
  commerceContract := reservation.commerceContract
  jobId := reservation.jobId
  kind := reservation.kind
  signerRole := reservation.signerRole
  status := .awaitingSignature
  transactionHash := none
  blockNumber := none
  blockHash := none
  logIndex := none
  failureCode := none
  context := reservation.context
  createdAtUnix := reservation.nowUnix
  updatedAtUnix := reservation.nowUnix

inductive ReceiptStatus
  | confirmed
  | reverted
deriving DecidableEq

@[simp] def ReceiptStatus.status : ReceiptStatus → OperationStatus
  | confirmed => .confirmed
  | reverted => .reverted

inductive ReconciledStatus
  | reconciled
  | manualReview
deriving DecidableEq

@[simp] def ReconciledStatus.status : ReconciledStatus → OperationStatus
  | reconciled => .reconciled
  | manualReview => .manualReview

/-- The guarded `UPDATE … WHERE id = $1 AND …` statements of the repository. -/
inductive OperationUpdate
  | markSubmitted (hash : Hash) (nowUnix : UnixSeconds)
  | attachJobId (jobId : DecimalUint)
  | attachCallsId (callsId : HexData)
  | claimExternalDispatch (nowUnix : UnixSeconds)
  | releaseExternalDispatch (nowUnix : UnixSeconds)
  | markReceipt (status : ReceiptStatus) (hash : Hash) (blockNumber : DecimalUint) (blockHash : Hash)
      (logIndex : Option Nat) (failureCode : Option String) (nowUnix : UnixSeconds)
  | markUnknown (failureCode : Option String) (nowUnix : UnixSeconds)
  | markFailed (failureCode : Option String) (nowUnix : UnixSeconds)
  | reconcile (status : ReconciledStatus) (nowUnix : UnixSeconds)
  | markManualReview (failureCode : Option String) (nowUnix : UnixSeconds)

/-- `COALESCE(operation_context->>'dispatchClaimed', 'false')` -/
def dispatchClaimedText (row : OperationRow) : String :=
  (jsonbText row.context "dispatchClaimed").getD "false"

def eoaDispatchInFlight : String := "EOA_DISPATCH_IN_FLIGHT"

/-- The `WHERE` clause of an update, apart from the row's identity. -/
def OperationUpdate.guard (row : OperationRow) : OperationUpdate → Bool
  | markSubmitted hash _ =>
    row.status == .awaitingSignature ||
      (row.status == .unknown && (row.transactionHash == none || row.transactionHash == some hash))
  | attachJobId _ => row.jobId == none
  | attachCallsId _ => jsonbText row.context "callsId" == none
  | claimExternalDispatch _ =>
    row.status == .awaitingSignature && dispatchClaimedText row == "false" && row.transactionHash == none
  | releaseExternalDispatch _ =>
    row.status == .unknown && row.transactionHash == none && dispatchClaimedText row == "true" &&
      row.failureCode == some eoaDispatchInFlight
  | markReceipt .. => [.submitted, .unknown, .manualReview].contains row.status
  | markUnknown .. => [.awaitingSignature, .submitted].contains row.status
  | markFailed .. => [.awaitingSignature, .submitted, .unknown].contains row.status && row.transactionHash == none
  | reconcile .. => [.unknown, .manualReview, .confirmed].contains row.status
  | markManualReview .. => [.awaitingSignature, .submitted, .unknown, .confirmed].contains row.status

/-- `operation_context = jsonb_set(…)`, which fails on a context that is no object. -/
def setContext (row : OperationRow) (key : String) (value : Json) : Except Failure (Option Json) :=
  match jsonbSet row.context key value with
  | some context => .ok (some context)
  | none => .error (.foreign "cannot set path in scalar")

/-- The `SET` clause of an update. -/
def OperationUpdate.set (row : OperationRow) : OperationUpdate → Except Failure OperationRow
  | markSubmitted hash nowUnix =>
    .ok { row with status := .submitted, transactionHash := some hash, updatedAtUnix := nowUnix }
  | attachJobId jobId => .ok { row with jobId := some jobId }
  | attachCallsId callsId =>
    (setContext row "callsId" (.str callsId.text)).map fun context => { row with context }
  | claimExternalDispatch nowUnix =>
    (setContext row "dispatchClaimed" (.bool true)).map fun context =>
      { row with status := .unknown, failureCode := some eoaDispatchInFlight, context, updatedAtUnix := nowUnix }
  | releaseExternalDispatch nowUnix =>
    (setContext row "dispatchClaimed" (.bool false)).map fun context =>
      { row with status := .awaitingSignature, failureCode := none, context, updatedAtUnix := nowUnix }
  | markReceipt status hash blockNumber blockHash logIndex failureCode nowUnix =>
    .ok { row with status := status.status, transactionHash := some hash, blockNumber := some blockNumber,
                   blockHash := some blockHash, logIndex, failureCode, updatedAtUnix := nowUnix }
  | markUnknown failureCode nowUnix => .ok { row with status := .unknown, failureCode, updatedAtUnix := nowUnix }
  | markFailed failureCode nowUnix => .ok { row with status := .reverted, failureCode, updatedAtUnix := nowUnix }
  | reconcile status nowUnix => .ok { row with status := status.status, updatedAtUnix := nowUnix }
  | markManualReview failureCode nowUnix =>
    .ok { row with status := .manualReview, failureCode, updatedAtUnix := nowUnix }

def OperationUpdate.apply (change : OperationUpdate) (row : OperationRow) : OperationRow :=
  if change.guard row then
    match change.set row with
    | .ok after => after
    | .error _ => row
  else row

theorem OperationUpdate.exists_context {row after : OperationRow} {key : String} {value : Json} {build : Option Json → OperationRow}
    (written : (setContext row key value).map build = .ok after) :
    ∃ context, setContext row key value = .ok context ∧ after = build context := by
  cases stored : setContext row key value with
  | error failure =>
    rw [stored] at written
    cases written
  | ok context =>
    rw [stored] at written
    exact ⟨context, rfl, (Except.ok.inj written).symm⟩

theorem OperationUpdate.set_identity {change : OperationUpdate} {row after : OperationRow}
    (done : change.set row = .ok after) :
    after.id = row.id ∧ after.idempotencyKey = row.idempotencyKey ∧ after.requestDigest = row.requestDigest ∧
      after.chainId = row.chainId ∧ after.commerceContract = row.commerceContract ∧ after.kind = row.kind ∧
      after.signerRole = row.signerRole ∧ after.createdAtUnix = row.createdAtUnix := by
  cases change with
  | attachCallsId | claimExternalDispatch | releaseExternalDispatch =>
    obtain ⟨_, _, rfl⟩ := exists_context done
    exact ⟨rfl, rfl, rfl, rfl, rfl, rfl, rfl, rfl⟩
  | _ =>
    cases Except.ok.inj done
    exact ⟨rfl, rfl, rfl, rfl, rfl, rfl, rfl, rfl⟩

theorem OperationUpdate.set_error {change : OperationUpdate} {row : OperationRow} {failure : Failure}
    (failed : change.set row = .error failure) : ∃ message, failure = .foreign message := by
  have context : ∀ {key value} {build : Option Json → OperationRow},
      (setContext row key value).map build = .error failure → ∃ message, failure = .foreign message := by
    intro key value build written
    unfold setContext at written
    split at written
    · cases written
    · exact ⟨_, (Except.error.inj written).symm⟩
  cases change with
  | attachCallsId | claimExternalDispatch | releaseExternalDispatch => exact context failed
  | _ => cases failed

theorem OperationUpdate.apply_identity (change : OperationUpdate) (row : OperationRow) :
    (change.apply row).id = row.id ∧ (change.apply row).idempotencyKey = row.idempotencyKey := by
  unfold apply
  split
  · split
    · rename_i done
      exact ⟨(set_identity done).1, (set_identity done).2.1⟩
    · exact ⟨rfl, rfl⟩
  · exact ⟨rfl, rfl⟩

def OperationUpdate.applyAt (change : OperationUpdate) (id : String) (row : OperationRow) : OperationRow :=
  if row.id = id then change.apply row else row

theorem OperationUpdate.applyAt_identity (change : OperationUpdate) (id : String) (row : OperationRow) :
    (change.applyAt id row).id = row.id ∧ (change.applyAt id row).idempotencyKey = row.idempotencyKey := by
  unfold applyAt
  split
  · exact change.apply_identity row
  · exact ⟨rfl, rfl⟩

structure OperationTable where
  rows : List OperationRow
  ids : (rows.map (·.id)).Nodup
  keys : (rows.map (·.idempotencyKey)).Nodup

namespace OperationTable

def empty : OperationTable := ⟨[], .nil, .nil⟩

def get (table : OperationTable) (id : String) : Option OperationRow :=
  table.rows.find? fun row => row.id = id

def getByIdempotencyKey (table : OperationTable) (key : String) : Option OperationRow :=
  table.rows.find? fun row => row.idempotencyKey = key

def modify (table : OperationTable) (id : String) (change : OperationUpdate) : OperationTable where
  rows := table.rows.map (change.applyAt id)
  ids := KeyedRows.nodup_map table.ids fun row => (change.applyAt_identity id row).1
  keys := KeyedRows.nodup_map table.keys fun row => (change.applyAt_identity id row).2

/-- `UPDATE … WHERE id = $1 AND guard RETURNING …` -/
def update (table : OperationTable) (id : String) (change : OperationUpdate) :
    Except Failure (Option OperationRow) × OperationTable :=
  match table.get id with
  | none => (.ok none, table)
  | some row =>
    if change.guard row then ((change.set row).map some, table.modify id change)
    else (.ok none, table)

/-- `INSERT … ON CONFLICT (idempotency_key) DO NOTHING RETURNING …` -/
def insert (table : OperationTable) (reservation : Reservation) :
    Except Failure (Option OperationRow) × OperationTable :=
  if conflict : reservation.idempotencyKey ∈ table.rows.map (·.idempotencyKey) then (.ok none, table)
  else if taken : reservation.id ∈ table.rows.map (·.id) then
    (.error (.foreign "duplicate key value violates unique constraint"), table)
  else
    (.ok (some reservation.row),
      { rows := table.rows ++ [reservation.row]
        ids := KeyedRows.nodup_append_fresh table.ids taken
        keys := KeyedRows.nodup_append_fresh table.keys conflict })

end OperationTable

inductive OperationQuery
  | reserve (reservation : Reservation)
  | update (id : String) (change : OperationUpdate)
  | get (id : String)
  | getByIdempotencyKey (key : String)

def OperationQuery.run (table : OperationTable) :
    OperationQuery → Except Failure (Option OperationRow) × OperationTable
  | reserve reservation => table.insert reservation
  | update id change => table.update id change
  | get id => (.ok (table.get id), table)
  | getByIdempotencyKey key => (.ok (table.getByIdempotencyKey key), table)

/-- A statement as the client sees it. The connection may fail, and then the client
does not know whether the statement took effect. -/
inductive OperationQuery.Answers (query : OperationQuery) (table : OperationTable) :
    Except Failure (Option OperationRow) → OperationTable → Prop
  | answered : Answers query table (query.run table).1 (query.run table).2
  | lost {message} : Answers query table (.error (.foreign message)) table
  | unanswered {message} : Answers query table (.error (.foreign message)) (query.run table).2

end Bnbera
