import Bnbera.Calls
import Bnbera.Domain
import Bnbera.Jobs.Types
import Bnbera.Validation

/-! The events of a transaction receipt, searched by name on a pinned contract. -/

namespace Bnbera.Receipts

structure AbiInput where
  indexed : Bool
  name : String
  type : String

structure AbiEvent where
  name : String
  inputs : List AbiInput

abbrev Abi := List AbiEvent

def erc8183CommerceEventsAbi : Abi :=
  [⟨"JobCreated", [⟨true, "jobId", "uint256"⟩, ⟨true, "client", "address"⟩, ⟨true, "provider", "address"⟩,
      ⟨false, "evaluator", "address"⟩, ⟨false, "expiredAt", "uint256"⟩, ⟨false, "hook", "address"⟩]⟩,
    ⟨"JobFunded", [⟨true, "jobId", "uint256"⟩, ⟨true, "client", "address"⟩, ⟨true, "provider", "address"⟩,
      ⟨false, "amount", "uint256"⟩]⟩,
    ⟨"JobSubmitted", [⟨true, "jobId", "uint256"⟩, ⟨true, "provider", "address"⟩, ⟨false, "deliverable", "bytes32"⟩]⟩,
    ⟨"JobCompleted", [⟨true, "jobId", "uint256"⟩, ⟨true, "evaluator", "address"⟩, ⟨false, "reason", "bytes32"⟩]⟩,
    ⟨"JobExpired", [⟨true, "jobId", "uint256"⟩]⟩,
    ⟨"JobRejected", [⟨true, "jobId", "uint256"⟩, ⟨true, "rejector", "address"⟩, ⟨false, "reason", "bytes32"⟩]⟩,
    ⟨"Refunded", [⟨true, "jobId", "uint256"⟩, ⟨true, "client", "address"⟩, ⟨false, "amount", "uint256"⟩]⟩]

def erc8183RouterEventsAbi : Abi :=
  [⟨"JobRegistered", [⟨true, "jobId", "uint256"⟩, ⟨true, "policy", "address"⟩, ⟨true, "client", "address"⟩]⟩,
    ⟨"JobSettled", [⟨true, "jobId", "uint256"⟩, ⟨true, "policy", "address"⟩, ⟨true, "verdict", "uint8"⟩,
      ⟨false, "reason", "bytes32"⟩]⟩,
    ⟨"JobFinalised", [⟨true, "jobId", "uint256"⟩, ⟨true, "status", "uint8"⟩]⟩]

def erc8183PolicyEventsAbi : Abi :=
  [⟨"Disputed", [⟨true, "jobId", "uint256"⟩, ⟨true, "client", "address"⟩]⟩]

structure RpcLog where
  address : String
  topics : List String
  data : String
  blockNumber : Option Nat
  blockHash : Option String
  transactionHash : Option String
  logIndex : Option Nat

structure LoggedReceipt where
  status : ReceiptOutcome
  blockNumber : Nat
  blockHash : String
  transactionHash : String
  logs : Option (List RpcLog)

/-- A decoded argument: a wide integer, an integer of at most 48 bits, an address or fixed bytes. -/
inductive EventValue
  | bigint (value : Nat)
  | number (value : Fin (2 ^ 48))
  | text (value : String)

/-- The named arguments of a decoded event; with `strict: false` some may be missing. -/
abbrev EventArgs := String → Option EventValue

/-- What `decodeEventLog` returns. The arguments are `none` where they are no object. -/
structure DecodedLog where
  eventName : Option String
  args : Option EventArgs

/-- The decoder of the chain library; `none` where it throws. -/
class EventDecoder where
  decodeEventLog : Abi → List String → String → Option DecodedLog

def digitOf (c : Char) : Nat :=
  if c.toNat < 0x3a then c.toNat - 0x30 else if c.toNat < 0x47 then c.toNat - 0x37 else c.toNat - 0x57

/-- The value of digits in a base up to sixteen, `none` where there is none or one does not belong to the base. -/
def digitsValue (base : Nat) (digits : List Char) : Option Nat :=
  if digits ≠ [] ∧ digits.all (fun c => isHexDigit c && digitOf c < base) = true then
    some (digits.foldl (fun value c => base * value + digitOf c) 0)
  else none

/-- `BigInt(text)`, `none` where it throws. -/
def bigIntOf (text : String) : Option Int :=
  match (trim text).toList with
  | [] => some 0
  | '0' :: 'x' :: digits => (digitsValue 16 digits).map Int.ofNat
  | '0' :: 'X' :: digits => (digitsValue 16 digits).map Int.ofNat
  | '0' :: 'o' :: digits => (digitsValue 8 digits).map Int.ofNat
  | '0' :: 'O' :: digits => (digitsValue 8 digits).map Int.ofNat
  | '0' :: 'b' :: digits => (digitsValue 2 digits).map Int.ofNat
  | '0' :: 'B' :: digits => (digitsValue 2 digits).map Int.ofNat
  | '+' :: digits => (digitsValue 10 digits).map Int.ofNat
  | '-' :: digits => (digitsValue 10 digits).map fun value => -Int.ofNat value
  | digits => (digitsValue 10 digits).map Int.ofNat

/-- `String(value)` -/
def EventValue.display : EventValue → String
  | bigint value => value.repr
  | number value => value.val.repr
  | text value => value

/-- `BigInt(value)` -/
def EventValue.toBigInt : EventValue → Option Int
  | bigint value => some value
  | number value => some value.val
  | text value => bigIntOf value

def syntaxError (text : String) : Failure := .foreign ("Cannot convert " ++ text ++ " to a BigInt")

/-- `BigInt(text)`, which throws what is no integer. -/
def toBigInt (text : String) : Except Failure Int :=
  match bigIntOf text with
  | some value => .ok value
  | none => .error (syntaxError text)

def transactionError (code : CommerceErrorCode) (message transactionHash nextAction : String) : Failure :=
  .commerce { code, message, nextAction, transactionHash := some transactionHash }

def mismatch (message transactionHash : String) (nextAction : String := "reconcile_transaction") : Failure :=
  transactionError .onchainMismatch message transactionHash nextAction

def asHash (value label : String) : Except Failure Hash :=
  match TextFormat.normalize _ value with
  | some hash => .ok hash
  | none => throwCommerce .onchainMismatch ("The SDK returned an invalid " ++ label ++ ".")

def normalizeReceipt (value : LoggedReceipt) : Except Failure LoggedReceipt := do
  let blockHash ← asHash value.blockHash "receipt block hash"
  let transactionHash ← asHash value.transactionHash "receipt transaction hash"
  return { value with
    blockHash := blockHash.text, transactionHash := transactionHash.text, logs := some (value.logs.getD []) }

def assertReceipt (receipt : LoggedReceipt) (transactionHash action : String) : Except Failure LoggedReceipt := do
  let parsed ← normalizeReceipt receipt
  refuseIf (lower parsed.transactionHash ≠ lower transactionHash)
    (mismatch ("The " ++ action ++ " receipt hash does not match the persisted transaction.") transactionHash)
  refuseIf (parsed.status = .reverted) (transactionError .transactionReverted
    ("The confirmed " ++ action ++ " transaction reverted.") transactionHash "inspect_transaction")
  return parsed

structure DecodedReceiptEvent where
  eventName : String
  args : EventArgs
  logIndex : Nat

/-- An event that is searched: its ABI, its name, its contract, and its job where the search is for one job only. -/
structure EventSearch where
  abi : Abi
  eventName : String
  expectedAddress : Address
  jobId : Option String

def RpcLog.belongs (log : RpcLog) (receipt : LoggedReceipt) : Prop :=
  (∀ hash ∈ log.transactionHash, lower hash = lower receipt.transactionHash) ∧
    (∀ hash ∈ log.blockHash, lower hash = lower receipt.blockHash) ∧
    ∀ number ∈ log.blockNumber, number = receipt.blockNumber

instance (log : RpcLog) (receipt : LoggedReceipt) : Decidable (log.belongs receipt) := by
  unfold RpcLog.belongs
  infer_instance

variable [EventDecoder]

def EventSearch.argsOf (search : EventSearch) (receipt : LoggedReceipt) (log : RpcLog) : Option EventArgs :=
  if lower log.address = lower search.expectedAddress.text ∧ log.belongs receipt then do
    let decoded ← EventDecoder.decodeEventLog search.abi log.topics log.data
    let args ← decoded.args
    if decoded.eventName = some search.eventName ∧
        ∀ jobId ∈ search.jobId, ((args "jobId").map EventValue.display).getD "undefined" = jobId then
      some args
    else none
  else none

def eventFromLogs (search : EventSearch) (receipt : LoggedReceipt) : Nat → List RpcLog → Option DecodedReceiptEvent
  | _, [] => none
  | position, log :: rest =>
    match search.argsOf receipt log with
    | some args => some ⟨search.eventName, args, log.logIndex.getD position⟩
    | none => eventFromLogs search receipt (position + 1) rest

def eventFromReceipt (receipt : LoggedReceipt) (search : EventSearch) : Option DecodedReceiptEvent :=
  eventFromLogs search receipt 0 (receipt.logs.getD [])

def requireReceiptEvent (receipt : LoggedReceipt) (search : EventSearch) (action : String) :
    Except Failure DecodedReceiptEvent :=
  match eventFromReceipt receipt search with
  | some event => .ok event
  | none => .error (mismatch ("The successful " ++ action ++ " receipt is missing " ++ search.eventName ++
      " on the pinned contract.") receipt.transactionHash)

omit [EventDecoder]

def invalidArgument (name action transactionHash : String) : Failure :=
  mismatch ("The " ++ action ++ " receipt has an invalid " ++ name ++ " event argument.") transactionHash

def eventBigInt (args : EventArgs) (name action transactionHash : String) : Except Failure Int :=
  match (args name).bind EventValue.toBigInt with
  | some value => .ok value
  | none => .error (invalidArgument name action transactionHash)

def eventAddress (args : EventArgs) (name action transactionHash : String) : Except Failure Address :=
  match args name with
  | some (.text value) =>
    match TextFormat.normalize _ value with
    | some address => .ok address
    | none => .error (invalidArgument name action transactionHash)
  | _ => .error (invalidArgument name action transactionHash)

def eventHash (args : EventArgs) (name action transactionHash : String) : Except Failure Hash :=
  match args name with
  | some (.text value) =>
    match TextFormat.normalize _ value with
    | some hash => .ok hash
    | none => .error (invalidArgument name action transactionHash)
  | _ => .error (invalidArgument name action transactionHash)

def assertEventBigInt (actual expected : Int) (label transactionHash : String) : Except Failure Unit :=
  refuseIf (actual ≠ expected)
    (mismatch ("The confirmed event " ++ label ++ " does not match the requested value.") transactionHash)

def assertEventAddress (actual expected label transactionHash : String) : Except Failure Unit :=
  refuseIf (lower actual ≠ lower expected)
    (mismatch ("The confirmed event " ++ label ++ " does not match the requested actor or contract.") transactionHash)

end Bnbera.Receipts
