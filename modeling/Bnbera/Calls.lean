import Bnbera.Interleaving.Pool
import Bnbera.Operations.Table

namespace Bnbera

open Interleaving

inductive ReceiptOutcome
  | success
  | reverted
deriving DecidableEq

/-- A receipt as the adapter returns it, with its block number as decimal text. -/
structure RpcReceipt where
  status : ReceiptOutcome
  blockNumber : DecimalUint
  blockHash : Hash
  transactionHash : Hash
deriving DecidableEq

structure OnchainJob where
  id : DecimalUint
  client : Address
  provider : Address
  evaluator : Address
  hook : Address
  budgetAtomic : DecimalUint
  expiredAtUnix : UnixSeconds
  chainDeliverable : HexData

inductive RelayOutcome
  | pending
  | confirmed
  | failed
deriving DecidableEq

structure AdapterExecution where
  callsId : HexData
  status : RelayOutcome
  transactionHash : Option Hash
  jobId : String
  receipt : Option RpcReceipt
  job : Option OnchainJob

structure RelayStatus where
  status : RelayOutcome
  statusCode : Option Int
  transactionHash : Option Hash

inductive SettleAction
  | approve
  | dispute
deriving DecidableEq

/-- What `verifyReceiptForOperation` checks a receipt against. -/
structure ReceiptRequest where
  transactionHash : Hash
  kind : OperationKind
  jobId : Option DecimalUint
  signerAddress : Option Address
  action : Option SettleAction
  expectation : Option (Option OperationExpectation)

structure VerifiedReceipt where
  receipt : RpcReceipt
  job : Option OnchainJob

inductive EoaStep
  | create
  | register
  | setBudget
  | approve
  | fund
  | settle
  | dispute
  | claimRefund
deriving DecidableEq

/-- What `verifyEoaReceipt` checks a receipt against. -/
structure EoaReceiptRequest where
  transactionHash : String
  step : EoaStep
  actorAddress : String
  jobId : Option DecimalUint
  providerAddress : Option String
  task : Option String
  budgetAtomic : Option String
  expiredAtUnix : Option String

structure VerifiedEoaReceipt where
  receipt : RpcReceipt
  logIndex : Nat
  jobId : DecimalUint
  job : Option OnchainJob

structure AltanaAuthority where
  walletAddress : String

structure AuthenticatedIdentity where
  userId : String
  requesterAddress : Address

inductive TerminalState
  | completed
  | expired
deriving DecidableEq

/-- Every call that leaves the process. Statements on the operation table are
modelled by what they do; the answers of the others are open. The canonical
projection and the parent hire live in tables of their own. -/
inductive Call
  | operations (query : OperationQuery)
  | unixNow
  | randomUuid
  | assertBuyerApproval (chainId : BscChainId) (jobId : String)
  | run (operationId : String)
  | getCallsStatus (callsId : HexData)
  | verifyReceiptForOperation (request : ReceiptRequest)
  | persistCanonicalConfirmation (operation : OperationRecord) (result : AdapterExecution)
  | persistCanonicalReconciliation (operation : OperationRecord) (job : Option OnchainJob) (receipt : RpcReceipt)
  | identity
  | resolveParentHire (commerceJobId : String)
  | verifyBrowserPaymentParticipants (buyer : Address) (step : EoaStep) (provider budgetAtomic : Option String)
  | verifyEoaReceipt (request : EoaReceiptRequest)
  | getTransactionReceipt (transactionHash : String)
  | persistEoaFunding (operation : OperationRecord) (job : Option OnchainJob) (receipt : RpcReceipt)
  | persistEoaTerminal (operation : OperationRecord) (job : Option OnchainJob) (receipt : RpcReceipt)
      (state : TerminalState)
  | optionalJob (jobId : Option DecimalUint)

def Call.Answer : Call → Type
  | operations _ => Except Failure (Option OperationRow)
  | unixNow => Int
  | randomUuid => String
  | assertBuyerApproval .. => Except Failure Unit
  | run _ => Except Failure AdapterExecution
  | getCallsStatus _ => Except Failure RelayStatus
  | verifyReceiptForOperation _ => Except Failure VerifiedReceipt
  | persistCanonicalConfirmation .. => Except Failure Unit
  | persistCanonicalReconciliation .. => Except Failure Unit
  | identity => Except Failure AuthenticatedIdentity
  | resolveParentHire _ => Except Failure Unit
  | verifyBrowserPaymentParticipants .. => Except Failure Unit
  | verifyEoaReceipt _ => Except Failure VerifiedEoaReceipt
  | getTransactionReceipt _ => Except Failure (Option RpcReceipt)
  | persistEoaFunding .. => Except Failure Unit
  | persistEoaTerminal .. => Except Failure Unit
  | optionalJob _ => Except Failure Unit

/-- The answers of a process that reaches nothing but its clock. -/
def offline (nowUnix : Int) : (call : Call) → call.Answer
  | .operations _ => .error (.foreign "offline")
  | .unixNow => nowUnix
  | .randomUuid => ""
  | .assertBuyerApproval .. => .error (.foreign "offline")
  | .run _ => .error (.foreign "offline")
  | .getCallsStatus _ => .error (.foreign "offline")
  | .verifyReceiptForOperation _ => .error (.foreign "offline")
  | .persistCanonicalConfirmation .. => .error (.foreign "offline")
  | .persistCanonicalReconciliation .. => .error (.foreign "offline")
  | .identity => .error (.foreign "offline")
  | .resolveParentHire _ => .error (.foreign "offline")
  | .verifyBrowserPaymentParticipants .. => .error (.foreign "offline")
  | .verifyEoaReceipt _ => .error (.foreign "offline")
  | .getTransactionReceipt _ => .error (.foreign "offline")
  | .persistEoaFunding .. => .error (.foreign "offline")
  | .persistEoaTerminal .. => .error (.foreign "offline")
  | .optionalJob _ => .error (.foreign "offline")

/-- An `async` method: it makes calls, and returns or throws. -/
abbrev Handler := ExceptT Failure (Program Call Call.Answer)

namespace Handler

def ask (call : Call) : Handler (Call.Answer call) := ExceptT.lift (Program.ask call)

def statement (query : OperationQuery) : Handler (Option OperationRow) := ExceptT.mk (Program.ask (Call.operations query))

end Handler

end Bnbera
