namespace Bnbera

/-- The stable codes of a `CommerceError`. -/
inductive CommerceErrorCode
  | commerceDisabled
  | invalidChain
  | invalidContract
  | invalidToken
  | invalidAddress
  | invalidAmount
  | invalidExpiry
  | invalidQuote
  | invalidJob
  | chainProviderInvalid
  | transactionReverted
  | transactionUnknown
  | illegalTransition
  | unauthorizedActor
  | staleJob
  | unknownJob
  | idempotencyConflict
  | eventConflict
  | reconciliationRequired
  | onchainMismatch
deriving DecidableEq

/-- The code as it crosses the boundary and as it is stored in `failure_code`. -/
def CommerceErrorCode.text : CommerceErrorCode → String
  | commerceDisabled => "COMMERCE_DISABLED"
  | invalidChain => "INVALID_CHAIN"
  | invalidContract => "INVALID_CONTRACT"
  | invalidToken => "INVALID_TOKEN"
  | invalidAddress => "INVALID_ADDRESS"
  | invalidAmount => "INVALID_AMOUNT"
  | invalidExpiry => "INVALID_EXPIRY"
  | invalidQuote => "INVALID_QUOTE"
  | invalidJob => "INVALID_JOB"
  | chainProviderInvalid => "CHAIN_PROVIDER_INVALID"
  | transactionReverted => "TRANSACTION_REVERTED"
  | transactionUnknown => "TRANSACTION_UNKNOWN"
  | illegalTransition => "ILLEGAL_TRANSITION"
  | unauthorizedActor => "UNAUTHORIZED_ACTOR"
  | staleJob => "STALE_JOB"
  | unknownJob => "UNKNOWN_JOB"
  | idempotencyConflict => "IDEMPOTENCY_CONFLICT"
  | eventConflict => "EVENT_CONFLICT"
  | reconciliationRequired => "RECONCILIATION_REQUIRED"
  | onchainMismatch => "ONCHAIN_MISMATCH"

/-- An error crossing the commerce boundary. The two identifiers are carried as
the caller gave them; whoever stores one normalizes it first. -/
structure CommerceError where
  code : CommerceErrorCode
  message : String
  retriable : Bool := false
  nextAction : String := "none"
  transactionHash : Option String := none
  relayCallsId : Option String := none
deriving DecidableEq

structure Issue where
  path : List String
  message : String
deriving DecidableEq

/-- Everything a call may throw. `foreign` is any error that is not one of the
repository's own: a database, a network or a programming error. -/
inductive Failure
  | commerce (error : CommerceError)
  | zod (issues : List Issue)
  | foreign (message : String)
deriving DecidableEq

/-- `cause instanceof CommerceError && cause.code === code` -/
def Failure.hasCode (code : CommerceErrorCode) : Failure → Bool
  | commerce error => error.code == code
  | _ => false

end Bnbera
