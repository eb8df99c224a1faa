import Mathlib.Algebra.Group.Int.Defs
import Bnbera.Payments.Boundary

namespace Bnbera.Payments

inductive PaymentRail
  | x402B402
deriving DecidableEq

def PaymentRail.text : PaymentRail → String
  | x402B402 => "x402_b402"

inductive PaymentMethod
  | eip3009
  | permit2Exact
deriving DecidableEq

def PaymentMethod.text : PaymentMethod → String
  | eip3009 => "eip3009"
  | permit2Exact => "permit2_exact"

inductive PaymentReceiptStatus
  | settled
  | rejected
  | unknown
  | partialFailure
deriving DecidableEq

def PaymentReceiptStatus.text : PaymentReceiptStatus → String
  | settled => "settled"
  | rejected => "rejected"
  | unknown => "unknown"
  | partialFailure => "partial_failure"

inductive PaymentAttemptStatus
  | challenged
  | authorized
  | relayPending
  | relayed
  | settlementPending
  | settled
  | delivered
  | rejected
  | expired
  | unknown
  | partialFailure
  | manualReview
deriving DecidableEq

def PaymentAttemptStatus.text : PaymentAttemptStatus → String
  | challenged => "challenged"
  | authorized => "authorized"
  | relayPending => "relay_pending"
  | relayed => "relayed"
  | settlementPending => "settlement_pending"
  | settled => "settled"
  | delivered => "delivered"
  | rejected => "rejected"
  | expired => "expired"
  | unknown => "unknown"
  | partialFailure => "partial_failure"
  | manualReview => "manual_review"

def maxNumber : Int := 2 ^ 1024

abbrev PositiveInteger := Within 1 maxNumber

/-- `b402PaymentPinSchema`. It is enabled and its payout is verified by its type. -/
structure PaymentPin where
  requestId : String
  configurationVersion : PositiveInteger
  configurationDigest : ContentDigest
  rail : PaymentRail
  settlementNetwork : BscChainId
  settlementAsset : NonZeroAddress
  settlementDecimals : Within 0 255
  amountAtomic : PositiveDecimalUint
  recipient : NonZeroAddress
  method : PaymentMethod
  destination : String
  facilitatorEndpoint : String
  fixedEgressProfile : String
  payoutAddress : NonZeroAddress
  maxChallengeLifetimeSeconds : Within 1 900
deriving DecidableEq

structure PaymentChallenge where
  challengeId : String
  rail : PaymentRail
  version : String
  settlementNetwork : BscChainId
  settlementAsset : NonZeroAddress
  settlementDecimals : Within 0 255
  amountAtomic : PositiveDecimalUint
  recipient : NonZeroAddress
  method : PaymentMethod
  destination : String
  facilitatorEndpoint : String
  nonce : String
  issuedAtUnix : UnixSeconds
  expiresAtUnix : UnixSeconds
  challengeDigest : ContentDigest
deriving DecidableEq

structure PaymentAuthorization where
  attemptId : Uuid
  challengeId : String
  challengeDigest : ContentDigest
  payerAddress : NonZeroAddress
  credentialDigest : ContentDigest
  authorizedAtUnix : UnixSeconds
deriving DecidableEq

structure RelayRequest where
  attemptId : Uuid
  requestId : String
  idempotencyKey : String
  destination : String
  method : PaymentMethod
  requestBody : Json
  authorizationDigest : ContentDigest
  requestDigest : ContentDigest
  fixedEgressProfile : String
  timeoutMs : Within 1000 120000

structure PaymentReceipt where
  receiptId : Uuid
  attemptId : Uuid
  challengeId : String
  rail : PaymentRail
  status : PaymentReceiptStatus
  settlementNetwork : BscChainId
  settlementAsset : NonZeroAddress
  settlementDecimals : Within 0 255
  amountAtomic : PositiveDecimalUint
  expectedRecipient : NonZeroAddress
  actualRecipient : Option NonZeroAddress
  method : PaymentMethod
  destination : String
  paymentTransactionHash : Option TransactionHash
  settlementTransactionHash : Option TransactionHash
  payoutAddress : Option NonZeroAddress
  payoutVerified : Bool
  facilitatorRequestReference : Option String
  responseStatus : Option (Within 100 599)
  responseDigest : Option ContentDigest
  observedAtUnix : UnixSeconds
  settledAtUnix : Option UnixSeconds
deriving DecidableEq

structure PaymentAttempt where
  attemptId : Uuid
  rail : PaymentRail
  requestId : String
  idempotencyKey : String
  challenge : PaymentChallenge
  challengeDigest : ContentDigest
  authorizationDigest : Option ContentDigest
  payerAddress : Option NonZeroAddress
  pin : PaymentPin
  pinDigest : ContentDigest
  status : PaymentAttemptStatus
  relayRequestDigest : Option ContentDigest
  failureCode : Option String
  sanitizedFailure : Option String
  createdAtUnix : UnixSeconds
  updatedAtUnix : UnixSeconds
deriving DecidableEq

def PaymentPin.json (pin : PaymentPin) : Json := .obj [
  ("enabled", .bool true),
  ("requestId", .str pin.requestId),
  ("configurationVersion", .whole pin.configurationVersion),
  ("configurationDigest", .text pin.configurationDigest),
  ("rail", .str pin.rail.text),
  ("settlementNetwork", pin.settlementNetwork.json),
  ("settlementAsset", .text pin.settlementAsset),
  ("settlementDecimals", .whole pin.settlementDecimals),
  ("amountAtomic", .text pin.amountAtomic),
  ("recipient", .text pin.recipient),
  ("method", .str pin.method.text),
  ("destination", .str pin.destination),
  ("facilitatorEndpoint", .str pin.facilitatorEndpoint),
  ("fixedEgressProfile", .str pin.fixedEgressProfile),
  ("payoutAddress", .text pin.payoutAddress),
  ("payoutVerificationState", .str "verified"),
  ("maxChallengeLifetimeSeconds", .whole pin.maxChallengeLifetimeSeconds)]

/-- The fields of a challenge without its digest. -/
def PaymentChallenge.unsignedFields (challenge : PaymentChallenge) : List (String × Json) := [
  ("challengeId", .str challenge.challengeId),
  ("rail", .str challenge.rail.text),
  ("version", .str challenge.version),
  ("settlementNetwork", challenge.settlementNetwork.json),
  ("settlementAsset", .text challenge.settlementAsset),
  ("settlementDecimals", .whole challenge.settlementDecimals),
  ("amountAtomic", .text challenge.amountAtomic),
  ("recipient", .text challenge.recipient),
  ("method", .str challenge.method.text),
  ("destination", .str challenge.destination),
  ("facilitatorEndpoint", .str challenge.facilitatorEndpoint),
  ("nonce", .str challenge.nonce),
  ("issuedAtUnix", .whole challenge.issuedAtUnix),
  ("expiresAtUnix", .whole challenge.expiresAtUnix)]

def PaymentChallenge.json (challenge : PaymentChallenge) : Json :=
  .obj (("challengeDigest", .text challenge.challengeDigest) :: challenge.unsignedFields)

def PaymentAuthorization.json (authorization : PaymentAuthorization) : Json := .obj [
  ("attemptId", .text authorization.attemptId),
  ("challengeId", .str authorization.challengeId),
  ("challengeDigest", .text authorization.challengeDigest),
  ("payerAddress", .text authorization.payerAddress),
  ("credentialDigest", .text authorization.credentialDigest),
  ("authorizedAtUnix", .whole authorization.authorizedAtUnix)]

def RelayRequest.json (relay : RelayRequest) : Json := .obj [
  ("attemptId", .text relay.attemptId),
  ("requestId", .str relay.requestId),
  ("idempotencyKey", .str relay.idempotencyKey),
  ("destination", .str relay.destination),
  ("method", .str relay.method.text),
  ("requestBody", relay.requestBody),
  ("authorizationDigest", .text relay.authorizationDigest),
  ("requestDigest", .text relay.requestDigest),
  ("fixedEgressProfile", .str relay.fixedEgressProfile),
  ("timeoutMs", .whole relay.timeoutMs)]

def PaymentReceipt.json (receipt : PaymentReceipt) : Json := .obj [
  ("receiptId", .text receipt.receiptId),
  ("attemptId", .text receipt.attemptId),
  ("challengeId", .str receipt.challengeId),
  ("rail", .str receipt.rail.text),
  ("status", .str receipt.status.text),
  ("settlementNetwork", receipt.settlementNetwork.json),
  ("settlementAsset", .text receipt.settlementAsset),
  ("settlementDecimals", .whole receipt.settlementDecimals),
  ("amountAtomic", .text receipt.amountAtomic),
  ("expectedRecipient", .text receipt.expectedRecipient),
  ("actualRecipient", .ofOption .text receipt.actualRecipient),
  ("method", .str receipt.method.text),
  ("destination", .str receipt.destination),
  ("paymentTransactionHash", .ofOption .text receipt.paymentTransactionHash),
  ("settlementTransactionHash", .ofOption .text receipt.settlementTransactionHash),
  ("payoutAddress", .ofOption .text receipt.payoutAddress),
  ("payoutVerified", .bool receipt.payoutVerified),
  ("facilitatorRequestReference", .ofOption .str receipt.facilitatorRequestReference),
  ("responseStatus", .ofOption .whole receipt.responseStatus),
  ("responseDigest", .ofOption .text receipt.responseDigest),
  ("observedAtUnix", .whole receipt.observedAtUnix),
  ("settledAtUnix", .ofOption .whole receipt.settledAtUnix)]

/-- The fields of an attempt without its two server-generated times. -/
def PaymentAttempt.requestFields (attempt : PaymentAttempt) : List (String × Json) := [
  ("attemptId", .text attempt.attemptId),
  ("rail", .str attempt.rail.text),
  ("requestId", .str attempt.requestId),
  ("idempotencyKey", .str attempt.idempotencyKey),
  ("challenge", attempt.challenge.json),
  ("challengeDigest", .text attempt.challengeDigest),
  ("authorizationDigest", .ofOption .text attempt.authorizationDigest),
  ("payerAddress", .ofOption .text attempt.payerAddress),
  ("pin", attempt.pin.json),
  ("pinDigest", .text attempt.pinDigest),
  ("status", .str attempt.status.text),
  ("relayRequestDigest", .ofOption .text attempt.relayRequestDigest),
  ("failureCode", .ofOption .str attempt.failureCode),
  ("sanitizedFailure", .ofOption .str attempt.sanitizedFailure)]

def PaymentAttempt.json (attempt : PaymentAttempt) : Json :=
  .obj (("createdAtUnix", .whole attempt.createdAtUnix) :: ("updatedAtUnix", .whole attempt.updatedAtUnix) ::
    attempt.requestFields)

section
variable [Sha256]

def challengeUnsignedDigest (challenge : PaymentChallenge) : Digest := canonicalSha256Hex (.obj challenge.unsignedFields)

def paymentAuthorizationDigest (authorization : PaymentAuthorization) : Digest := canonicalSha256Hex authorization.json

def receiptDigest (receipt : PaymentReceipt) : Digest := canonicalSha256Hex receipt.json

def PaymentAttempt.digest (attempt : PaymentAttempt) : Digest := canonicalSha256Hex attempt.json

def PaymentPin.normalized [UrlParser] (pin : PaymentPin) : PaymentPin :=
  { pin with
    settlementAsset := pin.settlementAsset.lowered
    recipient := pin.recipient.lowered
    payoutAddress := pin.payoutAddress.lowered
    destination := normalizeHttpUrl pin.destination
    facilitatorEndpoint := normalizeHttpUrl pin.facilitatorEndpoint }

def paymentPinDigest [UrlParser] (pin : PaymentPin) : Digest := canonicalSha256Hex pin.normalized.json

end

end Bnbera.Payments
