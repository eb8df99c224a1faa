import Bnbera.Payments.Types

namespace Bnbera.Payments

section

def PaymentPin.trimmed (pin : PaymentPin) : PaymentPin :=
  { pin with requestId := trim pin.requestId, fixedEgressProfile := trim pin.fixedEgressProfile }

def PaymentChallenge.trimmed (challenge : PaymentChallenge) : PaymentChallenge :=
  { challenge with
    challengeId := trim challenge.challengeId
    version := trim challenge.version
    nonce := trim challenge.nonce }

def PaymentAuthorization.trimmed (authorization : PaymentAuthorization) : PaymentAuthorization :=
  { authorization with challengeId := trim authorization.challengeId }

def RelayRequest.trimmed (relay : RelayRequest) : RelayRequest :=
  { relay with
    requestId := trim relay.requestId
    idempotencyKey := trim relay.idempotencyKey
    fixedEgressProfile := trim relay.fixedEgressProfile }

def PaymentReceipt.trimmed (receipt : PaymentReceipt) : PaymentReceipt :=
  { receipt with
    challengeId := trim receipt.challengeId
    facilitatorRequestReference := receipt.facilitatorRequestReference.map trim }

def PaymentAttempt.trimmed (attempt : PaymentAttempt) : PaymentAttempt :=
  { attempt with
    requestId := trim attempt.requestId
    idempotencyKey := trim attempt.idempotencyKey
    challenge := attempt.challenge.trimmed
    pin := attempt.pin.trimmed
    failureCode := attempt.failureCode.map trim
    sanitizedFailure := attempt.sanitizedFailure.map trim }

/-- `paymentChallengeNonceSchema`, on the trimmed text. -/
def nonceIssues (path : List String) (nonce : String) : List Issue :=
  lengthIssues path 8 240 nonce ++
    issueIf (nonce.toList.all (fun c => isAlphanumeric c || "._:/-".toList.contains c) = false) path "Invalid"

theorem PlainIdentifier.nonceIssues {text : String} (plain : PlainIdentifier text) (long : 8 ≤ (utf16Units text).length)
    (path : List String) : nonceIssues path text = [] := by
  have marks := plain.marks
  refine List.append_eq_nil_iff.mpr ⟨lengthIssues_eq_nil.mpr ⟨long, plain.high⟩, issueIf_eq_nil.mpr ?_⟩
  unfold isIdentifier at marks
  split at marks
  · rename_i first rest read
    rw [Bool.and_eq_true] at marks
    rw [read, List.all_cons, marks.1, marks.2]
    exact fun wrong => nomatch wrong
  · cases marks

variable [UrlParser]

def PaymentPin.issues (path : List String) (pin : PaymentPin) : List Issue :=
  identifierIssues (path ++ ["requestId"]) pin.requestId ++
  urlIssues (path ++ ["destination"]) pin.destination ++
  urlIssues (path ++ ["facilitatorEndpoint"]) pin.facilitatorEndpoint ++
  identifierIssues (path ++ ["fixedEgressProfile"]) pin.fixedEgressProfile

def PaymentChallenge.issues (path : List String) (challenge : PaymentChallenge) : List Issue :=
  identifierIssues (path ++ ["challengeId"]) challenge.challengeId ++
  identifierIssues (path ++ ["version"]) challenge.version ++
  urlIssues (path ++ ["destination"]) challenge.destination ++
  urlIssues (path ++ ["facilitatorEndpoint"]) challenge.facilitatorEndpoint ++
  nonceIssues (path ++ ["nonce"]) challenge.nonce ++
  issueIf (challenge.expiresAtUnix.value ≤ challenge.issuedAtUnix.value) (path ++ ["expiresAtUnix"])
    "Challenge expiry must follow issuance"

/-- The rules of `paymentAttemptSchema` that relate the attempt, its challenge and its pin. -/
def PaymentAttempt.bindingIssues [Sha256] (attempt : PaymentAttempt) : List Issue :=
  let pin := attempt.pin
  let challenge := attempt.challenge
  issueIf (attempt.rail ≠ challenge.rail) ["challenge", "rail"] "Attempt and challenge rails must match." ++
  issueIf (attempt.challengeDigest ≠ challenge.challengeDigest) ["challengeDigest"]
    "Attempt challenge digest must match the challenge." ++
  issueIf (pin.settlementNetwork ≠ challenge.settlementNetwork) ["challenge", "settlementNetwork"]
    "Attempt and challenge networks must match." ++
  issueIf (lower pin.settlementAsset.text ≠ lower challenge.settlementAsset.text) ["challenge", "settlementAsset"]
    "Attempt and challenge assets must match." ++
  issueIf (pin.settlementDecimals ≠ challenge.settlementDecimals) ["challenge", "settlementDecimals"]
    "Attempt and challenge decimals must match." ++
  issueIf (pin.amountAtomic ≠ challenge.amountAtomic) ["challenge", "amountAtomic"]
    "Attempt and challenge amounts must match." ++
  issueIf (lower pin.recipient.text ≠ lower challenge.recipient.text) ["challenge", "recipient"]
    "Attempt and challenge recipients must match." ++
  issueIf (pin.method ≠ challenge.method) ["challenge", "method"] "Attempt and challenge methods must match." ++
  issueIf (pin.destination ≠ challenge.destination) ["challenge", "destination"]
    "Attempt and challenge destinations must match." ++
  issueIf (pin.facilitatorEndpoint ≠ challenge.facilitatorEndpoint) ["challenge", "facilitatorEndpoint"]
    "Attempt and challenge facilitators must match." ++
  issueIf (attempt.requestId ≠ pin.requestId) ["requestId"]
    "Attempt request correlation must match the trusted payment pin." ++
  issueIf (attempt.pinDigest.text ≠ (paymentPinDigest pin).text) ["pinDigest"]
    "The persisted payment pin snapshot digest does not match its terms."

def PaymentAttempt.issues [Sha256] (attempt : PaymentAttempt) : List Issue :=
  identifierIssues ["requestId"] attempt.requestId ++
  keyIssues ["idempotencyKey"] attempt.idempotencyKey ++
  attempt.challenge.issues ["challenge"] ++
  attempt.pin.issues ["pin"] ++
  (attempt.failureCode.map (identifierIssues ["failureCode"])).getD [] ++
  (attempt.sanitizedFailure.map (lengthIssues ["sanitizedFailure"] 0 500)).getD [] ++
  attempt.bindingIssues

/-- `b402PaymentPinSchema.parse` -/
def PaymentPin.parse (pin : PaymentPin) : Except PaymentFailure PaymentPin :=
  parsed [pin.destination, pin.facilitatorEndpoint] (pin.trimmed.issues []) pin.trimmed

/-- `paymentChallengeSchema.parse` -/
def PaymentChallenge.parse (challenge : PaymentChallenge) : Except PaymentFailure PaymentChallenge :=
  parsed [challenge.destination, challenge.facilitatorEndpoint] (challenge.trimmed.issues []) challenge.trimmed

/-- `paymentAuthorizationSchema.parse` -/
def PaymentAuthorization.parse (authorization : PaymentAuthorization) : Except PaymentFailure PaymentAuthorization :=
  parsed [] (identifierIssues ["challengeId"] authorization.trimmed.challengeId) authorization.trimmed

/-- `relayRequestSchema.parse` -/
def RelayRequest.parse (relay : RelayRequest) : Except PaymentFailure RelayRequest :=
  parsed [relay.destination]
    (identifierIssues ["requestId"] relay.trimmed.requestId ++ keyIssues ["idempotencyKey"] relay.trimmed.idempotencyKey ++
      urlIssues ["destination"] relay.destination ++
      identifierIssues ["fixedEgressProfile"] relay.trimmed.fixedEgressProfile) relay.trimmed

/-- `paymentReceiptSchema.parse` -/
def PaymentReceipt.parse (receipt : PaymentReceipt) : Except PaymentFailure PaymentReceipt :=
  parsed [receipt.destination]
    (identifierIssues ["challengeId"] receipt.trimmed.challengeId ++ urlIssues ["destination"] receipt.destination ++
      (receipt.trimmed.facilitatorRequestReference.map (identifierIssues ["facilitatorRequestReference"])).getD [])
    receipt.trimmed

/-- `paymentAttemptSchema.parse` -/
def PaymentAttempt.parse [Sha256] (attempt : PaymentAttempt) : Except PaymentFailure PaymentAttempt :=
  parsed [attempt.challenge.destination, attempt.challenge.facilitatorEndpoint, attempt.pin.destination,
    attempt.pin.facilitatorEndpoint] attempt.trimmed.issues attempt.trimmed

end

inductive PayoutVerificationState
  | pending
  | verified
  | rejected
deriving DecidableEq

def PayoutVerificationState.text : PayoutVerificationState → String
  | pending => "pending"
  | verified => "verified"
  | rejected => "rejected"

inductive CanaryStatus
  | notRun
  | passed
  | failed
  | blocked
deriving DecidableEq

def CanaryStatus.text : CanaryStatus → String
  | notRun => "not_run"
  | passed => "passed"
  | failed => "failed"
  | blocked => "blocked"

def isPriceUsd (text : String) : Bool :=
  let (whole, rest) := text.toList.span (· ≠ '.')
  isDecimal (String.ofList whole) &&
    match rest with
    | [] => true
    | _ :: decimals => 1 ≤ decimals.length && decimals.length ≤ 8 && decimals.all isDigit

/-- `Number(price) > 0` -/
def isPositivePrice (text : String) : Bool := text.toList.any fun c => '1' ≤ c && c ≤ '9'

def isSecretReference (text : String) : Bool :=
  ["secret://", "vault://", "env://", "arn:aws:secretsmanager:"].any fun start => start.toList.isPrefixOf text.toList

/-- `secretReferenceSchema`, on the trimmed text. -/
def secretIssues (path : List String) (text : String) : List Issue :=
  lengthIssues path 1 500 text ++
    issueIf (isSecretReference text = false) path "Only approved secret references are accepted"

/-- `b402SellerConfigurationSchema` -/
structure SellerConfiguration where
  enabled : Bool
  merchantEnvironment : String
  merchantAccountReference : String
  merchantCredentialReference : Option String
  facilitatorEndpoint : String
  settlementNetwork : BscChainId
  settlementAsset : NonZeroAddress
  settlementDecimals : Within 0 255
  payoutAddress : NonZeroAddress
  payoutVerificationState : PayoutVerificationState
  fixedEgressProfile : String
  publicX402Url : String
  agentCoreRelayAuthenticationReference : Option String
  priceUsd : Checked isPriceUsd
  configurationVersion : PositiveInteger
  canaryStatus : CanaryStatus
deriving DecidableEq

def SellerConfiguration.json (configuration : SellerConfiguration) : Json := .obj [
  ("enabled", .bool configuration.enabled),
  ("merchantEnvironment", .str configuration.merchantEnvironment),
  ("merchantAccountReference", .str configuration.merchantAccountReference),
  ("merchantCredentialReference", .ofOption .str configuration.merchantCredentialReference),
  ("facilitatorEndpoint", .str configuration.facilitatorEndpoint),
  ("settlementNetwork", configuration.settlementNetwork.json),
  ("settlementAsset", .text configuration.settlementAsset),
  ("settlementDecimals", .whole configuration.settlementDecimals),
  ("payoutAddress", .text configuration.payoutAddress),
  ("payoutVerificationState", .str configuration.payoutVerificationState.text),
  ("fixedEgressProfile", .str configuration.fixedEgressProfile),
  ("publicX402Url", .str configuration.publicX402Url),
  ("agentCoreRelayAuthenticationReference", .ofOption .str configuration.agentCoreRelayAuthenticationReference),
  ("priceUsd", .text configuration.priceUsd),
  ("configurationVersion", .whole configuration.configurationVersion),
  ("canaryStatus", .str configuration.canaryStatus.text)]

def SellerConfiguration.trimmed (configuration : SellerConfiguration) : SellerConfiguration :=
  { configuration with
    merchantEnvironment := trim configuration.merchantEnvironment
    merchantAccountReference := trim configuration.merchantAccountReference
    merchantCredentialReference := configuration.merchantCredentialReference.map trim
    fixedEgressProfile := trim configuration.fixedEgressProfile
    agentCoreRelayAuthenticationReference := configuration.agentCoreRelayAuthenticationReference.map trim }

section
variable [UrlParser]

def SellerConfiguration.issues (configuration : SellerConfiguration) : List Issue :=
  identifierIssues ["merchantEnvironment"] configuration.merchantEnvironment ++
  identifierIssues ["merchantAccountReference"] configuration.merchantAccountReference ++
  (configuration.merchantCredentialReference.map (secretIssues ["merchantCredentialReference"])).getD [] ++
  urlIssues ["facilitatorEndpoint"] configuration.facilitatorEndpoint ++
  identifierIssues ["fixedEgressProfile"] configuration.fixedEgressProfile ++
  urlIssues ["publicX402Url"] configuration.publicX402Url ++
  (configuration.agentCoreRelayAuthenticationReference.map
    (secretIssues ["agentCoreRelayAuthenticationReference"])).getD []

/-- `b402SellerConfigurationSchema.parse` -/
def SellerConfiguration.parse (configuration : SellerConfiguration) : Except PaymentFailure SellerConfiguration :=
  parsed [configuration.facilitatorEndpoint, configuration.publicX402Url] configuration.trimmed.issues
    configuration.trimmed

def SellerConfiguration.normalized (configuration : SellerConfiguration) : SellerConfiguration :=
  { configuration with
    settlementAsset := configuration.settlementAsset.lowered
    payoutAddress := configuration.payoutAddress.lowered
    facilitatorEndpoint := normalizeHttpUrl configuration.facilitatorEndpoint
    publicX402Url := normalizeHttpUrl configuration.publicX402Url }

def b402SellerConfigurationDigest [Sha256] (configuration : SellerConfiguration) : Digest :=
  canonicalSha256Hex configuration.normalized.json

def assertSecretReference (value : Option String) (label : String) : Except PaymentFailure Unit :=
  refuseIf (value.all (fun text => secretIssues [] (trim text) ≠ []) = true) (paymentError .invalidSecretReference
    (label ++ " must be an approved secret reference, not a credential value."))

def assertEnabledConfiguration (configuration : SellerConfiguration) : Except PaymentFailure Unit := do
  refuseIf (configuration.canaryStatus ≠ .passed) (paymentError .b402NotReady
    "B402 remains disabled until a complete paid canary passes." "run_paid_canary")
  refuseIf (configuration.payoutVerificationState ≠ .verified) (paymentError .payoutMismatch
    "The configured payout address is not independently verified.")
  assertSecretReference configuration.merchantCredentialReference "Merchant credential"
  assertSecretReference configuration.agentCoreRelayAuthenticationReference "AgentCore relay authentication"
  refuseIf (isPositivePrice configuration.priceUsd.text = false) (paymentError .invalidAmount
    "A paid B402 service must have a positive configured price.")

def validateSellerConfiguration (input : SellerConfiguration) : Except PaymentFailure SellerConfiguration := do
  let configuration ← safeParse .invalidPaymentConfig input.parse
  checkIf (configuration.enabled = true) (assertEnabledConfiguration configuration)
  return configuration.normalized

/-- Repository and lifecycle boundaries must receive a verified enabled configuration. A value
that is no configuration at all is `none`. -/
def parseEnabledSellerConfiguration (input : Option SellerConfiguration) :
    Except PaymentFailure SellerConfiguration := do
  match input with
  | none => throwPayment .invalidPaymentConfig "The payment boundary input is invalid."
  | some input =>
    let configuration ← validateSellerConfiguration input
    refuseIf (configuration.enabled = false) (paymentError .paymentDisabled
      "B402 payment configuration is disabled by the standards lock." "verify_standards_lock")
    return configuration

def validatePaymentPin (input : PaymentPin) : Except PaymentFailure PaymentPin := do
  let pin ← safeParse .invalidPaymentConfig input.parse
  let _ ← parseAtomic pin.amountAtomic.text "Pinned payment amount"
  return pin.normalized

/-- Bind the payment pin of a request to the enabled seller configuration. -/
def validatePaymentPinAgainstSellerConfiguration [Sha256] (pinInput : PaymentPin)
    (configurationInput : Option SellerConfiguration) : Except PaymentFailure PaymentPin := do
  let configuration ← parseEnabledSellerConfiguration configurationInput
  let pin ← validatePaymentPin pinInput
  refuseIf (pin.settlementNetwork ≠ configuration.settlementNetwork) (paymentError .networkMismatch
    "Payment pin network does not match the enabled seller configuration.")
  refuseIf (pin.settlementAsset.lowered ≠ configuration.settlementAsset.lowered) (paymentError .assetMismatch
    "Payment pin asset does not match the enabled seller configuration.")
  refuseIf (pin.settlementDecimals ≠ configuration.settlementDecimals) (paymentError .decimalsMismatch
    "Payment pin decimals do not match the enabled seller configuration.")
  refuseIf (pin.configurationVersion ≠ configuration.configurationVersion ∨
      pin.configurationDigest.text ≠ (b402SellerConfigurationDigest configuration).text)
    (paymentError .invalidPaymentConfig "Payment pin configuration snapshot is stale or tampered.")
  refuseIf (pin.fixedEgressProfile ≠ configuration.fixedEgressProfile) (paymentError .egressProfileMismatch
    "Payment pin egress profile does not match the trusted seller configuration.")
  refuseIf (pin.payoutAddress.lowered ≠ configuration.payoutAddress.lowered) (paymentError .payoutMismatch
    "Payment pin payout address does not match the independently verified seller configuration.")
  refuseIf (configuration.payoutVerificationState ≠ .verified) (paymentError .payoutMismatch
    "Payment pin payout verification is not enabled and verified.")
  let sameRoute ← sameUrl pin.destination configuration.publicX402Url
  refuseIf (sameRoute = false) (paymentError .destinationMismatch
    "Payment pin destination does not match the enabled seller route.")
  let sameFacilitator ← sameUrl pin.facilitatorEndpoint configuration.facilitatorEndpoint
  refuseIf (sameFacilitator = false) (paymentError .facilitatorMismatch
    "Payment pin facilitator does not match the enabled seller configuration.")
  return pin

end

end Bnbera.Payments
