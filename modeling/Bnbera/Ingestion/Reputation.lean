import Mathlib.Algebra.Group.Int.Defs
import Bnbera.Ingestion.Types

namespace Bnbera.Ingestion

def isUint64 (text : String) : Bool := isDecimal text && decimalValue text < 2 ^ 64

/-- The value of a text that `/^-?(0|[1-9][0-9]*)$/u` accepts. -/
def signedValue (text : String) : Option Int :=
  match text.toList with
  | '-' :: digits =>
    if isDecimal (String.ofList digits) then some (-(decimalValue (String.ofList digits) : Int)) else none
  | _ => if isDecimal text then some (decimalValue text) else none

def isInt128 (text : String) : Bool := (signedValue text).any fun value => -(2 ^ 127) ≤ value && value < 2 ^ 127

inductive ReputationEventType
  | newFeedback
  | feedbackRevoked
deriving DecidableEq

/-- An event as `normalizeReputationFeedbackEvent` returns it, which both repositories apply to every
event before they keep it. A submission has a value and a revocation has none. -/
structure ReputationFeedbackEvent where
  identity : Erc8004Identity
  reputationRegistry : NormalAddress
  eventType : ReputationEventType
  clientAddress : NormalAddress
  feedbackIndex : Checked isUint64
  value : Option (Checked isInt128)
  valueDecimals : Option (Within 0 255)
  indexedTag1 : Option String
  tag1 : Option String
  tag2 : Option String
  endpoint : Option String
  feedbackUri : Option String
  feedbackHash : Option Hash
  transactionHash : Hash
  logIndex : Within 0 maxSafeInteger
  blockNumber : Within 0 maxSafeInteger
  blockHash : Hash
  confirmationState : ChainObservationState
  observedAt : Int
  valued : value.isSome = (eventType == .newFeedback)
  scaled : valueDecimals.isSome = (eventType == .newFeedback)
deriving DecidableEq

structure ReputationFeedback where
  identity : Erc8004Identity
  reputationRegistry : NormalAddress
  clientAddress : NormalAddress
  feedbackIndex : Checked isUint64
  value : Checked isInt128
  valueDecimals : Within 0 255
  indexedTag1 : String
  tag1 : String
  tag2 : String
  endpoint : String
  feedbackUri : String
  feedbackHash : String
  feedbackTransactionHash : Hash
  feedbackLogIndex : Within 0 maxSafeInteger
  feedbackBlockNumber : Within 0 maxSafeInteger
  feedbackBlockHash : Hash
  feedbackObservedAt : Int
  revoked : Bool
  revocationTransactionHash : Option Hash
  revocationLogIndex : Option (Within 0 maxSafeInteger)
  revocationBlockNumber : Option (Within 0 maxSafeInteger)
  revocationBlockHash : Option Hash
  revocationObservedAt : Option Int
deriving DecidableEq

def feedbackKey (reputationRegistry clientAddress : NormalAddress) (feedbackIndex : Checked isUint64) : String :=
  reputationRegistry.text ++ ":" ++ clientAddress.text ++ ":" ++ feedbackIndex.text

def ReputationFeedbackEvent.key (event : ReputationFeedbackEvent) : String :=
  feedbackKey event.reputationRegistry event.clientAddress event.feedbackIndex

structure ReputationMaps where
  feedback : OrderedMap String ReputationFeedbackEvent
  revocations : OrderedMap String ReputationFeedbackEvent

def ReputationMaps.add (maps : ReputationMaps) (event : ReputationFeedbackEvent) : ReputationMaps :=
  match event.eventType with
  | .newFeedback => { maps with feedback := maps.feedback.set event.key event }
  | .feedbackRevoked => { maps with revocations := maps.revocations.set event.key event }

/-- What is returned of a submission, with the revocation that came after it. -/
def ReputationFeedbackEvent.shown (event : ReputationFeedbackEvent) (revocation : Option ReputationFeedbackEvent) :
    Option ReputationFeedback :=
  match event.value, event.valueDecimals with
  | some value, some valueDecimals => some {
      identity := event.identity
      reputationRegistry := event.reputationRegistry
      clientAddress := event.clientAddress
      feedbackIndex := event.feedbackIndex
      value
      valueDecimals
      indexedTag1 := event.indexedTag1.getD ""
      tag1 := event.tag1.getD ""
      tag2 := event.tag2.getD ""
      endpoint := event.endpoint.getD ""
      feedbackUri := event.feedbackUri.getD ""
      feedbackHash := (event.feedbackHash.map (·.text)).getD ""
      feedbackTransactionHash := event.transactionHash
      feedbackLogIndex := event.logIndex
      feedbackBlockNumber := event.blockNumber
      feedbackBlockHash := event.blockHash
      feedbackObservedAt := event.observedAt
      revoked := revocation.isSome
      revocationTransactionHash := revocation.map (·.transactionHash)
      revocationLogIndex := revocation.map (·.logIndex)
      revocationBlockNumber := revocation.map (·.blockNumber)
      revocationBlockHash := revocation.map (·.blockHash)
      revocationObservedAt := revocation.map (·.observedAt) }
  | _, _ => none

section
variable [Collation]

/-- `compareEventPosition`, whose differences of safe integers are exact. -/
def compareEventPosition (left right : ReputationFeedbackEvent) : Ordering :=
  (compare left.blockNumber.value right.blockNumber.value).then <|
    (compare left.logIndex.value right.logIndex.value).then <|
      (Collation.localeCompare left.transactionHash.text right.transactionHash.text).then <|
        Collation.localeCompare left.blockHash.text right.blockHash.text

def compareFeedback (left right : ReputationFeedback) : Ordering :=
  (compare left.feedbackBlockNumber.value right.feedbackBlockNumber.value).then <|
    (compare left.feedbackLogIndex.value right.feedbackLogIndex.value).then <|
      (Collation.localeCompare left.clientAddress.text right.clientAddress.text).then <|
        Collation.localeCompare left.feedbackIndex.text right.feedbackIndex.text

def scopedEvents (events : List ReputationFeedbackEvent) (identity : Erc8004Identity) : List ReputationFeedbackEvent :=
  (((events.filter fun event => event.identity.chainId = identity.chainId).filter fun event =>
    erc8004IdentityKey event.identity = erc8004IdentityKey identity).filter fun event =>
      event.confirmationState = .canonical).insertionSort fun a b => compareEventPosition a b ≠ .gt

def ReputationMaps.revocation (maps : ReputationMaps) (key : String) (event : ReputationFeedbackEvent) :
    Option ReputationFeedbackEvent :=
  (maps.revocations.get key).filter fun revocation => compareEventPosition revocation event = .gt

def projectReputationFeedback (events : List ReputationFeedbackEvent) (identity : IdentityInput) (includeRevoked : Bool) :
    Except IngestionFailure (List ReputationFeedback) := do
  let normalizedIdentity ← normalizeErc8004Identity identity
  let maps := (scopedEvents events normalizedIdentity).foldl ReputationMaps.add ⟨.empty, .empty⟩
  let result := maps.feedback.entries.filterMap fun entry =>
    let revocation := maps.revocation entry.1 entry.2
    if revocation.isSome && !includeRevoked then none else entry.2.shown revocation
  return result.insertionSort fun a b => compareFeedback a b ≠ .gt

end

end Bnbera.Ingestion
