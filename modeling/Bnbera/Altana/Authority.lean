import Bnbera.Interleaving.Traces
import Bnbera.Altana.Serialization

namespace Bnbera.Altana

open Interleaving

inductive SessionStatus
  | unknown
  | active
  | expired
  | revoked
deriving DecidableEq

inductive ObservationSource
  | altanaSdk
  | keystoreRead
  | chainRead
  | test
deriving DecidableEq

structure SessionStateObservation where
  sessionId : String
  policyDigest : Option String
  status : SessionStatus
  observedAtUnix : Int
  observedBlockNumber : Option Int
  source : ObservationSource
  reasonCode : Option String
deriving DecidableEq

structure RuntimeSessionDescriptor where
  sessionId : String
  policy : ScopedPolicy
  policyDigest : Option String
  grantTransactionHash : Option String
  secretReference : Option String
  grantedAtUnix : Int
deriving DecidableEq

inductive DestinationProvider
  | studioDelegatedSecretChannel
  | awsSecretsManager
  | localTestOnly
deriving DecidableEq

structure SecretReference where
  provider : DestinationProvider
  reference : String
deriving DecidableEq

structure SessionHandoffReceipt where
  handoffId : String
  destination : SecretReference
  sessionId : String
  policyDigest : Option String
  acceptedAtUnix : Int
  consumed : Bool
deriving DecidableEq

structure PublicSessionHandoffReceipt where
  handoffId : String
  destinationProvider : DestinationProvider
  sessionId : String
  policyDigest : Option String
  acceptedAtUnix : Int
deriving DecidableEq

structure CreatorAuthorityRecord where
  authorityId : String
  draftId : String
  ownerAddress : String
  descriptor : RuntimeSessionDescriptor
  secretReference : String
  handoff : PublicSessionHandoffReceipt
  observation : SessionStateObservation
deriving DecidableEq

structure CreatorAuthorityPublicStatus where
  authorityId : String
  draftId : String
  ownerAddress : String
  policy : PublicPolicySummary
  policyDigest : String
  expiresAtUnix : Int
  status : SessionStatus
  observedBlockNumber : Option String
  observedAtUnix : Int
  observationSource : ObservationSource
  reasonCode : Option String
deriving DecidableEq

/-- What a call of the authority routes throws: an error of the boundary, or one of a gateway. -/
inductive Thrown
  | boundary (error : AltanaBoundaryError)
  | external
deriving DecidableEq

/-- What the sink does with the material of a wrapper: the wrapper may have been consumed before, the
sink may throw, or it accepts the material and issues a receipt. -/
inductive SinkAnswer
  | consumedBefore
  | threw (error : Option AltanaBoundaryError)
  | accepted (receipt : SessionHandoffReceipt)
deriving DecidableEq

/-- The calls of the authority routes. The material is named by its one-time wrapper. -/
inductive AuthorityCall
  | ownerAddressForDraft (draftId : String)
  | getByDraft (draftId : String)
  | get (authorityId : String)
  | put (record : CreatorAuthorityRecord)
  | gatewayRead (descriptor : RuntimeSessionDescriptor)
  | gatewayRevoke (descriptor : RuntimeSessionDescriptor)
  | putRuntimeSession (material : Nat) (descriptor : RuntimeSessionDescriptor) (destination : SecretReference)
deriving DecidableEq

abbrev AuthorityCall.Answer : AuthorityCall → Type
  | ownerAddressForDraft _ => Option String
  | getByDraft _ => Option CreatorAuthorityRecord
  | get _ => Option CreatorAuthorityRecord
  | put _ => Unit
  | gatewayRead _ => Except Thrown SessionStateObservation
  | gatewayRevoke _ => Except Thrown SessionStateObservation
  | putRuntimeSession _ _ _ => SinkAnswer

abbrev AuthorityWork := ExceptT Thrown (Program AuthorityCall AuthorityCall.Answer)

abbrev AuthorityEntry := Answered AuthorityCall AuthorityCall.Answer

namespace AuthorityWork

variable {α : Type}

def ask (call : AuthorityCall) : AuthorityWork call.Answer := ExceptT.lift (Program.ask call)

def check (result : Checked α) : AuthorityWork α := liftM (result.mapError Thrown.boundary)

def settle (result : Except Thrown α) : AuthorityWork α := liftM result

end AuthorityWork

/-- The Keccak-256 hash of the bytes of a text, in hexadecimal with its prefix. -/
class Keccak256 where
  keccak256 : String → String

section
variable [Keccak256]

def authorityPolicyDigest (policy : ScopedPolicy) : Checked String := do
  let text ← serializePolicy policy
  return Keccak256.keccak256 text

def assertLiveObservation (observation : SessionStateObservation) : Checked Unit :=
  refuse (observation.source = .test ∨ observation.source = .keystoreRead) .authorityReadRequired
    "Creator authority requires a live SDK or chain observation."

def assertDescriptorPolicyDigest (descriptor : RuntimeSessionDescriptor) : Checked Unit := do
  let expected ← authorityPolicyDigest descriptor.policy
  refuse (descriptor.policyDigest.map lower ≠ some (lower expected)) .policyDigestMismatch
    "Creator authority policy digest does not match the granted policy."

def assertBoundFreshObservation (descriptor : RuntimeSessionDescriptor) (observation : SessionStateObservation)
    (nowUnix : Int) : Checked Unit := do
  assertDescriptorPolicyDigest descriptor
  assertLiveObservation observation
  refuse (descriptor.policyDigest = none ∨ observation.policyDigest = none ∨
      observation.sessionId ≠ descriptor.sessionId ∨
      observation.policyDigest.map lower ≠ descriptor.policyDigest.map lower ∨ observation.observedAtUnix > nowUnix ∨
      nowUnix - observation.observedAtUnix > 60) .authorityReadRequired
    "Authority observation is not fresh and bound to the granted session policy."

def effectiveObservation (descriptor : RuntimeSessionDescriptor) (observation : SessionStateObservation)
    (nowUnix : Int) : SessionStateObservation :=
  if nowUnix ≥ descriptor.policy.expiresAtUnix ∧ observation.status = .active then
    { observation with status := .expired, reasonCode := some "AUTHORITY_EXPIRED" }
  else observation

def publicStatus (record : CreatorAuthorityRecord) : Checked CreatorAuthorityPublicStatus := do
  let policy ← toPublicPolicySummary record.descriptor.policy
  let policyDigest ← match record.descriptor.policyDigest with
    | some digest => pure digest
    | none => authorityPolicyDigest record.descriptor.policy
  return {
    authorityId := record.authorityId
    draftId := record.draftId
    ownerAddress := record.ownerAddress
    policy, policyDigest
    expiresAtUnix := record.descriptor.policy.expiresAtUnix
    status := record.observation.status
    observedBlockNumber := record.observation.observedBlockNumber.map decimalText
    observedAtUnix := record.observation.observedAtUnix
    observationSource := record.observation.source
    reasonCode := record.observation.reasonCode }

/-- `/^[A-Za-z0-9][A-Za-z0-9._:-]{0,127}$/` -/
def isSafeHandoffId (text : String) : Bool :=
  match text.toList with
  | [] => false
  | first :: rest => (isLetter first || isDigit first) && rest.length ≤ 127 &&
      rest.all fun c => isLetter c || isDigit c || c == '.' || c == '_' || c == ':' || c == '-'

/-- `/^\S.{0,511}$/s` -/
def isSafePublicReference (text : String) : Bool :=
  match text.toList with
  | [] => false
  | first :: _ => !isTrimmed first && (utf16Units text).length ≤ 512

def handoffFailed (message : String) : AltanaBoundaryError := ⟨.sessionHandoffFailed, message, false⟩

def assertApprovedDestination (destination : SecretReference) : Checked Unit :=
  refuse (¬isSafePublicReference destination.reference) .sessionHandoffFailed
    "The runtime session destination is not an approved typed destination."

def normalizePolicyDigest (policyDigest : Option String) (label : String) : Checked (Option String) :=
  policyDigest.mapM fun digest => do
    refuse (¬isHexText 64 digest) .sessionHandoffFailed (label ++ " is not a valid public policy digest.")
    return lower digest

def assertUnixTime (value : Int) (label : String) : Checked Unit :=
  refuse (¬isSafeInteger value ∨ value ≤ 0) .sessionHandoffFailed (label ++ " must be a positive Unix-second integer.")

/-- The checks before the material is consumed, with the digest of the descriptor. -/
def checkHandoff (descriptor : RuntimeSessionDescriptor) (destination : SecretReference) (nowUnix : Int) :
    Checked (Option String) := do
  assertUnixTime nowUnix "Handoff time"
  refuse (descriptor.secretReference ≠ none) .sessionHandoffFailed
    "A descriptor cannot already contain a destination secret value or reference."
  let _ ← assertPolicyValidAt descriptor.policy nowUnix
  assertUnixTime descriptor.grantedAtUnix "Grant time"
  refuse (descriptor.grantedAtUnix > nowUnix ∨ descriptor.grantedAtUnix ≥ descriptor.policy.expiresAtUnix)
    .sessionHandoffFailed "The runtime session grant time is outside the unexpired session window."
  let descriptorPolicyDigest ← normalizePolicyDigest descriptor.policyDigest "Descriptor policy digest"
  assertApprovedDestination destination
  refuse (¬isSafeHandoffId descriptor.sessionId) .sessionHandoffFailed
    "The runtime session identifier is not a safe public identifier."
  return descriptorPolicyDigest

/-- The checks of the receipt, and what of it is handed on. -/
def checkReceipt (receipt : SessionHandoffReceipt) (descriptor : RuntimeSessionDescriptor)
    (destination : SecretReference) (descriptorPolicyDigest : Option String) : Checked SessionHandoffReceipt := do
  refuse (receipt.consumed = false) .sessionHandoffFailed "The secret sink did not confirm one-time consumption."
  refuse (receipt.destination ≠ destination ∨ receipt.sessionId ≠ descriptor.sessionId ∨
      ¬isSafeHandoffId receipt.handoffId) .sessionHandoffFailed
    "The secret sink receipt is not bound to the approved destination or session."
  assertApprovedDestination receipt.destination
  let receiptPolicyDigest ← normalizePolicyDigest receipt.policyDigest "Receipt policy digest"
  refuse (receiptPolicyDigest ≠ descriptorPolicyDigest) .sessionHandoffFailed
    "The secret sink receipt policy digest is not bound to the granted session."
  assertUnixTime receipt.acceptedAtUnix "Handoff acceptance time"
  refuse (receipt.acceptedAtUnix < descriptor.grantedAtUnix ∨
      receipt.acceptedAtUnix ≥ descriptor.policy.expiresAtUnix) .sessionHandoffFailed
    "The secret sink receipt falls outside the unexpired session window."
  return { receipt with policyDigest := receiptPolicyDigest, consumed := true }

def handoffRuntimeSession (material : Nat) (descriptor : RuntimeSessionDescriptor) (destination : SecretReference)
    (nowUnix : Int) : AuthorityWork SessionHandoffReceipt := do
  let descriptorPolicyDigest ← AuthorityWork.check (checkHandoff descriptor destination nowUnix)
  let answer ← AuthorityWork.ask (.putRuntimeSession material descriptor destination)
  match answer with
  | .consumedBefore => throw (.boundary ⟨.sessionMaterialConsumed,
      "Runtime session material is one-time and is no longer available.", false⟩)
  | .threw (some error) => throw (.boundary error)
  | .threw none => throw (.boundary ⟨.sessionHandoffFailed,
      "The runtime session could not be handed to the approved secret sink.", true⟩)
  | .accepted receipt => AuthorityWork.check (checkReceipt receipt descriptor destination descriptorPolicyDigest)

def notFound : Thrown := .boundary ⟨.sessionNotActive, "Creator authority was not found.", false⟩

def readCreatorAuthority (authorityId : String) (nowUnix : Int) : AuthorityWork CreatorAuthorityPublicStatus := do
  let found ← AuthorityWork.ask (.get authorityId)
  match found with
  | none => throw notFound
  | some record =>
    let answer ← AuthorityWork.ask (.gatewayRead record.descriptor)
    let observation ← AuthorityWork.settle answer
    AuthorityWork.check (assertBoundFreshObservation record.descriptor observation nowUnix)
    let updated := { record with observation := effectiveObservation record.descriptor observation nowUnix }
    AuthorityWork.ask (.put updated)
    AuthorityWork.check (publicStatus updated)

def revokeCreatorAuthority (authorityId : String) (nowUnix : Int) : AuthorityWork CreatorAuthorityPublicStatus := do
  let found ← AuthorityWork.ask (.get authorityId)
  match found with
  | none => throw notFound
  | some record =>
    let answer ← AuthorityWork.ask (.gatewayRevoke record.descriptor)
    let observation ← AuthorityWork.settle answer
    let completedAtUnix := max nowUnix observation.observedAtUnix
    AuthorityWork.check (assertBoundFreshObservation record.descriptor observation completedAtUnix)
    AuthorityWork.check (refuse (observation.status ≠ .revoked) .sessionNotActive
      "Creator authority revocation was not confirmed.")
    let updated := { record with observation := observation }
    AuthorityWork.ask (.put updated)
    AuthorityWork.check (publicStatus updated)

structure ConfirmInput where
  authorityId : String
  draftId : String
  ownerAddress : String
  descriptor : RuntimeSessionDescriptor
  material : Nat
  destination : SecretReference
  nowUnix : Int
deriving DecidableEq

def ConfirmInput.record (input : ConfirmInput) (handoff : SessionHandoffReceipt)
    (observation : SessionStateObservation) : CreatorAuthorityRecord where
  authorityId := input.authorityId
  draftId := input.draftId
  ownerAddress := lower input.ownerAddress
  descriptor := { input.descriptor with secretReference := some handoff.destination.reference }
  secretReference := handoff.destination.reference
  handoff := ⟨handoff.handoffId, handoff.destination.provider, handoff.sessionId, handoff.policyDigest,
    handoff.acceptedAtUnix⟩
  observation := observation

def ConfirmInput.Repeats (input : ConfirmInput) (existing : CreatorAuthorityRecord) : Prop :=
  existing.authorityId = input.authorityId ∧ existing.ownerAddress = lower input.ownerAddress ∧
    existing.descriptor.sessionId = input.descriptor.sessionId ∧
    existing.descriptor.policyDigest.map lower = input.descriptor.policyDigest.map lower

instance (input : ConfirmInput) (existing : CreatorAuthorityRecord) : Decidable (input.Repeats existing) :=
  inferInstanceAs (Decidable (_ ∧ _))

def confirmNew (input : ConfirmInput) : AuthorityWork CreatorAuthorityPublicStatus := do
  AuthorityWork.check (refuse (input.descriptor.secretReference ≠ none) .sessionHandoffFailed
    "A browser grant cannot pre-populate a secret reference.")
  let answer ← AuthorityWork.ask (.gatewayRead input.descriptor)
  let observation ← AuthorityWork.settle answer
  AuthorityWork.check (assertBoundFreshObservation input.descriptor observation input.nowUnix)
  AuthorityWork.check (refuse (observation.status ≠ .active) .sessionNotActive
    "The granted authority could not be independently verified.")
  let handoff ← handoffRuntimeSession input.material input.descriptor input.destination input.nowUnix
  let record := input.record handoff observation
  AuthorityWork.ask (.put record)
  AuthorityWork.check (publicStatus record)

def confirmCreatorAuthority (input : ConfirmInput) : AuthorityWork CreatorAuthorityPublicStatus := do
  let _ ← AuthorityWork.check (assertPolicyValidAt input.descriptor.policy input.nowUnix)
  AuthorityWork.check (assertDescriptorPolicyDigest input.descriptor)
  let trustedOwner ← AuthorityWork.ask (.ownerAddressForDraft input.draftId)
  AuthorityWork.check (refuse (trustedOwner.map lower ≠ some (lower input.ownerAddress) ∨
      trustedOwner.map lower ≠ some (lower input.descriptor.policy.adminAddress)) .sessionNotActive
    "Creator authority owner does not match the authenticated draft owner.")
  let existing ← AuthorityWork.ask (.getByDraft input.draftId)
  match existing with
  | some existing =>
    if input.Repeats existing then readCreatorAuthority existing.authorityId input.nowUnix
    else throw (.boundary (handoffFailed "Creator authority has already been confirmed for this draft."))
  | none => confirmNew input

end

end Bnbera.Altana
