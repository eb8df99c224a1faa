import Bnbera.Domain
import Bnbera.Altana.Authority
import Bnbera.Seller.Negotiation

/-! The server-owned grant of a Creator session, and how the session is handed to its runtime. -/

namespace Bnbera.Altana

open JsonText
open Seller (Integers Value Fields field record readObject readText readNum isStrict isText isDigits isTimestamp isAny str num
  lowerAscii lowerUnit isHexUnit stringOrUndefined)

def ofString (text : String) : Text := (utf16Units text).map (Fin.ofNat _)

/-! ### The grant -/

structure PolicyBounds where
  maxCallEntries : Nat
  maxSelectorsPerCall : Nat
  maxLifetimeSeconds : Int
  maxSpendAtomic : Option Int

def assertPolicyWithinBounds (policy : ScopedPolicy) (bounds : PolicyBounds) (nowUnix : Int) : Checked ScopedPolicy := do
  let normalized ← assertPolicyValidAt policy nowUnix
  refuse (bounds.maxCallEntries < normalized.calls.length ∨
      (∃ entry ∈ normalized.calls, bounds.maxSelectorsPerCall < entry.selectors.length) ∨
      bounds.maxLifetimeSeconds < normalized.expiresAtUnix - nowUnix) .policyBoundExceeded
    "The requested authority exceeds the configured call or lifetime bound."
  refuse (∃ limit ∈ bounds.maxSpendAtomic, ∃ entry ∈ normalized.spend, limit < entry.limitAtomic) .policyBoundExceeded
    "The requested authority exceeds the configured spend bound."
  return normalized

structure CreatorAction where
  target : String
  selector : String
  valueWei : Int

def creatorLifecycleAction : CreatorAction := ⟨"0x8004a818bfb912233c491871b3d84c89a494bd9e", "0x0af28bd3", 0⟩

def creatorSwapAction : CreatorAction := ⟨"0xd99d1c33f9fc3444f8101754abc46c52416550d1", "0x7ff36ab5", 1000000000000000⟩

def creatorCommerceAction : CreatorAction := ⟨"0xa206c0517b6371c6638cd9e4a42cc9f02a33b0de", "0x9e63798d", 0⟩

def requiredActions : List CreatorAction := [creatorLifecycleAction, creatorSwapAction, creatorCommerceAction]

def templateCalls : List CallPermission :=
  [⟨creatorLifecycleAction.target, [creatorLifecycleAction.selector], 0⟩,
    ⟨creatorSwapAction.target, [creatorSwapAction.selector], 1000000000000000⟩,
    ⟨creatorCommerceAction.target, [creatorCommerceAction.selector], 0⟩]

def templateSpend : List SpendPermission := [⟨.native, 2000000000000000, .hour⟩]

def expirySeconds : Int := 3600

def setAgentUriSignature : String := "setAgentURI(uint256,string)"

def swapSignature : String := "swapExactETHForTokens(uint256,address[],address,uint256)"

def submitSignature : String := "submit(uint256,bytes32,bytes)"

structure GrantInput where
  adminAddress : String
  walletAddress : String
  sessionPublicAddress : String
  sessionPublicKey : String
  nowUnix : Int

def GrantInput.policy (input : GrantInput) : ScopedPolicy where
  chainId := 97
  adminAddress := input.adminAddress
  walletAddress := input.walletAddress
  sessionPublicAddress := input.sessionPublicAddress
  sessionPublicKey := some input.sessionPublicKey
  calls := templateCalls
  spend := templateSpend
  expiresAtUnix := input.nowUnix + expirySeconds

structure TargetedCall where
  target : Text
  signature : Text
deriving DecidableEq

structure SpendLimit where
  token : Option Text
  limit : Int
  period : Text
deriving DecidableEq

structure Grant where
  policy : ScopedPolicy
  policyDigest : String
  calls : List TargetedCall
  spend : List SpendLimit
  expiry : Int

inductive GrantFailure
  | boundary (error : AltanaBoundaryError)
  | message (text : String)

/-- `toFunctionSelector`: the first four bytes of the hash of a signature. -/
class FunctionSelectors where
  toFunctionSelector : String → String

def callKey (call : CallPermission) : String := call.target ++ ":" ++ call.selectors.headD ""

def CreatorAction.key (action : CreatorAction) : String := action.target ++ ":" ++ action.selector

def isUnpinned (call : CallPermission) : Bool :=
  match requiredActions.find? fun action => action.target = call.target ∧ some action.selector = call.selectors.head? with
  | none => true
  | some expected => expected.valueWei ≠ call.maxNativeValueWei

def mismatchedPins (calls : List CallPermission) : Prop :=
  calls.length ≠ 3 ∨ (calls.map callKey).dedup.length ≠ (requiredActions.map CreatorAction.key).dedup.length ∨
    (∃ key ∈ calls.map callKey, key ∉ requiredActions.map CreatorAction.key) ∨ calls.any isUnpinned = true

instance (calls : List CallPermission) : Decidable (mismatchedPins calls) :=
  inferInstanceAs (Decidable (_ ∨ _ ∨ _ ∨ _))

def SpendPermission.limit (entry : SpendPermission) : SpendLimit where
  token := match entry.token with
    | .native => none
    | .address text => some (ofString text)
  limit := entry.limitAtomic
  period := ofString entry.period.text

section
variable [FunctionSelectors]

def permissionForCall (call : CallPermission) : Except GrantFailure TargetedCall :=
  match call.selectors with
  | [selector] =>
    let pinned (action : CreatorAction) := lower call.target = action.target ∧ lower selector = action.selector
    if pinned creatorLifecycleAction then .ok ⟨ofString call.target, ofString setAgentUriSignature⟩
    else if pinned creatorSwapAction ∧ lower (FunctionSelectors.toFunctionSelector swapSignature) = lower selector then
      .ok ⟨ofString call.target, ofString swapSignature⟩
    else if pinned creatorCommerceAction then .ok ⟨ofString call.target, ofString submitSignature⟩
    else .error (.message "CREATOR_POLICY_CALL_PIN_MISMATCH")
  | _ => .error (.message "CREATOR_POLICY_SELECTOR_COUNT_MISMATCH")

variable [Keccak256]

def creatorAuthorityGrant (input : GrantInput) : Except GrantFailure Grant := do
  let bounds := ⟨3, 1, expirySeconds, some 2000000000000000⟩
  let bounded ← (assertPolicyWithinBounds input.policy bounds input.nowUnix).mapError .boundary
  refuseIf (mismatchedPins bounded.calls) (.message "CREATOR_POLICY_CALL_PIN_MISMATCH")
  let calls ← bounded.calls.mapM permissionForCall
  let policyDigest ← (authorityPolicyDigest bounded).mapError .boundary
  return ⟨bounded, policyDigest, calls, bounded.spend.map SpendPermission.limit, bounded.expiresAtUnix⟩

end

/-! ### The browser -/

structure BrowserSpend where
  token : Option Text
  limit : Text
  period : Text

structure BrowserGrantOptions where
  grantIssuedAtUnix : Int
  expiresAtUnix : Int
  policyDigest : String
  policy : PublicPolicySummary
  calls : List TargetedCall
  spend : List BrowserSpend
  expiry : Int

def creatorBrowserGrantOptions (grant : Grant) (grantIssuedAtUnix : Int) : Checked BrowserGrantOptions := do
  let policy ← toPublicPolicySummary grant.policy
  return {
    grantIssuedAtUnix
    expiresAtUnix := grant.policy.expiresAtUnix
    policyDigest := grant.policyDigest
    policy
    calls := grant.calls
    spend := grant.spend.map fun entry => ⟨entry.token, ofString (decimalText entry.limit), entry.period⟩
    expiry := grant.expiry }

variable {N : Type}

/-- A call permission of the SDK, which may name a target, a signature or both. -/
structure SdkCall where
  target : Option Text
  signature : Option Text

structure Session (N : Type) where
  walletAddress : Text
  publicKey : Text
  calls : Option (List SdkCall)
  spend : Option (List SpendLimit)
  expiry : N

structure Signer where
  publicKey : Text
  address : Text

class Sdk (N : Type) where
  signerFromPrivateKey : Text → Option Signer
  deserializeSession : Fields N → Signer → Option (Session N)

def BrowserGrantOptions.granted (options : BrowserGrantOptions) (walletAddress : Text) (signer : Signer) (expiry : N) :
    Session N where
  walletAddress
  publicKey := signer.publicKey
  calls := some (options.calls.map fun call => ⟨some call.target, some call.signature⟩)
  spend := some (options.spend.map fun entry => ⟨entry.token, decimal entry.limit, entry.period⟩)
  expiry

/-! ### The handoff -/

inductive BrowserAuthorityStatus
  | none
  | active
  | expired
  | revoked
deriving DecidableEq

structure CreatorBrowserAuthority where
  authorityId : String
  draftId : String
  ownerAddress : String
  walletAddress : String
  sessionPublicAddress : String
  sessionPublicKey : String
  policyDigest : String
  expiresAtUnix : Int
  status : BrowserAuthorityStatus
  grantTransactionHash : Option String

inductive CreatorAuthorityErrorCode
  | authorityUnavailable
  | authorityOwnership
  | authorityNotActive
  | sessionInvalid
  | sessionMismatch
  | policyMismatch
deriving DecidableEq

inductive HandoffFailure
  | creator (code : CreatorAuthorityErrorCode) (message : String)
  | typeError
  | destination

def invalidSession : HandoffFailure :=
  .creator .sessionInvalid "The supplied Altana session is not a supported serialized session."

def mismatch : HandoffFailure :=
  .creator .sessionMismatch "The supplied session does not match the persisted Creator authority."

def invalidKey : HandoffFailure := .creator .sessionInvalid "The supplied Altana session key is invalid."

def policyMismatch (message : String) : HandoffFailure := .creator .policyMismatch message

def exactKeys (fields : Fields N) (expected : List String) : Bool := (keys fields).isPerm (expected.map units)

/-- `/^0x(?:[0-9a-f]{128}|[0-9a-f]{130})$/iu` -/
def isPublicKey (text : Text) : Bool := Seller.isHexText 128 text || Seller.isHexText 130 text

def periods : List String := ["minute", "hour", "day", "week", "month", "year"]

def isPeriod (text : Text) : Bool := (periods.map units).contains text

/-- `decimal`: digits, as they are or under `$bigint`. -/
def decimalOf (value : Option (Value N)) : Option Text :=
  match value with
  | some (.obj fields) => if exactKeys fields ["$bigint"] then readText isDigits (field fields "$bigint") else none
  | value => readText isDigits value

def isCallEntry (value : Value N) : Bool :=
  match value with
  | .obj call => exactKeys call ["signature", "to"] && (readText (isText 256) (field call "signature")).isSome &&
      (readText (Seller.isHexText 40) (field call "to")).isSome
  | _ => false

def isSpendEntry (value : Value N) : Bool :=
  match value with
  | .obj spend => (field spend "limit").isSome && (field spend "period").isSome && isStrict spend ["limit", "period", "token"] &&
      (decimalOf (field spend "limit")).isSome && (readText isPeriod (field spend "period")).isSome &&
      (field spend "token").all fun token => (readText (Seller.isHexText 40) (some token)).isSome
  | _ => false

def isEntries (isEntry : Value N → Bool) (value : Option (Value N)) : Bool :=
  match value with
  | none => true
  | some (.arr items) => items.all isEntry
  | _ => false

def readSerialized [Numbers N] (value : Value N) : Except HandoffFailure (Value N) :=
  match value with
  | .leaf (.str text) => do
    refuseIf (isText 16384 text = false) invalidSession
    (parse readScalar text).elim (.error invalidSession) .ok
  | value => .ok value

/-- `String(value)` -/
def textOf [Numbers N] (value : Option (Value N)) : Except HandoffFailure Text :=
  (stringOrUndefined value).elim (.error .typeError) .ok

def sessionKeys : List String := ["expiry", "permissions", "publicKey", "walletAddress"]

def parseCreatorSerializedSession [Numbers N] [Integers N] (value : Value N) : Except HandoffFailure (Fields N) := do
  let parsed ← readSerialized value
  let session ← (readObject (some parsed)).elim (.error invalidSession) .ok
  refuseIf (exactKeys session sessionKeys = false) invalidSession
  let walletAddress ← textOf (field session "walletAddress")
  refuseIf (Seller.isHexText 40 walletAddress = false) invalidSession
  let publicKey ← textOf (field session "publicKey")
  refuseIf (isPublicKey publicKey = false ∨ (readNum isTimestamp (field session "expiry")).isNone = true) invalidSession
  let permissions ← (readObject (field session "permissions")).elim (.error invalidSession) .ok
  refuseIf (isStrict permissions ["calls", "spend"] = false) invalidSession
  refuseIf (isEntries isCallEntry (field permissions "calls") = false) invalidSession
  refuseIf (isEntries isSpendEntry (field permissions "spend") = false) invalidSession
  return session

def targetedCalls (calls : Option (List SdkCall)) : Option (List TargetedCall) :=
  calls.bind fun calls => calls.mapM fun call => do
    let target ← call.target
    let signature ← call.signature
    return ⟨target, signature⟩

def sortTexts (texts : List Text) : List Text := texts.insertionSort (· ≤ ·)

def TargetedCall.normalize (call : TargetedCall) : Text := lowerAscii call.target ++ [0x3a] ++ call.signature

def SpendLimit.normalize (spend : SpendLimit) : Text :=
  ofString (decimalText spend.limit) ++ [0x3a] ++ spend.period ++ [0x3a] ++ (spend.token.map lowerAscii).getD (units "native")

def sameCallSet (actual : Option (List TargetedCall)) (expected : List TargetedCall) : Bool :=
  match actual with
  | none => false
  | some actual => actual.length == expected.length &&
      sortTexts (actual.map TargetedCall.normalize) == sortTexts (expected.map TargetedCall.normalize)

def sameSpendSet (actual : Option (List SpendLimit)) (expected : List SpendLimit) : Bool :=
  match actual with
  | none => false
  | some actual => actual.length == expected.length &&
      sortTexts (actual.map SpendLimit.normalize) == sortTexts (expected.map SpendLimit.normalize)

/-- `bnberahf` and the first digits of the hash of the draft. -/
def creatorRuntimeName [Sha256] (draftId : String) : String :=
  "bnberahf" ++ String.ofList ((Sha256.sha256Hex draftId).text.toList.take 12)

/-- `/^bnberahf[0-9a-f]{12}$/u` -/
def isRuntimeName (text : String) : Bool :=
  text.toList.take 8 == "bnberahf".toList && text.toList.length == 20 &&
    (text.toList.drop 8).all fun c => ('0' ≤ c && c ≤ '9') || ('a' ≤ c && c ≤ 'f')

def isAuthorityId (text : String) : Bool :=
  isUuid text && (text.toList[14]?).any (fun c => '1' ≤ c && c ≤ '5') &&
    (text.toList[19]?).any fun c => ['8', '9', 'a', 'b'].contains c.toLower

def creatorLocalStudioDestination (runtimeName authorityId : String) : Except HandoffFailure SecretReference := do
  refuseIf (isRuntimeName runtimeName = false ∨ isAuthorityId authorityId = false) .destination
  return ⟨.studioDelegatedSecretChannel, "studio-local/" ++ runtimeName ++ "/" ++ lower authorityId⟩

def TargetedCall.value (call : TargetedCall) : Value N :=
  .obj [(units "to", str (lowerAscii call.target)), (units "signature", str call.signature)]

def SpendLimit.value (spend : SpendLimit) : Value N :=
  .obj ([(units "limit", .obj [(units "$bigint", str (ofString (decimalText spend.limit)))]), (units "period", str spend.period)] ++
    (spend.token.map fun token => (units "token", str (lowerAscii token))).toList)

def handedOff [Integers N] (walletAddress publicKey : Text) (expiry : N) (calls : List TargetedCall) (spend : List SpendLimit)
    (privateKey : Text) : Value N :=
  .obj [(units "version", num Integers.one), (units "walletAddress", str walletAddress), (units "publicKey", str publicKey),
    (units "expiry", num expiry),
    (units "permissions", .obj [(units "calls", .arr (calls.map TargetedCall.value)), (units "spend", .arr (spend.map SpendLimit.value))]),
    (units "signer", .obj [(units "type", str (units "privateKey")), (units "privateKey", str privateKey)])]

structure HandoffInput (N : Type) where
  draftId : String
  ownerAddress : String
  authority : CreatorBrowserAuthority
  serializedSession : Value N
  sessionPrivateKey : Text
  material : Nat
  nowUnix : Int

/-- What is confirmed, and the bytes behind the name of the material, as their text. -/
structure Handoff where
  confirm : ConfirmInput
  bytes : Text

def HandoffInput.grantInput (input : HandoffInput N) : GrantInput where
  adminAddress := input.authority.ownerAddress
  walletAddress := input.authority.walletAddress
  sessionPublicAddress := input.authority.sessionPublicAddress
  sessionPublicKey := input.authority.sessionPublicKey
  nowUnix := input.authority.expiresAtUnix - 3600

def HandoffInput.descriptor (input : HandoffInput N) (grant : Grant) : RuntimeSessionDescriptor where
  sessionId := "creator-browser:" ++ input.draftId ++ ":" ++
    lower (String.ofList ((input.authority.sessionPublicAddress.toList.take 14).drop 2))
  policy := grant.policy
  policyDigest := some grant.policyDigest
  grantTransactionHash := input.authority.grantTransactionHash
  secretReference := none
  grantedAtUnix := input.authority.expiresAtUnix - 3600

section
variable [Numbers N] [Integers N] [Sdk N]

def signerOf (input : HandoffInput N) (stored : Fields N) : Except HandoffFailure Signer := do
  let signer ← (Sdk.signerFromPrivateKey N input.sessionPrivateKey).elim (.error invalidKey) .ok
  let publicKey ← textOf (field stored "publicKey")
  refuseIf (lowerAscii signer.publicKey ≠ lowerAscii publicKey ∨
    lowerAscii signer.publicKey ≠ lowerAscii (ofString input.authority.sessionPublicKey) ∨
    lowerAscii signer.address ≠ lowerAscii (ofString input.authority.sessionPublicAddress)) mismatch
  let walletAddress ← (readText isAny (field stored "walletAddress")).elim (.error .typeError) .ok
  refuseIf (lowerAscii walletAddress ≠ lowerAscii (ofString input.authority.walletAddress)) mismatch
  return signer

variable [FunctionSelectors] [Keccak256]

def grantOf (input : HandoffInput N) : Except HandoffFailure Grant := do
  let grantIssuedAtUnix := input.authority.expiresAtUnix - 3600
  refuseIf (¬isSafeInteger grantIssuedAtUnix ∨ grantIssuedAtUnix ≤ 0 ∨ input.nowUnix < grantIssuedAtUnix)
    (policyMismatch "The persisted Creator authority expiry is outside the fixed grant window.")
  let grant ← (creatorAuthorityGrant input.grantInput).mapError fun _ =>
    policyMismatch "The persisted Creator authority policy is not valid."
  refuseIf (grant.policy.expiresAtUnix ≠ input.authority.expiresAtUnix ∨
      lower grant.policyDigest ≠ lower input.authority.policyDigest)
    (policyMismatch "The persisted Creator authority does not match the server-locked policy.")
  return grant

variable [Sha256]

def handoffCreatorAuthority (input : HandoffInput N) : Except HandoffFailure Handoff := do
  refuseIf (¬isSafeInteger input.nowUnix ∨ input.nowUnix ≤ 0)
    (.creator .authorityUnavailable "Creator authority time is invalid.")
  refuseIf (input.authority.draftId ≠ input.draftId ∨ lower input.authority.ownerAddress ≠ lower input.ownerAddress)
    (.creator .authorityOwnership "The authority is not owned by this Creator draft.")
  refuseIf (input.authority.status ≠ .active ∨ input.authority.expiresAtUnix ≤ input.nowUnix)
    (.creator .authorityNotActive "The Creator authority is no longer active.")
  refuseIf (Seller.isHexText 64 input.sessionPrivateKey = false) invalidKey
  let stored ← parseCreatorSerializedSession input.serializedSession
  let signer ← signerOf input stored
  let grant ← grantOf input
  let session ← (Sdk.deserializeSession stored signer).elim
    (.error (.creator .sessionInvalid "The supplied Altana session could not be reconstructed.")) .ok
  refuseIf (Integers.toInt session.expiry ≠ some input.authority.expiresAtUnix ∨
    sameCallSet (targetedCalls session.calls) grant.calls = false ∨ sameSpendSet session.spend grant.spend = false) mismatch
  let destination ← creatorLocalStudioDestination (creatorRuntimeName input.draftId) input.authority.authorityId
  return {
    confirm := ⟨input.authority.authorityId, input.draftId, input.ownerAddress, input.descriptor grant, input.material, destination,
      input.nowUnix⟩
    bytes := stringify (handedOff (lowerAscii session.walletAddress) (lowerAscii signer.publicKey) session.expiry grant.calls
      grant.spend (lowerAscii input.sessionPrivateKey)) }

end

/-! ### What every grant is -/

theorem mapError_eq_ok {α ε ε' : Type} {result : Except ε α} {change : ε → ε'} {value : α} :
    result.mapError change = .ok value ↔ result = .ok value := by
  cases result with
  | error error => exact ⟨nofun, nofun⟩
  | ok other => exact ⟨fun same => congrArg Except.ok (Except.ok.inj same), fun same => congrArg Except.ok (Except.ok.inj same)⟩

def grantedCalls : List TargetedCall :=
  [⟨ofString creatorLifecycleAction.target, ofString setAgentUriSignature⟩, ⟨ofString creatorCommerceAction.target, ofString submitSignature⟩,
    ⟨ofString creatorSwapAction.target, ofString swapSignature⟩]

theorem grantedCalls_lower : ∀ call ∈ grantedCalls, lowerAscii call.target = call.target := by decide +kernel

def grantedSpend : List SpendLimit := [⟨none, 2000000000000000, units "hour"⟩]

theorem templateCalls_normal : sortCalls (templateCalls.map CallPermission.normal) =
    [⟨creatorLifecycleAction.target, [creatorLifecycleAction.selector], 0⟩,
      ⟨creatorCommerceAction.target, [creatorCommerceAction.selector], 0⟩,
      ⟨creatorSwapAction.target, [creatorSwapAction.selector], 1000000000000000⟩] := by decide +kernel

theorem templateSpend_normal : (sortSpend (templateSpend.map SpendPermission.normal)).map SpendPermission.limit = grantedSpend := by
  decide +kernel

theorem lower_pins : lower creatorLifecycleAction.target = creatorLifecycleAction.target ∧
    lower creatorLifecycleAction.selector = creatorLifecycleAction.selector ∧
    lower creatorCommerceAction.target = creatorCommerceAction.target ∧
    lower creatorCommerceAction.selector = creatorCommerceAction.selector ∧
    lower creatorSwapAction.target = creatorSwapAction.target ∧
    creatorCommerceAction.target ≠ creatorLifecycleAction.target ∧ creatorCommerceAction.target ≠ creatorSwapAction.target ∧
    creatorSwapAction.target ≠ creatorLifecycleAction.target ∧ creatorSwapAction.target ≠ creatorCommerceAction.target := by
  decide +kernel

section
variable [FunctionSelectors]

theorem permissionForCall_lifecycle : permissionForCall ⟨creatorLifecycleAction.target, [creatorLifecycleAction.selector], 0⟩ =
    .ok ⟨ofString creatorLifecycleAction.target, ofString setAgentUriSignature⟩ := by
  unfold permissionForCall
  dsimp only
  rw [if_pos ⟨lower_pins.1, lower_pins.2.1⟩]

theorem permissionForCall_commerce : permissionForCall ⟨creatorCommerceAction.target, [creatorCommerceAction.selector], 0⟩ =
    .ok ⟨ofString creatorCommerceAction.target, ofString submitSignature⟩ := by
  obtain ⟨_, _, target, selector, _, lifecycle, swap, _⟩ := lower_pins
  unfold permissionForCall
  dsimp only
  rw [if_neg fun same => lifecycle (target ▸ same.1), if_neg fun same => swap (target ▸ same.1.1), if_pos ⟨target, selector⟩]

theorem permissionForCall_swap {call : TargetedCall}
    (permitted : permissionForCall ⟨creatorSwapAction.target, [creatorSwapAction.selector], 1000000000000000⟩ = .ok call) :
    call = ⟨ofString creatorSwapAction.target, ofString swapSignature⟩ := by
  obtain ⟨_, _, _, _, target, _, _, lifecycle, commerce⟩ := lower_pins
  unfold permissionForCall at permitted
  dsimp only at permitted
  rw [if_neg fun same => lifecycle (target ▸ same.1)] at permitted
  split at permitted
  · exact (Except.ok.inj permitted).symm
  · rw [if_neg fun same => commerce (target ▸ same.1)] at permitted
    cases permitted

variable [Keccak256]

structure Issued (input : GrantInput) (grant : Grant) : Prop where
  valid : input.policy.ValidAt input.nowUnix
  policy : grant.policy = input.policy.normal
  digest : authorityPolicyDigest grant.policy = .ok grant.policyDigest
  calls : grant.calls = grantedCalls
  spend : grant.spend = grantedSpend
  expiry : grant.expiry = input.nowUnix + expirySeconds

theorem creatorAuthorityGrant_eq_ok {input : GrantInput} {grant : Grant} (granted : creatorAuthorityGrant input = .ok grant) :
    Issued input grant := by
  unfold creatorAuthorityGrant at granted
  obtain ⟨bounded, within, granted⟩ := bind_eq_ok.mp granted
  obtain ⟨_, granted⟩ := refuseIf_bind_eq_ok.mp granted
  obtain ⟨calls, permitted, granted⟩ := bind_eq_ok.mp granted
  obtain ⟨policyDigest, digested, granted⟩ := bind_eq_ok.mp granted
  have normal := mapError_eq_ok.mp within
  unfold assertPolicyWithinBounds at normal
  obtain ⟨normalized, valid, normal⟩ := bind_eq_ok.mp normal
  obtain ⟨_, normal⟩ := refuseIf_bind_eq_ok.mp normal
  obtain ⟨_, normal⟩ := refuseIf_bind_eq_ok.mp normal
  obtain ⟨checked, rfl⟩ := assertPolicyValidAt_eq_ok.mp valid
  obtain rfl := pure_eq_ok.mp normal
  cases Except.ok.inj granted
  refine ⟨checked, rfl, mapError_eq_ok.mp digested, ?_, templateSpend_normal, rfl⟩
  rw [show input.policy.normal.calls = _ from templateCalls_normal, List.mapM_cons, permissionForCall_lifecycle, List.mapM_cons,
    permissionForCall_commerce, List.mapM_cons, List.mapM_nil] at permitted
  obtain ⟨first, same, permitted⟩ := bind_eq_ok.mp permitted
  obtain ⟨others, chosen, permitted⟩ := bind_eq_ok.mp permitted
  cases Except.ok.inj same
  obtain ⟨second, same, chosen⟩ := bind_eq_ok.mp chosen
  obtain ⟨third, swapped, chosen⟩ := bind_eq_ok.mp chosen
  cases Except.ok.inj same
  obtain ⟨swap, same, swapped⟩ := bind_eq_ok.mp swapped
  obtain rfl := permissionForCall_swap same
  cases Except.ok.inj swapped
  cases Except.ok.inj chosen
  exact (Except.ok.inj permitted).symm

end

/-! ### Hexadecimal texts -/

theorem ofString_eq_units {text : String} (narrow : ∀ c ∈ text.toList, c.toNat < 0x80) : ofString text = units text := by
  have short : ∀ c ∈ text.toList, c.toNat < 0x10000 := fun c member => (narrow c member).trans (by decide)
  have same := utf16Units_ofList short
  rw [String.ofList_toList] at same
  rw [ofString, same, List.map_map]
  rfl

theorem lowerUnit_narrow {c : Char} (narrow : c.toNat < 0x80) :
    lowerUnit (Fin.ofNat _ c.toNat) = Fin.ofNat _ c.toLower.toNat := by
  refine Fin.ext ?_
  have lowered := @toLower_toNat c
  have value : c.toNat % 0x10000 = c.toNat := Nat.mod_eq_of_lt (by omega)
  unfold lowerUnit
  simp only [Fin.val_ofNat, value, lowered]
  by_cases capital : 65 ≤ c.toNat ∧ c.toNat ≤ 90
  · rw [if_pos capital, if_pos capital]
    rfl
  · rw [if_neg capital, if_neg capital]
    rfl

theorem lowerAscii_units {text : String} (narrow : ∀ c ∈ text.toList, c.toNat < 0x80) :
    lowerAscii (units text) = units (lower text) := by
  rw [lowerAscii, units, units, lower_toList, List.map_map, List.map_map]
  exact List.map_congr_left fun c member => lowerUnit_narrow (narrow c member)

theorem narrow_hex {c : Char} (hex : isHexDigit c = true) : c.toNat < 0x80 := by
  rw [isHexDigit_iff] at hex
  omega

theorem isHexUnit_hex {c : Char} (hex : isHexDigit c = true) : isHexUnit (Fin.ofNat _ c.toNat) = true := by
  rw [isHexDigit_iff] at hex
  have value : c.toNat % 0x10000 = c.toNat := Nat.mod_eq_of_lt (by omega)
  simp only [isHexUnit, Fin.val_ofNat, value, Bool.or_eq_true, Bool.and_eq_true, decide_eq_true_eq]
  omega

/-- `0x` and hexadecimal digits. -/
structure IsHex (text : String) (digits : List Char) : Prop where
  shape : text.toList = '0' :: 'x' :: digits
  hex : digits.all isHexDigit = true

section
variable {text : String} {digits : List Char}

theorem isHexText_iff {length : Nat} : isHexText length text = true ↔ ∃ digits, IsHex text digits ∧ digits.length = length := by
  unfold isHexText
  split
  · next digits shape =>
    rw [Bool.and_eq_true, beq_iff_eq]
    constructor
    · exact fun accepted => ⟨digits, ⟨shape, accepted.2⟩, accepted.1⟩
    · rintro ⟨other, found, length⟩
      rw [found.shape] at shape
      cases shape
      exact ⟨length, found.hex⟩
  · next other =>
    refine ⟨nofun, fun ⟨digits, found, _⟩ => absurd found.shape (other digits)⟩

theorem isSessionPublicKey_hex (accepted : isSessionPublicKey text = true) : ∃ digits, IsHex text digits ∧ 1 ≤ digits.length := by
  unfold isSessionPublicKey at accepted
  split at accepted
  · next digits shape =>
    simp only [Bool.and_eq_true, decide_eq_true_eq] at accepted
    exact ⟨digits, ⟨shape, accepted.1.2⟩, by omega⟩
  · cases accepted

theorem IsHex.narrow (found : IsHex text digits) : ∀ c ∈ text.toList, c.toNat < 0x80 := by
  intro c member
  rw [found.shape] at member
  rcases List.mem_cons.mp member with rfl | member
  · decide
  · rcases List.mem_cons.mp member with rfl | member
    · decide
    · exact narrow_hex (List.all_eq_true.mp found.hex c member)

theorem IsHex.lower (found : IsHex text digits) : IsHex (lower text) (digits.map Char.toLower) := by
  refine ⟨?_, all_isHexDigit_lower found.hex⟩
  rw [lower_toList, found.shape]
  rfl

theorem IsHex.lowerAscii (found : IsHex text digits) : lowerAscii (ofString text) = ofString (Bnbera.lower text) := by
  rw [ofString_eq_units found.narrow, ofString_eq_units found.lower.narrow, lowerAscii_units found.narrow]

theorem IsHex.units (found : IsHex text digits) :
    ofString text = 0x30 :: 0x78 :: digits.map (fun c => Fin.ofNat _ c.toNat) ∧
      (digits.map fun c => (Fin.ofNat _ c.toNat : CodeUnit)).all isHexUnit = true := by
  refine ⟨?_, ?_⟩
  · rw [ofString_eq_units found.narrow, JsonText.units, found.shape]
    rfl
  · refine List.all_eq_true.mpr fun unit member => ?_
    obtain ⟨c, inside, rfl⟩ := List.mem_map.mp member
    exact isHexUnit_hex (List.all_eq_true.mp found.hex c inside)

end

theorem isHexUnit_lower {c : CodeUnit} : isHexUnit (lowerUnit c) = isHexUnit c := by
  have bound := c.isLt
  unfold lowerUnit
  split
  · have value : (c.val + 32) % 0x10000 = c.val + 32 := Nat.mod_eq_of_lt (by omega)
    rw [Bool.eq_iff_iff]
    simp only [isHexUnit, Fin.val_ofNat, value, Bool.or_eq_true, Bool.and_eq_true, decide_eq_true_eq]
    omega
  · rfl

theorem all_isHexUnit_lower (text : Text) : (lowerAscii text).all isHexUnit = text.all isHexUnit := by
  rw [lowerAscii, List.all_map]
  exact congrArg text.all (funext fun _ => isHexUnit_lower)

theorem lowerUnit_zero {c : CodeUnit} : lowerUnit c = 0x30 ↔ c = 0x30 := by
  have bound := c.isLt
  simp only [Fin.ext_iff, lowerUnit]
  split
  · have value : (c.val + 32) % 0x10000 = c.val + 32 := Nat.mod_eq_of_lt (by omega)
    simp only [Fin.val_ofNat, value]
    omega
  · rfl

theorem lowerUnit_x {c : CodeUnit} : lowerUnit c = 0x78 ↔ c = 0x78 ∨ c = 0x58 := by
  have bound := c.isLt
  simp only [Fin.ext_iff, lowerUnit]
  split
  · have value : (c.val + 32) % 0x10000 = c.val + 32 := Nat.mod_eq_of_lt (by omega)
    simp only [Fin.val_ofNat, value]
    omega
  · omega

theorem isHexText_text_iff {length : Nat} {text : Text} : Seller.isHexText length text = true ↔
    ∃ x digits, text = 0x30 :: x :: digits ∧ (x = 0x78 ∨ x = 0x58) ∧ digits.length = length ∧ digits.all isHexUnit = true := by
  unfold Seller.isHexText
  split
  · next x digits =>
    simp only [Bool.and_eq_true, Bool.or_eq_true, beq_iff_eq]
    constructor
    · exact fun accepted => ⟨x, digits, rfl, accepted.1.1, accepted.1.2, accepted.2⟩
    · rintro ⟨_, _, same, accepted⟩
      cases same
      exact ⟨⟨accepted.1, accepted.2.1⟩, accepted.2.2⟩
  · next other => exact ⟨nofun, fun ⟨x, digits, same, _⟩ => absurd same (other x digits)⟩

theorem lowerAscii_lowerAscii (text : Text) : lowerAscii (lowerAscii text) = lowerAscii text := by
  have again : ∀ c : CodeUnit, lowerUnit (lowerUnit c) = lowerUnit c := by
    intro c
    have bound := c.isLt
    refine Fin.ext ?_
    unfold lowerUnit
    by_cases capital : 65 ≤ c.val ∧ c.val ≤ 90
    · have value : (c.val + 32) % 0x10000 = c.val + 32 := Nat.mod_eq_of_lt (by omega)
      rw [if_pos capital, if_neg]
      simp only [Fin.val_ofNat, value]
      omega
    · rw [if_neg capital, if_neg capital]
  rw [lowerAscii, lowerAscii, List.map_map]
  exact List.map_congr_left fun c _ => again c

end Bnbera.Altana
