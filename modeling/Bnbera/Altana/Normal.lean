import Mathlib.Algebra.Ring.Int.Defs
import Bnbera.Validation
import Mathlib.Data.List.Sort
import Mathlib.Data.List.Dedup

namespace Bnbera.Altana

inductive AltanaBoundaryErrorCode
  | invalidAddress
  | invalidSelector
  | invalidChain
  | invalidExpiry
  | emptyAllowlist
  | invalidSpendLimit
  | policyBoundExceeded
  | callNotAllowed
  | nativeValueExceeded
  | invalidSpendRequest
  | spendNotAllowed
  | spendUnverified
  | spendLimitExceeded
  | authorityReadRequired
  | authorityStale
  | sessionIdMismatch
  | policyDigestMismatch
  | sessionMaterialEmpty
  | sessionMaterialConsumed
  | sessionHandoffFailed
  | sessionNotActive
  | sensitiveEvidenceField
  | invalidEvidenceValue
deriving DecidableEq

structure AltanaBoundaryError where
  code : AltanaBoundaryErrorCode
  message : String
  retriable : Bool := false
deriving DecidableEq

abbrev Checked (α : Type) := Except AltanaBoundaryError α

/-- `if (fails) throw new AltanaBoundaryError(code, message);` -/
def refuse (fails : Prop) [Decidable fails] (code : AltanaBoundaryErrorCode) (message : String) : Checked Unit :=
  refuseIf fails ⟨code, message, false⟩

inductive PermissionPeriod
  | call
  | hour
  | day
  | week
  | lifetime
deriving DecidableEq

def PermissionPeriod.text : PermissionPeriod → String
  | call => "call"
  | hour => "hour"
  | day => "day"
  | week => "week"
  | lifetime => "lifetime"

/-- `Address | "native"` -/
inductive SpendToken
  | native
  | address (text : String)
deriving DecidableEq

def SpendToken.text : SpendToken → String
  | native => "native"
  | address text => text

structure CallPermission where
  target : String
  selectors : List String
  maxNativeValueWei : Int
deriving DecidableEq

structure SpendPermission where
  token : SpendToken
  limitAtomic : Int
  period : PermissionPeriod
deriving DecidableEq

structure ScopedPolicy where
  chainId : Nat
  adminAddress : String
  walletAddress : String
  sessionPublicAddress : String
  sessionPublicKey : Option String := none
  calls : List CallPermission
  spend : List SpendPermission
  expiresAtUnix : Int
deriving DecidableEq

structure SpendCharge where
  token : SpendToken
  amountAtomic : Int
  period : PermissionPeriod
deriving DecidableEq

abbrev CumulativeSpend := SpendCharge

structure ActionRequest where
  target : String
  selector : String
  valueWei : Int
  spends : List SpendCharge
deriving DecidableEq

structure SpendBucket where
  token : SpendToken
  period : PermissionPeriod
deriving DecidableEq

def SpendPermission.bucket (permission : SpendPermission) : SpendBucket := ⟨permission.token, permission.period⟩

def SpendCharge.bucket (charge : SpendCharge) : SpendBucket := ⟨charge.token, charge.period⟩

/-- The key of the bucket: `token`, a colon and `period`. -/
def SpendBucket.key (bucket : SpendBucket) : String := bucket.token.text ++ ":" ++ bucket.period.text

/-- `Number.isSafeInteger(value)` -/
def isSafeInteger (value : Int) : Prop := -(2 ^ 53 - 1) ≤ value ∧ value ≤ 2 ^ 53 - 1

instance (value : Int) : Decidable (isSafeInteger value) := inferInstanceAs (Decidable (_ ∧ _))

@[simp] theorem refuse_eq_ok {fails : Prop} [Decidable fails] {code : AltanaBoundaryErrorCode} {message : String}
    {done : Unit} : refuse fails code message = .ok done ↔ ¬fails := refuseIf_eq_ok

/-- `/^0x[a-fA-F0-9]{length}$/` -/
def isHexText (length : Nat) (text : String) : Bool :=
  match text.toList with
  | '0' :: 'x' :: digits => digits.length == length && digits.all isHexDigit
  | _ => false

/-- `/^0x[a-fA-F0-9]{64,260}$/` with whole bytes. -/
def isSessionPublicKey (text : String) : Bool :=
  match text.toList with
  | '0' :: 'x' :: digits =>
    64 ≤ digits.length && digits.length ≤ 260 && digits.all isHexDigit && digits.length % 2 == 0
  | _ => false

def normalizeAddress (value : String) : Checked String := do
  refuse (¬isHexText 40 value) .invalidAddress "An allowlist address must be a 20-byte hexadecimal address."
  return lower value

def normalizeSelector (value : String) : Checked String := do
  refuse (¬isHexText 8 value) .invalidSelector "An allowlist selector must be exactly four bytes."
  return lower value

def normalizeSessionPublicKey (value : String) : Checked String := do
  refuse (¬isSessionPublicKey value) .invalidAddress "A session public key must be a non-empty hexadecimal key."
  return lower value

/-- `token === "native" ? "native" : normalizeAddress(token)` -/
def normalizeToken : SpendToken → Checked SpendToken
  | .native => .ok .native
  | .address text => (normalizeAddress text).map .address

def normalizeCallPermission (permission : CallPermission) : Checked CallPermission := do
  refuse (permission.maxNativeValueWei < 0) .invalidSpendLimit "A native-value limit cannot be negative."
  let selectors ← permission.selectors.mapM normalizeSelector
  refuse (selectors = []) .emptyAllowlist "Every allowlisted contract must name at least one selector."
  let target ← normalizeAddress permission.target
  return { target, selectors := selectors.dedup.insertionSort (· ≤ ·), maxNativeValueWei := permission.maxNativeValueWei }

def normalizeSpendPermission (permission : SpendPermission) : Checked SpendPermission := do
  refuse (permission.limitAtomic < 0) .invalidSpendLimit "A token spend limit cannot be negative."
  let token ← normalizeToken permission.token
  return { token, limitAtomic := permission.limitAtomic, period := permission.period }

def sortCalls (calls : List CallPermission) : List CallPermission :=
  calls.insertionSort fun left right => left.target ≤ right.target

def sortSpend (spend : List SpendPermission) : List SpendPermission :=
  spend.insertionSort fun left right => left.bucket.key ≤ right.bucket.key

def normalizePolicy (policy : ScopedPolicy) : Checked ScopedPolicy := do
  refuse (policy.chainId ≠ 56 ∧ policy.chainId ≠ 97) .invalidChain "Only BSC chain 56 or 97 is supported."
  refuse (¬isSafeInteger policy.expiresAtUnix ∨ policy.expiresAtUnix ≤ 0) .invalidExpiry
    "Policy expiry must be a positive Unix-second integer."
  refuse (policy.calls = []) .emptyAllowlist "A runtime session must contain at least one explicit call permission."
  let calls ← policy.calls.mapM normalizeCallPermission
  let spend ← policy.spend.mapM normalizeSpendPermission
  refuse (∃ entry ∈ spend, entry.limitAtomic = 0) .invalidSpendLimit
    "A spend permission must have a positive limit or be omitted."
  let adminAddress ← normalizeAddress policy.adminAddress
  let walletAddress ← normalizeAddress policy.walletAddress
  let sessionPublicAddress ← normalizeAddress policy.sessionPublicAddress
  let sessionPublicKey ← policy.sessionPublicKey.mapM normalizeSessionPublicKey
  return {
    chainId := policy.chainId
    adminAddress, walletAddress, sessionPublicAddress, sessionPublicKey
    calls := sortCalls calls
    spend := sortSpend spend
    expiresAtUnix := policy.expiresAtUnix }

def assertPolicyValidAt (policy : ScopedPolicy) (nowUnix : Int) : Checked ScopedPolicy := do
  let normalized ← normalizePolicy policy
  refuse (¬isSafeInteger nowUnix ∨ nowUnix ≥ normalized.expiresAtUnix) .invalidExpiry
    "Policy must expire after the current Unix-second time."
  return normalized

def isCallAllowed (policy : ScopedPolicy) (request : ActionRequest) : Checked Bool := do
  let target ← normalizeAddress request.target
  let selector ← normalizeSelector request.selector
  return policy.calls.any fun entry =>
    entry.target == target && entry.selectors.contains selector && decide (0 ≤ request.valueWei) &&
      decide (request.valueWei ≤ entry.maxNativeValueWei)

def assertCallAllowed (policy : ScopedPolicy) (request : ActionRequest) (nowUnix : Int) : Checked Unit := do
  let _ ← assertPolicyValidAt policy nowUnix
  let allowed ← isCallAllowed policy request
  refuse (allowed = false) (if request.valueWei > 0 then .nativeValueExceeded else .callNotAllowed)
    "The requested target, selector, or native value is outside the scoped policy."

def normalizeAmount (message : String) (charge : SpendCharge) : Checked SpendCharge := do
  refuse (charge.amountAtomic < 0) .invalidSpendRequest message
  let token ← normalizeToken charge.token
  return { token, amountAtomic := charge.amountAtomic, period := charge.period }

def normalizeSpendCharge : SpendCharge → Checked SpendCharge := normalizeAmount "A spend charge cannot be negative."

def normalizeCumulativeSpend : CumulativeSpend → Checked CumulativeSpend :=
  normalizeAmount "Cumulative spend cannot be negative."

def sameSpendBucket (permission : SpendPermission) (charge : SpendCharge) : Bool :=
  permission.bucket == charge.bucket

/-- `reduce((total, entry) => total + entry.amountAtomic, 0n)` over the entries that count. -/
def totalOf (counts : SpendCharge → Bool) (entries : List SpendCharge) : Int :=
  ((entries.filter counts).map (·.amountAtomic)).sum

def permissionFor (spend : List SpendPermission) (charge : SpendCharge) : Option SpendPermission :=
  spend.find? fun candidate => sameSpendBucket candidate charge

/-- `chargeTotals.set(key, ...)`: the charge added to the total of its key, at the place the key has. -/
def addCharge : List SpendCharge → SpendCharge → List SpendCharge
  | [], charge => [charge]
  | total :: rest, charge =>
    if total.bucket.key = charge.bucket.key then
      { charge with amountAtomic := total.amountAtomic + charge.amountAtomic } :: rest
    else total :: addCharge rest charge

def chargeTotals (charges : List SpendCharge) : List SpendCharge := charges.foldl addCharge []

def checkTotal (spend : List SpendPermission) (usage : List CumulativeSpend) (charge : SpendCharge) : Checked Unit :=
  match permissionFor spend charge with
  | none => .error ⟨.spendNotAllowed, "The requested token or spend period is outside the scoped policy.", false⟩
  | some permission =>
    refuse (totalOf (fun entry => entry.bucket == charge.bucket) usage + charge.amountAtomic > permission.limitAtomic)
      .spendLimitExceeded "The requested spend exceeds the scoped cumulative limit."

/-- The call of the request and its charges, on top of the usage of each bucket so far. -/
def assertActionWithinPolicy (policy : ScopedPolicy) (request : ActionRequest) (nowUnix : Int)
    (cumulativeSpend : List CumulativeSpend) : Checked Unit := do
  let _ ← assertPolicyValidAt policy nowUnix
  assertCallAllowed policy request nowUnix
  let normalizedPolicy ← normalizePolicy policy
  let charges ← request.spends.mapM normalizeSpendCharge
  let usage ← cumulativeSpend.mapM normalizeCumulativeSpend
  refuse (totalOf (fun charge => charge.token == .native) charges ≠ request.valueWei) .spendUnverified
    "Native call value must match the explicit native spend charge."
  usage.forM fun previous =>
    refuse (permissionFor normalizedPolicy.spend previous = none) .spendUnverified
      "Cumulative spend contains an unsupported token or period."
  normalizedPolicy.spend.forM fun permission =>
    refuse (totalOf (sameSpendBucket permission) usage > permission.limitAtomic) .spendLimitExceeded
      "Existing cumulative spend is already outside the scoped limit."
  (chargeTotals charges).forM (checkTotal normalizedPolicy.spend usage)

inductive EvidenceStatus
  | notRun
  | inProgress
  | passed
  | failed
  | blocked
deriving DecidableEq

structure PublicCall where
  target : String
  selectors : List String
  maxNativeValueWei : String
deriving DecidableEq

structure PublicSpend where
  token : SpendToken
  limitAtomic : String
  period : PermissionPeriod
deriving DecidableEq

structure PublicPolicySummary where
  chainId : Nat
  adminAddress : String
  walletAddress : String
  sessionPublicAddress : String
  calls : List PublicCall
  spend : List PublicSpend
  expiresAtUnix : Int
deriving DecidableEq

structure PublicSpendEvidence where
  token : SpendToken
  amountAtomic : String
  period : PermissionPeriod
deriving DecidableEq

structure ExpectedActionEvidence where
  chainId : Nat
  target : String
  selector : String
  valueWei : String
  spends : List PublicSpendEvidence
deriving DecidableEq

/-- The part of the evidence that the policy and the expected action are attached to. -/
structure PhaseZeroEvidence where
  status : EvidenceStatus := .notRun
  policy : Option PublicPolicySummary := none
  expectedAction : Option ExpectedActionEvidence := none
deriving DecidableEq

/-- `value.toString(10)` -/
def decimalText (value : Int) : String := toString value

def publicCall (entry : CallPermission) : PublicCall :=
  ⟨entry.target, entry.selectors, decimalText entry.maxNativeValueWei⟩

def publicSpend (entry : SpendPermission) : PublicSpend := ⟨entry.token, decimalText entry.limitAtomic, entry.period⟩

def toPublicPolicySummary (policy : ScopedPolicy) : Checked PublicPolicySummary := do
  let normalized ← normalizePolicy policy
  return {
    chainId := normalized.chainId
    adminAddress := normalized.adminAddress
    walletAddress := normalized.walletAddress
    sessionPublicAddress := normalized.sessionPublicAddress
    calls := normalized.calls.map publicCall
    spend := normalized.spend.map publicSpend
    expiresAtUnix := normalized.expiresAtUnix }

def attachPolicyToEvidence (evidence : PhaseZeroEvidence) (policy : ScopedPolicy) : Checked PhaseZeroEvidence := do
  let summary ← toPublicPolicySummary policy
  return { evidence with status := .inProgress, policy := some summary }

def publicCharge (charge : SpendCharge) : Checked PublicSpendEvidence := do
  refuse (charge.amountAtomic < 0) .invalidEvidenceValue
    "Expected action spend charges must use non-negative bigint amounts and bounded periods."
  let token ← normalizeToken charge.token
  return { token, amountAtomic := decimalText charge.amountAtomic, period := charge.period }

/-- `BigInt(text)` of decimal digits. -/
def bigintOf (text : String) : Int := decimalValue text

def attachExpectedAction (evidence : PhaseZeroEvidence) (request : ActionRequest) (chainId : Nat) :
    Checked PhaseZeroEvidence := do
  refuse (request.valueWei < 0) .invalidEvidenceValue "Expected action native value must be a non-negative bigint."
  let spends ← request.spends.mapM publicCharge
  let nativeCharge := ((spends.filter fun charge => charge.token == .native).map fun charge =>
    bigintOf charge.amountAtomic).sum
  refuse (nativeCharge ≠ request.valueWei) .invalidEvidenceValue
    "Expected action native value must match its explicit native spend charges."
  let target ← normalizeAddress request.target
  let selector ← normalizeSelector request.selector
  return { evidence with
    status := .inProgress
    expectedAction := some { chainId, target, selector, valueWei := decimalText request.valueWei, spends } }

/-- A decimal text, `/^\d+$/`, as its value. -/
def parseAtomic (value label : String) : Checked Int := do
  refuse (value.toList = [] ∨ ¬value.toList.all isDigit) .invalidEvidenceValue
    (label ++ " must be a non-negative decimal string.")
  return bigintOf value

def publicAmount (label : String) (spend : PublicSpendEvidence) : Checked SpendCharge := do
  let token ← normalizeToken spend.token
  let amountAtomic ← parseAtomic spend.amountAtomic (label ++ " spend amount")
  return { token, amountAtomic, period := spend.period }

def normalizePublicSpends (valueWeiRaw : String) (spends : List PublicSpendEvidence) (label : String) :
    Checked (Int × List SpendCharge) := do
  let valueWei ← parseAtomic valueWeiRaw (label ++ " native value")
  let amounts ← spends.mapM (publicAmount label)
  refuse (totalOf (fun spend => spend.token == .native) amounts ≠ valueWei) .invalidEvidenceValue
    (label ++ " native value does not match its spend evidence.")
  return (valueWei, chargeTotals amounts)

/-- Two texts that `normalize` accepts and makes one. -/
def sameNormalized (normalize : String → Checked String) (left right : String) : Bool :=
  match normalize left, normalize right with
  | .ok left, .ok right => left == right
  | _, _ => false

def sameAddress : String → String → Bool := sameNormalized normalizeAddress

def sameSelector : String → String → Bool := sameNormalized normalizeSelector

def samePublicBucket (permission : PublicSpend) (total : SpendCharge) : Checked Bool := do
  let left ← normalizeToken permission.token
  let right ← normalizeToken total.token
  return left == right && permission.period == total.period

def checkPublicTotal (permissions : List PublicSpend) (total : SpendCharge) : Checked Unit := do
  let uncovered := "Expected action spend is not covered by the public spend policy."
  let permission ← permissions.findM? fun candidate => samePublicBucket candidate total
  match permission with
  | none => .error ⟨.invalidEvidenceValue, uncovered, false⟩
  | some permission =>
    let limit ← parseAtomic permission.limitAtomic "spend policy limit"
    refuse (total.amountAtomic > limit) .invalidEvidenceValue uncovered

def validateExpectedSpendCoverage (permissions : List PublicSpend) (totals : List SpendCharge) : Checked Unit :=
  totals.forM (checkPublicTotal permissions)

def checkPublicCall (calls : List PublicCall) (expected : ExpectedActionEvidence) (valueWei : Int) : Checked Unit := do
  let uncovered := "Expected action is not covered by the public call policy."
  let matchingCall := calls.find? fun call =>
    sameAddress call.target expected.target && call.selectors.any fun selector => sameSelector selector expected.selector
  match matchingCall with
  | none => .error ⟨.invalidEvidenceValue, uncovered, false⟩
  | some call =>
    let limit ← parseAtomic call.maxNativeValueWei "native-value policy limit"
    refuse (limit < valueWei) .invalidEvidenceValue uncovered

/-- The checks of `validateCompleteEvidence` that the expected action is covered by the policy. -/
def validateCoverage (evidence : PhaseZeroEvidence) : Checked Unit :=
  match evidence.status, evidence.policy, evidence.expectedAction with
  | .inProgress, some policy, some expected => do
    let expectedSpend ← normalizePublicSpends expected.valueWei expected.spends "expected action"
    checkPublicCall policy.calls expected expectedSpend.1
    validateExpectedSpendCoverage policy.spend expectedSpend.2
  | _, _, _ => .error ⟨.invalidEvidenceValue, "Phase-zero evidence is incomplete.", false⟩

theorem decimalText_ofNat (value : Nat) : decimalText value = Nat.repr value := rfl

theorem foldl_digits (digits : List Char) (value : Nat) :
    digits.foldl (fun value c => 10 * value + (c.toNat - 48)) value = Nat.ofDigitChars 10 digits value := by
  induction digits generalizing value with
  | nil => rfl
  | cons c rest ih => rw [List.foldl_cons, ih]; rfl

theorem bigintOf_decimalText {value : Int} (nonnegative : 0 ≤ value) : bigintOf (decimalText value) = value := by
  obtain ⟨amount, rfl⟩ := Int.eq_ofNat_of_zero_le nonnegative
  rw [bigintOf, decimalText_ofNat, decimalValue, Nat.toList_repr, foldl_digits, Nat.ofDigitChars_ten_toDigits]

section
variable {ε α β : Type}

theorem mapM_eq_ok {f : α → Except ε β} {accepts : α → Prop} {g : α → β}
    (each : ∀ {a b}, f a = .ok b ↔ accepts a ∧ b = g a) {items : List α} {results : List β} :
    items.mapM f = .ok results ↔ (∀ a ∈ items, accepts a) ∧ results = items.map g := by
  induction items generalizing results with
  | nil =>
    rw [List.mapM_nil]
    constructor
    · intro same
      cases same
      exact ⟨fun a member => (nomatch member), rfl⟩
    · rintro ⟨-, rfl⟩
      rfl
  | cons item rest ih =>
    rw [List.mapM_cons, bind_eq_ok]
    constructor
    · rintro ⟨value, first, others⟩
      obtain ⟨accepted, rfl⟩ := each.mp first
      obtain ⟨values, later, same⟩ := bind_eq_ok.mp others
      obtain ⟨all, rfl⟩ := ih.mp later
      cases same
      exact ⟨List.forall_mem_cons.mpr ⟨accepted, all⟩, rfl⟩
    · rintro ⟨all, rfl⟩
      obtain ⟨accepted, later⟩ := List.forall_mem_cons.mp all
      exact ⟨g item, each.mpr ⟨accepted, rfl⟩, bind_eq_ok.mpr ⟨rest.map g, ih.mpr ⟨later, rfl⟩, rfl⟩⟩

theorem option_mapM_eq_ok {f : α → Except ε β} {accepts : α → Prop} {g : α → β}
    (each : ∀ {a b}, f a = .ok b ↔ accepts a ∧ b = g a) {value : Option α} {result : Option β} :
    value.mapM f = .ok result ↔ (∀ a ∈ value, accepts a) ∧ result = value.map g := by
  cases value with
  | none =>
    constructor
    · intro same
      cases same
      exact ⟨fun a member => (nomatch member), rfl⟩
    · rintro ⟨-, rfl⟩
      rfl
  | some value =>
    have unfolded : (some value).mapM f = (f value).map some := by
      simp only [Option.mapM_some]
      cases f value <;> rfl
    rw [unfolded, map_eq_ok]
    constructor
    · rintro ⟨found, present, rfl⟩
      obtain ⟨accepted, rfl⟩ := each.mp present
      exact ⟨fun a member => by cases member; exact accepted, rfl⟩
    · rintro ⟨accepted, rfl⟩
      exact ⟨g value, each.mpr ⟨accepted value rfl, rfl⟩, rfl⟩

theorem forM_list_eq_ok {check : α → Except ε PUnit} {items : List α} {done : PUnit} :
    items.forM check = .ok done ↔ ∀ item ∈ items, check item = .ok () := by
  induction items with
  | nil => exact ⟨fun _ item member => (nomatch member), fun _ => rfl⟩
  | cons item rest ih =>
    have unfolded : (item :: rest).forM check = (check item >>= fun _ => rest.forM check) := rfl
    rw [unfolded, bind_eq_ok, List.forall_mem_cons]
    constructor
    · rintro ⟨⟨⟩, first, later⟩
      exact ⟨first, ih.mp later⟩
    · rintro ⟨first, later⟩
      exact ⟨(), first, ih.mpr later⟩

end

theorem refuse_bind {α : Type} {fails : Prop} [Decidable fails] {code : AltanaBoundaryErrorCode} {message : String}
    {rest : Unit → Checked α} {result : α} :
    (refuse fails code message >>= rest) = .ok result ↔ ¬fails ∧ rest () = .ok result := by
  rw [bind_eq_ok]
  constructor
  · rintro ⟨⟨⟩, passed, later⟩
    exact ⟨refuse_eq_ok.mp passed, later⟩
  · rintro ⟨passed, later⟩
    exact ⟨(), refuse_eq_ok.mpr passed, later⟩

theorem pure_eq_ok {α : Type} {value result : α} : (pure value : Checked α) = .ok result ↔ result = value :=
  ⟨fun same => by cases same; rfl, fun same => by rw [same]; rfl⟩

theorem normalizeAddress_eq_ok {value result : String} :
    normalizeAddress value = .ok result ↔ isHexText 40 value = true ∧ result = lower value := by
  rw [normalizeAddress, refuse_bind, not_not, pure_eq_ok]

theorem normalizeSelector_eq_ok {value result : String} :
    normalizeSelector value = .ok result ↔ isHexText 8 value = true ∧ result = lower value := by
  rw [normalizeSelector, refuse_bind, not_not, pure_eq_ok]

theorem normalizeSessionPublicKey_eq_ok {value result : String} :
    normalizeSessionPublicKey value = .ok result ↔ isSessionPublicKey value = true ∧ result = lower value := by
  rw [normalizeSessionPublicKey, refuse_bind, not_not, pure_eq_ok]

def SpendToken.Acceptable : SpendToken → Prop
  | native => True
  | address text => isHexText 40 text = true

def SpendToken.normal : SpendToken → SpendToken
  | native => .native
  | address text => .address (lower text)

theorem normalizeToken_eq_ok {token result : SpendToken} :
    normalizeToken token = .ok result ↔ token.Acceptable ∧ result = token.normal := by
  cases token with
  | native => exact ⟨fun same => by cases same; exact ⟨trivial, rfl⟩, fun same => by rw [same.2]; rfl⟩
  | address text =>
    rw [normalizeToken, map_eq_ok]
    constructor
    · rintro ⟨found, present, rfl⟩
      obtain ⟨accepted, rfl⟩ := normalizeAddress_eq_ok.mp present
      exact ⟨accepted, rfl⟩
    · rintro ⟨accepted, rfl⟩
      exact ⟨_, normalizeAddress_eq_ok.mpr ⟨accepted, rfl⟩, rfl⟩

structure CallPermission.Acceptable (permission : CallPermission) : Prop where
  nonnegative : 0 ≤ permission.maxNativeValueWei
  selectors : ∀ selector ∈ permission.selectors, isHexText 8 selector = true
  named : permission.selectors ≠ []
  target : isHexText 40 permission.target = true

def CallPermission.normal (permission : CallPermission) : CallPermission where
  target := lower permission.target
  selectors := (permission.selectors.map lower).dedup.insertionSort (· ≤ ·)
  maxNativeValueWei := permission.maxNativeValueWei

theorem normalizeCallPermission_eq_ok {permission result : CallPermission} :
    normalizeCallPermission permission = .ok result ↔ permission.Acceptable ∧ result = permission.normal := by
  rw [normalizeCallPermission, refuse_bind, not_lt, bind_eq_ok]
  constructor
  · rintro ⟨nonnegative, selectors, accepted, others⟩
    obtain ⟨each, rfl⟩ := (mapM_eq_ok normalizeSelector_eq_ok).mp accepted
    rw [refuse_bind, bind_eq_ok] at others
    obtain ⟨named, target, address, same⟩ := others
    obtain ⟨hex, rfl⟩ := normalizeAddress_eq_ok.mp address
    exact ⟨⟨nonnegative, each, fun none => named (by rw [none]; rfl), hex⟩, pure_eq_ok.mp same⟩
  · rintro ⟨accepted, rfl⟩
    refine ⟨accepted.nonnegative, _, (mapM_eq_ok normalizeSelector_eq_ok).mpr ⟨accepted.selectors, rfl⟩, ?_⟩
    rw [refuse_bind, bind_eq_ok]
    exact ⟨fun none => accepted.named (List.map_eq_nil_iff.mp none), _,
      normalizeAddress_eq_ok.mpr ⟨accepted.target, rfl⟩, rfl⟩

/-- What `normalizeSpendPermission` accepts. -/
structure SpendPermission.Acceptable (permission : SpendPermission) : Prop where
  nonnegative : 0 ≤ permission.limitAtomic
  token : permission.token.Acceptable

def SpendPermission.normal (permission : SpendPermission) : SpendPermission :=
  { permission with token := permission.token.normal }

theorem normalizeSpendPermission_eq_ok {permission result : SpendPermission} :
    normalizeSpendPermission permission = .ok result ↔ permission.Acceptable ∧ result = permission.normal := by
  rw [normalizeSpendPermission, refuse_bind, not_lt, bind_eq_ok]
  constructor
  · rintro ⟨nonnegative, token, accepted, same⟩
    obtain ⟨hex, rfl⟩ := normalizeToken_eq_ok.mp accepted
    exact ⟨⟨nonnegative, hex⟩, pure_eq_ok.mp same⟩
  · rintro ⟨accepted, rfl⟩
    exact ⟨accepted.nonnegative, _, normalizeToken_eq_ok.mpr ⟨accepted.token, rfl⟩, rfl⟩

structure SpendCharge.Acceptable (charge : SpendCharge) : Prop where
  nonnegative : 0 ≤ charge.amountAtomic
  token : charge.token.Acceptable

def SpendCharge.normal (charge : SpendCharge) : SpendCharge := { charge with token := charge.token.normal }

theorem normalizeAmount_eq_ok {message : String} {charge result : SpendCharge} :
    normalizeAmount message charge = .ok result ↔ charge.Acceptable ∧ result = charge.normal := by
  rw [normalizeAmount, refuse_bind, not_lt, bind_eq_ok]
  constructor
  · rintro ⟨nonnegative, token, accepted, same⟩
    obtain ⟨hex, rfl⟩ := normalizeToken_eq_ok.mp accepted
    exact ⟨⟨nonnegative, hex⟩, pure_eq_ok.mp same⟩
  · rintro ⟨accepted, rfl⟩
    exact ⟨accepted.nonnegative, _, normalizeToken_eq_ok.mpr ⟨accepted.token, rfl⟩, rfl⟩

structure ScopedPolicy.Acceptable (policy : ScopedPolicy) : Prop where
  chain : policy.chainId = 56 ∨ policy.chainId = 97
  expiry : isSafeInteger policy.expiresAtUnix ∧ 0 < policy.expiresAtUnix
  named : policy.calls ≠ []
  calls : ∀ entry ∈ policy.calls, entry.Acceptable
  spend : ∀ entry ∈ policy.spend, entry.Acceptable ∧ entry.limitAtomic ≠ 0
  admin : isHexText 40 policy.adminAddress = true
  wallet : isHexText 40 policy.walletAddress = true
  session : isHexText 40 policy.sessionPublicAddress = true
  key : ∀ value ∈ policy.sessionPublicKey, isSessionPublicKey value = true

def ScopedPolicy.normal (policy : ScopedPolicy) : ScopedPolicy where
  chainId := policy.chainId
  adminAddress := lower policy.adminAddress
  walletAddress := lower policy.walletAddress
  sessionPublicAddress := lower policy.sessionPublicAddress
  sessionPublicKey := policy.sessionPublicKey.map lower
  calls := sortCalls (policy.calls.map CallPermission.normal)
  spend := sortSpend (policy.spend.map SpendPermission.normal)
  expiresAtUnix := policy.expiresAtUnix

theorem normalizePolicy_eq_ok {policy result : ScopedPolicy} :
    normalizePolicy policy = .ok result ↔ policy.Acceptable ∧ result = policy.normal := by
  simp only [normalizePolicy, bind_eq_ok, refuse_eq_ok, exists_const]
  constructor
  · rintro ⟨chain, expiry, named, calls, eachCall, spend, eachSpend, limits, admin, adminOk, wallet, walletOk,
      session, sessionOk, key, keyOk, same⟩
    obtain ⟨callsOk, rfl⟩ := (mapM_eq_ok normalizeCallPermission_eq_ok).mp eachCall
    obtain ⟨spendOk, rfl⟩ := (mapM_eq_ok normalizeSpendPermission_eq_ok).mp eachSpend
    obtain ⟨adminHex, rfl⟩ := normalizeAddress_eq_ok.mp adminOk
    obtain ⟨walletHex, rfl⟩ := normalizeAddress_eq_ok.mp walletOk
    obtain ⟨sessionHex, rfl⟩ := normalizeAddress_eq_ok.mp sessionOk
    obtain ⟨keyHex, rfl⟩ := (option_mapM_eq_ok normalizeSessionPublicKey_eq_ok).mp keyOk
    refine ⟨⟨by omega, ⟨?_, by omega⟩, named, callsOk, ?_, adminHex, walletHex, sessionHex, keyHex⟩, pure_eq_ok.mp same⟩
    · by_contra unsafe'
      exact expiry (.inl unsafe')
    · intro entry member
      exact ⟨spendOk entry member, fun zero => limits ⟨_, List.mem_map_of_mem member, zero⟩⟩
  · rintro ⟨accepted, rfl⟩
    have positive := accepted.expiry.2
    refine ⟨by have := accepted.chain; omega, ?_, accepted.named, _,
      (mapM_eq_ok normalizeCallPermission_eq_ok).mpr ⟨accepted.calls, rfl⟩, _,
      (mapM_eq_ok normalizeSpendPermission_eq_ok).mpr ⟨fun entry member => (accepted.spend entry member).1, rfl⟩, ?_,
      _, normalizeAddress_eq_ok.mpr ⟨accepted.admin, rfl⟩, _, normalizeAddress_eq_ok.mpr ⟨accepted.wallet, rfl⟩,
      _, normalizeAddress_eq_ok.mpr ⟨accepted.session, rfl⟩, _,
      (option_mapM_eq_ok normalizeSessionPublicKey_eq_ok).mpr ⟨accepted.key, rfl⟩, rfl⟩
    · rintro (unsafe' | early)
      · exact unsafe' accepted.expiry.1
      · omega
    · rintro ⟨entry, member, zero⟩
      obtain ⟨source, found, rfl⟩ := List.mem_map.mp member
      exact (accepted.spend source found).2 zero

end Bnbera.Altana
