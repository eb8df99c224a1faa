import Bnbera.CanonicalJson.Splitting
import Bnbera.Domain
import Bnbera.Patterns
import Bnbera.Interleaving.Relying

namespace Bnbera.Bootstrap

/-- `ADDRESS_PATTERN`; the `i` flag lets `0X` pass as well. -/
def isWalletAddress (text : String) : Bool :=
  match text.toList with
  | '0' :: x :: digits => x.toLower == 'x' && digits.length == 40 && digits.all isHexDigit
  | _ => false

theorem isWalletAddress_lower {text : String} (accepted : isWalletAddress text = true) :
    isWalletAddress (lower text) = true := by
  unfold isWalletAddress at accepted ⊢
  rw [lower_toList]
  split at accepted
  · rename_i x digits chars
    have zero : Char.toLower '0' = '0' := rfl
    simp only [Bool.and_eq_true, chars, List.map_cons, zero, List.length_map, toLower_toLower] at accepted ⊢
    exact ⟨accepted.1, all_isHexDigit_lower accepted.2⟩
  · cases accepted

inductive PasskeyBootstrapStatus
  | unregistered
  | pending
  | confirmed
  | failed
  | unknown
deriving DecidableEq

def PasskeyBootstrapStatus.text : PasskeyBootstrapStatus → String
  | unregistered => "unregistered"
  | pending => "pending"
  | confirmed => "confirmed"
  | failed => "failed"
  | unknown => "unknown"

abbrev Timestamp := Within 0 maxSafeInteger

/-- The record of one wallet. A status code is a number, kept as `String(value)` prints it. -/
structure PasskeyBootstrapRecord where
  walletAddress : String
  callsId : Option String
  transactionHash : Option String
  status : PasskeyBootstrapStatus
  statusCode : Option String
  updatedAt : Timestamp
deriving DecidableEq

def integerOf (text : String) : Option Int :=
  match text.toList with
  | '-' :: digits => if !digits.isEmpty && digits.all isDigit then some (-(decimalValue (String.ofList digits) : Int)) else none
  | digits => if !digits.isEmpty && digits.all isDigit then some (decimalValue text) else none

/-- `Number.isSafeInteger(value)` of a number text. -/
def isSafeIntegerText (text : String) : Bool :=
  (integerOf text).any fun value => -maxSafeInteger ≤ value && value ≤ maxSafeInteger

theorem integerOf_repr (n : Nat) : integerOf n.repr = some (n : Int) := by
  have digits : n.repr.toList.all isDigit = true := by
    refine List.all_eq_true.mpr fun c member => ?_
    rw [Nat.toList_repr] at member
    have digit := Nat.isDigit_of_mem_toDigits (by decide) (by decide) member
    simp only [Char.isDigit, Bool.and_eq_true, decide_eq_true_eq] at digit
    simp only [isDigit, Bool.and_eq_true, decide_eq_true_eq]
    exact digit
  have present : n.repr.toList ≠ [] := by
    rw [Nat.toList_repr]
    exact Nat.toDigits_ne_nil
  have value : decimalValue n.repr = n := by
    have known := decimalValue_repr n
    rwa [String.ofList_toList] at known
  unfold integerOf
  split
  · rename_i rest chars
    rw [chars] at digits
    cases digits
  · have shown : (!n.repr.toList.isEmpty && n.repr.toList.all isDigit) = true := by
      rw [digits, Bool.and_true, Bool.not_eq_true', List.isEmpty_eq_false_iff]
      exact present
    rw [if_pos shown, value]

/-- `JSON.stringify` of a number: those that are not finite become null. -/
def numberJson (text : String) : Json := if ["NaN", "Infinity", "-Infinity"].contains text then .null else .num text

def jsonOrNull (write : String → Json) : Option String → Json
  | none => .null
  | some text => write text

/-- `serializePasskeyBootstrapRecord`, as the value that `JSON.parse` reads from its text. -/
def serializePasskeyBootstrapRecord (record : PasskeyBootstrapRecord) : Json := .obj [
  ("version", .num "1"),
  ("chainId", .num "97"),
  ("walletAddress", .str record.walletAddress),
  ("callsId", jsonOrNull .str record.callsId),
  ("transactionHash", jsonOrNull .str record.transactionHash),
  ("status", .str record.status.text),
  ("statusCode", jsonOrNull numberJson record.statusCode),
  ("updatedAt", .whole record.updatedAt)]

def recordStatus : Option Json → Option PasskeyBootstrapStatus
  | some (.str "unregistered") => some .unregistered
  | some (.str "pending") => some .pending
  | some (.str "confirmed") => some .confirmed
  | some (.str "failed") => some .failed
  | some (.str "unknown") => some .unknown
  | _ => none

def updatedAt : Option Json → Option Timestamp
  | some (.num text) => (integerOf text).bind (within? 0 maxSafeInteger)
  | _ => none

def statusCode : Option Json → Option String
  | some (.num text) => if isSafeIntegerText text then some text else none
  | _ => none

/-- A field that must be null or a hash; `none` where it is neither. -/
def readHash : Option Json → Option (Option String)
  | some .null => some none
  | some (.str text) => if isHash text then some (some (lower text)) else none
  | _ => none

def readWallet : Option Json → Option String
  | some (.str text) => if isWalletAddress text then some (lower text) else none
  | _ => none

def parsePasskeyBootstrapRecord : Option Json → Option PasskeyBootstrapRecord
  | some (.obj fields) => do
    let status ← recordStatus (fieldOf fields "status")
    let timestamp ← updatedAt (fieldOf fields "updatedAt")
    let walletAddress ← readWallet (fieldOf fields "walletAddress")
    guard (fieldOf fields "version" matches some (.num "1") ∧ fieldOf fields "chainId" matches some (.num "97"))
    let callsId ← readHash (fieldOf fields "callsId")
    let transactionHash ← readHash (fieldOf fields "transactionHash")
    guard (¬(status = .unregistered ∧ callsId ≠ none))
    return ⟨walletAddress, callsId, transactionHash, status, statusCode (fieldOf fields "statusCode"), timestamp⟩
  | _ => none

theorem recordStatus_text (status : PasskeyBootstrapStatus) : recordStatus (some (.str status.text)) = some status := by
  cases status <;> rfl

theorem updatedAt_whole (time : Timestamp) : updatedAt (some (.whole time)) = some time := by
  have value : ((time.value.toNat : Nat) : Int) = time.value := Int.toNat_of_nonneg time.low_le
  show (integerOf time.value.toNat.repr).bind (within? 0 maxSafeInteger) = some time
  rw [integerOf_repr, Option.bind_some, value]
  exact dif_pos ⟨time.low_le, time.le_high⟩

theorem readHash_json {hash : Option String} (accepted : ∀ text, hash = some text → isHash text = true ∧ lower text = text) :
    readHash (some (jsonOrNull .str hash)) = some hash := by
  cases hash with
  | none => rfl
  | some text =>
    obtain ⟨hashed, lowered⟩ := accepted text rfl
    show (if isHash text then some (some (lower text)) else none) = some (some text)
    rw [if_pos hashed, lowered]

theorem statusCode_json {code : Option String} (safe : ∀ text, code = some text → isSafeIntegerText text = true) :
    statusCode (some (jsonOrNull numberJson code)) = code := by
  cases code with
  | none => rfl
  | some text =>
    have known := safe text rfl
    have finite : ["NaN", "Infinity", "-Infinity"].contains text = false := by
      by_contra other
      rw [Bool.not_eq_false, List.contains_iff_mem] at other
      have apart : ∀ other ∈ ["NaN", "Infinity", "-Infinity"], isSafeIntegerText other = false := by decide
      rw [apart text other] at known
      cases known
    show statusCode (some (numberJson text)) = some text
    rw [numberJson, if_neg (by rw [finite]; decide)]
    exact if_pos known

structure PasskeyBootstrapRecord.Readable (record : PasskeyBootstrapRecord) : Prop where
  walletAddress : isWalletAddress record.walletAddress = true ∧ lower record.walletAddress = record.walletAddress
  callsId : ∀ text, record.callsId = some text → isHash text = true ∧ lower text = text
  transactionHash : ∀ text, record.transactionHash = some text → isHash text = true ∧ lower text = text
  statusCode : ∀ text, record.statusCode = some text → isSafeIntegerText text = true
  unregistered : record.status = .unregistered → record.callsId = none

theorem parse_serialize {record : PasskeyBootstrapRecord} (readable : record.Readable) :
    parsePasskeyBootstrapRecord (some (serializePasskeyBootstrapRecord record)) = some record := by
  have status := recordStatus_text record.status
  have timestamp := updatedAt_whole record.updatedAt
  have wallet : readWallet (some (.str record.walletAddress)) = some record.walletAddress := by
    show (if isWalletAddress record.walletAddress then some (lower record.walletAddress) else none) = _
    rw [if_pos readable.walletAddress.1, readable.walletAddress.2]
  have callsId := readHash_json readable.callsId
  have transactionHash := readHash_json readable.transactionHash
  have code := statusCode_json readable.statusCode
  have registered : guard (record.status = .unregistered → record.callsId = none) = (some () : Option Unit) :=
    if_pos readable.unregistered
  simp [parsePasskeyBootstrapRecord, serializePasskeyBootstrapRecord, status, timestamp, wallet, callsId, transactionHash,
    code, registered]

section

open Interleaving Patterns

inductive PasskeyBootstrapWalletState
  | new_unregistered
  | already_registered
deriving DecidableEq

inductive RelayState
  | pending
  | confirmed
  | failed
deriving DecidableEq

structure PasskeyBootstrapExecuteResult where
  callsId : String
  status : RelayState
  statusCode : Option String
  transactionHash : Option String

structure PasskeyBootstrapRelayStatus where
  status : RelayState
  statusCode : Option String
  transactionHash : Option String

/-- What was thrown: its message where it has one, and the two fields that may hold a calls id. -/
structure PasskeyBootstrapExecutionError where
  message : String
  callsId : Option String
  relayCallsId : Option String

/-- How an execute ends. Whether its bundle has reached the relay the page does not see. -/
inductive ExecuteAnswer
  | returned (result : PasskeyBootstrapExecuteResult)
  | threw (reached : Bool) (cause : PasskeyBootstrapExecutionError)

structure ActivateInput where
  walletAddress : String
  walletState : PasskeyBootstrapWalletState

inductive BootstrapRequest
  | activate (input : ActivateInput)
  | reconcile

/-- What happens at the record slot: a function is entered, and it makes its calls. -/
inductive BootstrapCall
  | entered (request : BootstrapRequest)
  | now
  | execute (walletAddress : String)
  | readStatus (callsId : String)
  | persist (record : PasskeyBootstrapRecord)

abbrev BootstrapCall.Answer : BootstrapCall → Type
  | entered _ => Unit
  | now => Timestamp
  | execute _ => ExecuteAnswer
  | readStatus _ => Option PasskeyBootstrapRelayStatus
  | persist _ => Unit

abbrev BootstrapEntry := Answered BootstrapCall BootstrapCall.Answer
abbrev BootstrapLog := History BootstrapCall BootstrapCall.Answer

structure PasskeyBootstrapOutcome where
  status : String
  record : PasskeyBootstrapRecord
  shouldAuthenticate : Bool
  message : Option String

abbrev Activation := ExceptT String (Program BootstrapCall BootstrapCall.Answer)

def ask (op : BootstrapCall) : Activation op.Answer := ExceptT.mk (Except.ok <$> Program.ask op)

def invalidWallet : String := "The passkey wallet address is invalid."

def createUnregisteredPasskeyBootstrapRecord (walletAddress : String) (now : Timestamp) : Except String PasskeyBootstrapRecord :=
  if isWalletAddress walletAddress then .ok ⟨lower walletAddress, none, none, .unregistered, none, now⟩ else .error invalidWallet

def normalizedHash (value : Option String) : Option String :=
  value.bind fun text => if isHash text then some (lower text) else none

/-- `withRecord`, given the record with its new values. -/
def withRecord (record : PasskeyBootstrapRecord) (now : Timestamp) : PasskeyBootstrapRecord :=
  { record with walletAddress := lower record.walletAddress, updatedAt := now }

def executionStatus : RelayState → PasskeyBootstrapStatus
  | .confirmed => .confirmed
  | .failed => .failed
  | .pending => .pending

def executionRecord (record : PasskeyBootstrapRecord) (result : PasskeyBootstrapExecuteResult) (now : Timestamp) :
    Except String PasskeyBootstrapRecord := do
  let some callsId := normalizedHash (some result.callsId)
    | throw "The passkey activation returned an invalid relay calls ID."
  let transactionHash := normalizedHash result.transactionHash
  if result.transactionHash ≠ none ∧ transactionHash = none then
    throw "The passkey activation returned an invalid transaction hash."
  return withRecord { record with
    callsId := some callsId, transactionHash := transactionHash, status := executionStatus result.status,
    statusCode := result.statusCode } now

def relayedStatus (result : PasskeyBootstrapRelayStatus) : PasskeyBootstrapStatus :=
  match result.status, result.transactionHash with
  | .confirmed, _ => .confirmed
  | .failed, none => .failed
  | .failed, some _ => .unknown
  | .pending, _ => .pending

def relayRecord (record : PasskeyBootstrapRecord) (result : PasskeyBootstrapRelayStatus) (now : Timestamp) :
    PasskeyBootstrapRecord :=
  withRecord { record with
    status := relayedStatus result, transactionHash := result.transactionHash.or record.transactionHash,
    statusCode := result.statusCode } now

def errorCallsId (cause : PasskeyBootstrapExecutionError) : Option String :=
  (normalizedHash cause.callsId).or (normalizedHash cause.relayCallsId)

/-- The letter that the flags `iu` compare. -/
def folded (c : Char) : Char := if c = 'ſ' then 's' else if c = 'K' then 'k' else c.toLower

def isLineEnd (c : Char) : Bool := c == '\n' || c == '\r' || c == '\u2028' || c == '\u2029'

/-- `/insufficient|underfunded|out of gas|gas required|fee.+balance|balance.+fee/` -/
def insufficientGas : Pattern :=
  let between := Pattern.many (fun c => !isLineEnd c) 1
  .anyOf [.word "insufficient", .word "underfunded", .word "out of gas", .word "gas required",
    .inOrder [.word "fee", between, .word "balance"], .inOrder [.word "balance", between, .word "fee"]]

def isInsufficientGas (cause : PasskeyBootstrapExecutionError) : Bool :=
  insufficientGas.test (fun _ => false) (cause.message.toList.map folded)

def failureMessage (cause : PasskeyBootstrapExecutionError) : String :=
  if isInsufficientGas cause then "Wallet activation needs more BNB testnet gas. No server sign-in was attempted."
  else "Wallet activation failed before confirmation. No server sign-in was attempted."

def pendingMessage : String :=
  "Wallet activation is still pending. The saved relay calls ID will be reconciled; no second activation will be submitted."

def unknownMessage : String :=
  "Wallet activation has an unknown outcome. Reconcile the saved relay calls ID before retrying; no second activation was submitted."

def failedMessage : String :=
  "Wallet activation was rejected by the relay. It is safe to retry only after this failed outcome is confirmed."

def differentMessage : String :=
  "A different passkey wallet has a saved activation outcome. Reconcile it before creating another wallet."

def outcome (record : PasskeyBootstrapRecord) (shouldAuthenticate : Bool) (message : Option String) : PasskeyBootstrapOutcome :=
  ⟨record.status.text, record, shouldAuthenticate, message⟩

def readOutcome (current : PasskeyBootstrapRecord) : PasskeyBootstrapOutcome :=
  match current.status with
  | .confirmed => outcome current true none
  | .failed => outcome current false (some failedMessage)
  | .unknown => outcome current false (some unknownMessage)
  | _ => outcome current false (some pendingMessage)

def unreadable (current : PasskeyBootstrapRecord) : Activation PasskeyBootstrapOutcome := do
  let current := withRecord { current with status := .unknown } (← ask .now)
  ask (.persist current)
  return outcome current false (some unknownMessage)

def reread (current : PasskeyBootstrapRecord) (callsId : String) : Activation PasskeyBootstrapOutcome := do
  match ← ask (.readStatus callsId) with
  | none => unreadable current
  | some result =>
    let current := relayRecord current result (← ask .now)
    ask (.persist current)
    return readOutcome current

def threwRecord (current : PasskeyBootstrapRecord) (cause : PasskeyBootstrapExecutionError) : PasskeyBootstrapRecord :=
  { current with
    callsId := errorCallsId cause, transactionHash := none,
    status := if errorCallsId cause = none ∧ isInsufficientGas cause then .failed else .unknown, statusCode := none }

def afterThrow (current : PasskeyBootstrapRecord) (cause : PasskeyBootstrapExecutionError) :
    Activation PasskeyBootstrapOutcome := do
  let current := withRecord (threwRecord current cause) (← ask .now)
  ask (.persist current)
  return outcome current false
    (some (if errorCallsId cause = none ∧ isInsufficientGas cause then failureMessage cause else unknownMessage))

def markedRecord (current : PasskeyBootstrapRecord) : PasskeyBootstrapRecord :=
  { current with callsId := none, transactionHash := none, status := .unknown, statusCode := none }

/-- The one write: its intent is marked before it. -/
def submit (walletAddress : String) (current : PasskeyBootstrapRecord) : Activation PasskeyBootstrapOutcome := do
  let current := withRecord (markedRecord current) (← ask .now)
  ask (.persist current)
  match ← ask (.execute walletAddress) with
  | .threw _ cause => afterThrow current cause
  | .returned result =>
    match executionRecord current result (← ask .now) with
    | .error message => afterThrow current ⟨message, none, none⟩
    | .ok current =>
      ask (.persist current)
      match current.status with
      | .confirmed => return outcome current true none
      | .failed => return outcome current false (some failedMessage)
      | _ => reread current (current.callsId.getD "")

def resume (walletAddress : String) (current : PasskeyBootstrapRecord) : Activation PasskeyBootstrapOutcome :=
  if current.status = .confirmed then return outcome current true none
  else match current.callsId with
  | none => if current.status = .unknown then return outcome current false (some unknownMessage) else submit walletAddress current
  | some callsId => do
    match ← ask (.readStatus callsId) with
    | none => unreadable current
    | some result =>
      let current := relayRecord current result (← ask .now)
      ask (.persist current)
      if current.status = .failed then submit walletAddress current else return readOutcome current

def savedOrNew (walletAddress : String) : Option PasskeyBootstrapRecord → Activation PasskeyBootstrapRecord
  | some record => return record
  | none => do
    let now ← ask .now
    createUnregisteredPasskeyBootstrapRecord walletAddress now

def refuseDifferent (walletAddress : String) : Activation PasskeyBootstrapOutcome := do
  let blocked ← savedOrNew walletAddress none
  let unknown := withRecord { blocked with status := .unknown } (← ask .now)
  ask (.persist unknown)
  return outcome unknown false (some differentMessage)

def keepRegistered (walletAddress : String) (record : Option PasskeyBootstrapRecord) : Activation PasskeyBootstrapOutcome := do
  let current ← savedOrNew walletAddress record
  if current.status = .confirmed then
    ask (.persist current)
    return ⟨"already_registered", current, true, none⟩
  else
    let registered := withRecord { current with status := .confirmed } (← ask .now)
    ask (.persist registered)
    return ⟨"already_registered", registered, true, none⟩

def activateNew (walletAddress : String) (record : Option PasskeyBootstrapRecord) : Activation PasskeyBootstrapOutcome := do
  let current ← savedOrNew walletAddress record
  resume walletAddress current

def activateFreshPasskeyWallet (input : ActivateInput) (record : Option PasskeyBootstrapRecord) :
    Activation PasskeyBootstrapOutcome :=
  let walletAddress := lower input.walletAddress
  if isWalletAddress walletAddress = false then throw invalidWallet
  else if record.any fun saved => lower saved.walletAddress ≠ walletAddress then refuseDifferent walletAddress
  else match input.walletState with
  | .already_registered => keepRegistered walletAddress record
  | .new_unregistered => activateNew walletAddress record

def reconcilePasskeyBootstrapRecord (record : PasskeyBootstrapRecord) : Activation PasskeyBootstrapOutcome :=
  match record.callsId with
  | none => return outcome record (record.status = .confirmed) (if record.status = .unknown then some unknownMessage else none)
  | some callsId => reread record callsId

end

end Bnbera.Bootstrap
