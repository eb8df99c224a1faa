import Bnbera.Altana.Grant

/-! How the runtime of the template restores a session and checks its permissions. -/

namespace Bnbera.Altana.Studio

open JsonText
open Seller (Integers Value Fields field record readObject readText readNum isStrict isText isDigits isTimestamp isAny str num
  lowerAscii isHexUnit isString isNumber)

inductive ErrorCode
  | sessionInvalid
  | sessionUnauthorized
deriving DecidableEq

/-- `/^0x[0-9a-fA-F]+$/`, with some numbers of digits only. -/
def isHexOf (accepts : Nat → Bool) (text : Text) : Bool :=
  match text with
  | 0x30 :: 0x78 :: digits => accepts digits.length && digits.all isHexUnit
  | _ => false

def isHex (text : Text) : Bool := isHexOf (1 ≤ ·) text

variable {N : Type}

mutual

/-- What the reviver makes of a value: an object with `$bigint` only becomes the digits under it. -/
def revive : Value N → Value N
  | .leaf value => .leaf value
  | .arr items => .arr (reviveItems items)
  | .obj fields =>
    match reviveFields fields with
    | [(key, .leaf (.str text))] => if key = units "$bigint" ∧ isDigits text = true then str text else .obj [(key, .leaf (.str text))]
    | fields => .obj fields

def reviveItems : List (Value N) → List (Value N)
  | [] => []
  | item :: rest => revive item :: reviveItems rest

def reviveFields : Fields N → Fields N
  | [] => []
  | (key, value) :: rest => (key, revive value) :: reviveFields rest

end

/-- `value ?? other`, where `null` counts as absent. -/
def present (value : Option (Value N)) : Option (Value N) :=
  match value with
  | some (.leaf .null) => none
  | value => value

def isStoredCall (value : Value N) : Bool :=
  match value with
  | .obj call => (readText isAny (field call "signature")).isSome &&
      (field call "to").all fun target => (readText Seller.isAddress (some target)).isSome
  | _ => false

def isStoredSpend (value : Value N) : Bool :=
  match value with
  | .obj item => (readText isDigits (field item "limit")).isSome && (readText isPeriod (field item "period")).isSome &&
      (field item "token").all fun token => (readText Seller.isAddress (some token)).isSome
  | _ => false

structure StoredSession (N : Type) where
  walletAddress : Text
  publicKey : Text
  expiry : N
  calls : Option (List (Value N))
  spend : Option (List (Value N))

def readEntries (isEntry : Value N → Bool) (value : Option (Value N)) : Option (Option (List (Value N))) :=
  match value with
  | none => some none
  | some (.arr items) => if items.all isEntry then some (some items) else none
  | _ => none

section
variable [Numbers N] [Integers N] [DecidableEq N]

def isVersion (value : Option (Value N)) : Bool := value.all fun value => isNumber (some value) Integers.one

/-- The session with the private key of its signer; `none` where it throws. -/
def restoreSessionJson (raw : Text) : Option (StoredSession N × Text) := do
  let parsed ← readObject ((parse readScalar raw).map revive)
  guard (isVersion (field parsed "version"))
  let root := ((readObject (field parsed "session")).orElse fun _ => readObject (field parsed "serializedSession")).getD parsed
  guard (isVersion (field root "version"))
  let signer := (readObject (field parsed "signer")).orElse fun _ => readObject (field root "signer")
  let signerKey := signer.bind fun signer => present (field signer "privateKey")
  let key := ((signerKey.orElse fun _ => present (field parsed "privateKey")).orElse
    fun _ => present (field parsed "sessionPrivateKey")).orElse fun _ => field parsed "signerPrivateKey"
  guard ((signer.bind fun signer => field signer "type").all fun type => isString (some type) (units "privateKey"))
  let privateKey ← readText (isHexOf (· == 64)) key
  let walletAddress ← readText Seller.isAddress (field root "walletAddress")
  let publicKey ← readText isHex (field root "publicKey")
  let expiry ← readNum isTimestamp (field root "expiry")
  let permissions ← readObject (field root "permissions")
  let calls ← readEntries isStoredCall (field permissions "calls")
  let spend ← readEntries isStoredSpend (field permissions "spend")
  return (⟨walletAddress, publicKey, expiry, calls, spend⟩, privateKey)

structure Session (N : Type) where
  walletAddress : Text
  signer : Signer
  publicKey : Text
  calls : Option (List (Fields N))
  spend : Option (List SpendLimit)
  expiry : N

/-- `readText`, of a text that was checked before. -/
def textAt (fields : Fields N) (key : String) : Text := (readText isAny (field fields key)).getD []

def restoredSpend (value : Value N) : SpendLimit where
  token := readText isAny (field (record (some value)) "token")
  limit := decimal (textAt (record (some value)) "limit")
  period := textAt (record (some value)) "period"

def StoredSession.session (stored : StoredSession N) (signer : Signer) : Session N where
  walletAddress := stored.walletAddress
  signer
  publicKey := signer.publicKey
  calls := stored.calls.map (List.map fun call => record (some call))
  spend := stored.spend.map (List.map restoredSpend)
  expiry := stored.expiry

/-- The session of a text, with the signer of its private key; `none` where it throws. -/
def readStudioSession [Sdk N] (raw : Text) : Option (Session N) := do
  let (stored, key) ← restoreSessionJson raw
  let signer ← Sdk.signerFromPrivateKey N key
  guard (lowerAscii signer.publicKey = lowerAscii stored.publicKey)
  return stored.session signer

def deserializeStudioSession [Sdk N] (raw : Text) : Except ErrorCode (Session N) :=
  (readStudioSession raw).elim (.error .sessionInvalid) .ok

end

def same (target : Option (Value N)) (address : Text) : Bool :=
  (readText Seller.isAddress target).any fun text => lowerAscii text == lowerAscii address

def pinnedRouter : Text := units "0xD99D1c33F9fC3444f8101754aBC46c52416550D1"

def pinnedCommerce : Text := units "0xa206c0517B6371C6638CD9e4a42Cc9f02A33B0DE"

def maxNativePerHour : Int := 2000000000000000

def permits (session : Session N) (signature : String) (target : Text) : Bool :=
  session.calls.any fun calls => calls.any fun call => isString (field call "signature") (units signature) && same (field call "to") target

def assertPermissions (session : Session N) (input : Int) : Except ErrorCode Unit :=
  let native := session.spend.any fun spend => spend.any fun spend =>
    spend.period == units "hour" && spend.token.isNone && input ≤ spend.limit && spend.limit ≤ maxNativePerHour
  refuseIf (Seller.isAddress session.walletAddress = false ∨ isHex session.publicKey = false ∨
    permits session swapSignature pinnedRouter = false ∨ native = false ∨
    permits session submitSignature pinnedCommerce = false) .sessionUnauthorized

def isOneOf [Integers N] (allowed : List Int) (value : Option (Value N)) : Bool :=
  (readNum (fun n => allowed.any fun value => Integers.toInt n == some value) value).isSome

/-- The configuration that is compiled into the runtime, and the amount in it. -/
def readCompiledConfiguration [Numbers N] [Integers N] (sha256Hex : Text → Text) (configuration : Fields N) (configurationDigest : Text) :
    Option Nat := do
  let oneOf (allowed : List String) (key : String) := readText (fun text => allowed.any fun value => text == units value)
    (field configuration key)
  guard (configuration.length = 6)
  let _ ← oneOf ["pancakeswap-v2"] "protocol"
  let _ ← oneOf ["tbnb-cake", "tbnb-busd"] "tradingPair"
  let inputAmountWei ← oneOf ["100000000000000", "500000000000000", "1000000000000000"] "inputAmountWei"
  guard (isOneOf [10, 25, 50] (field configuration "slippageBps"))
  guard (isOneOf [30, 60] (field configuration "quoteMaxAgeSeconds"))
  guard (isOneOf [60, 120] (field configuration "deadlineSeconds"))
  guard (sha256Hex (stringify (.obj configuration)) = configurationDigest)
  return decimal inputAmountWei

end Bnbera.Altana.Studio

namespace Bnbera.Altana

open JsonText
open Seller (Integers LawfulIntegers Value Fields field record readObject readText readNum isStrict isText isDigits isTimestamp isAny str num
  lowerAscii lowerUnit isHexUnit)

theorem IsHex.isHexOf {text : String} {digits : List Char} (found : IsHex text digits) {accepts : Nat → Bool}
    (length : accepts digits.length = true) : Studio.isHexOf accepts (ofString text) = true := by
  obtain ⟨shape, hex⟩ := found.units
  rw [shape]
  show (accepts _ && _) = true
  rw [List.length_map, length, hex]
  rfl

theorem isAddress_eq (text : Text) : Seller.isAddress text = Studio.isHexOf (· == 40) text := rfl

theorem isHexOf_iff {accepts : Nat → Bool} {text : Text} : Studio.isHexOf accepts text = true ↔
    ∃ digits, text = 0x30 :: 0x78 :: digits ∧ accepts digits.length = true ∧ digits.all isHexUnit = true := by
  unfold Studio.isHexOf
  split
  · next digits =>
    rw [Bool.and_eq_true]
    exact ⟨fun accepted => ⟨digits, rfl, accepted⟩, fun ⟨_, same, accepted⟩ => by cases same; exact accepted⟩
  · next other => exact ⟨nofun, fun ⟨digits, same, _⟩ => absurd same (other digits)⟩

/-- In lower case, `0X` and digits in either case are `0x` and digits. -/
theorem isHexOf_lowerAscii {length : Nat} {text : Text} :
    Studio.isHexOf (· == length) (lowerAscii text) = true ↔ Seller.isHexText length text = true := by
  rw [isHexOf_iff, isHexText_text_iff]
  constructor
  · rintro ⟨digits, shape, same, hex⟩
    obtain ⟨c, rest, rfl, zero, shape⟩ := List.map_eq_cons_iff.mp shape
    obtain ⟨d, rest, rfl, letter, rfl⟩ := List.map_eq_cons_iff.mp shape
    refine ⟨d, rest, by rw [lowerUnit_zero.mp zero], lowerUnit_x.mp letter, ?_, all_isHexUnit_lower rest ▸ hex⟩
    rwa [List.length_map, beq_iff_eq] at same
  · rintro ⟨x, digits, rfl, letter, same, hex⟩
    refine ⟨lowerAscii digits, ?_, ?_, (all_isHexUnit_lower digits).trans hex⟩
    · rw [lowerAscii, lowerAscii, List.map_cons, List.map_cons, lowerUnit_zero.mpr rfl, lowerUnit_x.mpr letter]
    · rw [beq_iff_eq, lowerAscii, List.length_map, same]

/-! ### What is restored -/

section
variable {N : Type}

theorem readText_str {accepts : Text → Bool} {text : Text} (accepted : accepts text = true) :
    readText accepts (some (str text : Value N)) = some text := if_pos accepted

theorem readEntries_arr {isEntry : Value N → Bool} {items : List (Value N)} (accepted : ∀ item ∈ items, isEntry item = true) :
    Studio.readEntries isEntry (some (.arr items)) = some (some items) := if_pos (List.all_eq_true.mpr accepted)

theorem digits_limit : isDigits (ofString (decimalText 2000000000000000)) = true := by decide +kernel

def revivedSpend : Value N :=
  .obj [(units "limit", str (ofString (decimalText 2000000000000000))), (units "period", str (units "hour"))]

theorem revive_spend : Studio.revive (SpendLimit.value ⟨none, 2000000000000000, units "hour"⟩ : Value N) = revivedSpend := by
  have wrapped : Studio.revive (.obj [(units "$bigint", str (ofString (decimalText 2000000000000000)))] : Value N) =
      str (ofString (decimalText 2000000000000000)) := by
    show (if units "$bigint" = units "$bigint" ∧ isDigits (ofString (decimalText 2000000000000000)) = true then
      str (ofString (decimalText 2000000000000000)) else
      .obj [(units "$bigint", str (ofString (decimalText 2000000000000000)))]) = (_ : Value N)
    exact if_pos ⟨rfl, digits_limit⟩
  show Studio.revive (.obj [(units "limit", .obj [(units "$bigint", str _)]), (units "period", str (units "hour"))]) = _
  rw [Studio.revive, Studio.reviveFields, wrapped, Studio.reviveFields, Studio.reviveFields]
  rfl

theorem isStoredCalls : ∀ call ∈ grantedCalls, Studio.isStoredCall (call.value : Value N) = true := by
  have each : ∀ call ∈ grantedCalls, Seller.isAddress (lowerAscii call.target) = true := by decide +kernel
  intro call member
  show ((readText isAny (some (str call.signature : Value N))).isSome && (readText Seller.isAddress (some (str (lowerAscii call.target) : Value N))).isSome) = true
  rw [readText_str (each call member)]
  rfl

theorem isStoredSpend_revived : Studio.isStoredSpend (revivedSpend : Value N) = true := by
  show ((readText isDigits (some (str (ofString (decimalText 2000000000000000)) : Value N))).isSome &&
    (readText isPeriod (some (str (units "hour") : Value N))).isSome && true) = true
  rw [readText_str digits_limit, readText_str (by decide)]
  rfl

def restoredSession (walletAddress : Text) (signer : Signer) (expiry : N) : Studio.Session N where
  walletAddress
  signer
  publicKey := signer.publicKey
  calls := some (grantedCalls.map fun call => [(units "to", str call.target), (units "signature", str call.signature)])
  spend := some grantedSpend
  expiry

theorem permits_of_granted {walletAddress : Text} {signer : Signer} {expiry : N} {call : TargetedCall} (granted : call ∈ grantedCalls)
    {signature : String} {target : Text} (signed : call.signature = units signature)
    (address : Seller.isAddress call.target = true) (pinned : lowerAscii call.target = lowerAscii target) :
    Studio.permits (restoredSession walletAddress signer expiry : Studio.Session N) signature target = true := by
  refine List.any_eq_true.mpr ⟨_, List.mem_map_of_mem granted, ?_⟩
  show (Seller.isString (some (str call.signature : Value N)) (units signature) &&
    (readText Seller.isAddress (some (str call.target : Value N))).any _) = true
  rw [readText_str address, signed, Seller.isString_str]
  exact beq_iff_eq.mpr pinned

theorem assertPermissions_restored {walletAddress : Text} {signer : Signer} {expiry : N} {input : Int}
    (address : Seller.isAddress walletAddress = true) (hex : Studio.isHex signer.publicKey = true)
    (within : input ≤ 2000000000000000) :
    Studio.assertPermissions (restoredSession walletAddress signer expiry) input = .ok () := by
  have swap : Studio.permits (restoredSession walletAddress signer expiry : Studio.Session N) swapSignature Studio.pinnedRouter = true :=
    permits_of_granted (.tail _ (.tail _ (.head _))) (by decide +kernel) (by decide +kernel) (by decide +kernel)
  have submit : Studio.permits (restoredSession walletAddress signer expiry : Studio.Session N) submitSignature
      Studio.pinnedCommerce = true :=
    permits_of_granted (.tail _ (.head _)) (by decide +kernel) (by decide +kernel) (by decide +kernel)
  have native : ([(⟨none, 2000000000000000, units "hour"⟩ : SpendLimit)].any fun spend => spend.period == units "hour" &&
      spend.token.isNone && input ≤ spend.limit && spend.limit ≤ Studio.maxNativePerHour) = true := by
    simp [within, Studio.maxNativePerHour]
  refine refuseIf_eq_ok.mpr ?_
  rintro (no | no | no | no | no)
  · cases address.symm.trans no
  · cases hex.symm.trans no
  · cases swap.symm.trans no
  · cases native.symm.trans no
  · cases submit.symm.trans no

variable [Integers N]

theorem revive_handedOff (walletAddress publicKey : Text) (expiry : N) (privateKey : Text) :
    Studio.revive (handedOff walletAddress publicKey expiry grantedCalls grantedSpend privateKey) =
      .obj [(units "version", num Integers.one), (units "walletAddress", str walletAddress), (units "publicKey", str publicKey),
        (units "expiry", num expiry),
        (units "permissions", .obj [(units "calls", .arr (grantedCalls.map TargetedCall.value)), (units "spend", .arr [revivedSpend])]),
        (units "signer", .obj [(units "type", str (units "privateKey")), (units "privateKey", str privateKey)])] := by
  have spend : Studio.reviveItems (grantedSpend.map SpendLimit.value : List (Value N)) = [revivedSpend] := by
    rw [grantedSpend, List.map_singleton, Studio.reviveItems, revive_spend, Studio.reviveItems]
  have permissions : Studio.revive (.obj [(units "calls", .arr (grantedCalls.map TargetedCall.value)),
      (units "spend", .arr (grantedSpend.map SpendLimit.value))] : Value N) =
      .obj [(units "calls", .arr (grantedCalls.map TargetedCall.value)), (units "spend", .arr [revivedSpend])] := by
    rw [← spend]
    rfl
  rw [← permissions]
  rfl

end

section
variable {N : Type} [Numbers N] [Integers N] [LawfulIntegers N]

theorem handedOff_formed {walletAddress publicKey privateKey : Text} {expiry : N} {time : Int} (timed : Integers.toInt expiry = some time)
    (positive : 0 < time) :
    (handedOff walletAddress publicKey expiry grantedCalls grantedSpend privateKey).WellFormed Scalar.IsNormal := by
  have version : (Scalar.num (Integers.one : N)).IsNormal := Seller.isNormal_of_toInt LawfulIntegers.toInt_one (by decide)
  have dated : (Scalar.num expiry).IsNormal := Seller.isNormal_of_toInt timed (by omega)
  have call : ∀ call : TargetedCall, (call.value : Value N).WellFormed Scalar.IsNormal := fun call =>
    ⟨(by decide : (["to", "signature"].map units).Nodup), trivial, trivial, trivial⟩
  have spend : (SpendLimit.value ⟨none, 2000000000000000, units "hour"⟩ : Value N).WellFormed Scalar.IsNormal :=
    ⟨(by decide : (["limit", "period"].map units).Nodup), ⟨(by decide : (["$bigint"].map units).Nodup), trivial, trivial⟩, trivial,
      trivial⟩
  exact ⟨(by decide : (["version", "walletAddress", "publicKey", "expiry", "permissions", "signer"].map units).Nodup), version, trivial,
    trivial, dated, ⟨(by decide : (["calls", "spend"].map units).Nodup), ⟨call _, call _, call _, trivial⟩, ⟨spend, trivial⟩, trivial⟩,
    ⟨(by decide : (["type", "privateKey"].map units).Nodup), trivial, trivial, trivial⟩, trivial⟩

variable [LawfulNumbers N]

theorem parse_handedOff {walletAddress publicKey privateKey : Text} {expiry : N} {time : Int} (timed : Integers.toInt expiry = some time)
    (positive : 0 < time) :
    parse readScalar (stringify (handedOff walletAddress publicKey expiry grantedCalls grantedSpend privateKey)) =
      some (handedOff walletAddress publicKey expiry grantedCalls grantedSpend privateKey) := by
  have plain : ∀ {names : List String}, (∀ name ∈ names, isArrayIndex (units name) = false) →
      ∀ key ∈ names.map units, isArrayIndex key = false := by
    intro names listed key member
    obtain ⟨name, inside, rfl⟩ := List.mem_map.mp member
    exact listed name inside
  have call : ∀ call : TargetedCall, (call.value : Value N).All (fun _ => True) fun keys => ∀ key ∈ keys, isArrayIndex key = false :=
    fun call => ⟨@plain ["to", "signature"] (by decide), trivial, trivial, trivial⟩
  have spend : (SpendLimit.value ⟨none, 2000000000000000, units "hour"⟩ : Value N).All (fun _ => True)
      fun keys => ∀ key ∈ keys, isArrayIndex key = false :=
    ⟨@plain ["limit", "period"] (by decide), ⟨@plain ["$bigint"] (by decide), trivial, trivial⟩, trivial, trivial⟩
  have words : (handedOff walletAddress publicKey expiry grantedCalls grantedSpend privateKey).All (fun _ => True)
      fun keys => ∀ key ∈ keys, isArrayIndex key = false :=
    ⟨@plain ["version", "walletAddress", "publicKey", "expiry", "permissions", "signer"] (by decide), trivial, trivial, trivial, trivial,
      ⟨@plain ["calls", "spend"] (by decide), ⟨call _, call _, call _, trivial⟩, ⟨spend, trivial⟩, trivial⟩,
      ⟨@plain ["type", "privateKey"] (by decide), trivial, trivial, trivial⟩, trivial⟩
  rw [parse_stringify (handedOff_formed timed positive), arrange_own words]

end

section
variable {N : Type} [Numbers N] [Integers N] [DecidableEq N]

theorem isVersion_one : Studio.isVersion (some (num Integers.one : Value N)) = true := by
  show (Seller.equal (Integers.one : N) Integers.one) = true
  exact Seller.equal_refl _

variable [LawfulNumbers N] [LawfulIntegers N]

theorem restoreSessionJson_handedOff {walletAddress publicKey privateKey : Text} {expiry : N} {time : Int}
    (timed : Integers.toInt expiry = some time) (positive : 0 < time) (safe : isSafeInteger time)
    (address : Seller.isAddress walletAddress = true) (hex : Studio.isHex publicKey = true)
    (key : Studio.isHexOf (· == 64) privateKey = true) :
    Studio.restoreSessionJson (stringify (handedOff walletAddress publicKey expiry grantedCalls grantedSpend privateKey)) =
      some (⟨walletAddress, publicKey, expiry, some (grantedCalls.map TargetedCall.value), some [revivedSpend]⟩, privateKey) := by
  have isExpiry : isTimestamp expiry = true := by
    refine (Option.any_eq_true _ _).mpr ⟨time, timed, ?_⟩
    have bound := safe.2
    simp only [Bool.and_eq_true, decide_eq_true_eq]
    omega
  unfold Studio.restoreSessionJson
  rw [parse_handedOff timed positive, Option.map_some, revive_handedOff]
  refine Option.bind_eq_some_iff.mpr ⟨_, rfl, Option.bind_eq_some_iff.mpr ⟨(), if_pos isVersion_one, ?_⟩⟩
  refine Option.bind_eq_some_iff.mpr ⟨(), if_pos isVersion_one, Option.bind_eq_some_iff.mpr ⟨(), if_pos ?_, ?_⟩⟩
  · exact Seller.isString_str _
  refine Option.bind_eq_some_iff.mpr ⟨_, readText_str key, Option.bind_eq_some_iff.mpr ⟨_, readText_str address, ?_⟩⟩
  refine Option.bind_eq_some_iff.mpr ⟨_, readText_str hex, Option.bind_eq_some_iff.mpr ⟨expiry, if_pos isExpiry, ?_⟩⟩
  have calls : ∀ value ∈ (grantedCalls.map TargetedCall.value : List (Value N)), Studio.isStoredCall value = true := by
    intro value member
    obtain ⟨call, inside, rfl⟩ := List.mem_map.mp member
    exact isStoredCalls call inside
  have spend : ∀ value ∈ ([revivedSpend] : List (Value N)), Studio.isStoredSpend value = true := by
    intro value member
    rw [List.mem_singleton.mp member]
    exact isStoredSpend_revived
  refine Option.bind_eq_some_iff.mpr ⟨_, rfl, Option.bind_eq_some_iff.mpr ⟨_, readEntries_arr calls, ?_⟩⟩
  exact Option.bind_eq_some_iff.mpr ⟨_, readEntries_arr spend, rfl⟩

theorem readStudioSession_handedOff [Sdk N] {walletAddress publicKey privateKey : Text} {expiry : N} {time : Int} {signer : Signer}
    (timed : Integers.toInt expiry = some time) (positive : 0 < time) (safe : isSafeInteger time)
    (address : Seller.isAddress walletAddress = true) (hex : Studio.isHex publicKey = true)
    (key : Studio.isHexOf (· == 64) privateKey = true) (signed : Sdk.signerFromPrivateKey N privateKey = some signer)
    (same : lowerAscii signer.publicKey = lowerAscii publicKey) :
    Studio.deserializeStudioSession (stringify (handedOff walletAddress publicKey expiry grantedCalls grantedSpend privateKey)) =
      .ok (restoredSession walletAddress signer expiry) := by
  have restored := restoreSessionJson_handedOff timed positive safe address hex key
  have spend : Studio.restoredSpend (revivedSpend : Value N) = ⟨none, 2000000000000000, units "hour"⟩ := by
    have limit : ((decimal (ofString (decimalText 2000000000000000)) : Nat) : Int) = 2000000000000000 := by decide +kernel
    show SpendLimit.mk none (decimal (ofString (decimalText 2000000000000000))) (units "hour") = _
    rw [limit]
  have session : (Studio.StoredSession.mk walletAddress publicKey expiry (some (grantedCalls.map TargetedCall.value))
      (some [revivedSpend])).session signer = (restoredSession walletAddress signer expiry : Studio.Session N) := by
    have calls : ((grantedCalls.map TargetedCall.value).map fun call => record (some call) : List (Fields N)) =
        grantedCalls.map fun call => [(units "to", str call.target), (units "signature", str call.signature)] := by
      rw [List.map_map]
      refine List.map_congr_left fun call member => ?_
      show [(units "to", str (lowerAscii call.target)), (units "signature", str call.signature)] = _
      rw [grantedCalls_lower call member]
    unfold Studio.StoredSession.session restoredSession
    rw [Option.map_some, calls, Option.map_some, List.map_singleton, spend]
    rfl
  unfold Studio.deserializeStudioSession Studio.readStudioSession
  rw [Seller.elim_eq_ok, restored]
  refine Option.bind_eq_some_iff.mpr ⟨_, rfl, Option.bind_eq_some_iff.mpr ⟨signer, signed, ?_⟩⟩
  exact Option.bind_eq_some_iff.mpr ⟨(), if_pos same, congrArg some session⟩

end

end Bnbera.Altana
