import Bnbera.Altana.Studio
import Bnbera.Altana.Digest

/-! A session that is handed to its runtime is the granted one. -/

namespace Bnbera.Altana

open JsonText
open Interleaving
open Seller (Integers LawfulIntegers Value Fields field record readObject readText readNum isStrict isText isDigits isTimestamp isAny str num
  lowerAscii lowerUnit stringOrUndefined isHexUnit)

/-! ### Accepted sessions -/

section
variable {N : Type}

def WritesCall (call : SdkCall) (value : Value N) : Prop :=
  ∃ fields : Fields N, value = .obj fields ∧ fields.Perm ((call.target.map fun target => (units "to", str target)).toList ++
    (call.signature.map fun signature => (units "signature", str signature)).toList)

/-- A limit is written as its digits, or as these under `$bigint`. -/
def WritesLimit (limit : Int) (value : Value N) : Prop :=
  value = str (ofString (decimalText limit)) ∨ value = .obj [(units "$bigint", str (ofString (decimalText limit)))]

def WritesSpend (spend : SpendLimit) (value : Value N) : Prop :=
  ∃ limit fields, value = .obj fields ∧ WritesLimit spend.limit limit ∧
    fields.Perm ([(units "limit", limit), (units "period", str spend.period)] ++
      (spend.token.map fun token => (units "token", str token)).toList)

def WritesEntries {α : Type} (name : String) (writes : α → Value N → Prop) (entries : Option (List α)) (fields : Fields N) : Prop :=
  match entries with
  | none => fields = []
  | some entries => ∃ values, fields = [(units name, .arr values)] ∧ List.Forall₂ writes entries values

def Serializes (session : Session N) (fields : Fields N) : Prop :=
  ∃ permissions calls spend, fields.Perm [(units "walletAddress", str session.walletAddress), (units "publicKey", str session.publicKey),
      (units "expiry", num session.expiry), (units "permissions", .obj permissions)] ∧ permissions.Perm (calls ++ spend) ∧
    WritesEntries "calls" WritesCall session.calls calls ∧ WritesEntries "spend" WritesSpend session.spend spend

/-- The documented behaviour: a public key is hexadecimal, the letter case of a private key does not matter, a restored session has
the wallet it was stored with, and a serialized session comes back. -/
class LawfulSdk (N : Type) [Sdk N] : Prop where
  signer_hex : ∀ {key : Text} {signer}, Sdk.signerFromPrivateKey N key = some signer → Studio.isHex signer.publicKey = true
  signer_lower : ∀ {key : Text} {signer}, Seller.isHexText 64 key = true → Sdk.signerFromPrivateKey N key = some signer →
    ∃ signer', Sdk.signerFromPrivateKey N (lowerAscii key) = some signer' ∧ lowerAscii signer'.publicKey = lowerAscii signer.publicKey
  deserialize_wallet : ∀ {stored : Fields N} {signer session walletAddress}, Sdk.deserializeSession stored signer = some session →
    field stored "walletAddress" = some (str walletAddress) → lowerAscii session.walletAddress = lowerAscii walletAddress
  deserialize_serialized : ∀ {session : Session N} {fields signer}, Serializes session fields →
    (∀ entries ∈ session.spend, ∀ entry ∈ entries, 0 ≤ entry.limit) →
    lowerAscii signer.publicKey = lowerAscii session.publicKey → Sdk.deserializeSession fields signer = some session

end

section
variable {N : Type} [Numbers N] [Integers N] [Sdk N] [FunctionSelectors] [Keccak256] [Sha256]

structure Accepted (input : HandoffInput N) (handoff : Handoff) (stored : Fields N) (signer : Signer) (grant : Grant)
    (session : Session N) : Prop where
  key : Seller.isHexText 64 input.sessionPrivateKey = true
  signed : Sdk.signerFromPrivateKey N input.sessionPrivateKey = some signer
  publicKey : lowerAscii signer.publicKey = lowerAscii (ofString input.authority.sessionPublicKey)
  wallet : ∃ walletAddress, field stored "walletAddress" = some (str walletAddress) ∧
    lowerAscii walletAddress = lowerAscii (ofString input.authority.walletAddress)
  granted : creatorAuthorityGrant input.grantInput = .ok grant
  deserialized : Sdk.deserializeSession stored signer = some session
  expiry : Integers.toInt session.expiry = some input.authority.expiresAtUnix
  bytes : handoff.bytes = stringify (handedOff (lowerAscii session.walletAddress) (lowerAscii signer.publicKey) session.expiry
    grant.calls grant.spend (lowerAscii input.sessionPrivateKey))

theorem handoffCreatorAuthority_eq_ok {input : HandoffInput N} {handoff : Handoff} (accepted : handoffCreatorAuthority input = .ok handoff) :
    ∃ stored signer grant session, Accepted input handoff stored signer grant session := by
  unfold handoffCreatorAuthority at accepted
  obtain ⟨_, accepted⟩ := refuseIf_bind_eq_ok.mp accepted
  obtain ⟨_, accepted⟩ := refuseIf_bind_eq_ok.mp accepted
  obtain ⟨_, accepted⟩ := refuseIf_bind_eq_ok.mp accepted
  obtain ⟨key, accepted⟩ := refuseIf_bind_eq_ok.mp accepted
  obtain ⟨stored, _, accepted⟩ := bind_eq_ok.mp accepted
  obtain ⟨signer, signed, accepted⟩ := bind_eq_ok.mp accepted
  obtain ⟨grant, granted, accepted⟩ := bind_eq_ok.mp accepted
  obtain ⟨session, deserialized, accepted⟩ := bind_eq_ok.mp accepted
  obtain ⟨matched, accepted⟩ := refuseIf_bind_eq_ok.mp accepted
  obtain ⟨destination, _, accepted⟩ := bind_eq_ok.mp accepted
  cases Except.ok.inj accepted
  unfold signerOf at signed
  obtain ⟨found, known, signed⟩ := bind_eq_ok.mp signed
  obtain ⟨publicKey, _, signed⟩ := bind_eq_ok.mp signed
  obtain ⟨alike, signed⟩ := refuseIf_bind_eq_ok.mp signed
  obtain ⟨wallet, stored, signed⟩ := bind_eq_ok.mp signed
  obtain ⟨held, signed⟩ := refuseIf_bind_eq_ok.mp signed
  cases Except.ok.inj signed
  unfold grantOf at granted
  obtain ⟨_, granted⟩ := refuseIf_bind_eq_ok.mp granted
  obtain ⟨made, issued, granted⟩ := bind_eq_ok.mp granted
  obtain ⟨_, granted⟩ := refuseIf_bind_eq_ok.mp granted
  cases Except.ok.inj granted
  simp only [not_or, not_not] at alike held matched
  exact ⟨_, signer, grant, session, {
    key := Bool.eq_true_of_not_eq_false key
    signed := Seller.elim_eq_ok.mp known
    publicKey := alike.2.1
    wallet := ⟨wallet, (Seller.readText_eq_some.mp (Seller.elim_eq_ok.mp stored)).1, held⟩
    granted := mapError_eq_ok.mp issued
    deserialized := Seller.elim_eq_ok.mp deserialized
    expiry := matched.1
    bytes := rfl }⟩

end

section
variable {N : Type} [Numbers N] [Integers N] [DecidableEq N]

/-- The bytes of a handoff hold the wallet, the key, the expiry, the calls and the limits of the grant, and nothing else but
the private key. -/
def HandsOver (N : Type) [Numbers N] [Integers N] (grant : Grant) (privateKey bytes : Text) : Prop :=
  (∀ call ∈ grant.calls, lowerAscii call.target = call.target) ∧
  ∃ publicKey, grant.policy.sessionPublicKey = some publicKey ∧ ∃ expiry : N, Integers.toInt expiry = some grant.policy.expiresAtUnix ∧
    parse readScalar bytes = some (handedOff (ofString grant.policy.walletAddress) (ofString publicKey) expiry grant.calls grant.spend
      (lowerAscii privateKey))

structure IsGranted (session : Studio.Session N) (grant : Grant) : Prop where
  wallet : session.walletAddress = ofString grant.policy.walletAddress
  key : grant.policy.sessionPublicKey.map ofString = some (lowerAscii session.publicKey)
  expiry : Integers.toInt session.expiry = some grant.policy.expiresAtUnix
  calls : session.calls = some (grant.calls.map fun call => [(units "to", str call.target), (units "signature", str call.signature)])
  spend : session.spend = some grant.spend

def Restores (N : Type) [Numbers N] [Integers N] [DecidableEq N] [Sdk N] (grant : Grant) (bytes : Text) : Prop :=
  ∃ session : Studio.Session N, Studio.deserializeStudioSession bytes = .ok session ∧ IsGranted session grant ∧
    ∀ sha256Hex configuration configurationDigest input,
      Studio.readCompiledConfiguration sha256Hex (configuration : Fields N) configurationDigest = some input →
        Studio.assertPermissions session input = .ok ()

omit [DecidableEq N] in
theorem readCompiledConfiguration_amount {sha256Hex : Text → Text} {configuration : Fields N} {configurationDigest : Text} {input : Nat}
    (compiled : Studio.readCompiledConfiguration sha256Hex configuration configurationDigest = some input) :
    input ≤ 1000000000000000 := by
  unfold Studio.readCompiledConfiguration at compiled
  iterate 3 obtain ⟨_, _, compiled⟩ := Option.bind_eq_some_iff.mp compiled
  obtain ⟨amount, read, compiled⟩ := Option.bind_eq_some_iff.mp compiled
  iterate 4 obtain ⟨_, _, compiled⟩ := Option.bind_eq_some_iff.mp compiled
  obtain rfl := Option.some.inj compiled
  have bounded : ∀ text ∈ ["100000000000000", "500000000000000", "1000000000000000"], decimal (units text) ≤ 1000000000000000 := by
    decide +kernel
  obtain ⟨text, member, same⟩ := List.any_eq_true.mp (Seller.readText_eq_some.mp read).2
  rw [beq_iff_eq.mp same]
  exact bounded text member

variable [Sdk N] [FunctionSelectors] [Keccak256] [Sha256] [LawfulNumbers N] [LawfulIntegers N] [LawfulSdk N]

theorem handoff_restores {input : HandoffInput N} {handoff : Handoff} (accepted : handoffCreatorAuthority input = .ok handoff) :
    ∃ grant, creatorAuthorityGrant input.grantInput = .ok grant ∧ HandsOver N grant input.sessionPrivateKey handoff.bytes ∧
      Restores N grant handoff.bytes := by
  obtain ⟨stored, signer, grant, session, checked⟩ := handoffCreatorAuthority_eq_ok accepted
  have issued := creatorAuthorityGrant_eq_ok checked.granted
  have acceptable := issued.valid.accepted
  obtain ⟨digits, hexWallet, length⟩ := isHexText_iff.mp acceptable.wallet
  obtain ⟨keyDigits, hexKey, keyLength⟩ := isSessionPublicKey_hex (acceptable.key input.authority.sessionPublicKey rfl)
  have policyWallet : grant.policy.walletAddress = lower input.authority.walletAddress := by rw [issued.policy]; rfl
  have policyKey : grant.policy.sessionPublicKey = some (lower input.authority.sessionPublicKey) := by rw [issued.policy]; rfl
  have policyExpiry : grant.policy.expiresAtUnix = input.authority.expiresAtUnix := by
    rw [issued.policy]
    exact sub_add_cancel _ _
  obtain ⟨safe, positive⟩ := acceptable.expiry
  rw [show input.grantInput.policy.expiresAtUnix = input.authority.expiresAtUnix from sub_add_cancel _ _] at safe positive
  have wallet : lowerAscii session.walletAddress = ofString grant.policy.walletAddress := by
    obtain ⟨walletAddress, stored, same⟩ := checked.wallet
    rw [policyWallet, LawfulSdk.deserialize_wallet checked.deserialized stored, same]
    exact hexWallet.lowerAscii
  have key : lowerAscii signer.publicKey = ofString (lower input.authority.sessionPublicKey) :=
    checked.publicKey.trans hexKey.lowerAscii
  have address : Seller.isAddress (ofString grant.policy.walletAddress) = true := by
    rw [policyWallet, isAddress_eq]
    exact hexWallet.lower.isHexOf (by rw [List.length_map, length]; rfl)
  have hex : Studio.isHex (ofString (lower input.authority.sessionPublicKey)) = true :=
    hexKey.lower.isHexOf (by rw [List.length_map]; exact decide_eq_true keyLength)
  obtain ⟨signer', signed, same⟩ := LawfulSdk.signer_lower checked.key checked.signed
  have bytes : handoff.bytes = stringify (handedOff (ofString grant.policy.walletAddress)
      (ofString (lower input.authority.sessionPublicKey)) session.expiry grantedCalls grantedSpend (lowerAscii input.sessionPrivateKey)) := by
    rw [checked.bytes, wallet, key, issued.calls, issued.spend]
  have lowered : lowerAscii signer'.publicKey = lowerAscii (ofString (lower input.authority.sessionPublicKey)) := by
    rw [same, key, ← key, lowerAscii_lowerAscii]
  refine ⟨grant, checked.granted, ⟨?_, _, policyKey, session.expiry, policyExpiry ▸ checked.expiry, ?_⟩, ?_⟩
  · rw [issued.calls]
    exact grantedCalls_lower
  · rw [bytes, issued.calls, issued.spend]
    exact parse_handedOff checked.expiry positive
  · refine ⟨restoredSession (ofString grant.policy.walletAddress) signer' session.expiry, ?_, ?_, ?_⟩
    · rw [bytes]
      exact readStudioSession_handedOff checked.expiry positive safe address hex (isHexOf_lowerAscii.mpr checked.key) signed lowered
    · exact {
        wallet := rfl
        key := by rw [policyKey, Option.map_some, ← key, ← same]; rfl
        expiry := policyExpiry ▸ checked.expiry
        calls := by rw [issued.calls]; rfl
        spend := by rw [issued.spend]; rfl }
    · intro sha256Hex configuration configurationDigest amount compiled
      have bounded := readCompiledConfiguration_amount compiled
      exact assertPermissions_restored address (LawfulSdk.signer_hex signed) (by omega)

end

/-! ### Sessions of the browser -/

section
variable {N : Type}

theorem field_of_perm {fields listed : Fields N} (perm : fields.Perm listed) (distinct : (keys listed).Nodup) (key : String) :
    field fields key = field listed key :=
  Seller.field_perm perm ((perm.map Prod.fst).nodup_iff.mpr distinct) key

theorem exactKeys_of_perm {fields listed : Fields N} (perm : fields.Perm listed) {names : List String}
    (named : (keys listed).Perm (names.map units)) : exactKeys fields names = true :=
  List.isPerm_iff.mpr ((perm.map Prod.fst).trans named)

theorem isStrict_of_perm {fields listed : Fields N} (perm : fields.Perm listed) (names : List String) :
    isStrict fields names = isStrict listed names := perm.all_eq

theorem isCallEntry_of_writes {target signature : Text} {value : Value N} (writes : WritesCall ⟨some target, some signature⟩ value)
    (address : Seller.isHexText 40 target = true) (signed : isText 256 signature = true) : isCallEntry value = true := by
  obtain ⟨fields, rfl, perm⟩ := writes
  have distinct : (["to", "signature"].map units).Nodup := by decide
  have exact : exactKeys fields ["signature", "to"] = true :=
    exactKeys_of_perm perm (by decide : (["to", "signature"].map units).Perm (["signature", "to"].map units))
  have target' : field fields "to" = some (str target) := field_of_perm perm distinct "to"
  have signature' : field fields "signature" = some (str signature) := field_of_perm perm distinct "signature"
  unfold isCallEntry
  dsimp only
  rw [exact, target', signature', readText_str address, readText_str signed]
  rfl

theorem decimalOf_of_writes {limit : Int} {value : Value N} (writes : WritesLimit limit value)
    (digits : isDigits (ofString (decimalText limit)) = true) : decimalOf (some value) = some (ofString (decimalText limit)) := by
  rcases writes with rfl | rfl
  · exact @readText_str N _ _ digits
  · have exact : exactKeys [(units "$bigint", (str (ofString (decimalText limit)) : Value N))] ["$bigint"] = true :=
      exactKeys_of_perm (.refl _) (.refl _)
    unfold decimalOf
    dsimp only
    rw [if_pos exact]
    exact readText_str digits

theorem isSpendEntry_of_writes {limit : Int} {period : Text} {value : Value N} (writes : WritesSpend ⟨none, limit, period⟩ value)
    (digits : isDigits (ofString (decimalText limit)) = true) (known : isPeriod period = true) : isSpendEntry value = true := by
  obtain ⟨written, fields, rfl, limited, perm⟩ := writes
  have distinct : (["limit", "period"].map units).Nodup := by decide
  have limit' : field fields "limit" = some written := field_of_perm perm distinct "limit"
  have period' : field fields "period" = some (str period) := field_of_perm perm distinct "period"
  have token' : field fields "token" = none := field_of_perm perm distinct "token"
  have strict : isStrict fields ["limit", "period", "token"] = true := (isStrict_of_perm perm _).trans rfl
  unfold isSpendEntry
  dsimp only
  rw [limit', period', token', strict, decimalOf_of_writes limited digits, readText_str known]
  rfl

theorem isEntries_of_writes {α : Type} {name : String} {writes : α → Value N → Prop} {entries : List α} {fields : Fields N}
    {isEntry : Value N → Bool} (written : WritesEntries name writes (some entries) fields)
    (each : ∀ entry ∈ entries, ∀ value, writes entry value → isEntry value = true) :
    ∃ values, fields = [(units name, .arr values)] ∧ values.all isEntry = true := by
  obtain ⟨values, rfl, writes⟩ := written
  refine ⟨values, rfl, List.all_eq_true.mpr fun value member => ?_⟩
  induction writes with
  | nil => cases member
  | cons wrote _ ih =>
    rcases List.mem_cons.mp member with rfl | later
    · exact each _ List.mem_cons_self _ wrote
    · exact ih (fun entry inside => each entry (List.mem_cons_of_mem _ inside)) later

end

section
variable {N : Type} [Numbers N] [Integers N]

def browserSession (walletAddress publicKey : Text) (expiry : N) : Session N :=
  ⟨walletAddress, publicKey, some (grantedCalls.map fun call => ⟨some call.target, some call.signature⟩), some grantedSpend, expiry⟩

theorem parse_serialized {walletAddress publicKey : Text} {expiry : N} {fields : Fields N}
    (serializes : Serializes (browserSession walletAddress publicKey expiry) fields) (address : Seller.isHexText 40 walletAddress = true)
    (hex : isPublicKey publicKey = true) (timed : isTimestamp expiry = true) :
    parseCreatorSerializedSession (.obj fields) = .ok fields ∧ field fields "walletAddress" = some (str walletAddress) ∧
      field fields "publicKey" = some (str publicKey) := by
  obtain ⟨permissions, calls, spend, perm, split, callsWritten, spendWritten⟩ := serializes
  have accepted : ∀ call ∈ grantedCalls, Seller.isHexText 40 call.target = true ∧ isText 256 call.signature = true := by decide +kernel
  obtain ⟨callValues, rfl, everyCall⟩ := @isEntries_of_writes _ _ _ _ _ _ isCallEntry callsWritten (by
    intro entry member value wrote
    obtain ⟨call, inside, rfl⟩ := List.mem_map.mp member
    exact isCallEntry_of_writes wrote (accepted call inside).1 (accepted call inside).2)
  obtain ⟨spendValues, rfl, everySpend⟩ := @isEntries_of_writes _ _ _ _ _ _ isSpendEntry spendWritten (by
    intro entry member value wrote
    rw [List.mem_singleton.mp member] at wrote
    exact isSpendEntry_of_writes wrote digits_limit (by decide))
  have distinct : (["walletAddress", "publicKey", "expiry", "permissions"].map units).Nodup := by decide
  have distinct' : (["calls", "spend"].map units).Nodup := by decide
  have exact : exactKeys fields sessionKeys = true := exactKeys_of_perm perm
    (by decide : (["walletAddress", "publicKey", "expiry", "permissions"].map units).Perm (sessionKeys.map units))
  have wallet : field fields "walletAddress" = some (str walletAddress) := field_of_perm perm distinct "walletAddress"
  have key : field fields "publicKey" = some (str publicKey) := field_of_perm perm distinct "publicKey"
  have dated : field fields "expiry" = some (num expiry) := field_of_perm perm distinct "expiry"
  have permitted : field fields "permissions" = some (.obj permissions) := field_of_perm perm distinct "permissions"
  have callField : field permissions "calls" = some (.arr callValues) := field_of_perm split distinct' "calls"
  have spendField : field permissions "spend" = some (.arr spendValues) := field_of_perm split distinct' "spend"
  have strict : isStrict permissions ["calls", "spend"] = true := (isStrict_of_perm split _).trans rfl
  have read : ∀ text : Text, textOf (some (str text : Value N)) = .ok text := fun _ => rfl
  refine ⟨?_, wallet, key⟩
  unfold parseCreatorSerializedSession
  refine bind_eq_ok.mpr ⟨_, rfl, bind_eq_ok.mpr ⟨_, rfl, refuseIf_bind_eq_ok.mpr ⟨by rw [exact]; decide, ?_⟩⟩⟩
  refine bind_eq_ok.mpr ⟨_, (congrArg textOf wallet).trans (read _), refuseIf_bind_eq_ok.mpr ⟨by rw [address]; decide, ?_⟩⟩
  refine bind_eq_ok.mpr ⟨_, (congrArg textOf key).trans (read _), refuseIf_bind_eq_ok.mpr ⟨?_, ?_⟩⟩
  · rw [hex, dated, show readNum isTimestamp (some (num expiry)) = some expiry from if_pos timed]
    rintro (no | no) <;> cases no
  refine bind_eq_ok.mpr ⟨permissions, by rw [permitted]; rfl, refuseIf_bind_eq_ok.mpr ⟨by rw [strict]; decide, ?_⟩⟩
  refine refuseIf_bind_eq_ok.mpr ⟨?_, refuseIf_bind_eq_ok.mpr ⟨?_, rfl⟩⟩
  · rw [callField, show isEntries isCallEntry (some (.arr callValues)) = true from everyCall]
    decide
  · rw [spendField, show isEntries isSpendEntry (some (.arr spendValues)) = true from everySpend]
    decide

end

section
variable {N : Type} [Numbers N] [Integers N] [Sdk N] [FunctionSelectors] [Keccak256]

/-- The request is for an active authority of the draft, which has the grant. -/
structure Requested (input : HandoffInput N) (grant : Grant) : Prop where
  time : isSafeInteger input.nowUnix
  draft : input.authority.draftId = input.draftId
  named : isUuid input.draftId = true
  owner : lower input.authority.ownerAddress = lower input.ownerAddress
  active : input.authority.status = .active
  issued : 0 < input.authority.expiresAtUnix - 3600
  begun : input.authority.expiresAtUnix - 3600 ≤ input.nowUnix
  unexpired : input.nowUnix < input.authority.expiresAtUnix
  granted : creatorAuthorityGrant input.grantInput = .ok grant
  digest : lower grant.policyDigest = lower input.authority.policyDigest
  identified : isAuthorityId input.authority.authorityId = true

/-- The browser sends what it was granted under the options, and the private key of the session. -/
structure Browsed (input : HandoffInput N) (grant : Grant) (signer : Signer) : Prop where
  key : Seller.isHexText 64 input.sessionPrivateKey = true
  signed : Sdk.signerFromPrivateKey N input.sessionPrivateKey = some signer
  hex : isPublicKey signer.publicKey = true
  publicKey : lowerAscii signer.publicKey = lowerAscii (ofString input.authority.sessionPublicKey)
  address : lowerAscii signer.address = lowerAscii (ofString input.authority.sessionPublicAddress)
  session : ∃ options walletAddress expiry fields,
    creatorBrowserGrantOptions grant (input.authority.expiresAtUnix - 3600) = .ok options ∧
    lowerAscii walletAddress = lowerAscii (ofString input.authority.walletAddress) ∧ Integers.toInt expiry = some options.expiry ∧
    Serializes (options.granted walletAddress signer (expiry : N)) fields ∧ input.serializedSession = .obj fields

variable {input : HandoffInput N} {grant : Grant} {signer : Signer}

omit [Numbers N] [Integers N] [Sdk N] [FunctionSelectors] in
theorem granted_eq {options : BrowserGrantOptions} {walletAddress : Text} {expiry : N} {grantInput : GrantInput} {issuedAt : Int}
    (issued : Issued grantInput grant) (offered : creatorBrowserGrantOptions grant issuedAt = .ok options) :
    options.granted walletAddress signer expiry = browserSession walletAddress signer.publicKey expiry ∧ options.expiry = grant.expiry := by
  obtain ⟨policy, _, offered⟩ := bind_eq_ok.mp offered
  cases Except.ok.inj offered
  have limit : ((decimal (ofString (decimalText 2000000000000000)) : Nat) : Int) = 2000000000000000 := by decide +kernel
  unfold BrowserGrantOptions.granted browserSession
  rw [issued.calls, issued.spend]
  dsimp only
  refine ⟨?_, rfl⟩
  rw [List.map_map]
  show Session.mk walletAddress signer.publicKey _ (some [⟨none, decimal (ofString (decimalText 2000000000000000)), units "hour"⟩]) expiry = _
  rw [limit]
  rfl

omit [Numbers N] [Integers N] [Sdk N] in
theorem grantOf_requested (requested : Requested input grant) : grantOf input = .ok grant := by
  have issued := creatorAuthorityGrant_eq_ok requested.granted
  have bound := requested.time.2
  have late := requested.issued
  have begun := requested.begun
  refine refuseIf_bind_eq_ok.mpr ⟨?_, bind_eq_ok.mpr ⟨grant, mapError_eq_ok.mpr requested.granted, refuseIf_bind_eq_ok.mpr ⟨?_, rfl⟩⟩⟩
  · rintro (unsafe' | early | early)
    · exact unsafe' ⟨by omega, by omega⟩
    · omega
    · omega
  · rintro (other | other)
    · refine other ?_
      rw [issued.policy]
      exact sub_add_cancel _ _
    · exact other requested.digest

end

section
variable [Sha256]

theorem isRuntimeName_creatorRuntimeName (draftId : String) : isRuntimeName (creatorRuntimeName draftId) = true := by
  have digest := (Sha256.sha256Hex draftId).accepted
  have lowercase := (Sha256.sha256Hex draftId).lowercase
  unfold creatorRuntimeName isRuntimeName
  generalize (Sha256.sha256Hex draftId).text = text at digest lowercase
  have shape : isDigest text = true := digest
  simp only [isDigest, Bool.and_eq_true, beq_iff_eq, List.all_eq_true] at shape
  obtain ⟨length, hex⟩ := shape
  have plain : ∀ c ∈ text.toList, ('0' ≤ c ∧ c ≤ '9') ∨ ('a' ≤ c ∧ c ≤ 'f') := by
    intro c member
    have all := congrArg String.toList lowercase
    rw [lower_toList] at all
    have same : c.toLower = c := List.map_inj_left.mp (all.trans (List.map_id _).symm) c member
    have digit := isHexDigit_iff.mp (hex c member)
    have low := @toLower_toNat c
    have small : '0'.val.toNat = 48 ∧ '9'.val.toNat = 57 ∧ 'a'.val.toNat = 97 ∧ 'f'.val.toNat = 102 := ⟨rfl, rfl, rfl, rfl⟩
    have code : c.toNat = c.val.toNat := rfl
    rw [same] at low
    simp only [Char.le_def, UInt32.le_iff_toNat_le]
    split at low <;> omega
  have chars : ("bnberahf" ++ String.ofList (text.toList.take 12)).toList = "bnberahf".toList ++ text.toList.take 12 := by
    rw [String.toList_append, @String.toList_ofList (text.toList.take 12)]
  have eight : "bnberahf".toList.length = 8 := by decide
  have size : (text.toList.take 12).length = 12 := by rw [List.length_take, length]; rfl
  rw [chars, List.take_left' eight, List.drop_left' eight, List.length_append, eight, size, beq_self_eq_true]
  refine List.all_eq_true.mpr fun c member => ?_
  simp only [Bool.or_eq_true, Bool.and_eq_true, decide_eq_true_eq]
  exact plain c (List.mem_of_mem_take member)

end

section
variable {N : Type} [Numbers N] [Integers N] [Sdk N] [FunctionSelectors] [Keccak256] [Sha256] [LawfulSdk N]
  {input : HandoffInput N} {grant : Grant} {signer : Signer}

def destinationOf (input : HandoffInput N) : SecretReference :=
  ⟨.studioDelegatedSecretChannel, "studio-local/" ++ creatorRuntimeName input.draftId ++ "/" ++ lower input.authority.authorityId⟩

/-- The handoff accepts what the browser sends. -/
theorem handoffCreatorAuthority_browsed (requested : Requested input grant) (browsed : Browsed input grant signer) :
    ∃ bytes, handoffCreatorAuthority input = .ok ⟨⟨input.authority.authorityId, input.draftId, input.ownerAddress,
      input.descriptor grant, input.material, destinationOf input, input.nowUnix⟩, bytes⟩ := by
  have issued := creatorAuthorityGrant_eq_ok requested.granted
  have acceptable := issued.valid.accepted
  obtain ⟨options, walletAddress, expiry, fields, offered, held, timed, serializes, sent⟩ := browsed.session
  obtain ⟨session, lasting⟩ := @granted_eq _ _ _ signer _ walletAddress expiry _ _ issued offered
  rw [session] at serializes
  rw [lasting, issued.expiry, show input.grantInput.nowUnix + expirySeconds = input.authority.expiresAtUnix from sub_add_cancel _ _] at timed
  obtain ⟨digits, hexWallet, length⟩ := isHexText_iff.mp acceptable.wallet
  have wallet : Seller.isHexText 40 walletAddress = true := by
    refine isHexOf_lowerAscii.mp ?_
    rw [held, show lowerAscii (ofString input.authority.walletAddress) = _ from hexWallet.lowerAscii]
    exact hexWallet.lower.isHexOf (by rw [List.length_map, length]; rfl)
  have lower := requested.issued
  obtain ⟨safe, positive⟩ := acceptable.expiry
  rw [show input.grantInput.policy.expiresAtUnix = input.authority.expiresAtUnix from sub_add_cancel _ _] at safe positive
  have timestamp : isTimestamp expiry = true := by
    refine (Option.any_eq_true _ _).mpr ⟨_, timed, ?_⟩
    have bound := safe.2
    simp only [Bool.and_eq_true, decide_eq_true_eq]
    omega
  obtain ⟨parsed, walletField, keyField⟩ := parse_serialized serializes wallet browsed.hex timestamp
  have signed : signerOf input fields = .ok signer := by
    refine bind_eq_ok.mpr ⟨signer, Seller.elim_eq_ok.mpr browsed.signed, bind_eq_ok.mpr ⟨signer.publicKey, ?_, ?_⟩⟩
    · rw [keyField]
      rfl
    refine refuseIf_bind_eq_ok.mpr ⟨?_, bind_eq_ok.mpr ⟨walletAddress, ?_, refuseIf_bind_eq_ok.mpr ⟨not_not.mpr held, rfl⟩⟩⟩
    · rintro (other | other | other)
      · exact other rfl
      · exact other browsed.publicKey
      · exact other browsed.address
    · rw [walletField]
      rfl
  have limits : ∀ entries ∈ (browserSession walletAddress signer.publicKey expiry).spend, ∀ entry ∈ entries, 0 ≤ entry.limit := by
    rintro entries ⟨⟩ entry member
    rw [List.mem_singleton.mp member]
    decide
  have restored : Sdk.deserializeSession fields signer = some (browserSession walletAddress signer.publicKey expiry) :=
    LawfulSdk.deserialize_serialized serializes limits rfl
  have calls : targetedCalls (browserSession walletAddress signer.publicKey expiry).calls = some grantedCalls := rfl
  have sameCalls : sameCallSet (some grantedCalls) grantedCalls = true := by simp [sameCallSet]
  have sameSpend : sameSpendSet (some grantedSpend) grantedSpend = true := by simp [sameSpendSet]
  have destination : creatorLocalStudioDestination (creatorRuntimeName input.draftId) input.authority.authorityId =
      .ok (destinationOf input) := by
    refine refuseIf_bind_eq_ok.mpr ⟨?_, rfl⟩
    rw [isRuntimeName_creatorRuntimeName, requested.identified]
    decide
  have bound := requested.time
  have begun := requested.begun
  refine ⟨stringify (handedOff (lowerAscii walletAddress) (lowerAscii signer.publicKey) expiry grant.calls grant.spend
    (lowerAscii input.sessionPrivateKey)), ?_⟩
  unfold handoffCreatorAuthority
  refine refuseIf_bind_eq_ok.mpr ⟨?_, refuseIf_bind_eq_ok.mpr ⟨?_, refuseIf_bind_eq_ok.mpr ⟨?_, refuseIf_bind_eq_ok.mpr ⟨?_, ?_⟩⟩⟩⟩
  · rintro (unsafe' | early)
    · exact unsafe' bound
    · omega
  · rintro (other | other)
    · exact other requested.draft
    · exact other requested.owner
  · rintro (other | expired)
    · exact other requested.active
    · exact absurd requested.unexpired (not_lt.mpr expired)
  · rw [browsed.key]
    decide
  refine bind_eq_ok.mpr ⟨fields, sent ▸ parsed, bind_eq_ok.mpr ⟨signer, signed, bind_eq_ok.mpr ⟨grant, grantOf_requested requested, ?_⟩⟩⟩
  refine bind_eq_ok.mpr ⟨_, Seller.elim_eq_ok.mpr restored, refuseIf_bind_eq_ok.mpr ⟨?_, bind_eq_ok.mpr ⟨_, destination, rfl⟩⟩⟩
  rw [calls, issued.calls, issued.spend, sameCalls]
  rintro (other | other | other)
  · exact other timed
  · cases other
  · cases sameSpend.symm.trans other

end

/-! ### The confirmation -/

class LawfulKeccak256 [Keccak256] : Prop where
  isHexText_keccak256 : ∀ text, isHexText 64 (Keccak256.keccak256 text) = true

/-- The answers when the draft has an owner and no record, the chain has an observation and the sink a receipt. -/
def answers (owner : String) (observation : SessionStateObservation) (receipt : SessionHandoffReceipt) :
    (call : AuthorityCall) → Unit → call.Answer × Unit
  | .ownerAddressForDraft _, _ => (some owner, ())
  | .getByDraft _, _ => (none, ())
  | .get _, _ => (none, ())
  | .put _, _ => ((), ())
  | .gatewayRead _, _ => (.ok observation, ())
  | .gatewayRevoke _, _ => (.error .external, ())
  | .putRuntimeSession _ _ _, _ => (.accepted receipt, ())

section
variable {α β : Type} {answer : (call : AuthorityCall) → Unit → call.Answer × Unit}

theorem eval_check_bind {result : Checked α} {value : α} (passed : result = .ok value) (rest : α → AuthorityWork β) :
    (AuthorityWork.check result >>= rest).run.eval answer () = (rest value).run.eval answer () := by
  rw [passed]
  rfl

theorem eval_check {result : Checked α} {value : α} (passed : result = .ok value) :
    (AuthorityWork.check result).run.eval answer () = (.ok value, ()) := by
  rw [passed]
  rfl

theorem eval_refuse_bind {fails : Prop} [Decidable fails] {code : AltanaBoundaryErrorCode} {message : String} (passed : ¬fails)
    (rest : Unit → AuthorityWork β) :
    (AuthorityWork.check (refuse fails code message) >>= rest).run.eval answer () = (rest ()).run.eval answer () :=
  @eval_check_bind _ _ _ _ () (refuse_eq_ok.mpr passed) rest

theorem eval_ask_bind (call : AuthorityCall) (rest : call.Answer → AuthorityWork β) :
    (AuthorityWork.ask call >>= rest).run.eval answer () = (rest (answer call ()).1).run.eval answer () := rfl

end

section
variable [Keccak256]

/-- The draft is the owner's, the session is seen to be active, and the sink's receipt is bound to it. -/
structure Cooperates (confirm : ConfirmInput) (owner : String) (observation : SessionStateObservation)
    (receipt : SessionHandoffReceipt) : Prop where
  owner : lower owner = lower confirm.ownerAddress
  bound : assertBoundFreshObservation confirm.descriptor observation confirm.nowUnix = .ok ()
  active : observation.status = .active
  received : ∃ handoff, checkReceipt receipt confirm.descriptor confirm.destination (confirm.descriptor.policyDigest.map lower) =
    .ok handoff

def Confirmed (confirm : ConfirmInput) : Prop :=
  ∀ owner observation receipt, Cooperates confirm owner observation receipt →
    ∃ status, (confirmCreatorAuthority confirm).run.eval (answers owner observation receipt) () = (.ok status, ())

structure Confirmable (confirm : ConfirmInput) : Prop where
  valid : ∃ policy, assertPolicyValidAt confirm.descriptor.policy confirm.nowUnix = .ok policy
  digest : assertDescriptorPolicyDigest confirm.descriptor = .ok ()
  admin : lower confirm.descriptor.policy.adminAddress = lower confirm.ownerAddress
  unreferenced : confirm.descriptor.secretReference = none
  handed : checkHandoff confirm.descriptor confirm.destination confirm.nowUnix = .ok (confirm.descriptor.policyDigest.map lower)
  summary : ∃ summary, toPublicPolicySummary confirm.descriptor.policy = .ok summary
  digested : confirm.descriptor.policyDigest.isSome = true

theorem publicStatus_eq_ok {record : CreatorAuthorityRecord} {summary : PublicPolicySummary} {digest : String}
    (summarized : toPublicPolicySummary record.descriptor.policy = .ok summary)
    (digested : record.descriptor.policyDigest = some digest) : ∃ status, publicStatus record = .ok status := by
  unfold publicStatus
  rw [summarized, digested]
  exact ⟨_, rfl⟩

theorem confirmed_of_confirmable {confirm : ConfirmInput} (confirmable : Confirmable confirm) : Confirmed confirm := by
  intro owner observation receipt cooperates
  obtain ⟨policy, valid⟩ := confirmable.valid
  obtain ⟨handoff, received⟩ := cooperates.received
  obtain ⟨summary, summarized⟩ := confirmable.summary
  obtain ⟨digest, digested⟩ := Option.isSome_iff_exists.mp confirmable.digested
  let answer := answers owner observation receipt
  have owned : ¬((some owner).map lower ≠ some (lower confirm.ownerAddress) ∨
      (some owner).map lower ≠ some (lower confirm.descriptor.policy.adminAddress)) := by
    rw [Option.map_some, cooperates.owner, confirmable.admin]
    simp
  obtain ⟨status, published⟩ : ∃ status, publicStatus (confirm.record handoff observation) = .ok status := by
    exact publicStatus_eq_ok summarized digested
  have handed : (handoffRuntimeSession confirm.material confirm.descriptor confirm.destination confirm.nowUnix).run.eval answer () =
      (.ok handoff, ()) := by
    refine (eval_check_bind confirmable.handed _).trans ((eval_ask_bind _ _).trans ?_)
    exact eval_check received
  have fresh : (confirmNew confirm).run.eval answer () = (.ok status, ()) := by
    refine (eval_refuse_bind (not_not.mpr confirmable.unreferenced) _).trans ((eval_ask_bind _ _).trans ?_)
    refine (eval_check_bind cooperates.bound _).trans ?_
    refine (eval_refuse_bind (not_not.mpr cooperates.active) _).trans ?_
    rw [Program.eval_except_bind, handed]
    exact (eval_ask_bind _ _).trans (eval_check published)
  refine ⟨status, (eval_check_bind valid _).trans ((eval_check_bind confirmable.digest _).trans ?_)⟩
  exact (eval_ask_bind _ _).trans ((eval_refuse_bind owned _).trans ((eval_ask_bind _ _).trans fresh))

end


theorem isSafe_hex {c : Char} (hex : isHexDigit c = true ∨ c = '-') :
    (isLetter c || isDigit c || c == '.' || c == '_' || c == ':' || c == '-') = true := by
  rcases hex with hex | rfl
  · simp only [isHexDigit, isLetter, isDigit, Bool.or_eq_true, Bool.and_eq_true, decide_eq_true_eq, Char.le_def,
      UInt32.le_iff_toNat_le] at hex ⊢
    have bounds : 'a'.val.toNat = 97 ∧ 'f'.val.toNat = 102 ∧ 'z'.val.toNat = 122 ∧ 'A'.val.toNat = 65 ∧ 'F'.val.toNat = 70 ∧
        'Z'.val.toNat = 90 := ⟨rfl, rfl, rfl, rfl, rfl, rfl⟩
    omega
  · decide

theorem length_utf16Units_le (text : String) : (utf16Units text).length ≤ 2 * text.toList.length := by
  unfold utf16Units
  induction text.toList with
  | nil => exact Nat.le_refl _
  | cons c rest ih =>
    rw [List.flatMap_cons, List.length_append, List.length_cons]
    split
    · rw [List.length_singleton]
      omega
    · show 2 + _ ≤ _
      omega

theorem normalizePolicyDigest_some {digest : String} (hex : isHexText 64 digest = true) (label : String) :
    normalizePolicyDigest (some digest) label = .ok (some (lower digest)) := by
  show ((do
    refuse (¬isHexText 64 digest) .sessionHandoffFailed (label ++ " is not a valid public policy digest.")
    return lower digest : Checked String) >>= fun value => pure (some value)) = _
  rw [refuse, refuseIf, if_neg (not_not.mpr hex)]
  rfl

section
variable {N : Type} {input : HandoffInput N} {grant : Grant}

theorem isSafeHandoffId_session (named : isUuid input.draftId = true)
    (address : isHexText 40 input.authority.sessionPublicAddress = true) :
    isSafeHandoffId (input.descriptor grant).sessionId = true := by
  obtain ⟨digits, found, length⟩ := isHexText_iff.mp address
  have uuid := @mem_isUuid _ named
  have size : input.draftId.toList.length = 36 := by
    simp only [isUuid, Bool.and_eq_true, beq_iff_eq] at named
    exact named.1.1.1.1.1.1
  have last : (lower (String.ofList ((input.authority.sessionPublicAddress.toList.take 14).drop 2))).toList =
      (digits.take 12).map Char.toLower := by
    rw [lower_toList, found.shape, String.toList_ofList]
    rfl
  have shape : (input.descriptor grant).sessionId.toList = 'c' :: ("reator-browser:".toList ++ input.draftId.toList ++ ":".toList ++
      (digits.take 12).map Char.toLower) := by
    rw [← last]
    show ("creator-browser:" ++ input.draftId ++ ":" ++ _).toList = _
    rw [String.toList_append, String.toList_append, String.toList_append]
    rfl
  have short : ("reator-browser:".toList ++ input.draftId.toList ++ ":".toList ++ (digits.take 12).map Char.toLower).length ≤ 127 := by
    have fifteen : "reator-browser:".toList.length = 15 := by decide
    have one : ":".toList.length = 1 := by decide
    rw [List.length_append, List.length_append, List.length_append, List.length_map, List.length_take, fifteen, one, size]
    omega
  unfold isSafeHandoffId
  rw [shape]
  simp only [Bool.and_eq_true, decide_eq_true_eq]
  refine ⟨⟨by decide, short⟩, List.all_eq_true.mpr fun c member => ?_⟩
  rw [List.mem_append, List.mem_append, List.mem_append] at member
  rcases member with ((start | inside) | colon) | digit
  · exact List.all_eq_true.mp (by decide : "reator-browser:".toList.all
      (fun c => isLetter c || isDigit c || c == '.' || c == '_' || c == ':' || c == '-') = true) c start
  · exact isSafe_hex (uuid inside)
  · rw [List.mem_singleton.mp colon]
    decide
  · obtain ⟨d, inside, rfl⟩ := List.mem_map.mp digit
    exact isSafe_hex (Or.inl (isHexDigit_toLower (List.all_eq_true.mp found.hex d (List.mem_of_mem_take inside))))

variable [Sha256]

theorem isSafePublicReference_destination (identified : isAuthorityId input.authority.authorityId = true) :
    isSafePublicReference (destinationOf input).reference = true := by
  have name : (creatorRuntimeName input.draftId).toList.length = 20 := by
    have accepted := isRuntimeName_creatorRuntimeName input.draftId
    simp only [isRuntimeName, Bool.and_eq_true, beq_iff_eq] at accepted
    exact accepted.1.2
  have size : input.authority.authorityId.toList.length = 36 := by
    simp only [isAuthorityId, isUuid, Bool.and_eq_true, beq_iff_eq] at identified
    exact identified.1.1.1.1.1.1.1.1
  have shape : (destinationOf input).reference.toList = 's' :: ("tudio-local/".toList ++ (creatorRuntimeName input.draftId).toList ++
      "/".toList ++ (lower input.authority.authorityId).toList) := by
    show ("studio-local/" ++ creatorRuntimeName input.draftId ++ "/" ++ lower input.authority.authorityId).toList = _
    rw [String.toList_append, String.toList_append, String.toList_append]
    rfl
  have units := length_utf16Units_le (destinationOf input).reference
  have length : (destinationOf input).reference.toList.length = 70 := by
    have twelve : "tudio-local/".toList.length = 12 := by decide
    have one : "/".toList.length = 1 := by decide
    rw [shape, List.length_cons, List.length_append, List.length_append, List.length_append, lower_toList, List.length_map, name, size,
      twelve, one]
  unfold isSafePublicReference
  rw [shape]
  simp only [Bool.and_eq_true, decide_eq_true_eq]
  exact ⟨by decide, by omega⟩

variable [FunctionSelectors] [Keccak256]

/-- What the handoff confirms can be confirmed. -/
theorem confirmable_requested [LawfulKeccak256] {options : BrowserGrantOptions} {issuedAt : Int} (requested : Requested input grant)
    (offered : creatorBrowserGrantOptions grant issuedAt = .ok options) :
    Confirmable ⟨input.authority.authorityId, input.draftId, input.ownerAddress, input.descriptor grant, input.material,
      destinationOf input, input.nowUnix⟩ := by
  have issued := creatorAuthorityGrant_eq_ok requested.granted
  have acceptable := issued.valid.accepted
  have expires : grant.policy.expiresAtUnix = input.authority.expiresAtUnix := by
    rw [issued.policy]
    exact sub_add_cancel _ _
  have valid : grant.policy.ValidAt input.nowUnix := by
    refine ⟨?_, requested.time, expires ▸ requested.unexpired⟩
    rw [issued.policy]
    exact (normalizePolicy_eq_ok.mp (normalizePolicy_normal acceptable)).1
  have checked := assertPolicyValidAt_eq_ok.mpr ⟨valid, rfl⟩
  have digest : isHexText 64 grant.policyDigest = true := by
    obtain ⟨text, _, hashed⟩ := bind_eq_ok.mp issued.digest
    rw [← Except.ok.inj hashed]
    exact LawfulKeccak256.isHexText_keccak256 text
  obtain ⟨summary, summarized, _⟩ := bind_eq_ok.mp offered
  have late := requested.issued
  have begun := requested.begun
  have unexpired := requested.unexpired
  have bound := requested.time.2
  exact {
    valid := ⟨_, checked⟩
    digest := bind_eq_ok.mpr ⟨_, issued.digest, refuse_eq_ok.mpr (not_not.mpr rfl)⟩
    admin := by
      show lower grant.policy.adminAddress = lower input.ownerAddress
      rw [issued.policy, ← requested.owner]
      exact lower_lower _
    unreferenced := rfl
    handed := by
      have granted : isSafeInteger (input.authority.expiresAtUnix - 3600) := ⟨by omega, by omega⟩
      refine bind_eq_ok.mpr ⟨(), refuse_eq_ok.mpr ?_, refuseIf_bind_eq_ok.mpr ⟨not_not.mpr rfl, bind_eq_ok.mpr ⟨_, checked, ?_⟩⟩⟩
      · rintro (other | early)
        · exact other requested.time
        · have early : input.nowUnix ≤ 0 := early
          omega
      refine bind_eq_ok.mpr ⟨(), refuse_eq_ok.mpr ?_, refuseIf_bind_eq_ok.mpr ⟨?_, bind_eq_ok.mpr ⟨some (lower grant.policyDigest), ?_, ?_⟩⟩⟩
      · rintro (other | early)
        · exact other granted
        · exact absurd late (not_lt.mpr early)
      · rintro (early | expired)
        · exact absurd begun (not_le.mpr early)
        · have expired : grant.policy.expiresAtUnix ≤ input.authority.expiresAtUnix - 3600 := expired
          omega
      · exact normalizePolicyDigest_some digest _
      refine bind_eq_ok.mpr ⟨(), refuse_eq_ok.mpr (not_not.mpr ?_), refuseIf_bind_eq_ok.mpr ⟨not_not.mpr ?_, rfl⟩⟩
      · exact isSafePublicReference_destination requested.identified
      · exact isSafeHandoffId_session requested.named acceptable.session
    summary := ⟨summary, summarized⟩
    digested := rfl }

end

section
variable {N : Type} [Numbers N] [Integers N] [DecidableEq N] [Sdk N] [FunctionSelectors] [Keccak256] [Sha256] [LawfulNumbers N]
  [LawfulIntegers N] [LawfulSdk N] [LawfulKeccak256]

/-- The bytes of an accepted handoff hold the granted session, which the runtime restores and which passes its permission check for
every compiled configuration, and the handoff accepts and confirms every session that the browser gets from the options of the grant. -/
theorem creator_session_handed_off :
    (∀ (input : HandoffInput N) (handoff : Handoff), handoffCreatorAuthority input = .ok handoff →
      ∃ grant, creatorAuthorityGrant input.grantInput = .ok grant ∧ HandsOver N grant input.sessionPrivateKey handoff.bytes ∧
        Restores N grant handoff.bytes) ∧
    (∀ (input : HandoffInput N) (grant : Grant) (signer : Signer), Requested input grant → Browsed input grant signer →
      ∃ handoff, handoffCreatorAuthority input = .ok handoff ∧ Confirmed handoff.confirm) := by
  refine ⟨fun input handoff accepted => handoff_restores accepted, fun input grant signer requested browsed => ?_⟩
  obtain ⟨options, _, _, _, offered, _⟩ := browsed.session
  obtain ⟨bytes, accepted⟩ := handoffCreatorAuthority_browsed requested browsed
  exact ⟨_, accepted, confirmed_of_confirmable (confirmable_requested requested offered)⟩

end

/-! ### A session that is handed over -/

theorem narrow_repr (n : Nat) : ∀ c ∈ n.repr.toList, 48 ≤ c.toNat ∧ c.toNat ≤ 57 := by
  intro c member
  have digit := Nat.isDigit_of_mem_toDigits (by decide) (by decide) (Nat.toList_repr ▸ member : c ∈ Nat.toDigits 10 n)
  simp only [Char.isDigit, Bool.and_eq_true, decide_eq_true_eq, ge_iff_le, UInt32.le_iff_toNat_le] at digit
  exact digit

theorem decimal_units_repr (n : Nat) : decimal (units n.repr) = n := by
  have value := decimalValue_repr n
  rw [decimalValue_ofList] at value
  rw [decimal, units, List.foldl_map]
  refine Eq.trans ?_ value
  refine List.foldl_ext _ _ 0 fun total c member => ?_
  have narrow := narrow_repr n c member
  show 10 * total + (c.toNat % 0x10000 - 48) = _
  rw [Nat.mod_eq_of_lt (by omega)]

theorem isDigits_repr (n : Nat) : isDigits (units n.repr) = true := by
  have some : n.repr.toList ≠ [] := by
    rw [Nat.toList_repr]
    exact Nat.toDigits_ne_nil
  rw [isDigits, Bool.and_eq_true, List.all_eq_true]
  refine ⟨bne_iff_ne.mpr fun empty => some (List.map_eq_nil_iff.mp empty), fun unit member => ?_⟩
  obtain ⟨c, inside, rfl⟩ := List.mem_map.mp member
  have narrow := narrow_repr n c inside
  have value : c.toNat % 0x10000 = c.toNat := Nat.mod_eq_of_lt (by omega)
  simp only [Fin.val_ofNat, value, Bool.and_eq_true, decide_eq_true_eq]
  exact narrow

abbrev WholeNumber := Option Nat

instance : Numbers WholeNumber where
  isFinite _ := true
  zero := some 0
  negZero := none
  toText n := units (n.getD 0).repr
  read text := if isDigits text = true then some (some (decimal text)) else none

instance : LawfulNumbers WholeNumber where
  isFinite_zero := rfl
  zero_ne_negZero := nofun
  toText_zero := by decide
  toText_negZero := by decide
  toText_units := by
    intro n _
    have digits := isDigits_repr (n.getD 0)
    rw [isDigits, Bool.and_eq_true, List.all_eq_true] at digits
    refine ⟨bne_iff_ne.mp digits.1, fun c member => ?_⟩
    rw [isNumberUnit, digits.2 c member]
    rfl
  read_toText := by
    rintro (_ | n) _ signed
    · exact absurd rfl signed
    · show (if isDigits (units n.repr) = true then some (some (decimal (units n.repr))) else none) = some (some n)
      rw [if_pos (isDigits_repr n), decimal_units_repr]

instance : Integers WholeNumber where
  one := some 1
  toInt n := some (n.getD 0 : Nat)

instance : LawfulIntegers WholeNumber where
  toInt_one := rfl
  toInt_negZero := rfl
  isFinite_toInt _ := rfl

/-- The signer of the private key `1`, for every key. -/
def sampleSigner : Signer where
  publicKey := units ("0x0479be667ef9dcbbac55a06295ce870b07029bfcdb2dce28d959f2815b16f81798" ++
    "483ada7726a3c4655da4fbfc0e1108a8fd17b448a68554199c47d08ffb10d4b8")
  address := units "0x7e5f4552091a69125d5dfcb7b8c2659029395bdf"

def readSdkCall (value : Value WholeNumber) : Option SdkCall :=
  match value with
  | .obj call => some ⟨readText isAny (field call "to"), readText isAny (field call "signature")⟩
  | _ => none

def readSdkSpend (value : Value WholeNumber) : Option SpendLimit :=
  match value with
  | .obj spend => do
    let limit ← decimalOf (field spend "limit")
    let period ← readText isAny (field spend "period")
    return ⟨readText isAny (field spend "token"), decimal limit, period⟩
  | _ => none

def readSdkEntries {α : Type} (read : Value WholeNumber → Option α) (value : Option (Value WholeNumber)) : Option (Option (List α)) :=
  match value with
  | none => some none
  | some (.arr items) => (items.mapM read).map some
  | _ => none

/-- An SDK that reads the fields of a session. -/
instance : Sdk WholeNumber where
  signerFromPrivateKey key := if Seller.isHexText 64 key = true then some sampleSigner else none
  deserializeSession stored _ := do
    let walletAddress ← readText isAny (field stored "walletAddress")
    let publicKey ← readText isAny (field stored "publicKey")
    let expiry ← readNum (fun _ => true) (field stored "expiry")
    let permissions ← readObject (field stored "permissions")
    let calls ← readSdkEntries readSdkCall (field permissions "calls")
    let spend ← readSdkEntries readSdkSpend (field permissions "spend")
    return ⟨walletAddress, publicKey, calls, spend, expiry⟩

theorem readSdkCall_of_writes {call : SdkCall} {value : Value WholeNumber} (writes : WritesCall call value) :
    readSdkCall value = some call := by
  obtain ⟨fields, rfl, perm⟩ := writes
  obtain ⟨target, signature⟩ := call
  have distinct : (keys ((target.map fun target => (units "to", (str target : Value WholeNumber))).toList ++
      (signature.map fun signature => (units "signature", str signature)).toList)).Nodup := by
    cases target with
    | none =>
      cases signature with
      | none => exact List.nodup_nil
      | some signature => exact (by decide : (["signature"].map units).Nodup)
    | some target =>
      cases signature with
      | none => exact (by decide : (["to"].map units).Nodup)
      | some signature => exact (by decide : (["to", "signature"].map units).Nodup)
  rw [readSdkCall, field_of_perm perm distinct, field_of_perm perm distinct]
  cases target <;> cases signature <;> rfl

theorem readSdkSpend_of_writes {spend : SpendLimit} {value : Value WholeNumber} (writes : WritesSpend spend value)
    (positive : 0 ≤ spend.limit) : readSdkSpend value = some spend := by
  obtain ⟨written, fields, rfl, limited, perm⟩ := writes
  obtain ⟨token, limit, period⟩ := spend
  obtain ⟨limit, rfl⟩ := Int.eq_ofNat_of_zero_le positive
  have text : ofString (decimalText limit) = units limit.repr := ofString_eq_units fun c member => by
    have narrow := narrow_repr limit c member
    omega
  have read := decimalOf_of_writes limited (text ▸ isDigits_repr limit)
  have distinct : (keys ([(units "limit", written), (units "period", (str period : Value WholeNumber))] ++
      (token.map fun token => (units "token", (str token : Value WholeNumber))).toList)).Nodup := by
    cases token
    · exact (by decide : (["limit", "period"].map units).Nodup)
    · exact (by decide : (["limit", "period", "token"].map units).Nodup)
  have limit' : field fields "limit" = some written := field_of_perm perm distinct "limit"
  have period' : field fields "period" = some (str period) := field_of_perm perm distinct "period"
  have token' : field fields "token" = token.map str := by
    rw [field_of_perm perm distinct]
    cases token <;> rfl
  rw [readSdkSpend, limit', period', token', read, text]
  show some (SpendLimit.mk (readText isAny (token.map str)) (decimal (units limit.repr)) period) = _
  rw [decimal_units_repr]
  cases token <;> rfl

theorem readSdkEntries_of_writes {α : Type} {writes : α → Value WholeNumber → Prop} {read : Value WholeNumber → Option α}
    {entries : List α} {values : List (Value WholeNumber)} (written : List.Forall₂ writes entries values)
    (reads : ∀ entry ∈ entries, ∀ value, writes entry value → read value = some entry) :
    readSdkEntries read (some (.arr values)) = some (some entries) := by
  refine congrArg (Option.map some) (?_ : values.mapM read = some entries)
  induction written with
  | nil => rfl
  | cons wrote _ ih =>
    rw [List.mapM_cons, reads _ List.mem_cons_self _ wrote, ih fun entry inside => reads entry (List.mem_cons_of_mem _ inside)]
    rfl

/-- The entries under a name among two lists of them. -/
theorem field_entries {α β : Type} {writes : α → Value WholeNumber → Prop} {writes' : β → Value WholeNumber → Prop}
    {calls : Option (List α)} {spend : Option (List β)} {permissions fields fields' : Fields WholeNumber}
    (perm : permissions.Perm (fields ++ fields')) (written : WritesEntries "calls" writes calls fields)
    (written' : WritesEntries "spend" writes' spend fields') {read : Value WholeNumber → Option α} {read' : Value WholeNumber → Option β}
    (reads : ∀ listed ∈ calls, ∀ entry ∈ listed, ∀ value, writes entry value → read value = some entry)
    (reads' : ∀ listed ∈ spend, ∀ entry ∈ listed, ∀ value, writes' entry value → read' value = some entry) :
    readSdkEntries read (field permissions "calls") = some calls ∧ readSdkEntries read' (field permissions "spend") = some spend := by
  cases calls with
  | none =>
    obtain rfl := written
    cases spend with
    | none =>
      obtain rfl := written'
      rw [List.perm_nil.mp perm]
      exact ⟨rfl, rfl⟩
    | some spend =>
      obtain ⟨values, rfl, each⟩ := written'
      have distinct : (["spend"].map units).Nodup := by decide
      rw [field_of_perm perm distinct, field_of_perm perm distinct]
      exact ⟨rfl, readSdkEntries_of_writes each (reads' _ rfl)⟩
  | some calls =>
    obtain ⟨values, rfl, each⟩ := written
    cases spend with
    | none =>
      obtain rfl := written'
      have distinct : (["calls"].map units).Nodup := by decide
      rw [field_of_perm perm distinct, field_of_perm perm distinct]
      exact ⟨readSdkEntries_of_writes each (reads _ rfl), rfl⟩
    | some spend =>
      obtain ⟨values', rfl, each'⟩ := written'
      have distinct : (["calls", "spend"].map units).Nodup := by decide
      rw [field_of_perm perm distinct, field_of_perm perm distinct]
      exact ⟨readSdkEntries_of_writes each (reads _ rfl), readSdkEntries_of_writes each' (reads' _ rfl)⟩

instance : LawfulSdk WholeNumber where
  signer_hex := by
    intro key signer signed
    change (if Seller.isHexText 64 key = true then some sampleSigner else none) = some signer at signed
    split at signed
    · rw [← Option.some.inj signed]
      decide +kernel
    · cases signed
  signer_lower := by
    intro key signer hex signed
    change (if Seller.isHexText 64 key = true then some sampleSigner else none) = some signer at signed
    rw [if_pos hex] at signed
    rw [← Option.some.inj signed]
    have lowered : Seller.isHexText 64 (lowerAscii key) = true := isHexOf_lowerAscii.mp (by
      rw [lowerAscii_lowerAscii]
      exact isHexOf_lowerAscii.mpr hex)
    exact ⟨sampleSigner, if_pos lowered, rfl⟩
  deserialize_wallet := by
    intro stored signer session walletAddress restored held
    change Option.bind _ _ = _ at restored
    rw [held] at restored
    obtain ⟨wallet, read, restored⟩ := Option.bind_eq_some_iff.mp restored
    cases read
    obtain ⟨publicKey, _, restored⟩ := Option.bind_eq_some_iff.mp restored
    obtain ⟨expiry, _, restored⟩ := Option.bind_eq_some_iff.mp restored
    obtain ⟨permissions, _, restored⟩ := Option.bind_eq_some_iff.mp restored
    obtain ⟨calls, _, restored⟩ := Option.bind_eq_some_iff.mp restored
    obtain ⟨spend, _, restored⟩ := Option.bind_eq_some_iff.mp restored
    cases restored
    rfl
  deserialize_serialized := by
    rintro session fields signer ⟨permissions, calls, spend, perm, split, callsWritten, spendWritten⟩ positive _
    have distinct : (["walletAddress", "publicKey", "expiry", "permissions"].map units).Nodup := by decide
    have wallet : field fields "walletAddress" = some (str session.walletAddress) := field_of_perm perm distinct "walletAddress"
    have key : field fields "publicKey" = some (str session.publicKey) := field_of_perm perm distinct "publicKey"
    have dated : field fields "expiry" = some (num session.expiry) := field_of_perm perm distinct "expiry"
    have permitted : field fields "permissions" = some (.obj permissions) := field_of_perm perm distinct "permissions"
    obtain ⟨callsRead, spendRead⟩ := field_entries split callsWritten spendWritten
      (fun _ _ _ _ _ wrote => readSdkCall_of_writes wrote)
      (fun listed found entry inside _ wrote => readSdkSpend_of_writes wrote (positive listed found entry inside))
    show Option.bind _ _ = _
    rw [wallet, key, dated, permitted]
    refine Option.bind_eq_some_iff.mpr ⟨_, rfl, Option.bind_eq_some_iff.mpr ⟨_, rfl, Option.bind_eq_some_iff.mpr ⟨_, rfl, ?_⟩⟩⟩
    refine Option.bind_eq_some_iff.mpr ⟨_, rfl, Option.bind_eq_some_iff.mpr ⟨_, callsRead, Option.bind_eq_some_iff.mpr ⟨_, spendRead, rfl⟩⟩⟩

@[reducible] def sampleSelectors : FunctionSelectors where
  toFunctionSelector _ := "0x7ff36ab5"

@[reducible] def samplePolicyKeccak256 : Keccak256 where
  keccak256 _ := "0xef7f91a1d4cc2947ad5d4991b6c3c4b157dfece02f1f46b261d56e70aa8028d3"

@[reducible] def sampleDraftSha256 : Sha256 where
  sha256Hex _ := ⟨"f6222a1106eefe4f6b25302a9d963cfaba14bedfefacc2c311967e41c61cffe4", by decide +kernel, by decide +kernel⟩

attribute [local instance] sampleSelectors samplePolicyKeccak256 sampleDraftSha256

instance : LawfulKeccak256 where
  isHexText_keccak256 _ := (by decide +kernel :
    isHexText 64 "0xef7f91a1d4cc2947ad5d4991b6c3c4b157dfece02f1f46b261d56e70aa8028d3" = true)

def sampleAuthority : CreatorBrowserAuthority where
  authorityId := "44444444-4444-4444-8444-444444444444"
  draftId := "33333333-3333-4333-8333-333333333333"
  ownerAddress := "0x1111111111111111111111111111111111111111"
  walletAddress := "0x2222222222222222222222222222222222222222"
  sessionPublicAddress := "0x7E5F4552091a69125d5dfcb7b8c2659029395bdf"
  sessionPublicKey := "0x0479be667ef9dcbbac55a06295ce870b07029bfcdb2dce28d959f2815b16f81798" ++
    "483ada7726a3c4655da4fbfc0e1108a8fd17b448a68554199c47d08ffb10d4b8"
  policyDigest := "0xef7f91a1d4cc2947ad5d4991b6c3c4b157dfece02f1f46b261d56e70aa8028d3"
  expiresAtUnix := 1700003600
  status := .active
  grantTransactionHash := none

def sampleCalls : List (Value WholeNumber) :=
  grantedCalls.map fun call => .obj [(units "to", str call.target), (units "signature", str call.signature)]

def sampleSpend : List (Value WholeNumber) :=
  [.obj [(units "limit", str (ofString (decimalText 2000000000000000))), (units "period", str (units "hour"))]]

def sampleFields (walletAddress publicKey : Text) (expiry : WholeNumber) : Fields WholeNumber :=
  [(units "expiry", num expiry), (units "permissions", .obj [(units "spend", .arr sampleSpend), (units "calls", .arr sampleCalls)]),
    (units "walletAddress", str walletAddress), (units "publicKey", str publicKey)]

def sampleHandoff : HandoffInput WholeNumber where
  draftId := "33333333-3333-4333-8333-333333333333"
  ownerAddress := "0x1111111111111111111111111111111111111111"
  authority := sampleAuthority
  serializedSession := .obj (sampleFields (units "0x2222222222222222222222222222222222222222") sampleSigner.publicKey (some 1700003600))
  sessionPrivateKey := units "0x0000000000000000000000000000000000000000000000000000000000000001"
  material := 0
  nowUnix := 1700000100

theorem sampleFields_serializes (walletAddress publicKey : Text) (expiry : WholeNumber) :
    Serializes (browserSession walletAddress publicKey expiry) (sampleFields walletAddress publicKey expiry) := by
  have calls : List.Forall₂ WritesCall (grantedCalls.map fun call => ⟨some call.target, some call.signature⟩) sampleCalls := by
    rw [sampleCalls, List.forall₂_map_left_iff, List.forall₂_map_right_iff, List.forall₂_same]
    exact fun call _ => ⟨_, rfl, .refl _⟩
  have spend : List.Forall₂ WritesSpend grantedSpend sampleSpend := .cons ⟨_, _, rfl, Or.inl rfl, .refl _⟩ .nil
  refine ⟨[(units "spend", .arr sampleSpend), (units "calls", .arr sampleCalls)], [(units "calls", .arr sampleCalls)],
    [(units "spend", .arr sampleSpend)], ?_, .swap _ _ _, ⟨_, rfl, calls⟩, ⟨_, rfl, spend⟩⟩
  have moved : ∀ a b c d : Text × Value WholeNumber, [a, b, c, d].Perm [c, d, a, b] := fun a b c d =>
    @List.perm_append_comm _ [a, b] [c, d]
  exact moved _ _ _ _

theorem sampleGrant_issued : ∃ grant, creatorAuthorityGrant sampleHandoff.grantInput = .ok grant ∧
    grant.policyDigest = sampleAuthority.policyDigest := by
  have issued : (creatorAuthorityGrant sampleHandoff.grantInput).isOk = true := by decide +kernel
  cases granted : creatorAuthorityGrant sampleHandoff.grantInput with
  | error failure =>
    rw [granted] at issued
    cases issued
  | ok grant =>
    obtain ⟨_, _, hashed⟩ := bind_eq_ok.mp (creatorAuthorityGrant_eq_ok granted).digest
    exact ⟨grant, rfl, (Except.ok.inj hashed).symm⟩

theorem sampleHandoff_requested {grant : Grant} (granted : creatorAuthorityGrant sampleHandoff.grantInput = .ok grant)
    (digest : grant.policyDigest = sampleAuthority.policyDigest) : Requested sampleHandoff grant where
  time := by decide
  draft := rfl
  named := by decide +kernel
  owner := rfl
  active := rfl
  issued := by decide
  begun := by decide
  unexpired := by decide
  granted := granted
  digest := congrArg lower digest
  identified := by decide +kernel

theorem sampleHandoff_browsed {grant : Grant} (granted : creatorAuthorityGrant sampleHandoff.grantInput = .ok grant) :
    Browsed sampleHandoff grant sampleSigner where
  key := by decide +kernel
  signed := if_pos (by decide +kernel)
  hex := by decide +kernel
  publicKey := by decide +kernel
  address := by decide +kernel
  session := by
    have issued := creatorAuthorityGrant_eq_ok granted
    have normal := normalizePolicy_normal issued.valid.accepted
    rw [← issued.policy] at normal
    obtain ⟨options, offered⟩ : ∃ options, creatorBrowserGrantOptions grant (sampleHandoff.authority.expiresAtUnix - 3600) = .ok options :=
      ⟨_, bind_eq_ok.mpr ⟨_, bind_eq_ok.mpr ⟨_, normal, rfl⟩, rfl⟩⟩
    obtain ⟨session, expiry⟩ := @granted_eq _ _ _ sampleSigner _ (units "0x2222222222222222222222222222222222222222")
      (some 1700003600 : WholeNumber) _ _ issued offered
    refine ⟨options, _, _, _, offered, by decide +kernel, ?_, session ▸ sampleFields_serializes _ _ _, rfl⟩
    rw [expiry, issued.expiry]
    rfl

/-- A handed-off session of the sample. -/
theorem creator_session_handed_off_sample : ∃ grant handoff, handoffCreatorAuthority sampleHandoff = .ok handoff ∧
    Confirmed handoff.confirm ∧ creatorAuthorityGrant sampleHandoff.grantInput = .ok grant ∧
    HandsOver WholeNumber grant sampleHandoff.sessionPrivateKey handoff.bytes ∧ Restores WholeNumber grant handoff.bytes := by
  obtain ⟨hands, accepts⟩ := @creator_session_handed_off WholeNumber _ _ _ _ _ _ _ _ _ _ _
  obtain ⟨grant, granted, digest⟩ := sampleGrant_issued
  obtain ⟨handoff, accepted, confirmed⟩ := accepts sampleHandoff grant sampleSigner (sampleHandoff_requested granted digest)
    (sampleHandoff_browsed granted)
  obtain ⟨grant, granted, handed, restores⟩ := hands sampleHandoff handoff accepted
  exact ⟨grant, handoff, accepted, confirmed, granted, handed, restores⟩

end Bnbera.Altana
