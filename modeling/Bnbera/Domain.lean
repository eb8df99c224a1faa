import Mathlib.Algebra.Group.Nat.Defs
import Bnbera.CanonicalJson.Splitting
import Bnbera.Errors

namespace Bnbera

/-- `transactionHashSchema`: 32 bytes in either letter case after a lower-case `0x`. -/
def isTransactionHash (text : String) : Bool :=
  match text.toList with
  | '0' :: 'x' :: digits => digits.length == 64 && digits.all isHexDigit
  | _ => false

/-- `evmAddressSchema`, which admits the zero address. -/
def isEvmAddress (text : String) : Bool :=
  match text.toList with
  | '0' :: 'x' :: digits => digits.length == 40 && digits.all isHexDigit
  | _ => false

theorem isEvmAddress_iff {text : String} : isEvmAddress text = true ↔
    ∃ digits, text.toList = '0' :: 'x' :: digits ∧ digits.length = 40 ∧ digits.all isHexDigit = true := by
  unfold isEvmAddress
  split
  · rename_i digits same
    simp [same]
  · rename_i other
    constructor
    · intro accepted
      cases accepted
    · rintro ⟨digits, same, _⟩
      exact absurd same (other digits)

theorem isEvmAddress_lower {text : String} (accepted : isEvmAddress text = true) : isEvmAddress (lower text) = true := by
  obtain ⟨digits, same, length, hex⟩ := isEvmAddress_iff.mp accepted
  refine isEvmAddress_iff.mpr ⟨digits.map Char.toLower, ?_, by rw [List.length_map, length], all_isHexDigit_lower hex⟩
  rw [lower_toList, same]
  rfl

def isPositiveDecimal (text : String) : Bool := isDecimal text && text != "0"

def maxUint256 : Nat := 2 ^ 256 - 1

def isAgentId (text : String) : Bool := isDecimal text && decimalValue text ≤ maxUint256

/-- `z.string().uuid()` -/
def isUuid (text : String) : Bool :=
  let group (start size : Nat) := ((text.toList.drop start).take size).all isHexDigit
  text.toList.length == 36 && group 0 8 && group 9 4 && group 14 4 && group 19 4 && group 24 12 &&
    [8, 13, 18, 23].all fun i => text.toList[i]? == some '-'

theorem mem_isUuid {text : String} (accepted : isUuid text = true) {c : Char} (member : c ∈ text.toList) :
    isHexDigit c = true ∨ c = '-' := by
  simp only [isUuid, Bool.and_eq_true, beq_iff_eq] at accepted
  obtain ⟨⟨⟨⟨⟨⟨length, first⟩, second⟩, third⟩, fourth⟩, fifth⟩, dashes⟩ := accepted
  obtain ⟨i, bound, at'⟩ := List.mem_iff_getElem.mp member
  have group : ∀ start size, ((text.toList.drop start).take size).all isHexDigit = true → start ≤ i → i < start + size →
      isHexDigit c = true := by
    intro start size hex low high
    refine List.all_eq_true.mp hex c (List.mem_iff_getElem.mpr ⟨i - start, ?_, ?_⟩)
    · rw [List.length_take, List.length_drop]
      omega
    · rw [List.getElem_take, List.getElem_drop, ← at']
      congr 1
      omega
  have dash : i ∈ [8, 13, 18, 23] → c = '-' := by
    intro listed
    have here := beq_iff_eq.mp (List.all_eq_true.mp dashes i listed)
    rw [List.getElem?_eq_getElem bound, at'] at here
    exact Option.some.inj here
  by_cases listed : i ∈ [8, 13, 18, 23]
  · exact Or.inr (dash listed)
  · simp only [List.mem_cons, List.not_mem_nil, or_false, not_or] at listed
    by_cases a : i < 8
    · exact Or.inl (group 0 8 first (by omega) (by omega))
    · by_cases b : i < 13
      · exact Or.inl (group 9 4 second (by omega) (by omega))
      · by_cases c : i < 18
        · exact Or.inl (group 14 4 third (by omega) (by omega))
        · by_cases d : i < 23
          · exact Or.inl (group 19 4 fourth (by omega) (by omega))
          · exact Or.inl (group 24 12 fifth (by omega) (by omega))

def isVersionedUuid (text : String) : Bool :=
  isUuid text && (text.toList[14]?).any (fun c => '1' ≤ c && c ≤ '5') &&
    (text.toList[19]?).any fun c => ['8', '9', 'a', 'b'].contains c.toLower

abbrev NonZeroAddress := Checked isAddress
abbrev EvmAddress := Checked isEvmAddress
abbrev ContentDigest := Checked isDigest
abbrev TransactionHash := Checked isTransactionHash
abbrev PositiveDecimalUint := Checked isPositiveDecimal
abbrev AgentId := Checked isAgentId
abbrev Uuid := Checked isUuid

theorem firstUuid_ok : isUuid "00000000-0000-4000-8000-000000000001" = true := by decide +kernel

theorem secondUuid_ok : isUuid "00000000-0000-4000-8000-000000000002" = true := by decide +kernel

def isAlphanumeric (c : Char) : Bool := isLetter c || isDigit c

/-- `/^[A-Za-z0-9][A-Za-z0-9._:-]*$/` with a length of 8 to 160. -/
def isIdempotencyKeyText (text : String) : Bool :=
  match text.toList with
  | first :: rest => isAlphanumeric first && 7 ≤ rest.length && rest.length ≤ 159 &&
      rest.all fun c => isAlphanumeric c || c == '.' || c == '_' || c == ':' || c == '-'
  | [] => false

abbrev IdempotencyKey := Checked isIdempotencyKeyText

theorem isTrimmed_visible {c : Char} (low : 0x20 < c.toNat) (high : c.toNat < 0x7f) : isTrimmed c = false := by
  have far : ¬(0x2000 ≤ c.toNat ∧ c.toNat ≤ 0x200a) := by omega
  simp only [isTrimmed, List.contains_eq_mem, List.mem_cons, List.not_mem_nil, or_false, Bool.or_eq_false_iff,
    Bool.and_eq_false_iff, decide_eq_false_iff_not]
  omega

theorem isAlphanumeric_visible {c : Char} (allowed : isAlphanumeric c = true) : 0x20 < c.toNat ∧ c.toNat < 0x7f := by
  simp only [isAlphanumeric, isLetter, isDigit, Bool.or_eq_true, Bool.and_eq_true, decide_eq_true_eq, Char.le_def,
    UInt32.le_iff_toNat_le] at allowed
  have code : c.toNat = c.val.toNat := rfl
  have small : 'a'.val.toNat = 97 ∧ 'z'.val.toNat = 122 := ⟨rfl, rfl⟩
  have large : 'A'.val.toNat = 65 ∧ 'Z'.val.toNat = 90 := ⟨rfl, rfl⟩
  have digits : '0'.val.toNat = 48 ∧ '9'.val.toNat = 57 := ⟨rfl, rfl⟩
  omega

theorem IdempotencyKey.clean (key : IdempotencyKey) : ∀ c ∈ key.text.toList, isTrimmed c = false := by
  have accepted := key.accepted
  unfold isIdempotencyKeyText at accepted
  split at accepted
  · rename_i first rest chars
    simp only [Bool.and_eq_true, List.all_eq_true] at accepted
    intro c member
    rw [chars] at member
    rcases List.mem_cons.mp member with rfl | later
    · have bounds := isAlphanumeric_visible accepted.1.1.1
      exact isTrimmed_visible bounds.1 bounds.2
    · have allowed := accepted.2 c later
      simp only [Bool.or_eq_true, beq_iff_eq] at allowed
      rcases allowed with (((letter | rfl) | rfl) | rfl) | rfl
      · have bounds := isAlphanumeric_visible letter
        exact isTrimmed_visible bounds.1 bounds.2
      all_goals rfl
  · cases accepted

theorem Checked.ext {accepts : String → Bool} {a b : Checked accepts} (same : a.text = b.text) : a = b := by
  cases a
  cases b
  cases same
  rfl

theorem Within.ext {low high : Int} {a b : Within low high} (same : a.value = b.value) : a = b := by
  cases a
  cases b
  cases same
  rfl

/-- The address in lower case, as `normalizeAddress` returns it. -/
def NonZeroAddress.lowered (address : NonZeroAddress) : NonZeroAddress :=
  ⟨lower address.text, isAddress_lower address.accepted⟩

@[simp] theorem NonZeroAddress.lowered_text (address : NonZeroAddress) : address.lowered.text = lower address.text := rfl

@[simp] theorem NonZeroAddress.lowered_lowered (address : NonZeroAddress) : address.lowered.lowered = address.lowered :=
  Checked.ext (lower_lower address.text)

def checkNullable (accepts : String → Bool) : Option String → Option (Option (Checked accepts))
  | none => some none
  | some text => (check accepts text).map some

theorem checkNullable_text {accepts : String → Bool} {given : Option String} {value : Option (Checked accepts)}
    (read : checkNullable accepts given = some value) : value.map (·.text) = given := by
  cases given with
  | none =>
    cases read
    rfl
  | some text =>
    obtain ⟨checked, found, rfl⟩ := Option.map_eq_some_iff.mp read
    unfold check at found
    split at found
    · cases found
      rfl
    · cases found

theorem checkNullable_exists {accepts : String → Bool} {given : Option String}
    (accepted : ∀ text, given = some text → accepts text = true) : ∃ value, checkNullable accepts given = some value := by
  cases given with
  | none => exact ⟨none, rfl⟩
  | some text =>
    have found : check accepts text = some ⟨text, accepted text rfl⟩ := dif_pos (accepted text rfl)
    exact ⟨some ⟨text, accepted text rfl⟩, congrArg (Option.map some) found⟩

def nullableIssues (accepts : String → Bool) (path : List String) (message : String) : Option String → List Issue
  | none => []
  | some text => if accepts text then [] else [⟨path, message⟩]

theorem nullableIssues_eq_nil {accepts : String → Bool} {path : List String} {message : String} {given : Option String} :
    nullableIssues accepts path message given = [] ↔ ∀ text, given = some text → accepts text = true := by
  cases given with
  | none => simp [nullableIssues]
  | some text => simp [nullableIssues]

def Json.text {accepts : String → Bool} (value : Checked accepts) : Json := .str value.text

def Json.whole {low high : Int} (value : Within low high) : Json := .nat value.value.toNat

@[simp] theorem Json.text_wellFormed {accepts : String → Bool} (value : Checked accepts) :
    (Json.text value).wellFormed = true := rfl

@[simp] theorem Json.whole_wellFormed {low high : Int} (value : Within low high) :
    (Json.whole value).wellFormed = true := Json.nat_wellFormed _

theorem renders_text {accepts : String → Bool} : Renders (@Json.text accepts) :=
  ⟨fun _ => rfl, fun _ _ same => Checked.ext (canonicalizeJson_str same)⟩

theorem renders_whole {low high : Int} (nonneg : 0 ≤ low) : Renders (@Json.whole low high) := by
  refine ⟨Json.whole_wellFormed, fun a b same => Within.ext ?_⟩
  have values := canonicalizeJson_nat same
  have aLow := a.low_le
  have bLow := b.low_le
  omega

end Bnbera
