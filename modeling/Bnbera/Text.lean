import Mathlib.Data.List.DropRight

namespace Bnbera

/-- `toLowerCase()` on the ASCII texts it is used for here. -/
def lower (text : String) : String := String.ofList (text.toList.map Char.toLower)

/-- The white space that `String.prototype.trim` removes. -/
def isTrimmed (c : Char) : Bool :=
  [0x9, 0xa, 0xb, 0xc, 0xd, 0x20, 0xa0, 0x1680, 0x2028, 0x2029, 0x202f, 0x205f, 0x3000, 0xfeff].contains c.toNat ||
    (0x2000 ≤ c.toNat && c.toNat ≤ 0x200a)

def trim (text : String) : String :=
  String.ofList ((text.toList.dropWhile isTrimmed).reverse.dropWhile isTrimmed).reverse

theorem trim_trim (text : String) : trim (trim text) = trim text := by
  let start := text.toList.dropWhile isTrimmed
  have prefixed : start.rdropWhile isTrimmed <+: start := List.rdropWhile_prefix isTrimmed start
  have kept : (start.rdropWhile isTrimmed).dropWhile isTrimmed = start.rdropWhile isTrimmed := by
    cases trimmed : start.rdropWhile isTrimmed with
    | nil => rfl
    | cons first rest =>
      rw [trimmed] at prefixed
      obtain ⟨tail, whole⟩ := prefixed
      have head : ¬ isTrimmed first = true := by
        have stable : start.dropWhile isTrimmed = start := List.dropWhile_idempotent isTrimmed _
        have whole : start = first :: (rest ++ tail) := whole.symm
        rw [whole] at stable
        simpa using List.dropWhile_eq_self_iff.mp stable
      rw [List.dropWhile_cons_of_neg head]
  have again := List.rdropWhile_idempotent isTrimmed start
  have unfolded : trim text = String.ofList (start.rdropWhile isTrimmed) := rfl
  rw [unfolded]
  have outer : trim (String.ofList (start.rdropWhile isTrimmed)) =
      String.ofList (((start.rdropWhile isTrimmed).dropWhile isTrimmed).rdropWhile isTrimmed) := by
    simp only [trim, String.toList_ofList]
    rfl
  rw [outer, kept]
  exact congrArg String.ofList again

theorem trim_eq_ofList (text : String) :
    trim text = String.ofList ((text.toList.dropWhile isTrimmed).rdropWhile isTrimmed) := rfl

theorem trim_eq_self {text : String} (clean : ∀ c ∈ text.toList, isTrimmed c = false) : trim text = text := by
  have first : text.toList.dropWhile isTrimmed = text.toList := by
    refine List.dropWhile_eq_self_iff.mpr fun nonempty => ?_
    rw [clean _ (List.getElem_mem _)]
    exact Bool.false_ne_true
  have last : text.toList.rdropWhile isTrimmed = text.toList := by
    refine (List.rdropWhile_eq_self_iff).mpr fun nonempty => ?_
    rw [clean _ (List.getLast_mem nonempty)]
    exact Bool.false_ne_true
  rw [trim_eq_ofList, first, last, String.ofList_toList]

section
variable {α : Type} {p : α → Bool}

theorem rdropWhile_append {before after : List α} (present : after.rdropWhile p ≠ []) :
    (before ++ after).rdropWhile p = before ++ after.rdropWhile p := by
  have kept : (after.reverse.dropWhile p).isEmpty = false := by
    rw [List.isEmpty_eq_false_iff]
    exact fun empty => present (by rw [List.rdropWhile, empty, List.reverse_nil])
  unfold List.rdropWhile
  rw [List.reverse_append, List.dropWhile_append, kept, if_neg Bool.false_ne_true, List.reverse_append, List.reverse_reverse]

theorem rdropWhile_head {items : List α} (present : items.rdropWhile p ≠ []) :
    (items.rdropWhile p).head? = items.head? := by
  obtain ⟨rest, whole⟩ := List.rdropWhile_prefix p items
  rw [← @List.head?_append_of_ne_nil _ _ rest present, whole]

theorem dropWhile_head {items : List α} {first : α} (head : (items.dropWhile p).head? = some first) : p first = false := by
  have kept := List.head?_dropWhile_not p items
  rw [head] at kept
  simpa using kept

end

/-- Behind a word the white space at the start of a text is inside, and stays. -/
theorem trim_append {word text : String} (clean : ∀ c ∈ word.toList, isTrimmed c = false) (present : word.toList ≠ [])
    (rest : trim text ≠ "") : trim (word ++ text) = word ++ trim text ↔ ∀ c, text.toList.head? = some c → isTrimmed c = false := by
  have kept : (text.toList.dropWhile isTrimmed).rdropWhile isTrimmed ≠ [] :=
    fun empty => rest (by rw [trim_eq_ofList, empty])
  have ends : text.toList.rdropWhile isTrimmed ≠ [] := by
    intro empty
    rw [List.rdropWhile_eq_nil_iff] at empty
    have nothing : text.toList.dropWhile isTrimmed = [] := List.dropWhile_eq_nil_iff.mpr empty
    exact kept (by rw [nothing]; rfl)
  have start : (word.toList ++ text.toList).dropWhile isTrimmed = word.toList ++ text.toList := by
    cases chars : word.toList with
    | nil => exact absurd chars present
    | cons first others =>
      have head : isTrimmed first = false := clean first (chars ▸ List.mem_cons_self)
      rw [List.cons_append, List.dropWhile_cons_of_neg (by rw [head]; exact Bool.false_ne_true)]
  have whole : trim (word ++ text) = String.ofList (word.toList ++ text.toList.rdropWhile isTrimmed) := by
    rw [trim_eq_ofList, String.toList_append, start, rdropWhile_append ends]
  rw [whole, trim_eq_ofList, ← String.toList_inj, String.toList_append, String.toList_ofList, String.toList_ofList,
    List.append_cancel_left_eq]
  constructor
  · intro same c head
    rw [← rdropWhile_head ends, same, rdropWhile_head kept] at head
    exact dropWhile_head head
  · intro head
    have stays : text.toList.dropWhile isTrimmed = text.toList := by
      cases chars : text.toList with
      | nil => rfl
      | cons first others =>
        have clean := head first (by rw [chars]; rfl)
        rw [List.dropWhile_cons_of_neg (by rw [clean]; exact Bool.false_ne_true)]
    rw [stays]

/-- The UTF-16 code units of a text, in which its `length` is counted and its keys are sorted. -/
def utf16Units (text : String) : List Nat :=
  text.toList.flatMap fun c =>
    if c.toNat < 0x10000 then [c.toNat]
    else [0xd800 + (c.toNat - 0x10000) / 0x400, 0xdc00 + (c.toNat - 0x10000) % 0x400]

theorem utf16Units_ofList {chars : List Char} (narrow : ∀ c ∈ chars, c.toNat < 0x10000) :
    utf16Units (String.ofList chars) = chars.map Char.toNat := by
  rw [utf16Units, String.toList_ofList]
  induction chars with
  | nil => rfl
  | cons first rest ih =>
    rw [List.flatMap_cons, if_pos (narrow first List.mem_cons_self), ih fun c member => narrow c (List.mem_cons_of_mem _ member)]
    rfl

def isHexDigit (c : Char) : Bool :=
  ('0' ≤ c && c ≤ '9') || ('a' ≤ c && c ≤ 'f') || ('A' ≤ c && c ≤ 'F')

def isLetter (c : Char) : Bool := ('a' ≤ c && c ≤ 'z') || ('A' ≤ c && c ≤ 'Z')

def isDigit (c : Char) : Bool := '0' ≤ c && c ≤ '9'

/-- `/^[0-9a-f]{64}$/iu` -/
def isDigest (text : String) : Bool := text.toList.length == 64 && text.toList.all isHexDigit

/-- `/^0x[0-9a-f]{64}$/iu`; the `i` flag lets `0X` pass as well. -/
def isHash (text : String) : Bool :=
  match text.toList with
  | '0' :: x :: digits => x.toLower == 'x' && digits.length == 64 && digits.all isHexDigit
  | _ => false

/-- `/^0x(?:[0-9a-f]{2})*$/iu` -/
def isHexData (text : String) : Bool :=
  match text.toList with
  | '0' :: x :: digits => x.toLower == 'x' && digits.length % 2 == 0 && digits.all isHexDigit
  | _ => false

/-- `/^0x[0-9a-fA-F]{40}$/` without the zero address. -/
def isAddress (text : String) : Bool :=
  match text.toList with
  | '0' :: 'x' :: digits => digits.length == 40 && digits.all isHexDigit && !digits.all (· == '0')
  | _ => false

/-- `/^(0|[1-9][0-9]*)$/u` -/
def isDecimal (text : String) : Bool :=
  match text.toList with
  | ['0'] => true
  | first :: rest => '1' ≤ first && first ≤ '9' && rest.all isDigit
  | [] => false

/-- What `value` returns for a decimal text: `BigInt(text)`. -/
def decimalValue (text : String) : Nat :=
  text.toList.foldl (fun value c => 10 * value + (c.toNat - 48)) 0

theorem lower_ofList {chars : List Char} (small : chars.map Char.toLower = chars) :
    lower (String.ofList chars) = String.ofList chars := by
  rw [lower, String.toList_ofList, small]

theorem isDecimal_ofList {first : Char} {rest : List Char} (starts : ('1' ≤ first && first ≤ '9') = true)
    (digits : rest.all isDigit = true) : isDecimal (String.ofList (first :: rest)) = true := by
  unfold isDecimal
  rw [String.toList_ofList]
  split
  · rfl
  · rename_i same
    cases same
    rw [starts, digits]
    rfl
  · contradiction

theorem decimalValue_ofList {chars : List Char} : decimalValue (String.ofList chars) =
    chars.foldl (fun value c => 10 * value + (c.toNat - 48)) 0 := by
  rw [decimalValue, String.toList_ofList]

theorem decimalValue_repr (n : Nat) : decimalValue (String.ofList n.repr.toList) = n := by
  rw [decimalValue_ofList, Nat.repr_eq_ofList_toDigits, String.toList_ofList]
  exact Nat.ofDigitChars_ten_toDigits

theorem toLower_toLower (c : Char) : c.toLower.toLower = c.toLower := by
  delta Char.toLower
  grind

theorem lower_lower (text : String) : lower (lower text) = lower text := by
  simp only [lower, String.toList_ofList, List.map_map]
  congr 1
  exact List.map_congr_left fun c _ => toLower_toLower c

@[simp] theorem lower_toList (text : String) : (lower text).toList = text.toList.map Char.toLower := by
  simp only [lower, String.toList_ofList]

theorem toLower_toNat (c : Char) :
    c.toLower.toNat = if 65 ≤ c.toNat ∧ c.toNat ≤ 90 then c.toNat + 32 else c.toNat := by
  have small : c.val.toNat < 2 ^ 32 := c.val.toNat_lt
  delta Char.toLower
  simp only [Char.toNat, ge_iff_le, UInt32.le_iff_toNat_le]
  split
  · rename_i upper
    have bounds : 65 ≤ c.val.toNat ∧ c.val.toNat ≤ 90 := upper
    have shift : ('a'.val - 'A'.val).toNat = 32 := rfl
    rw [if_pos bounds]
    simp only [UInt32.toNat_add, shift]
    omega
  · rename_i other
    have bounds : ¬(65 ≤ c.val.toNat ∧ c.val.toNat ≤ 90) := other
    rw [if_neg bounds]

theorem isHexDigit_iff {c : Char} : isHexDigit c = true ↔
    (48 ≤ c.toNat ∧ c.toNat ≤ 57) ∨ (97 ≤ c.toNat ∧ c.toNat ≤ 102) ∨ (65 ≤ c.toNat ∧ c.toNat ≤ 70) := by
  simp only [isHexDigit, Bool.or_eq_true, Bool.and_eq_true, decide_eq_true_eq, or_assoc, Char.le_def,
    UInt32.le_iff_toNat_le]
  rfl

theorem isHexDigit_toLower {c : Char} (hex : isHexDigit c = true) : isHexDigit c.toLower = true := by
  rw [isHexDigit_iff] at hex ⊢
  rw [toLower_toNat]
  split <;> omega

theorem all_isHexDigit_lower {digits : List Char} (hex : digits.all isHexDigit = true) :
    (digits.map Char.toLower).all isHexDigit = true := by
  simp only [List.all_map, List.all_eq_true] at hex ⊢
  exact fun c member => isHexDigit_toLower (hex c member)

theorem isDigest_lower {text : String} (accepted : isDigest text = true) : isDigest (lower text) = true := by
  simp only [isDigest, lower_toList, List.length_map, Bool.and_eq_true] at accepted ⊢
  exact ⟨accepted.1, all_isHexDigit_lower accepted.2⟩

theorem isHash_lower {text : String} (accepted : isHash text = true) : isHash (lower text) = true := by
  unfold isHash at accepted ⊢
  rw [lower_toList]
  split at accepted
  · rename_i x digits chars
    have zero : Char.toLower '0' = '0' := rfl
    simp only [Bool.and_eq_true, chars, List.map_cons, zero, List.length_map, toLower_toLower] at accepted ⊢
    exact ⟨accepted.1, all_isHexDigit_lower accepted.2⟩
  · cases accepted

theorem isHexData_lower {text : String} (accepted : isHexData text = true) : isHexData (lower text) = true := by
  unfold isHexData at accepted ⊢
  rw [lower_toList]
  split at accepted
  · rename_i x digits chars
    have zero : Char.toLower '0' = '0' := rfl
    simp only [Bool.and_eq_true, chars, List.map_cons, zero, List.length_map, toLower_toLower] at accepted ⊢
    exact ⟨accepted.1, all_isHexDigit_lower accepted.2⟩
  · cases accepted

theorem toLower_eq_zero {c : Char} (zero : c.toLower = '0') : c = '0' := by
  have value : c.toLower.toNat = 48 := congrArg Char.toNat zero
  rw [toLower_toNat] at value
  split at value
  · omega
  · exact Char.ext (UInt32.toNat_inj.mp value)

theorem isAddress_lower {text : String} (accepted : isAddress text = true) : isAddress (lower text) = true := by
  unfold isAddress at accepted ⊢
  rw [lower_toList]
  split at accepted
  · rename_i digits chars
    have zero : Char.toLower '0' = '0' := rfl
    have letter : Char.toLower 'x' = 'x' := rfl
    simp only [Bool.and_eq_true, Bool.not_eq_true', chars, List.map_cons, zero, letter, List.length_map] at accepted ⊢
    refine ⟨⟨accepted.1.1, all_isHexDigit_lower accepted.1.2⟩, ?_⟩
    have nonzero := accepted.2
    simp only [List.all_eq_false, beq_iff_eq] at nonzero
    obtain ⟨c, member, differs⟩ := nonzero
    simp only [List.all_eq_false, beq_iff_eq]
    exact ⟨c.toLower, List.mem_map_of_mem member, fun zero => differs (toLower_eq_zero zero)⟩
  · cases accepted

structure TextFormat where
  accepts : String → Bool
  accepts_lower : ∀ {text}, accepts text = true → accepts (lower text) = true

/-- A checked text in lower case, the form in which all such texts are stored and compared. -/
structure Normalized (format : TextFormat) where
  text : String
  accepted : format.accepts text = true
  lowercase : lower text = text
deriving DecidableEq

def TextFormat.normalize (format : TextFormat) (text : String) : Option (Normalized format) :=
  if accepted : format.accepts text = true then
    some ⟨lower text, format.accepts_lower accepted, lower_lower text⟩
  else none

theorem Normalized.ext {format : TextFormat} {a b : Normalized format} (same : a.text = b.text) : a = b := by
  cases a
  cases b
  cases same
  rfl

@[simp] theorem TextFormat.normalize_text {format : TextFormat} (value : Normalized format) :
    format.normalize value.text = some value := by
  rw [normalize, dif_pos value.accepted]
  exact congrArg some (Normalized.ext value.lowercase)

theorem TextFormat.normalize_eq {format : TextFormat} {text : String} {value : Normalized format}
    (normal : format.normalize text = some value) : value.text = lower text := by
  unfold TextFormat.normalize at normal
  split at normal
  · cases normal
    rfl
  · cases normal

abbrev Digest := Normalized ⟨isDigest, isDigest_lower⟩
abbrev Hash := Normalized ⟨isHash, isHash_lower⟩
abbrev HexData := Normalized ⟨isHexData, isHexData_lower⟩
abbrev Address := Normalized ⟨isAddress, isAddress_lower⟩

instance Address.lawful : LawfulBEq Address := inferInstance

theorem Address.valid (address : Address) : isAddress address.text = true := address.accepted

structure Checked (accepts : String → Bool) where
  text : String
  accepted : accepts text = true
deriving DecidableEq

def check (accepts : String → Bool) (text : String) : Option (Checked accepts) :=
  if accepted : accepts text = true then some ⟨text, accepted⟩ else none

@[simp] theorem check_text {accepts : String → Bool} (value : Checked accepts) :
    check accepts value.text = some value :=
  dif_pos value.accepted

abbrev DecimalUint := Checked isDecimal

structure Within (low high : Int) where
  value : Int
  low_le : low ≤ value
  le_high : value ≤ high
deriving DecidableEq

def within? (low high value : Int) : Option (Within low high) :=
  if bounds : low ≤ value ∧ value ≤ high then some ⟨value, bounds.1, bounds.2⟩ else none

def maxSafeInteger : Int := 9007199254740991

abbrev UnixSeconds := Within 1 maxSafeInteger

/-! Bounds of the numbers in samples. -/

theorem eighteen_low : (0 : Int) ≤ 18 := by decide

theorem eighteen_high : (18 : Int) ≤ 255 := by decide

theorem zero_low : (0 : Int) ≤ 0 := by decide

theorem zero_high : 0 ≤ maxSafeInteger := by decide

theorem one_low : (1 : Int) ≤ 1 := by decide

theorem one_high : 1 ≤ maxSafeInteger := by decide

theorem hundred_low : (1 : Int) ≤ 100 := by decide

theorem hundred_high : 100 ≤ maxSafeInteger := by decide

theorem testnet_low : (1 : Int) ≤ 97 := by decide

theorem testnet_high : (97 : Int) ≤ 2147483647 := by decide

theorem one_decimal : isDecimal "1" = true := by decide

theorem seven_decimal : isDecimal "7" = true := by decide


end Bnbera
