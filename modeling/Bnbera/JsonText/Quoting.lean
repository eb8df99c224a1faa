import Mathlib.Algebra.GroupWithZero.Nat
import Mathlib.Data.List.Lex

/-! Texts of UTF-16 code units, and how a JSON string spells one. -/

namespace Bnbera.JsonText

abbrev CodeUnit := Fin 0x10000

instance codeUnit_pos : NeZero 0x10000 := ⟨by decide⟩

abbrev Text := List CodeUnit

def units (text : String) : Text := text.toList.map fun c => Fin.ofNat _ c.toNat

/-- The white space that `trim` removes. -/
def isWhite (c : CodeUnit) : Bool :=
  [0x9, 0xa, 0xb, 0xc, 0xd, 0x20, 0xa0, 0x1680, 0x2028, 0x2029, 0x202f, 0x205f, 0x3000, 0xfeff].contains c.val ||
    (0x2000 ≤ c.val && c.val ≤ 0x200a)

def isHigh (c : CodeUnit) : Bool := 0xd800 ≤ c.val && c.val < 0xdc00

def isLow (c : CodeUnit) : Bool := 0xdc00 ≤ c.val && c.val < 0xe000

def hexDigit (n : Nat) : CodeUnit := Fin.ofNat _ (if n < 10 then 48 + n else 87 + n)

/-- `\u` and four digits in lower case. -/
def hexEscape (c : CodeUnit) : Text :=
  [0x5c, 0x75, hexDigit (c.val / 4096), hexDigit (c.val / 256 % 16), hexDigit (c.val / 16 % 16), hexDigit (c.val % 16)]

def escapeLetter (c : CodeUnit) : Option CodeUnit :=
  match c.val with
  | 0x22 => some 0x22
  | 0x5c => some 0x5c
  | 0x8 => some 0x62
  | 0x9 => some 0x74
  | 0xa => some 0x6e
  | 0xc => some 0x66
  | 0xd => some 0x72
  | _ => none

def escapeUnit (c : CodeUnit) : Text :=
  match escapeLetter c with
  | some letter => [0x5c, letter]
  | none => if c.val < 0x20 || isHigh c || isLow c then hexEscape c else [c]

def quoteUnits : Text → Text
  | [] => []
  | [c] => escapeUnit c
  | c :: d :: rest =>
    if isHigh c && isLow d then c :: d :: quoteUnits rest else escapeUnit c ++ quoteUnits (d :: rest)

/-- `JSON.stringify` of a string. -/
def quote (text : Text) : Text := 0x22 :: quoteUnits text ++ [0x22]

def hexValue (c : CodeUnit) : Option Nat :=
  if 48 ≤ c.val ∧ c.val ≤ 57 then some (c.val - 48)
  else if 97 ≤ c.val ∧ c.val ≤ 102 then some (c.val - 87)
  else if 65 ≤ c.val ∧ c.val ≤ 70 then some (c.val - 55)
  else none

def readHex (a b c d : CodeUnit) : Option CodeUnit := do
  let a ← hexValue a
  let b ← hexValue b
  let c ← hexValue c
  let d ← hexValue d
  return Fin.ofNat _ (4096 * a + 256 * b + 16 * c + d)

def readLetter (c : CodeUnit) : Option CodeUnit :=
  match c.val with
  | 0x22 => some 0x22
  | 0x5c => some 0x5c
  | 0x2f => some 0x2f
  | 0x62 => some 0x8
  | 0x74 => some 0x9
  | 0x6e => some 0xa
  | 0x66 => some 0xc
  | 0x72 => some 0xd
  | _ => none

/-- What a JSON string spells behind its opening quote, and what follows the closing one. -/
def readUnits : Text → Option (Text × Text)
  | [] => none
  | c :: rest =>
    if c = 0x22 then some ([], rest)
    else if c = 0x5c then
      match rest with
      | 0x75 :: a :: b :: x :: y :: rest => do
        let unit ← readHex a b x y
        (readUnits rest).map fun read => (unit :: read.1, read.2)
      | letter :: rest => do
        let unit ← readLetter letter
        (readUnits rest).map fun read => (unit :: read.1, read.2)
      | [] => none
    else if c.val < 0x20 then none
    else (readUnits rest).map fun read => (c :: read.1, read.2)

def Spells (spelling : Text) (c : CodeUnit) : Prop :=
  ∀ rest, readUnits (spelling ++ rest) = (readUnits rest).map fun read => (c :: read.1, read.2)

def IsPlain (c : CodeUnit) : Prop := 0x20 ≤ c.val ∧ c.val ≠ 0x22 ∧ c.val ≠ 0x5c

theorem IsPlain.spells {c : CodeUnit} (plain : IsPlain c) : Spells [c] c := by
  obtain ⟨high, noQuote, noBackslash⟩ := plain
  intro rest
  have quote : c ≠ 0x22 := fun same => noQuote (congrArg Fin.val same)
  have backslash : c ≠ 0x5c := fun same => noBackslash (congrArg Fin.val same)
  rw [List.singleton_append, readUnits.eq_def]
  simp only [if_neg quote, if_neg backslash, if_neg high.not_gt]

theorem hexValue_hexDigit : ∀ n < 16, hexValue (hexDigit n) = some n := by
  decide

theorem readHex_hexEscape (c : CodeUnit) :
    readHex (hexDigit (c.val / 4096)) (hexDigit (c.val / 256 % 16)) (hexDigit (c.val / 16 % 16)) (hexDigit (c.val % 16)) = some c := by
  have bound := c.isLt
  have value : 4096 * (c.val / 4096) + 256 * (c.val / 256 % 16) + 16 * (c.val / 16 % 16) + c.val % 16 = c.val := by
    omega
  rw [readHex, hexValue_hexDigit _ (by omega), hexValue_hexDigit _ (by omega), hexValue_hexDigit _ (by omega),
    hexValue_hexDigit _ (by omega)]
  simp only [Option.bind_eq_bind, Option.bind_some, value, Option.pure_def]
  exact congrArg some (Fin.ext (Nat.mod_eq_of_lt bound))

theorem spells_hexEscape (c : CodeUnit) : Spells (hexEscape c) c := by
  intro rest
  have start : hexEscape c ++ rest = 0x5c :: 0x75 :: hexDigit (c.val / 4096) :: hexDigit (c.val / 256 % 16) ::
      hexDigit (c.val / 16 % 16) :: hexDigit (c.val % 16) :: rest := rfl
  rw [start, readUnits]
  simp only [if_neg (show (0x5c : CodeUnit) ≠ 0x22 by decide), if_true, readHex_hexEscape, Option.bind_eq_bind, Option.bind_some]

theorem escapeLetter_eq_some {c letter : CodeUnit} (escaped : escapeLetter c = some letter) :
    readLetter letter = some c ∧ letter ≠ 0x75 := by
  simp only [escapeLetter] at escaped
  have value : c = Fin.ofNat 0x10000 c.val := (Fin.ext (Nat.mod_eq_of_lt c.isLt)).symm
  split at escaped
  any_goals contradiction
  all_goals
    cases escaped
    rename_i code
    refine ⟨?_, by decide⟩
    rw [value, code]
    rfl

theorem spells_escapeUnit (c : CodeUnit) : Spells (escapeUnit c) c := by
  unfold escapeUnit
  split
  · rename_i letter escaped
    obtain ⟨read, other⟩ := escapeLetter_eq_some escaped
    intro rest
    have start : [0x5c, letter] ++ rest = 0x5c :: letter :: rest := rfl
    rw [start, readUnits.eq_def]
    simp only [if_neg (show (0x5c : CodeUnit) ≠ 0x22 by decide), if_true]
    split
    · rename_i same
      cases same
      exact absurd rfl other
    · rename_i same
      cases same
      rw [read]
      rfl
    · rename_i same
      cases same
  · rename_i plain
    split
    · exact spells_hexEscape c
    · rename_i shown
      refine IsPlain.spells ⟨?_, ?_, ?_⟩
      · simp only [Bool.or_eq_true, decide_eq_true_eq, not_or] at shown
        omega
      · intro value
        simp [escapeLetter, value] at plain
      · intro value
        simp [escapeLetter, value] at plain

inductive SpellsAll : Text → Text → Prop
  | nil : SpellsAll [] []
  | cons {spelling rest : Text} {c : CodeUnit} {others : Text} : Spells spelling c → SpellsAll rest others →
      SpellsAll (spelling ++ rest) (c :: others)

theorem SpellsAll.read {spelling text : Text} (spells : SpellsAll spelling text) (rest : Text) :
    readUnits (spelling ++ 0x22 :: rest) = some (text, rest) := by
  induction spells with
  | nil => rw [List.nil_append, readUnits.eq_def]; rfl
  | cons first _ ih =>
    rw [List.append_assoc, first, ih]
    rfl

theorem plain_of_surrogate {c : CodeUnit} (surrogate : 0xd800 ≤ c.val) : IsPlain c := by
  refine ⟨?_, ?_, ?_⟩ <;> omega

theorem isHigh_iff {c : CodeUnit} : isHigh c = true ↔ 0xd800 ≤ c.val ∧ c.val < 0xdc00 := by
  simp only [isHigh, Bool.and_eq_true, decide_eq_true_eq]

theorem isLow_iff {c : CodeUnit} : isLow c = true ↔ 0xdc00 ≤ c.val ∧ c.val < 0xe000 := by
  simp only [isLow, Bool.and_eq_true, decide_eq_true_eq]

theorem spellsAll_quoteUnits (text : Text) : SpellsAll (quoteUnits text) text := by
  fun_induction quoteUnits text with
  | case1 => exact .nil
  | case2 c => exact List.append_nil (escapeUnit c) ▸ .cons (spells_escapeUnit c) .nil
  | case3 c d rest pair ih =>
    obtain ⟨high, low⟩ := Bool.and_eq_true_iff.mp pair
    have first : Spells [c] c := IsPlain.spells (plain_of_surrogate (isHigh_iff.mp high).1)
    have second : Spells [d] d := IsPlain.spells (plain_of_surrogate (le_trans (by decide) (isLow_iff.mp low).1))
    exact .cons first (.cons second ih)
  | case4 c d rest _ ih => exact .cons (spells_escapeUnit c) ih

def codePoints : Text → List Nat
  | [] => []
  | [c] => [c.val]
  | c :: d :: rest =>
    if isHigh c && isLow d then (0x10000 + (c.val - 0xd800) * 0x400 + (d.val - 0xdc00)) :: codePoints rest
    else c.val :: codePoints (d :: rest)

def encodePoint (point : Nat) : Text :=
  if point < 0x10000 then [Fin.ofNat _ point]
  else [Fin.ofNat _ (0xd800 + (point - 0x10000) / 0x400), Fin.ofNat _ (0xdc00 + (point - 0x10000) % 0x400)]

theorem encodePoint_unit (c : CodeUnit) : encodePoint c.val = [c] := by
  rw [encodePoint, if_pos c.isLt]
  exact congrArg (fun unit => [unit]) (Fin.ext (Nat.mod_eq_of_lt c.isLt))

theorem encodePoint_pair {c d : CodeUnit} (high : isHigh c = true) (low : isLow d = true) :
    encodePoint (0x10000 + (c.val - 0xd800) * 0x400 + (d.val - 0xdc00)) = [c, d] := by
  obtain ⟨high, high'⟩ := isHigh_iff.mp high
  obtain ⟨low, low'⟩ := isLow_iff.mp low
  rw [encodePoint, if_neg (by omega)]
  have first : 0xd800 + (0x10000 + (c.val - 0xd800) * 0x400 + (d.val - 0xdc00) - 0x10000) / 0x400 = c.val := by omega
  have second : 0xdc00 + (0x10000 + (c.val - 0xd800) * 0x400 + (d.val - 0xdc00) - 0x10000) % 0x400 = d.val := by omega
  rw [first, second]
  have units : ∀ unit : CodeUnit, Fin.ofNat 0x10000 unit.val = unit := fun unit => Fin.ext (Nat.mod_eq_of_lt unit.isLt)
  rw [units, units]

theorem flatMap_codePoints (text : Text) : (codePoints text).flatMap encodePoint = text := by
  fun_induction codePoints text with
  | case1 => rfl
  | case2 c => rw [List.flatMap_cons, List.flatMap_nil, List.append_nil, encodePoint_unit]
  | case3 c d rest pair ih =>
    obtain ⟨high, low⟩ := Bool.and_eq_true_iff.mp pair
    rw [List.flatMap_cons, encodePoint_pair high low, ih]
    rfl
  | case4 c d rest _ ih =>
    rw [List.flatMap_cons, encodePoint_unit, ih]
    rfl

theorem codePoints_injective : codePoints.Injective := by
  intro text other same
  rw [← flatMap_codePoints text, same, flatMap_codePoints]

structure Quoting where
  quote : Text → Text
  read_quote : ∀ text rest, ∃ spelling, quote text ++ rest = 0x22 :: spelling ∧ readUnits spelling = some (text, rest)

def jsonQuoting : Quoting where
  quote := quote
  read_quote text rest := ⟨quoteUnits text ++ 0x22 :: rest, by simp [quote], (spellsAll_quoteUnits text).read rest⟩

/-- `text.replace(/[\u007f-\uffff]/g, escape)` -/
def escapeAscii (text : Text) : Text := text.flatMap fun c => if 0x7f ≤ c.val then hexEscape c else [c]

theorem escapeAscii_append (first second : Text) : escapeAscii (first ++ second) = escapeAscii first ++ escapeAscii second :=
  List.flatMap_append

theorem escapeAscii_cons {c : CodeUnit} (narrow : c.val < 0x7f) (rest : Text) : escapeAscii (c :: rest) = c :: escapeAscii rest := by
  rw [escapeAscii, List.flatMap_cons, if_neg (not_le.mpr narrow)]
  rfl

theorem escapeAscii_eq_self {text : Text} (narrow : ∀ c ∈ text, c.val < 0x7f) : escapeAscii text = text := by
  induction text with
  | nil => rfl
  | cons c rest ih =>
    rw [escapeAscii_cons (narrow c List.mem_cons_self), ih fun d member => narrow d (List.mem_cons_of_mem _ member)]

theorem hexDigit_lt : ∀ n < 16, (hexDigit n).val < 0x7f := by
  decide

theorem hexEscape_narrow {c d : CodeUnit} (member : d ∈ hexEscape c) : d.val < 0x7f := by
  have bound := c.isLt
  have digits := hexDigit_lt
  simp only [hexEscape, List.mem_cons, List.not_mem_nil, or_false] at member
  rcases member with rfl | rfl | rfl | rfl | rfl | rfl
  · decide
  · decide
  all_goals exact digits _ (by omega)

theorem escapeAscii_narrow {text : Text} {d : CodeUnit} (member : d ∈ escapeAscii text) : d.val < 0x7f := by
  obtain ⟨c, _, member⟩ := List.mem_flatMap.mp member
  split at member
  · exact hexEscape_narrow member
  · rename_i narrow
    cases List.mem_singleton.mp member
    exact not_le.mp narrow

theorem IsPlain.spells_escapeAscii {c : CodeUnit} (plain : IsPlain c) : Spells (escapeAscii [c]) c := by
  rw [escapeAscii, List.flatMap_singleton]
  split
  · exact spells_hexEscape c
  · exact plain.spells

theorem escapeLetter_narrow {c letter : CodeUnit} (escaped : escapeLetter c = some letter) : letter.val < 0x7f := by
  simp only [escapeLetter] at escaped
  split at escaped <;> cases escaped <;> decide

theorem spells_escapeAscii (c : CodeUnit) : Spells (escapeAscii (escapeUnit c)) c := by
  have spelled := spells_escapeUnit c
  unfold escapeUnit at spelled ⊢
  split
  · rename_i letter escaped
    rw [escaped] at spelled
    rw [escapeAscii_eq_self]
    · exact spelled
    · intro d member
      rcases List.mem_pair.mp member with rfl | rfl
      · decide
      · exact escapeLetter_narrow escaped
  · rename_i plain
    rw [plain] at spelled
    simp only at spelled ⊢
    split
    · rw [escapeAscii_eq_self fun d => hexEscape_narrow]
      exact spells_hexEscape c
    · rename_i shown
      rw [if_neg shown] at spelled
      rw [escapeAscii, List.flatMap_singleton]
      split
      · exact spells_hexEscape c
      · exact spelled

theorem spellsAll_escapeAscii (text : Text) : SpellsAll (escapeAscii (quoteUnits text)) text := by
  fun_induction quoteUnits text with
  | case1 => exact .nil
  | case2 c => exact List.append_nil (escapeAscii (escapeUnit c)) ▸ .cons (spells_escapeAscii c) .nil
  | case3 c d rest pair ih =>
    obtain ⟨high, low⟩ := Bool.and_eq_true_iff.mp pair
    have first := (plain_of_surrogate (isHigh_iff.mp high).1).spells_escapeAscii
    have second := (plain_of_surrogate (le_trans (by decide) (isLow_iff.mp low).1)).spells_escapeAscii
    have whole : escapeAscii (c :: d :: quoteUnits rest) = escapeAscii [c] ++ (escapeAscii [d] ++ escapeAscii (quoteUnits rest)) := by
      rw [← escapeAscii_append, ← escapeAscii_append]
      rfl
    rw [whole]
    exact .cons first (.cons second ih)
  | case4 c d rest _ ih =>
    rw [escapeAscii_append]
    exact .cons (spells_escapeAscii c) ih

def asciiQuoting : Quoting where
  quote text := escapeAscii (quote text)
  read_quote text rest := by
    have narrow : escapeAscii (quote text) = 0x22 :: (escapeAscii (quoteUnits text) ++ [0x22]) := by
      rw [quote, escapeAscii_append]
      rfl
    exact ⟨escapeAscii (quoteUnits text) ++ 0x22 :: rest, by rw [narrow]; simp, (spellsAll_escapeAscii text).read rest⟩

end Bnbera.JsonText
