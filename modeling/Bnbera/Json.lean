import Mathlib.Data.List.Lex
import Mathlib.Data.List.Sort
import Bnbera.Text

namespace Bnbera

/-- A JSON value. A number is its `String(value)` text, which is all that the
canonical form and the database ever show of it. -/
inductive Json
  | null
  | bool (value : Bool)
  | num (text : String)
  | str (text : String)
  | arr (items : List Json)
  | obj (fields : List (String × Json))

/-- `value[key]` of an object's fields; `none` is `undefined`. -/
def fieldOf : List (String × Json) → String → Option Json
  | [], _ => none
  | (k, value) :: rest, key => if k = key then some value else fieldOf rest key

def quoted (chars : List Char) : List Char := Char.ofNat 0x22 :: chars ++ [Char.ofNat 0x22]

def hexDigitOf (n : Nat) : Char := if n < 10 then Char.ofNat (48 + n) else Char.ofNat (87 + n)

/-- The escapes of `JSON.stringify` for one character. -/
def escapeChar (c : Char) : List Char :=
  let backslash := Char.ofNat 0x5c
  match c.toNat with
  | 0x22 => [backslash, c]
  | 0x5c => [backslash, c]
  | 0x8 => [backslash, 'b']
  | 0x9 => [backslash, 't']
  | 0xa => [backslash, 'n']
  | 0xc => [backslash, 'f']
  | 0xd => [backslash, 'r']
  | code => if code < 0x20 then backslash :: 'u' :: '0' :: '0' :: [hexDigitOf (code / 16), hexDigitOf (code % 16)] else [c]

def escapeString (value : String) : String := String.ofList (quoted (value.toList.flatMap escapeChar))

/-- Fields in the order of `Object.keys(record).sort()`. -/
def sortFields {α : Type} (fields : List (String × α)) : List (String × α) :=
  fields.insertionSort fun a b => utf16Units a.1 ≤ utf16Units b.1

mutual

def canonicalizeJson : Json → String
  | .null => "null"
  | .bool value => if value then "true" else "false"
  | .num text => if text == "-0" then "0" else text
  | .str text => escapeString text
  | .arr items => "[" ++ ",".intercalate (canonicalItems items) ++ "]"
  | .obj fields =>
    "\x7b" ++ ",".intercalate ((sortFields (canonicalFields fields)).map fun field =>
      escapeString field.1 ++ ":" ++ field.2) ++ "\x7d"

def canonicalItems : List Json → List String
  | [] => []
  | item :: rest => canonicalizeJson item :: canonicalItems rest

def canonicalFields : List (String × Json) → List (String × String)
  | [] => []
  | (key, value) :: rest => (key, canonicalizeJson value) :: canonicalFields rest

end

/-- The hash function of the platform: 64 lower-case hexadecimal digits for every text. -/
class Sha256 where
  sha256Hex : String → Digest

@[reducible] def nullSha256 : Sha256 where
  sha256Hex _ := ⟨"74234e98afe7498fb5daf1f36ac2d78acc339464f950703b8c019892f982b90b", by decide +kernel, by decide +kernel⟩

def canonicalSha256Hex [Sha256] (value : Json) : Digest := Sha256.sha256Hex (canonicalizeJson value)

/-- `column->>'key'`: the text of a field, SQL `NULL` when absent or JSON null. -/
def jsonbText (column : Option Json) (key : String) : Option String :=
  match column with
  | some (.obj fields) =>
    match fieldOf fields key with
    | none => none
    | some .null => none
    | some (.str text) => some text
    | some other => some (canonicalizeJson other)
  | _ => none

def setField : List (String × Json) → String → Json → List (String × Json)
  | [], key, value => [(key, value)]
  | (k, v) :: rest, key, value => if k = key then (key, value) :: rest else (k, v) :: setField rest key value

/-- `jsonb_set(COALESCE(column, '\x7b\x7d'), '\x7bkey\x7d', value, true)`, which raises an
error on a value that is not an object. -/
def jsonbSet (column : Option Json) (key : String) (value : Json) : Option Json :=
  match column with
  | none => some (.obj [(key, value)])
  | some (.obj fields) => some (.obj (setField fields key value))
  | some _ => none

@[simp] theorem fieldOf_nil (key : String) : fieldOf [] key = none := rfl

@[simp] theorem fieldOf_cons (k key : String) (value : Json) (rest : List (String × Json)) :
    fieldOf ((k, value) :: rest) key = if k = key then some value else fieldOf rest key := rfl

theorem fieldOf_setField {fields : List (String × Json)} {key other : String} {value : Json} :
    fieldOf (setField fields key value) other = if key = other then some value else fieldOf fields other := by
  induction fields with
  | nil => simp only [setField, fieldOf_cons, fieldOf_nil]
  | cons field rest ih =>
    obtain ⟨k, v⟩ := field
    simp only [setField]
    by_cases same : k = key
    · rw [if_pos same, fieldOf_cons, fieldOf_cons, same]
      split <;> rfl
    · rw [if_neg same, fieldOf_cons, ih, fieldOf_cons]
      grind

end Bnbera
