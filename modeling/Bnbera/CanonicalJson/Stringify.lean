import Mathlib.Algebra.GroupWithZero.Nat
import Bnbera.CanonicalJson.Splitting

namespace Bnbera

open Delimited

mutual

/-- `JSON.stringify(value)`: the fields in the order in which the object holds them. -/
def stringifyJson : Json → String
  | .null => "null"
  | .bool value => if value then "true" else "false"
  | .num text => text
  | .str text => escapeString text
  | .arr items => "[" ++ ",".intercalate (stringifyItems items) ++ "]"
  | .obj fields => "\x7b" ++ ",".intercalate (stringifyFields fields) ++ "\x7d"

def stringifyItems : List Json → List String
  | [] => []
  | item :: rest => stringifyJson item :: stringifyItems rest

def stringifyFields : List (String × Json) → List String
  | [] => []
  | (key, value) :: rest => (escapeString key ++ ":" ++ stringifyJson value) :: stringifyFields rest

end

theorem stringifyJson_starts : ∀ {value : Json}, value.wellFormed = true →
    ∃ c tail, (stringifyJson value).toList = c :: tail ∧ value.StartsWith c
  | .null, _ => ⟨_, _, rfl, rfl⟩
  | .bool true, _ => ⟨_, _, rfl, rfl⟩
  | .bool false, _ => ⟨_, _, rfl, rfl⟩
  | .num text, number => by
    have printed : isNumberText text = true := number
    unfold isNumberText at printed
    change ∃ c tail, text.toList = c :: tail ∧ _
    cases chars : text.toList with
    | nil => simp only [chars, List.isEmpty_nil, Bool.not_true, Bool.false_and, Bool.false_eq_true] at printed
    | cons c tail =>
      simp only [chars, List.isEmpty_cons, Bool.not_false, Bool.true_and, List.all_cons, Bool.and_eq_true] at printed
      exact ⟨c, tail, rfl, printed.1⟩
  | .str text, _ => ⟨_, _, escapeString_toList text, rfl⟩
  | .arr items, _ => by
    simp only [stringifyJson, String.toList_append]
    exact ⟨_, _, rfl, rfl⟩
  | .obj fields, _ => by
    simp only [stringifyJson, String.toList_append]
    exact ⟨_, _, rfl, rfl⟩

theorem stringifyJson_arr_toList (items : List Json) : (stringifyJson (.arr items)).toList =
    '[' :: enclosed ',' ']' ((stringifyItems items).map String.toList) := by
  simp only [stringifyJson, String.toList_append, String.toList_intercalate, enclosed_eq_intercalate]
  rfl

theorem stringifyJson_obj_toList (fields : List (String × Json)) : (stringifyJson (.obj fields)).toList =
    '\x7b' :: enclosed ',' '\x7d' ((stringifyFields fields).map String.toList) := by
  simp only [stringifyJson, String.toList_append, String.toList_intercalate, enclosed_eq_intercalate]
  rfl

theorem stringifyField_toList (key : String) (value : Json) :
    (escapeString key ++ ":" ++ stringifyJson value).toList =
      (escapeString key).toList ++ ':' :: (stringifyJson value).toList := by
  simp only [String.toList_append, List.append_assoc]
  rfl

theorem following_afterValue {close : Char} (closes : ∀ rest, AfterValue (close :: rest)) (items : List (List Char))
    (rest : List Char) : AfterValue (following ',' close items ++ rest) :=
  following_ends (fun _ => .inl rfl) closes items rest

theorem following_of_enclosed {separator close : Char} {xs ys : List (List Char)}
    (starts : ∀ item ∈ xs ++ ys, ∃ first tail, item = first :: tail ∧ first ≠ close) {rest rest' : List Char}
    (same : enclosed separator close xs ++ rest = enclosed separator close ys ++ rest') :
    following separator close xs ++ rest = following separator close ys ++ rest' := by
  cases xs with
  | nil =>
    cases ys with
    | nil => exact same
    | cons y ys =>
      obtain ⟨first, tail, rfl, other⟩ := starts y (List.mem_append_right _ List.mem_cons_self)
      exact absurd (List.cons.inj same).1.symm other
  | cons x xs =>
    cases ys with
    | nil =>
      obtain ⟨first, tail, rfl, other⟩ := starts x (List.mem_append_left _ List.mem_cons_self)
      exact absurd (List.cons.inj same).1 other
    | cons y ys => exact congrArg (separator :: ·) same

theorem stringifyItems_start {items : List Json} (wellFormed : wellFormedItems items = true) :
    ∀ item ∈ (stringifyItems items).map String.toList, ∃ first tail, item = first :: tail ∧ first ≠ ']' := by
  induction items with
  | nil => exact fun _ member => (nomatch member)
  | cons item rest ih =>
    simp only [wellFormedItems, Bool.and_eq_true] at wellFormed
    refine List.forall_mem_cons.mpr ⟨?_, ih wellFormed.2⟩
    obtain ⟨c, tail, chars, starts⟩ := stringifyJson_starts wellFormed.1
    refine ⟨c, tail, chars, ?_⟩
    rintro rfl
    cases item <;> simp only [Json.StartsWith] at starts <;> first
      | (revert starts; decide)
      | (split at starts <;> revert starts <;> decide)

theorem stringifyFields_start (fields : List (String × Json)) :
    ∀ item ∈ (stringifyFields fields).map String.toList, ∃ first tail, item = first :: tail ∧ first ≠ '\x7d' := by
  induction fields with
  | nil => exact fun _ member => (nomatch member)
  | cons field rest ih =>
    obtain ⟨key, value⟩ := field
    refine List.forall_mem_cons.mpr ⟨?_, ih⟩
    rw [stringifyField_toList, escapeString_toList]
    exact ⟨_, _, rfl, by decide⟩

theorem forall_mem_append {p : List Char → Prop} {xs ys : List (List Char)} (first : ∀ item ∈ xs, p item)
    (second : ∀ item ∈ ys, p item) : ∀ item ∈ xs ++ ys, p item :=
  fun item member => (List.mem_append.mp member).elim (first item) (second item)

mutual

/-- A text that is followed by an acceptable rest is read back as one value only. -/
theorem stringifyJson_reads : ∀ {a b : Json}, a.wellFormed = true → b.wellFormed = true → ∀ {rest rest' : List Char},
    AfterValue rest → AfterValue rest' → (stringifyJson a).toList ++ rest = (stringifyJson b).toList ++ rest' →
    a = b ∧ rest = rest'
  | a, b, wellFormed, wellFormed', rest, rest', ended, ended', same => by
    have kind : a.kind = b.kind := by
      obtain ⟨c, tail, chars, first⟩ := stringifyJson_starts wellFormed
      obtain ⟨c', tail', chars', second⟩ := stringifyJson_starts wellFormed'
      rw [chars, chars'] at same
      obtain rfl := (List.cons.inj same).1
      exact first.kind second
    cases a with
    | null =>
      cases b with
      | null => exact ⟨rfl, List.append_cancel_left same⟩
      | _ => cases kind
    | bool value =>
      cases b with
      | bool value' =>
        cases value <;> cases value' <;> first
          | exact ⟨rfl, List.append_cancel_left same⟩
          | exact absurd (List.cons.inj same).1 (by decide)
      | _ => cases kind
    | num text =>
      cases b with
      | num text' =>
        have printed : isNumberText text = true := wellFormed
        have printed' : isNumberText text' = true := wellFormed'
        simp only [isNumberText, Bool.and_eq_true] at printed printed'
        obtain ⟨texts, tail⟩ := splits_of_alphabet afterValue_outside printed.2 printed'.2 rest rest' ended ended' same
        exact ⟨congrArg Json.num (String.toList_inj.mp texts), tail⟩
      | _ => cases kind
    | str text =>
      cases b with
      | str text' =>
        obtain ⟨rfl, tail⟩ := escapeString_append same
        exact ⟨rfl, tail⟩
      | _ => cases kind
    | arr items =>
      cases b with
      | arr items' =>
        rw [stringifyJson_arr_toList, stringifyJson_arr_toList] at same
        obtain ⟨parts, tail⟩ := stringifyItems_reads wellFormed wellFormed' (following_of_enclosed
          (forall_mem_append (stringifyItems_start wellFormed) (stringifyItems_start wellFormed')) (List.cons.inj same).2)
        exact ⟨congrArg Json.arr parts, tail⟩
      | _ => cases kind
    | obj fields =>
      cases b with
      | obj fields' =>
        simp only [Json.wellFormed, Bool.and_eq_true] at wellFormed wellFormed'
        rw [stringifyJson_obj_toList, stringifyJson_obj_toList] at same
        obtain ⟨parts, tail⟩ := stringifyFields_reads wellFormed.2 wellFormed'.2 (following_of_enclosed
          (forall_mem_append (stringifyFields_start fields) (stringifyFields_start fields')) (List.cons.inj same).2)
        exact ⟨congrArg Json.obj parts, tail⟩
      | _ => cases kind

theorem stringifyItems_reads : ∀ {items items' : List Json}, wellFormedItems items = true →
    wellFormedItems items' = true → ∀ {rest rest' : List Char},
    following ',' ']' ((stringifyItems items).map String.toList) ++ rest =
      following ',' ']' ((stringifyItems items').map String.toList) ++ rest' → items = items' ∧ rest = rest'
  | [], [], _, _, _, _, same => ⟨rfl, (List.cons.inj same).2⟩
  | [], _ :: _, _, _, _, _, same => absurd (List.cons.inj same).1 (by decide)
  | _ :: _, [], _, _, _, _, same => absurd (List.cons.inj same).1 (by decide)
  | item :: items, item' :: items', wellFormed, wellFormed', rest, rest', same => by
    simp only [wellFormedItems, Bool.and_eq_true] at wellFormed wellFormed'
    simp only [stringifyItems, List.map_cons, following, List.cons_append, List.append_assoc] at same
    obtain ⟨first, others⟩ := stringifyJson_reads wellFormed.1 wellFormed'.1
      (following_afterValue (fun _ => .inr (.inl rfl)) _ rest) (following_afterValue (fun _ => .inr (.inl rfl)) _ rest')
      (List.cons.inj same).2
    obtain ⟨later, tail⟩ := stringifyItems_reads wellFormed.2 wellFormed'.2 others
    exact ⟨by rw [first, later], tail⟩

theorem stringifyFields_reads : ∀ {fields fields' : List (String × Json)}, wellFormedFields fields = true →
    wellFormedFields fields' = true → ∀ {rest rest' : List Char},
    following ',' '\x7d' ((stringifyFields fields).map String.toList) ++ rest =
      following ',' '\x7d' ((stringifyFields fields').map String.toList) ++ rest' → fields = fields' ∧ rest = rest'
  | [], [], _, _, _, _, same => ⟨rfl, (List.cons.inj same).2⟩
  | [], _ :: _, _, _, _, _, same => absurd (List.cons.inj same).1 (by decide)
  | _ :: _, [], _, _, _, _, same => absurd (List.cons.inj same).1 (by decide)
  | (key, value) :: fields, (key', value') :: fields', wellFormed, wellFormed', rest, rest', same => by
    simp only [wellFormedFields, Bool.and_eq_true] at wellFormed wellFormed'
    simp only [stringifyFields, List.map_cons, following, stringifyField_toList, List.cons_append, List.append_assoc] at same
    obtain ⟨rfl, values⟩ := escapeString_append (List.cons.inj same).2
    obtain ⟨first, others⟩ := stringifyJson_reads wellFormed.1 wellFormed'.1
      (following_afterValue (fun _ => .inr (.inr rfl)) _ rest) (following_afterValue (fun _ => .inr (.inr rfl)) _ rest')
      (List.cons.inj values).2
    obtain ⟨later, tail⟩ := stringifyFields_reads wellFormed.2 wellFormed'.2 others
    exact ⟨by rw [first, later], tail⟩

end

theorem stringifyJson_inj {a b : Json} (wellFormed : a.wellFormed = true) (wellFormed' : b.wellFormed = true)
    (same : stringifyJson a = stringifyJson b) : a = b :=
  (@stringifyJson_reads a b wellFormed wellFormed' [] [] trivial trivial (by rw [same])).1

def byteCount (chars : List Char) : Nat := (chars.map Char.utf8Size).sum

theorem byteCount_append (xs ys : List Char) : byteCount (xs ++ ys) = byteCount xs + byteCount ys := by
  simp only [byteCount, List.map_append, List.sum_append]

theorem utf8ByteSize_ofList (chars : List Char) : (String.ofList chars).utf8ByteSize = byteCount chars := by
  induction chars with
  | nil => rfl
  | cons c rest ih =>
    rw [show c :: rest = [c] ++ rest from rfl, String.ofList_append, String.utf8ByteSize_append, ih, byteCount_append]
    have single : (String.ofList [c]).utf8ByteSize = c.utf8Size := String.utf8ByteSize_singleton
    rw [single]
    simp [byteCount]

theorem utf8ByteSize_eq (text : String) : text.utf8ByteSize = byteCount text.toList := by
  rw [← utf8ByteSize_ofList, String.ofList_toList]

def charBound (c : Char) : Nat := if 0x20 ≤ c.toNat ∧ c.toNat < 0x7f ∧ c.toNat ≠ 0x22 ∧ c.toNat ≠ 0x5c then 1 else 6

theorem utf8Size_hexDigitOf {n : Nat} (small : n < 16) : (hexDigitOf n).utf8Size = 1 := by
  revert n
  decide

theorem escapeChar_plain {c : Char} (plain : 0x20 ≤ c.toNat ∧ c.toNat < 0x7f ∧ c.toNat ≠ 0x22 ∧ c.toNat ≠ 0x5c) :
    escapeChar c = [c] := by
  unfold escapeChar
  dsimp only
  split
  any_goals omega
  rw [if_neg (by omega)]

theorem escapeChar_bound (c : Char) : byteCount (escapeChar c) ≤ charBound c := by
  have size := c.utf8Size_le_four
  unfold charBound
  split
  · rename_i plain
    have ascii : c.utf8Size = 1 := Char.utf8Size_eq_one_iff.mpr (by
      have small : c.val.toNat < 0x7f := plain.2.1
      rw [UInt32.le_iff_toNat_le]
      exact Nat.le_of_lt small)
    rw [escapeChar_plain plain, byteCount, List.map_singleton, List.sum_singleton, ascii]
  · unfold escapeChar
    dsimp only
    have backslash : (Char.ofNat 0x5c).utf8Size = 1 := rfl
    split
    any_goals simp only [byteCount, List.map_cons, List.map_nil, List.sum_cons, List.sum_nil, backslash]
    any_goals decide
    any_goals omega
    split
    · have high := @utf8Size_hexDigitOf (c.toNat / 16) (by omega)
      have low := @utf8Size_hexDigitOf (c.toNat % 16) (by omega)
      simp only [List.map_cons, List.map_nil, List.sum_cons, List.sum_nil, backslash, high, low]
      decide
    · rw [List.map_singleton, List.sum_singleton]
      omega

def textBound (text : String) : Nat := (text.toList.map charBound).sum + 2

mutual

/-- A bound on the bytes of `JSON.stringify(value)`. -/
def Json.bound : Json → Nat
  | .null => 4
  | .bool _ => 5
  | .num text => text.utf8ByteSize
  | .str text => textBound text
  | .arr items => boundItems items + 2
  | .obj fields => boundFields fields + 2

def boundItems : List Json → Nat
  | [] => 0
  | item :: rest => item.bound + 1 + boundItems rest

def boundFields : List (String × Json) → Nat
  | [] => 0
  | (key, value) :: rest => textBound key + value.bound + 2 + boundFields rest

end

theorem escapeString_bound (text : String) : (escapeString text).utf8ByteSize ≤ textBound text := by
  have each : ∀ chars : List Char, byteCount (chars.flatMap escapeChar) ≤ (chars.map charBound).sum := by
    intro chars
    induction chars with
    | nil => exact Nat.le_refl 0
    | cons c rest ih =>
      have first := escapeChar_bound c
      rw [List.flatMap_cons, byteCount_append, List.map_cons, List.sum_cons]
      omega
  have inner := each text.toList
  rw [escapeString, utf8ByteSize_ofList, quoted, byteCount_append, textBound]
  have quote : byteCount [Char.ofNat 0x22] = 1 := rfl
  have opened : ∀ chars, byteCount (Char.ofNat 0x22 :: chars) = 1 + byteCount chars := fun _ => rfl
  rw [quote, opened]
  omega

theorem intercalate_bound (items : List String) : (",".intercalate items).utf8ByteSize ≤
    (items.map fun item => item.utf8ByteSize + 1).sum := by
  rw [utf8ByteSize_eq, String.toList_intercalate]
  induction items with
  | nil => exact Nat.zero_le _
  | cons first rest ih =>
    have size := utf8ByteSize_eq first
    rw [List.map_cons, List.map_cons, List.sum_cons]
    cases rest with
    | nil =>
      rw [List.map_nil, List.intercalate_singleton]
      omega
    | cons second others =>
      have comma : byteCount ",".toList = 1 := by decide
      rw [List.map_cons, List.intercalate_cons_cons, byteCount_append, byteCount_append, comma]
      rw [List.map_cons] at ih
      omega

mutual

theorem stringifyJson_bound : ∀ value : Json, (stringifyJson value).utf8ByteSize ≤ value.bound
  | .null => by decide
  | .bool true => by decide
  | .bool false => by decide
  | .num _ => Nat.le_refl _
  | .str text => escapeString_bound text
  | .arr items => by
    have inner := (intercalate_bound _).trans (stringifyItems_bound items)
    have brackets : "[".utf8ByteSize = 1 ∧ "]".utf8ByteSize = 1 := by decide
    rw [stringifyJson, String.utf8ByteSize_append, String.utf8ByteSize_append, brackets.1, brackets.2, Json.bound]
    omega
  | .obj fields => by
    have inner := (intercalate_bound _).trans (stringifyFields_bound fields)
    have braces : "\x7b".utf8ByteSize = 1 ∧ "\x7d".utf8ByteSize = 1 := by decide
    rw [stringifyJson, String.utf8ByteSize_append, String.utf8ByteSize_append, braces.1, braces.2, Json.bound]
    omega

theorem stringifyItems_bound : ∀ items : List Json,
    ((stringifyItems items).map fun item => item.utf8ByteSize + 1).sum ≤ boundItems items
  | [] => Nat.le_refl 0
  | item :: rest => by
    have first := stringifyJson_bound item
    have later := stringifyItems_bound rest
    rw [stringifyItems, List.map_cons, List.sum_cons, boundItems]
    omega

theorem stringifyFields_bound : ∀ fields : List (String × Json),
    ((stringifyFields fields).map fun item => item.utf8ByteSize + 1).sum ≤ boundFields fields
  | [] => Nat.le_refl 0
  | (key, value) :: rest => by
    have first := stringifyJson_bound value
    have later := stringifyFields_bound rest
    have named := escapeString_bound key
    have colon : ":".utf8ByteSize = 1 := by decide
    rw [stringifyFields, List.map_cons, List.sum_cons, boundFields, String.utf8ByteSize_append, String.utf8ByteSize_append, colon]
    omega

end

end Bnbera
