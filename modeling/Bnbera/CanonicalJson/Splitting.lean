import Bnbera.Json
import Bnbera.Delimited
import Mathlib.Data.List.Permutation

namespace Bnbera

def hexValue (c : Char) : Nat := if c.toNat < 97 then c.toNat - 48 else c.toNat - 87

/-- The character that an escape of `JSON.stringify` stands for. -/
def unescape : List Char → Option (Char × List Char)
  | [] => none
  | c :: rest =>
    if c.toNat = 0x5c then
      match rest with
      | 'u' :: _ :: _ :: high :: low :: rest => some (Char.ofNat (16 * hexValue high + hexValue low), rest)
      | 'b' :: rest => some (Char.ofNat 0x8, rest)
      | 't' :: rest => some (Char.ofNat 0x9, rest)
      | 'n' :: rest => some (Char.ofNat 0xa, rest)
      | 'f' :: rest => some (Char.ofNat 0xc, rest)
      | 'r' :: rest => some (Char.ofNat 0xd, rest)
      | c :: rest => some (c, rest)
      | [] => none
    else some (c, rest)

theorem hexValue_hexDigitOf : ∀ code < 0x20,
    16 * hexValue (hexDigitOf (code / 16)) + hexValue (hexDigitOf (code % 16)) = code := by
  decide

theorem ofNat_of_toNat {c : Char} {code : Nat} (same : c.toNat = code) : Char.ofNat code = c := by
  rw [← same, Char.ofNat_toNat]

theorem unescape_escapeChar (c : Char) (rest : List Char) : unescape (escapeChar c ++ rest) = some (c, rest) := by
  have backslash : (Char.ofNat 0x5c).toNat = 0x5c := rfl
  simp only [escapeChar]
  split
  all_goals rename_i code
  · simp only [List.cons_append, List.nil_append, unescape, backslash, if_true]
    obtain rfl := ofNat_of_toNat code
    rfl
  · simp only [List.cons_append, List.nil_append, unescape, backslash, if_true]
    obtain rfl := ofNat_of_toNat code
    rfl
  · simp only [List.cons_append, List.nil_append, unescape, backslash, if_true, ofNat_of_toNat code]
  · simp only [List.cons_append, List.nil_append, unescape, backslash, if_true, ofNat_of_toNat code]
  · simp only [List.cons_append, List.nil_append, unescape, backslash, if_true, ofNat_of_toNat code]
  · simp only [List.cons_append, List.nil_append, unescape, backslash, if_true, ofNat_of_toNat code]
  · simp only [List.cons_append, List.nil_append, unescape, backslash, if_true, ofNat_of_toNat code]
  · by_cases control : c.toNat < 0x20
    · simp only [if_pos control, List.cons_append, List.nil_append, unescape, backslash, if_true,
        hexValue_hexDigitOf _ control, Char.ofNat_toNat]
    · have other : c.toNat ≠ 0x5c := by assumption
      simp only [if_neg control, List.cons_append, List.nil_append, unescape, if_neg other]

theorem escapeChar_append {c d : Char} {rest rest' : List Char}
    (same : escapeChar c ++ rest = escapeChar d ++ rest') : c = d ∧ rest = rest' := by
  have read := unescape_escapeChar c rest
  rw [same, unescape_escapeChar] at read
  exact ⟨(Prod.ext_iff.mp (Option.some.inj read)).1.symm, (Prod.ext_iff.mp (Option.some.inj read)).2.symm⟩

theorem escapeChar_starts (c : Char) : ∃ first tail, escapeChar c = first :: tail ∧ first ≠ '"' := by
  have backslash : Char.ofNat 0x5c ≠ '"' := by decide
  simp only [escapeChar]
  split
  all_goals rename_i code
  any_goals exact ⟨_, _, rfl, backslash⟩
  by_cases control : c.toNat < 0x20
  · rw [if_pos control]
    exact ⟨_, _, rfl, backslash⟩
  · rw [if_neg control]
    refine ⟨_, _, rfl, ?_⟩
    rintro rfl
    contradiction

theorem escaped_append {cs ds rest rest' : List Char}
    (same : cs.flatMap escapeChar ++ '"' :: rest = ds.flatMap escapeChar ++ '"' :: rest') : cs = ds ∧ rest = rest' := by
  induction cs generalizing ds with
  | nil =>
    cases ds with
    | nil => exact ⟨rfl, (List.cons.inj same).2⟩
    | cons d ds =>
      obtain ⟨first, tail, shape, other⟩ := escapeChar_starts d
      simp only [List.flatMap_nil, List.flatMap_cons, shape, List.nil_append, List.cons_append, List.cons.injEq] at same
      exact absurd same.1.symm other
  | cons c cs ih =>
    cases ds with
    | nil =>
      obtain ⟨first, tail, shape, other⟩ := escapeChar_starts c
      simp only [List.flatMap_nil, List.flatMap_cons, shape, List.nil_append, List.cons_append, List.cons.injEq] at same
      exact absurd same.1 other
    | cons d ds =>
      simp only [List.flatMap_cons, List.append_assoc] at same
      obtain ⟨rfl, others⟩ := escapeChar_append same
      obtain ⟨rfl, tail⟩ := ih others
      exact ⟨rfl, tail⟩

theorem escapeString_toList (text : String) :
    (escapeString text).toList = '"' :: (text.toList.flatMap escapeChar ++ ['"']) := by
  simp only [escapeString, quoted, String.toList_ofList]
  rfl

theorem escapeString_append {a b : String} {rest rest' : List Char}
    (same : (escapeString a).toList ++ rest = (escapeString b).toList ++ rest') : a = b ∧ rest = rest' := by
  simp only [escapeString_toList, List.cons_append, List.append_assoc, List.nil_append, List.cons.injEq,
    true_and] at same
  obtain ⟨chars, tail⟩ := escaped_append same
  exact ⟨String.toList_inj.mp chars, tail⟩

section

open Delimited

def AfterValue : List Char → Prop
  | [] => True
  | c :: _ => c = ',' ∨ c = ']' ∨ c = '\x7d'

def isNumberChar (c : Char) : Bool := isDigit c || c == '-' || c == '+' || c == '.' || c == 'e'

def isNumberText (text : String) : Bool := !text.toList.isEmpty && text.toList.all isNumberChar

mutual

def Json.wellFormed : Json → Bool
  | .num text => isNumberText text
  | .arr items => wellFormedItems items
  | .obj fields => (fields.map (·.1)).Nodup && wellFormedFields fields
  | _ => true

def wellFormedItems : List Json → Bool
  | [] => true
  | item :: rest => item.wellFormed && wellFormedItems rest

def wellFormedFields : List (String × Json) → Bool
  | [] => true
  | (_, value) :: rest => value.wellFormed && wellFormedFields rest

end

def Json.StartsWith : Json → Char → Prop
  | .null, c => c = 'n'
  | .bool value, c => c = if value then 't' else 'f'
  | .num _, c => isNumberChar c = true
  | .str _, c => c = '"'
  | .arr _, c => c = '['
  | .obj _, c => c = '\x7b'

def printedNumber (text : String) : String := if text == "-0" then "0" else text

theorem isNumberText_printed {text : String} (number : isNumberText text = true) :
    isNumberText (printedNumber text) = true := by
  unfold printedNumber
  split
  · rfl
  · exact number

theorem canonicalizeJson_starts : ∀ {value : Json}, value.wellFormed = true →
    ∃ c tail, (canonicalizeJson value).toList = c :: tail ∧ value.StartsWith c
  | .null, _ => ⟨_, _, rfl, rfl⟩
  | .bool true, _ => ⟨_, _, rfl, rfl⟩
  | .bool false, _ => ⟨_, _, rfl, rfl⟩
  | .num text, number => by
    have printed := isNumberText_printed number
    unfold isNumberText at printed
    change ∃ c tail, (printedNumber text).toList = c :: tail ∧ _
    cases chars : (printedNumber text).toList with
    | nil => simp only [chars, List.isEmpty_nil, Bool.not_true, Bool.false_and, Bool.false_eq_true] at printed
    | cons c tail =>
      simp only [chars, List.isEmpty_cons, Bool.not_false, Bool.true_and, List.all_cons, Bool.and_eq_true] at printed
      exact ⟨c, tail, rfl, printed.1⟩
  | .str text, _ => ⟨_, _, escapeString_toList text, rfl⟩
  | .arr items, _ => by
    simp only [canonicalizeJson, String.toList_append]
    exact ⟨_, _, rfl, rfl⟩
  | .obj fields, _ => by
    simp only [canonicalizeJson, String.toList_append]
    exact ⟨_, _, rfl, rfl⟩

def Json.kind : Json → Nat
  | .null => 0
  | .bool _ => 1
  | .num _ => 2
  | .str _ => 3
  | .arr _ => 4
  | .obj _ => 5

theorem Json.StartsWith.kind {a b : Json} {c : Char} (first : a.StartsWith c) (second : b.StartsWith c) :
    a.kind = b.kind := by
  cases a <;> cases b <;> simp only [StartsWith, Json.kind] at first second ⊢
  all_goals first
    | (subst first; revert second; decide)
    | (subst second; revert first; decide)
    | (subst first; split at second <;> revert second <;> decide)
    | (subst second; split at first <;> revert first <;> decide)

theorem sameKind {a b : Json} (wellFormed : a.wellFormed = true) (wellFormed' : b.wellFormed = true)
    {rest rest' : List Char}
    (same : (canonicalizeJson a).toList ++ rest = (canonicalizeJson b).toList ++ rest') : a.kind = b.kind := by
  obtain ⟨c, tail, chars, first⟩ := canonicalizeJson_starts wellFormed
  obtain ⟨c', tail', chars', second⟩ := canonicalizeJson_starts wellFormed'
  rw [chars, chars'] at same
  obtain rfl := (List.cons.inj same).1
  exact first.kind second

def fieldChars (field : String × String) : List Char :=
  (escapeString field.1).toList ++ ':' :: field.2.toList

theorem canonicalizeJson_arr_toList (items : List Json) : (canonicalizeJson (.arr items)).toList =
    '[' :: enclosed ',' ']' ((canonicalItems items).map String.toList) := by
  simp only [canonicalizeJson, String.toList_append, String.toList_intercalate, enclosed_eq_intercalate]
  rfl

theorem canonicalizeJson_obj_toList (fields : List (String × Json)) : (canonicalizeJson (.obj fields)).toList =
    '\x7b' :: enclosed ',' '\x7d' ((sortFields (canonicalFields fields)).map fieldChars) := by
  have printed : (String.toList ∘ fun field : String × String => escapeString field.1 ++ ":" ++ field.2) = fieldChars := by
    funext field
    simp only [Function.comp_apply, String.toList_append, fieldChars, List.append_assoc]
    rfl
  simp only [canonicalizeJson, String.toList_append, String.toList_intercalate, enclosed_eq_intercalate, List.map_map,
    printed]
  rfl

theorem mem_canonicalItems {items : List Json} {text : String} (wellFormed : wellFormedItems items = true)
    (member : text ∈ canonicalItems items) : ∃ value, value.wellFormed = true ∧ text = canonicalizeJson value := by
  induction items with
  | nil => cases member
  | cons item rest ih =>
    simp only [wellFormedItems, Bool.and_eq_true] at wellFormed
    rcases List.mem_cons.mp member with rfl | later
    · exact ⟨item, wellFormed.1, rfl⟩
    · exact ih wellFormed.2 later

theorem mem_canonicalFields {fields : List (String × Json)} {field : String × String}
    (wellFormed : wellFormedFields fields = true) (member : field ∈ canonicalFields fields) :
    ∃ value, value.wellFormed = true ∧ field.2 = canonicalizeJson value := by
  induction fields with
  | nil => cases member
  | cons head rest ih =>
    obtain ⟨key, value⟩ := head
    simp only [wellFormedFields, Bool.and_eq_true] at wellFormed
    rcases List.mem_cons.mp member with rfl | later
    · exact ⟨value, wellFormed.1, rfl⟩
    · exact ih wellFormed.2 later

theorem canonicalFields_keys (fields : List (String × Json)) :
    (canonicalFields fields).map (·.1) = fields.map (·.1) := by
  induction fields with
  | nil => rfl
  | cons head rest ih => exact congrArg (head.1 :: ·) ih

theorem sortFields_perm {α : Type} (fields : List (String × α)) : (sortFields fields).Perm fields :=
  List.perm_insertionSort _ _

theorem fieldChars_splits {a b : String × String}
    (values : Splits AfterValue a.2.toList b.2.toList) : Splits AfterValue (fieldChars a) (fieldChars b) := by
  intro rest rest' ended ended' same
  simp only [fieldChars, List.append_assoc] at same
  obtain ⟨key, others⟩ := escapeString_append same
  obtain ⟨value, tail⟩ := values rest rest' ended ended' (List.cons.inj others).2
  exact ⟨by rw [fieldChars, fieldChars, key, value], tail⟩

theorem fieldChars_inj {a b : String × String} (same : fieldChars a = fieldChars b) : a = b := by
  obtain ⟨key, others⟩ := escapeString_append same
  exact Prod.ext key (String.toList_inj.mp (List.cons.inj others).2)

theorem afterValue_outside (c : Char) (rest : List Char) (ended : AfterValue (c :: rest)) :
    isNumberChar c = false := by
  rcases ended with rfl | rfl | rfl <;> rfl

theorem canonicalItems_start {items items' : List Json} (wellFormed : wellFormedItems items = true)
    (wellFormed' : wellFormedItems items' = true) :
    ∀ item ∈ (canonicalItems items).map String.toList ++ (canonicalItems items').map String.toList,
    ∃ first tail, item = first :: tail ∧ first ≠ ']' := by
  intro item member
  have printed : ∃ value, value.wellFormed = true ∧ item = (canonicalizeJson value).toList := by
    rcases List.mem_append.mp member with inXs | inYs
    · obtain ⟨text, found, rfl⟩ := List.mem_map.mp inXs
      exact (mem_canonicalItems wellFormed found).imp fun _ same => ⟨same.1, by rw [same.2]⟩
    · obtain ⟨text, found, rfl⟩ := List.mem_map.mp inYs
      exact (mem_canonicalItems wellFormed' found).imp fun _ same => ⟨same.1, by rw [same.2]⟩
  obtain ⟨value, accepted, rfl⟩ := printed
  obtain ⟨c, tail, chars, starts⟩ := canonicalizeJson_starts accepted
  refine ⟨c, tail, chars, ?_⟩
  rintro rfl
  cases value <;> simp only [Json.StartsWith] at starts <;> first
    | (revert starts; decide)
    | (split at starts <;> revert starts <;> decide)

theorem obj_enclosed {fields fields' : List (String × Json)}
    (each : ∀ a ∈ canonicalFields fields, ∀ b ∈ canonicalFields fields', Splits AfterValue a.2.toList b.2.toList)
    {rest rest' : List Char}
    (same : enclosed ',' '\x7d' ((sortFields (canonicalFields fields)).map fieldChars) ++ rest =
      enclosed ',' '\x7d' ((sortFields (canonicalFields fields')).map fieldChars) ++ rest') :
    sortFields (canonicalFields fields) = sortFields (canonicalFields fields') ∧ rest = rest' := by
  have separated : ∀ rest, AfterValue (',' :: rest) := fun _ => .inl rfl
  have closed : ∀ rest, AfterValue ('\x7d' :: rest) := fun _ => .inr (.inr rfl)
  have parts := enclosed_splits (by decide) separated closed ?_ ?_ same
  · exact ⟨List.map_injective_iff.mpr (fun _ _ => fieldChars_inj) parts.1, parts.2⟩
  · rintro x inXs y inYs
    obtain ⟨a, inA, rfl⟩ := List.mem_map.mp inXs
    obtain ⟨b, inB, rfl⟩ := List.mem_map.mp inYs
    exact fieldChars_splits (each a ((sortFields_perm _).mem_iff.mp inA) b ((sortFields_perm _).mem_iff.mp inB))
  · intro item member
    have printed : ∃ field, fieldChars field = item := by
      rcases List.mem_append.mp member with inXs | inYs
      · exact (List.mem_map.mp inXs).imp fun _ found => found.2
      · exact (List.mem_map.mp inYs).imp fun _ found => found.2
    obtain ⟨field, rfl⟩ := printed
    rw [fieldChars, escapeString_toList]
    exact ⟨_, _, rfl, by decide⟩

mutual

/-- No canonical text is the beginning of another one with an acceptable rest. -/
theorem canonicalizeJson_splits : ∀ {a b : Json}, a.wellFormed = true → b.wellFormed = true →
    Splits AfterValue (canonicalizeJson a).toList (canonicalizeJson b).toList
  | a, b, wellFormed, wellFormed' => by
    intro rest rest' ended ended' same
    have kind := sameKind wellFormed wellFormed' same
    cases a with
    | null =>
      cases b with
      | null => exact ⟨rfl, List.append_cancel_left same⟩
      | _ => cases kind
    | bool value =>
      cases b with
      | bool value' =>
        cases value <;> cases value' <;> first
          | exact ⟨rfl, List.append_cancel_left same⟩
          | exact absurd (List.cons.inj same).1 (by decide)
      | _ => cases kind
    | num text =>
      cases b with
      | num text' =>
        have printed := isNumberText_printed wellFormed
        have printed' := isNumberText_printed wellFormed'
        simp only [isNumberText, Bool.and_eq_true] at printed printed'
        exact splits_of_alphabet afterValue_outside printed.2 printed'.2 rest rest' ended ended' same
      | _ => cases kind
    | str text =>
      cases b with
      | str text' =>
        obtain ⟨rfl, tail⟩ := escapeString_append same
        exact ⟨rfl, tail⟩
      | _ => cases kind
    | arr items =>
      cases b with
      | arr items' =>
        rw [canonicalizeJson_arr_toList, canonicalizeJson_arr_toList] at same ⊢
        obtain ⟨parts, tail⟩ := enclosed_splits (by decide) (fun _ => .inl rfl) (fun _ => .inr (.inl rfl))
          (canonicalItems_splits wellFormed wellFormed') (canonicalItems_start wellFormed wellFormed')
          (List.cons.inj same).2
        exact ⟨by rw [parts], tail⟩
      | _ => cases kind
    | obj fields =>
      cases b with
      | obj fields' =>
        simp only [Json.wellFormed, Bool.and_eq_true] at wellFormed wellFormed'
        rw [canonicalizeJson_obj_toList, canonicalizeJson_obj_toList] at same ⊢
        obtain ⟨parts, tail⟩ := obj_enclosed (canonicalFields_splits wellFormed.2 wellFormed'.2) (List.cons.inj same).2
        exact ⟨by rw [parts], tail⟩
      | _ => cases kind

theorem canonicalItems_splits : ∀ {items items' : List Json}, wellFormedItems items = true →
    wellFormedItems items' = true → ∀ x ∈ (canonicalItems items).map String.toList,
    ∀ y ∈ (canonicalItems items').map String.toList, Splits AfterValue x y
  | [], _, _, _, _, member, _, _ => nomatch member
  | item :: rest, items', wellFormed, wellFormed', x, inXs, y, inYs => by
    simp only [wellFormedItems, Bool.and_eq_true] at wellFormed
    rcases List.mem_cons.mp inXs with rfl | later
    · obtain ⟨text, inItems, rfl⟩ := List.mem_map.mp inYs
      obtain ⟨value, accepted, rfl⟩ := mem_canonicalItems wellFormed' inItems
      exact canonicalizeJson_splits wellFormed.1 accepted
    · exact canonicalItems_splits wellFormed.2 wellFormed' x later y inYs

theorem canonicalFields_splits : ∀ {fields fields' : List (String × Json)}, wellFormedFields fields = true →
    wellFormedFields fields' = true → ∀ a ∈ canonicalFields fields, ∀ b ∈ canonicalFields fields',
    Splits AfterValue a.2.toList b.2.toList
  | [], _, _, _, _, member, _, _ => nomatch member
  | (key, value) :: rest, fields', wellFormed, wellFormed', a, inA, b, inB => by
    simp only [wellFormedFields, Bool.and_eq_true] at wellFormed
    rcases List.mem_cons.mp inA with rfl | later
    · obtain ⟨other, accepted, same⟩ := mem_canonicalFields wellFormed' inB
      rw [same]
      exact canonicalizeJson_splits wellFormed.1 accepted
    · exact canonicalFields_splits wellFormed.2 wellFormed' a later b inB

end

end

theorem canonicalizeJson_obj {fields fields' : List (String × Json)} (wellFormed : (Json.obj fields).wellFormed = true)
    (wellFormed' : (Json.obj fields').wellFormed = true)
    (same : canonicalizeJson (.obj fields) = canonicalizeJson (.obj fields')) :
    (canonicalFields fields).Perm (canonicalFields fields') := by
  have chars := congrArg String.toList same
  rw [canonicalizeJson_obj_toList, canonicalizeJson_obj_toList, List.cons.injEq] at chars
  simp only [Json.wellFormed, Bool.and_eq_true] at wellFormed wellFormed'
  have parts := (obj_enclosed (canonicalFields_splits wellFormed.2 wellFormed'.2)
    (congrArg (· ++ ([] : List Char)) chars.2)).1
  exact (sortFields_perm _).symm.trans (parts ▸ sortFields_perm _)

theorem mem_canonicalFields_iff {fields : List (String × Json)} (nodup : (fields.map (·.1)).Nodup) {key text : String} :
    (key, text) ∈ canonicalFields fields ↔ (fieldOf fields key).map canonicalizeJson = some text := by
  induction fields generalizing text with
  | nil => simp only [canonicalFields, List.not_mem_nil, fieldOf_nil, Option.map_none, reduceCtorEq]
  | cons head rest ih =>
    obtain ⟨k, value⟩ := head
    simp only [List.map_cons, List.nodup_cons] at nodup
    simp only [canonicalFields, List.mem_cons, Prod.mk.injEq, fieldOf_cons, ih nodup.2]
    by_cases same : k = key
    · subst same
      have absent : fieldOf rest k = none := by
        cases found : fieldOf rest k with
        | none => rfl
        | some other =>
          have member : (k, canonicalizeJson other) ∈ canonicalFields rest :=
            (ih nodup.2).mpr (by rw [found]; rfl)
          exact absurd (canonicalFields_keys rest ▸ List.mem_map_of_mem member) nodup.1
      simp only [absent, Option.map_none, reduceCtorEq, or_false, true_and, if_true, Option.map_some,
        Option.some.injEq, eq_comm]
    · simp only [if_neg same, Ne.symm same, false_and, false_or]

theorem canonicalizeJson_field {fields fields' : List (String × Json)}
    (wellFormed : (Json.obj fields).wellFormed = true) (wellFormed' : (Json.obj fields').wellFormed = true)
    (same : canonicalizeJson (.obj fields) = canonicalizeJson (.obj fields')) (key : String) :
    (fieldOf fields key).map canonicalizeJson = (fieldOf fields' key).map canonicalizeJson := by
  have perm := canonicalizeJson_obj wellFormed wellFormed' same
  simp only [Json.wellFormed, Bool.and_eq_true, decide_eq_true_eq] at wellFormed wellFormed'
  refine Option.ext fun text => ?_
  have left : (key, text) ∈ canonicalFields fields ↔ _ := mem_canonicalFields_iff wellFormed.1
  have right : (key, text) ∈ canonicalFields fields' ↔ _ := mem_canonicalFields_iff wellFormed'.1
  exact left.symm.trans (perm.mem_iff.trans right)

theorem canonicalizeJson_str {a b : String} (same : canonicalizeJson (.str a) = canonicalizeJson (.str b)) : a = b :=
  (escapeString_append (congrArg (fun text => text.toList ++ ([] : List Char)) same)).1

/-- A natural number as `String(value)` prints it. -/
def Json.nat (value : Nat) : Json := .num (Nat.repr value)

theorem isNumberText_repr (value : Nat) : isNumberText (Nat.repr value) = true := by
  have digits : (Nat.toDigits 10 value).all isNumberChar = true := by
    refine List.all_eq_true.mpr fun c member => ?_
    have digit := Nat.isDigit_of_mem_toDigits (by decide) (by decide) member
    simp only [Char.isDigit, Bool.and_eq_true, decide_eq_true_eq] at digit
    simp only [isNumberChar, isDigit, Bool.or_eq_true, Bool.and_eq_true, decide_eq_true_eq]
    exact .inl (.inl (.inl (.inl digit)))
  simp only [isNumberText, Nat.toList_repr, digits, Bool.and_true, Bool.not_eq_true', List.isEmpty_eq_false_iff]
  exact Nat.toDigits_ne_nil

@[simp] theorem Json.nat_wellFormed (value : Nat) : (Json.nat value).wellFormed = true := isNumberText_repr value

theorem printedNumber_repr (value : Nat) : printedNumber (Nat.repr value) = Nat.repr value := by
  unfold printedNumber
  split
  · rename_i negative
    have chars : Nat.toDigits 10 value = ['-', '0'] := by
      rw [← Nat.toList_repr, eq_of_beq negative]
      rfl
    have member : '-' ∈ Nat.toDigits 10 value := chars ▸ List.mem_cons_self
    cases Nat.isDigit_of_mem_toDigits (by decide) (by decide) member
  · rfl

theorem canonicalizeJson_nat {a b : Nat} (same : canonicalizeJson (.nat a) = canonicalizeJson (.nat b)) : a = b := by
  have printed : printedNumber (Nat.repr a) = printedNumber (Nat.repr b) := same
  rw [printedNumber_repr, printedNumber_repr] at printed
  have digits : Nat.toDigits 10 a = Nat.toDigits 10 b := by rw [← Nat.toList_repr, printed, Nat.toList_repr]
  have value : Nat.ofDigitChars 10 (Nat.toDigits 10 a) 0 = a := Nat.ofDigitChars_ten_toDigits
  rw [← value, digits, Nat.ofDigitChars_ten_toDigits]

/-- `value ?? null` as JSON. -/
def Json.ofOption {α : Type} (render : α → Json) : Option α → Json
  | none => .null
  | some value => render value

@[simp] theorem Json.str_wellFormed (value : String) : (Json.str value).wellFormed = true := rfl

@[simp] theorem Json.bool_wellFormed (value : Bool) : (Json.bool value).wellFormed = true := rfl

@[simp] theorem Json.null_wellFormed : Json.null.wellFormed = true := rfl

def Renders {α : Type} (render : α → Json) : Prop :=
  (∀ value, (render value).wellFormed = true) ∧
    ∀ a b, canonicalizeJson (render a) = canonicalizeJson (render b) → a = b

theorem renders_str : Renders Json.str := ⟨fun _ => rfl, fun _ _ => canonicalizeJson_str⟩

theorem Renders.ofOption {α : Type} {render : α → Json} (renders : Renders render)
    (present : ∀ value, (render value).kind ≠ Json.null.kind) : Renders (Json.ofOption render) := by
  constructor
  · intro value
    cases value with
    | none => rfl
    | some value => exact renders.1 value
  · have other : ∀ value, canonicalizeJson (render value) ≠ canonicalizeJson .null := by
      intro value same
      have chars : (canonicalizeJson (render value)).toList ++ [] = (canonicalizeJson .null).toList ++ [] := by rw [same]
      exact present value (sameKind (renders.1 value) Json.null_wellFormed chars)
    intro a b same
    cases a with
    | none =>
      cases b with
      | none => rfl
      | some b => exact absurd same.symm (other b)
    | some a =>
      cases b with
      | none => exact absurd same (other a)
      | some b => rw [renders.2 a b same]

theorem renders_obj {α : Type} {fields : α → List (String × Json)}
    (wellFormed : ∀ value, (Json.obj (fields value)).wellFormed = true)
    (determined : ∀ a b, (∀ key, (fieldOf (fields a) key).map canonicalizeJson =
      (fieldOf (fields b) key).map canonicalizeJson) → a = b) : Renders fun value => .obj (fields value) :=
  ⟨wellFormed, fun a b same => determined a b (canonicalizeJson_field (wellFormed a) (wellFormed b) same)⟩

end Bnbera
