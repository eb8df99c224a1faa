import Bnbera.JsonText.Reading

/-! The leaves of JSON values: null, booleans, numbers and strings. -/

namespace Bnbera.JsonText

class Numbers (N : Type) where
  isFinite : N → Bool
  zero : N
  negZero : N
  /-- `String(n)` -/
  toText : N → Text
  /-- The number that a JSON text denotes. -/
  read : Text → Option N

def isNumberUnit (c : CodeUnit) : Bool := (48 ≤ c.val && c.val ≤ 57) || c = 0x2d || c = 0x2b || c = 0x2e || c = 0x65 || c = 0x45

/-- The documented behaviour: the text of a finite number denotes that number again, only that of `-0` denotes `0`. -/
class LawfulNumbers (N : Type) [Numbers N] : Prop where
  isFinite_zero : Numbers.isFinite (Numbers.zero : N) = true
  zero_ne_negZero : (Numbers.zero : N) ≠ Numbers.negZero
  toText_zero : Numbers.toText (Numbers.zero : N) = [0x30]
  toText_negZero : Numbers.toText (Numbers.negZero : N) = [0x30]
  toText_units : ∀ {n : N}, Numbers.isFinite n = true → Numbers.toText n ≠ [] ∧ ∀ c ∈ Numbers.toText n, isNumberUnit c = true
  read_toText : ∀ {n : N}, Numbers.isFinite n = true → n ≠ Numbers.negZero → Numbers.read (Numbers.toText n) = some n

inductive Scalar (N : Type)
  | null
  | bool (value : Bool)
  | num (value : N)
  | str (text : Text)

variable {N : Type} [Numbers N] [DecidableEq N]

def unsigned (n : N) : N := if n = Numbers.negZero then Numbers.zero else n

def Scalar.norm : Scalar N → Scalar N
  | .num value => .num (unsigned value)
  | other => other

def Scalar.Same : Scalar N → Scalar N → Prop
  | .null, .null => True
  | .bool value, .bool value' => value = value'
  | .num value, .num value' => value = value' ∨
      (value = Numbers.zero ∨ value = Numbers.negZero) ∧ (value' = Numbers.zero ∨ value' = Numbers.negZero)
  | .str text, .str text' => text = text'
  | _, _ => False

def Scalar.IsFinite : Scalar N → Prop
  | .num value => Numbers.isFinite value = true
  | _ => True

def Scalar.IsNormal : Scalar N → Prop
  | .num value => Numbers.isFinite value = true ∧ value ≠ Numbers.negZero
  | _ => True

def nullWord : Text := [0x6e, 0x75, 0x6c, 0x6c]

def boolWord (value : Bool) : Text := if value then [0x74, 0x72, 0x75, 0x65] else [0x66, 0x61, 0x6c, 0x73, 0x65]

def Scalar.write (quote : Text → Text) : Scalar N → Text
  | .null => nullWord
  | .bool value => boolWord value
  | .num value => Numbers.toText value
  | .str text => quote text

def readNumber (text : Text) : Option (Scalar N × Text) :=
  (Numbers.read (text.takeWhile isNumberUnit)).map fun value => (.num value, text.dropWhile isNumberUnit)

def readScalar (text : Text) : Option (Scalar N × Text) :=
  match text with
  | 0x22 :: rest => (readUnits rest).map fun result => (.str result.1, result.2)
  | 0x6e :: 0x75 :: 0x6c :: 0x6c :: rest => some (.null, rest)
  | 0x74 :: 0x72 :: 0x75 :: 0x65 :: rest => some (.bool true, rest)
  | 0x66 :: 0x61 :: 0x6c :: 0x73 :: 0x65 :: rest => some (.bool false, rest)
  | text => readNumber text

section
variable [LawfulNumbers N]

theorem Scalar.same_iff_norm {value value' : Scalar N} : value.Same value' ↔ value.norm = value'.norm := by
  have distinct : (Numbers.zero : N) ≠ Numbers.negZero := LawfulNumbers.zero_ne_negZero
  cases value with
  | num n =>
    cases value' with
    | num n' =>
      simp only [Same, norm, Scalar.num.injEq, unsigned]
      by_cases first : n = Numbers.negZero
      · by_cases second : n' = Numbers.negZero
        · simp [first, second]
        · simp [first, second, Ne.symm second, eq_comm]
      · by_cases second : n' = Numbers.negZero
        · simp [first, second]
        · simp [first, second]
          rintro rfl rfl
          rfl
    | _ => simp [Same, norm]
  | _ => cases value' <;> simp [Same, norm]

theorem Scalar.norm_normal {value : Scalar N} (finite : value.IsFinite) : value.norm.IsNormal := by
  cases value with
  | num n =>
    simp only [norm, IsNormal, unsigned]
    split
    · exact ⟨LawfulNumbers.isFinite_zero, LawfulNumbers.zero_ne_negZero⟩
    · rename_i other
      exact ⟨finite, other⟩
  | _ => trivial

omit [DecidableEq N] [LawfulNumbers N] in
theorem Scalar.IsNormal.finite {value : Scalar N} (normal : value.IsNormal) : value.IsFinite := by
  cases value with
  | num n => exact normal.1
  | _ => trivial

theorem Scalar.norm_norm (value : Scalar N) : value.norm.norm = value.norm := by
  cases value with
  | num n =>
    by_cases zero : n = Numbers.negZero
    · simp only [norm, unsigned, zero, if_true, if_neg (@LawfulNumbers.zero_ne_negZero N _ _)]
    · simp only [norm, unsigned, if_neg zero]
  | _ => rfl

theorem Scalar.write_norm (quote : Text → Text) (value : Scalar N) : value.norm.write quote = value.write quote := by
  cases value with
  | num n =>
    simp only [norm, write, unsigned]
    split
    · rename_i zero
      rw [zero, LawfulNumbers.toText_zero, LawfulNumbers.toText_negZero]
    · rfl
  | _ => rfl

omit [Numbers N] [DecidableEq N] [LawfulNumbers N] in
theorem isNumberUnit_start {c : CodeUnit} (number : isNumberUnit c = true) : IsStart c ∧ c ≠ 0x22 ∧ c ≠ 0x6e ∧ c ≠ 0x74 ∧ c ≠ 0x66 := by
  have space : isSpace c = false := by
    by_contra spaced
    simp only [isSpace, Bool.not_eq_false, Bool.or_eq_true, decide_eq_true_eq, or_assoc] at spaced
    rcases spaced with rfl | rfl | rfl | rfl <;> exact absurd number (by decide)
  refine ⟨⟨space, ?_, ?_, ?_⟩, ?_, ?_, ?_, ?_⟩
  all_goals
    rintro rfl
    exact absurd number (by decide)

omit [Numbers N] [DecidableEq N] [LawfulNumbers N] in
theorem span_number {text rest : Text} (number : ∀ c ∈ text, isNumberUnit c = true) (follows : Follows rest) :
    (text ++ rest).takeWhile isNumberUnit = text ∧ (text ++ rest).dropWhile isNumberUnit = rest := by
  have ends : rest.takeWhile isNumberUnit = [] ∧ rest.dropWhile isNumberUnit = rest := by
    cases rest with
    | nil => exact ⟨rfl, rfl⟩
    | cons c tail =>
      have other : ¬isNumberUnit c = true := by
        rcases follows c rfl with rfl | rfl | rfl <;> decide
      exact ⟨List.takeWhile_cons_of_neg other, List.dropWhile_cons_of_neg other⟩
  rw [List.takeWhile_append_of_pos number, List.dropWhile_append_of_pos number, ends.1, ends.2, List.append_nil]
  exact ⟨rfl, rfl⟩

omit [DecidableEq N] in
theorem readScalar_number {n : N} (finite : Numbers.isFinite n = true) (signed : n ≠ Numbers.negZero) {rest : Text}
    (follows : Follows rest) : readScalar (Numbers.toText n ++ rest) = some (.num n, rest) := by
  obtain ⟨present, number⟩ := LawfulNumbers.toText_units finite
  obtain ⟨taken, dropped⟩ := span_number number follows
  have reads : readNumber (Numbers.toText n ++ rest) = some (.num n, rest) := by
    rw [readNumber, taken, dropped, LawfulNumbers.read_toText finite signed]
    rfl
  cases text : Numbers.toText n with
  | nil => exact absurd text present
  | cons c tail =>
    rw [text] at reads number
    obtain ⟨_, noQuote, noNull, noTrue, noFalse⟩ := isNumberUnit_start (number c List.mem_cons_self)
    rw [List.cons_append] at reads ⊢
    unfold readScalar
    split
    · rename_i same
      exact absurd (List.cons.inj same).1 noQuote
    · rename_i same
      exact absurd (List.cons.inj same).1 noNull
    · rename_i same
      exact absurd (List.cons.inj same).1 noTrue
    · rename_i same
      exact absurd (List.cons.inj same).1 noFalse
    · exact reads

omit [DecidableEq N] in
theorem reads_scalars (quoting : Quoting) : Reads (Scalar.write quoting.quote) (@readScalar N _) Scalar.IsNormal where
  starts := by
    intro value good
    cases value with
    | null => exact ⟨_, _, rfl, by decide⟩
    | bool value => cases value <;> exact ⟨_, _, rfl, by decide⟩
    | num n =>
      obtain ⟨present, number⟩ := LawfulNumbers.toText_units good.1
      cases text : Numbers.toText n with
      | nil => exact absurd text present
      | cons c tail => exact ⟨c, tail, text, (isNumberUnit_start (number c (text ▸ List.mem_cons_self))).1⟩
    | str text =>
      obtain ⟨spelling, shape, _⟩ := quoting.read_quote text []
      rw [List.append_nil] at shape
      exact ⟨0x22, spelling, shape, by decide⟩
  reads := by
    intro value rest good follows
    cases value with
    | null => rfl
    | bool value => cases value <;> rfl
    | num n => exact readScalar_number good.1 good.2 follows
    | str text =>
      obtain ⟨spelling, shape, reads⟩ := quoting.read_quote text rest
      rw [Scalar.write, shape, readScalar, reads]
      rfl

variable {value : Tree (Scalar N)}

theorem equal_scalars : ∀ first second : Scalar N, first.IsFinite → second.IsFinite → (first.Same second ↔ first.norm = second.norm) :=
  fun _ _ _ _ => Scalar.same_iff_norm

theorem Tree.WellFormed.arranged (formed : value.WellFormed Scalar.IsFinite) {order : Order} (permutes : order.Permutes) :
    (value.arrange Scalar.norm order).WellFormed Scalar.IsNormal :=
  formed.arrange permutes.keeps fun _ => Scalar.norm_normal

theorem Tree.WellFormed.same_arranged (formed : value.WellFormed Scalar.IsFinite) {order : Order} (permutes : order.Permutes) :
    (value.arrange Scalar.norm order).WellFormed Scalar.IsFinite ∧ (value.arrange Scalar.norm order).Same Scalar.Same value := by
  have finite : (value.arrange Scalar.norm order).WellFormed Scalar.IsFinite :=
    formed.arrange permutes.keeps fun _ good => (Scalar.norm_normal good).finite
  refine ⟨finite, ?_⟩
  rw [Tree.same_iff_normal equal_scalars finite formed, formed.normal_arrange permutes]
  exact congrArg (fun norm => value.normal norm) (funext Scalar.norm_norm)

end

abbrev SmallNumber := Option (Fin 100)

instance smallNumber_pos : NeZero 100 := ⟨by decide⟩

def digitUnit (n : Nat) : CodeUnit := Fin.ofNat _ (48 + n % 10)

def numeral (n : Nat) : Text := if n < 10 then [digitUnit n] else [digitUnit (n / 10), digitUnit n]

instance : Numbers SmallNumber where
  isFinite _ := true
  zero := some 0
  negZero := none
  toText n := numeral (n.getD 0).val
  read
    | [c] => some (some (Fin.ofNat _ (c.val - 48)))
    | [c, d] => some (some (Fin.ofNat _ (10 * (c.val - 48) + (d.val - 48))))
    | _ => none

instance : LawfulNumbers SmallNumber where
  isFinite_zero := rfl
  zero_ne_negZero := nofun
  toText_zero := rfl
  toText_negZero := rfl
  toText_units := by
    intro n _
    have digits : ∀ n : Fin 100, numeral n.val ≠ [] ∧ (numeral n.val).all isNumberUnit = true := by decide
    exact ⟨(digits _).1, List.all_eq_true.mp (digits _).2⟩
  read_toText := by
    rintro (_ | n) _ signed
    · exact absurd rfl signed
    · clear signed
      revert n
      decide

end Bnbera.JsonText
