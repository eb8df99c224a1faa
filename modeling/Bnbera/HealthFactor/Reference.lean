import Mathlib.Algebra.Order.Floor.Semifield
import Mathlib.Algebra.Order.Round
import Mathlib.Data.Int.Log
import Mathlib.Data.Rat.Floor
import Mathlib.Tactic.Linarith
import Mathlib.Tactic.Positivity
import Mathlib.Algebra.Field.Rat
import Mathlib.Algebra.Order.Field.Basic
import Mathlib.Data.List.DropRight
import Mathlib.Data.Nat.Digits.Defs
import Mathlib.Tactic.FieldSimp
import Mathlib.Tactic.Ring
import Bnbera.Text
import Bnbera.Jobs.Types

namespace Rounding

def nearestInt (q : ℚ) : ℤ :=
  let below := ⌊q⌋
  let rest := q - below
  if rest < 1 / 2 then below
  else if 1 / 2 < rest then below + 1
  else if below % 2 = 0 then below
  else below + 1

theorem nearestInt_cases (q : ℚ) : nearestInt q = ⌊q⌋ ∨ nearestInt q = ⌊q⌋ + 1 := by
  unfold nearestInt
  grind

theorem floor_le_nearestInt (q : ℚ) : ⌊q⌋ ≤ nearestInt q := by
  rcases nearestInt_cases q with same | same <;> omega

theorem nearestInt_le (q : ℚ) : nearestInt q ≤ ⌊q⌋ + 1 := by
  rcases nearestInt_cases q with same | same <;> omega

theorem nearestInt_intCast (n : ℤ) : nearestInt n = n := by
  simp only [nearestInt, Int.floor_intCast]
  norm_num

theorem nearestInt_mono {x y : ℚ} (le : x ≤ y) : nearestInt x ≤ nearestInt y := by
  rcases lt_or_eq_of_le (Int.floor_mono le) with less | same
  · calc nearestInt x ≤ ⌊x⌋ + 1 := nearestInt_le x
      _ ≤ ⌊y⌋ := less
      _ ≤ nearestInt y := floor_le_nearestInt y
  · have rests : x - ⌊x⌋ ≤ y - ⌊y⌋ := by
      rw [same]
      exact sub_le_sub_right le _
    simp only [nearestInt, same] at rests ⊢
    by_cases low : y - ⌊y⌋ < 1 / 2
    · rw [if_pos (rests.trans_lt low), if_pos low]
    · rw [if_neg low]
      by_cases high : 1 / 2 < y - ⌊y⌋
      · rw [if_pos high]
        grind
      · rw [if_neg high]
        grind

def ulp (bits : ℕ) (q : ℚ) : ℚ := (2 : ℚ) ^ (Int.log 2 q - bits + 1)

/-- The nearest number with so many significant bits, the even one of two, without a bound on
its exponent. Only numbers that are not negative are rounded here. -/
def nearest (bits : ℕ) (q : ℚ) : ℚ :=
  if q ≤ 0 then 0 else nearestInt (q / ulp bits q) * ulp bits q

variable {bits : ℕ} {x y : ℚ}

theorem ulp_pos (bits : ℕ) (q : ℚ) : 0 < ulp bits q := zpow_pos two_pos _

theorem pow_le_significand (bits : ℕ) (positive : 0 < x) : (2 : ℚ) ^ ((bits : ℤ) - 1) ≤ x / ulp bits x := by
  rw [le_div_iff₀ (ulp_pos bits x), ulp, ← zpow_add₀ two_ne_zero]
  have exponent : (bits : ℤ) - 1 + (Int.log 2 x - bits + 1) = Int.log 2 x := by omega
  rw [exponent]
  exact_mod_cast Int.zpow_log_le_self one_lt_two positive

theorem significand_lt_pow (bits : ℕ) (x : ℚ) : x / ulp bits x < (2 : ℚ) ^ (bits : ℤ) := by
  rw [div_lt_iff₀ (ulp_pos bits x), ulp, ← zpow_add₀ two_ne_zero]
  have exponent : (bits : ℤ) + (Int.log 2 x - bits + 1) = Int.log 2 x + 1 := by omega
  rw [exponent]
  exact_mod_cast Int.lt_zpow_succ_log_self one_lt_two x

theorem nearestInt_natPow (n : ℕ) : nearestInt ((2 : ℚ) ^ n) = 2 ^ n := by
  have cast : ((2 : ℚ) ^ n) = ((2 ^ n : ℤ) : ℚ) := by push_cast; rfl
  rw [cast, nearestInt_intCast]

theorem zpow_log_le_nearest (some_bits : 0 < bits) (positive : 0 < x) : (2 : ℚ) ^ Int.log 2 x ≤ nearest bits x := by
  rw [nearest, if_neg (not_le.mpr positive)]
  have whole : ((bits : ℤ) - 1) = ((bits - 1 : ℕ) : ℤ) := by omega
  have low := pow_le_significand bits positive
  rw [whole, zpow_natCast] at low
  have rounded := nearestInt_mono low
  rw [nearestInt_natPow] at rounded
  calc (2 : ℚ) ^ Int.log 2 x = 2 ^ (bits - 1) * ulp bits x := by
        rw [ulp, ← zpow_natCast, ← zpow_add₀ two_ne_zero]
        congr 1
        omega
    _ ≤ nearestInt (x / ulp bits x) * ulp bits x := by
        refine mul_le_mul_of_nonneg_right ?_ (ulp_pos bits x).le
        exact_mod_cast rounded

theorem nearest_le_zpow_log (bits : ℕ) (positive : 0 < x) : nearest bits x ≤ (2 : ℚ) ^ (Int.log 2 x + 1) := by
  rw [nearest, if_neg (not_le.mpr positive)]
  have high := (significand_lt_pow bits x).le
  rw [zpow_natCast] at high
  have rounded := nearestInt_mono high
  rw [nearestInt_natPow] at rounded
  calc (nearestInt (x / ulp bits x) : ℚ) * ulp bits x ≤ 2 ^ bits * ulp bits x := by
        refine mul_le_mul_of_nonneg_right ?_ (ulp_pos bits x).le
        exact_mod_cast rounded
    _ = (2 : ℚ) ^ (Int.log 2 x + 1) := by
        rw [ulp, ← zpow_natCast, ← zpow_add₀ two_ne_zero]
        congr 1
        omega

theorem nearest_nonneg (some_bits : 0 < bits) (x : ℚ) : 0 ≤ nearest bits x := by
  rcases le_or_gt x 0 with small | positive
  · rw [nearest, if_pos small]
  · exact (zpow_pos two_pos _).le.trans (zpow_log_le_nearest some_bits positive)

theorem nearest_mono (some_bits : 0 < bits) (le : x ≤ y) : nearest bits x ≤ nearest bits y := by
  rcases le_or_gt x 0 with small | positive
  · rw [nearest, if_pos small]
    exact nearest_nonneg some_bits y
  have above : 0 < y := positive.trans_le le
  rcases lt_or_eq_of_le (Int.log_mono_right (b := 2) positive le) with less | same
  · calc nearest bits x ≤ (2 : ℚ) ^ (Int.log 2 x + 1) := nearest_le_zpow_log bits positive
      _ ≤ (2 : ℚ) ^ Int.log 2 y := zpow_le_zpow_right₀ one_le_two less
      _ ≤ nearest bits y := zpow_log_le_nearest some_bits above
  · have unit : ulp bits x = ulp bits y := by rw [ulp, ulp, same]
    rw [nearest, nearest, if_neg (not_le.mpr positive), if_neg (not_le.mpr above), unit]
    refine mul_le_mul_of_nonneg_right ?_ (ulp_pos bits y).le
    exact_mod_cast nearestInt_mono (div_le_div_of_nonneg_right le (ulp_pos bits y).le)

end Rounding

namespace Bnbera

def wholePart (text : String) : List Char := text.toList.takeWhile (· ≠ '.')

def fractionPart (text : String) : List Char := (text.toList.dropWhile (· ≠ '.')).drop 1

/-- `BigInt` of a list of digits. -/
def digitsValue (digits : List Char) : Nat := Nat.ofDigitChars 10 digits 0

/-- `(?:0|[1-9][0-9]*)` -/
def isWhole : List Char → Bool
  | ['0'] => true
  | first :: rest => '1' ≤ first && first ≤ '9' && rest.all isDigit
  | [] => false

/-- `/^(?:0|[1-9][0-9]*)(?:\.[0-9]\x7b1,18\x7d)?$/u` -/
def isDecimalText (text : String) : Bool :=
  isWhole (wholePart text) &&
    match text.toList.dropWhile (· ≠ '.') with
    | [] => true
    | _ :: places => 1 ≤ places.length && places.length ≤ 18 && places.all isDigit

def decimalRational (text : String) : ℚ :=
  digitsValue (wholePart text) + digitsValue (fractionPart text) / 10 ^ (fractionPart text).length

def IsCanonicalDecimal (text : String) : Prop :=
  isDecimalText text = true ∧ (fractionPart text).getLast? ≠ some '0'

theorem point_not_digit : isDigit '.' = false := by decide

theorem ne_point_of_isDigit {c : Char} (digit : isDigit c = true) : c ≠ '.' := by
  rintro rfl
  rw [point_not_digit] at digit
  cases digit

theorem isWhole_digits {chars : List Char} (whole : isWhole chars = true) : chars ≠ [] ∧ ∀ c ∈ chars, isDigit c = true := by
  unfold isWhole at whole
  split at whole
  · exact ⟨List.cons_ne_nil _ _, List.forall_mem_singleton.mpr (by decide)⟩
  · rename_i first rest _
    simp only [Bool.and_eq_true, decide_eq_true_eq, List.all_eq_true] at whole
    refine ⟨List.cons_ne_nil _ _, List.forall_mem_cons.mpr ⟨?_, whole.2⟩⟩
    have one : '0' ≤ '1' := by decide
    have low : '0' ≤ first := Char.le_trans one whole.1.1
    simp only [isDigit, Bool.and_eq_true, decide_eq_true_eq]
    exact ⟨low, whole.1.2⟩
  · cases whole

/-- The digits of a number are a whole part. -/
theorem isWhole_toDigits (n : Nat) : isWhole (Nat.toDigits 10 n) = true := by
  induction n using Nat.strongRecOn with
  | ind n ih =>
    rw [Nat.toDigits_eq_if (by decide)]
    split
    · rename_i small
      clear ih
      revert small
      revert n
      decide
    · rename_i large
      have before := ih (n / 10) (Nat.div_lt_self (by omega) (by decide))
      have digits := (isWhole_digits before).2
      have last : isDigit (n % 10).digitChar = true := by
        have small : n % 10 < 10 := Nat.mod_lt _ (by decide)
        revert small
        generalize n % 10 = d
        revert d
        decide
      cases chars : Nat.toDigits 10 (n / 10) with
      | nil => exact absurd chars Nat.toDigits_ne_nil
      | cons first rest =>
        rw [chars] at before digits
        have positive : 0 < n / 10 := by omega
        have nonzero : first :: rest ≠ ['0'] := by
          intro zero
          have value : Nat.ofDigitChars 10 (Nat.toDigits 10 (n / 10)) 0 = n / 10 := Nat.ofDigitChars_ten_toDigits
          rw [chars, zero] at value
          have none_left : Nat.ofDigitChars 10 ['0'] 0 = 0 := by decide
          omega
        unfold isWhole at before
        split at before
        · rename_i zero
          exact absurd zero nonzero
        · rename_i head tail _ same
          cases same
          simp only [Bool.and_eq_true, decide_eq_true_eq] at before
          rw [List.cons_append]
          unfold isWhole
          split
          · rfl
          · rename_i same
            cases same
            simp only [Bool.and_eq_true, decide_eq_true_eq, List.all_append, List.all_cons, List.all_nil, and_true]
            exact ⟨before.1, before.2, last⟩
          · rename_i same
            cases same
        · rename_i same
          cases same

theorem digitsValue_append (first second : List Char) :
    digitsValue (first ++ second) = digitsValue first * 10 ^ second.length + digitsValue second := by
  rw [digitsValue, Nat.ofDigitChars_append, Nat.ofDigitChars_eq_ofDigitChars_zero, Nat.mul_comm]
  rfl

theorem digitsValue_zeros (count : Nat) : digitsValue (List.replicate count '0') = 0 := by
  rw [digitsValue, Nat.ofDigitChars_replicate_zero, Nat.mul_zero]

theorem digitsValue_toDigits (n : Nat) : digitsValue (Nat.toDigits 10 n) = n := Nat.ofDigitChars_ten_toDigits

theorem digitsValue_lt {digits : List Char} (all : ∀ c ∈ digits, isDigit c = true) : digitsValue digits < 10 ^ digits.length := by
  induction digits using List.reverseRecOn with
  | nil => decide
  | append_singleton digits last ih =>
    have before := ih fun c member => all c (List.mem_append_left _ member)
    have digit := all last (List.mem_append_right _ (List.mem_singleton_self _))
    simp only [isDigit, Bool.and_eq_true, decide_eq_true_eq, Char.le_def, UInt32.le_iff_toNat_le] at digit
    have code : last.toNat ≤ 57 := digit.2
    have value : digitsValue [last] ≤ 9 := by
      rw [digitsValue, Nat.ofDigitChars_cons, Nat.ofDigitChars_nil]
      have zero : '0'.toNat = 48 := rfl
      omega
    rw [digitsValue_append, List.length_append, List.length_singleton, Nat.pow_succ 10 digits.length, Nat.pow_one]
    omega

theorem span_of_text {text : String} {whole places : List Char} (same : text.toList = whole ++ '.' :: places)
    (digits : ∀ c ∈ whole, isDigit c = true) : wholePart text = whole ∧ text.toList.dropWhile (· ≠ '.') = '.' :: places := by
  have kept : ∀ c ∈ whole, (decide (c ≠ '.')) = true := fun c member => decide_eq_true (ne_point_of_isDigit (digits c member))
  rw [wholePart, same, List.takeWhile_append_of_pos kept, List.dropWhile_append_of_pos kept]
  simp

theorem span_of_whole {text : String} (digits : ∀ c ∈ text.toList, isDigit c = true) :
    wholePart text = text.toList ∧ text.toList.dropWhile (· ≠ '.') = [] := by
  have kept : ∀ c ∈ text.toList, (decide (c ≠ '.')) = true := fun c member => decide_eq_true (ne_point_of_isDigit (digits c member))
  rw [wholePart, List.takeWhile_eq_self_iff.mpr kept, List.dropWhile_eq_nil_iff.mpr kept]
  exact ⟨rfl, rfl⟩

theorem isDecimalText_fraction {text : String} (accepted : isDecimalText text = true) :
    (fractionPart text).length ≤ 18 ∧ ∀ c ∈ fractionPart text, isDigit c = true := by
  unfold isDecimalText at accepted
  rw [Bool.and_eq_true] at accepted
  have places := accepted.2
  split at places
  · rename_i none_left
    rw [fractionPart, none_left]
    exact ⟨by decide, fun _ member => nomatch member⟩
  · rename_i rest split
    rw [fractionPart, split]
    simp only [Bool.and_eq_true, decide_eq_true_eq, List.all_eq_true] at places
    exact ⟨places.1.2, places.2⟩

end Bnbera

namespace Bnbera.HealthFactor

inductive SourceKind
  | protocolSnapshot
  | callerAttested
deriving DecidableEq

structure HealthFactorLendingSnapshot where
  collateralValueUsd : String
  debtValueUsd : String
  liquidationThresholdBps : Int
  sourceKind : SourceKind
  sourceReference : String
  observedAtUnix : Int
  observedBlock : Option String
  observedBlockHash : Option String
deriving DecidableEq

/-- `/^(?:0|[1-9][0-9]\x7b0,29\x7d)(?:\.[0-9]\x7b1,18\x7d)?$/u` -/
def isUsdValue (text : String) : Bool := isDecimalText text && (wholePart text).length ≤ 30

/-- `/^0(?:\.0+)?$/u` -/
def isZeroText (text : String) : Bool :=
  match text.toList with
  | ['0'] => true
  | '0' :: '.' :: zero :: zeros => (zero :: zeros).all (· == '0')
  | _ => false

def sameLetter (letter c : Char) : Bool := c.toLower == letter || (letter == 's' && c.toNat == 0x17f)

/-- `/^https:\/\//iu` -/
def startsWithHttps (text : String) : Bool :=
  "https".toList.length ≤ text.toList.length && ("https".toList.zip text.toList).all (fun pair => sameLetter pair.1 pair.2) &&
    "://".toList.isPrefixOf (text.toList.drop 5)

/-- `/^0x[0-9a-f]\x7b64\x7d$/iu` -/
def isBlockHashText (text : String) : Bool :=
  match text.toList with
  | '0' :: x :: digits => x.toLower == 'x' && digits.length == 64 && digits.all isHexDigit
  | _ => false

/-- `publicReferenceStringSchema`, on the trimmed text. -/
def publicReferenceIssues (path : List String) (text : String) : List Issue :=
  lengthIssues path 1 2048 text ++
    issueIf (text.toList.any (fun c => c.toNat ≤ 0x1f || c.toNat == 0x7f) = true) path
      "The public reference contains control characters."

def HealthFactorLendingSnapshot.trimmed (snapshot : HealthFactorLendingSnapshot) : HealthFactorLendingSnapshot :=
  { snapshot with
    collateralValueUsd := trim snapshot.collateralValueUsd
    debtValueUsd := trim snapshot.debtValueUsd
    sourceReference := trim snapshot.sourceReference }

/-- `healthFactorLendingSnapshotSchema`, on the trimmed texts: its fields, then the rules that relate them. -/
def HealthFactorLendingSnapshot.issues (snapshot : HealthFactorLendingSnapshot) : List Issue :=
  issueIf (isUsdValue snapshot.collateralValueUsd = false) ["collateralValueUsd"] "Invalid" ++
  issueIf (isUsdValue snapshot.debtValueUsd = false) ["debtValueUsd"] "Invalid" ++
  issueIf (snapshot.liquidationThresholdBps < 1) ["liquidationThresholdBps"] "Number must be greater than or equal to 1" ++
  issueIf (10000 < snapshot.liquidationThresholdBps) ["liquidationThresholdBps"] "Number must be less than or equal to 10000" ++
  publicReferenceIssues ["sourceReference"] snapshot.sourceReference ++
  issueIf (snapshot.observedAtUnix ≤ 0) ["observedAtUnix"] "Number must be greater than 0" ++
  issueIf (maxSafeInteger < snapshot.observedAtUnix) ["observedAtUnix"] "Number must be less than or equal to 9007199254740991" ++
  issueIf (snapshot.observedBlock.all isDecimal = false) ["observedBlock"] "Invalid" ++
  issueIf (snapshot.observedBlockHash.all isBlockHashText = false) ["observedBlockHash"] "Invalid" ++
  issueIf (isZeroText snapshot.debtValueUsd = true) ["debtValueUsd"] "A health factor requires a positive debt value." ++
  issueIf (snapshot.sourceKind = .protocolSnapshot ∧ startsWithHttps snapshot.sourceReference = false ∧
      isBlockHashText snapshot.sourceReference = false) ["sourceReference"]
    "A protocol snapshot requires an HTTPS source or transaction hash." ++
  issueIf (snapshot.observedBlockHash.isSome = true ∧ snapshot.observedBlock = none) ["observedBlockHash"]
    "An observed block hash requires an observed block number."

/-- `healthFactorLendingSnapshotSchema.parse` -/
def HealthFactorLendingSnapshot.parse (input : HealthFactorLendingSnapshot) : Except Failure HealthFactorLendingSnapshot :=
  if input.trimmed.issues = [] then .ok input.trimmed else .error (.zod input.trimmed.issues)

def decimalScale : Nat := 18

def decimalScaleFactor : Nat := 10 ^ decimalScale

def decimalToScaled (value : String) : Nat :=
  let fraction := (fractionPart value).takeWhile (· ≠ '.')
  digitsValue (wholePart value) * decimalScaleFactor +
    digitsValue ((fraction ++ List.replicate decimalScale '0').take decimalScale)

def scaledToDecimal (value : Nat) : String :=
  let whole := Nat.toDigits 10 (value / decimalScaleFactor)
  let fraction := ((Nat.toDigits 10 (value % decimalScaleFactor)).leftpad decimalScale '0').rdropWhile (· == '0')
  if fraction = [] then String.ofList whole else String.ofList (whole ++ '.' :: fraction)

def toNumber (value : ℚ) : Option ℚ :=
  let rounded := Rounding.nearest 53 value
  if rounded < 2 ^ 1024 then some rounded else none

inductive Interpretation
  | safe
  | watch
  | critical
deriving DecidableEq

/-- The thresholds are the numbers that the literals `1.1` and `1.5` denote. -/
def healthFactorInterpretation (healthFactor : ℚ) : Interpretation :=
  if healthFactor < Rounding.nearest 53 (11 / 10) then .critical
  else if healthFactor < Rounding.nearest 53 (3 / 2) then .watch
  else .safe

structure ReferenceHealthFactorCalculation where
  healthFactor : ℚ
  healthFactorExact : String
  interpretation : Interpretation
deriving DecidableEq

def calculateReferenceHealthFactor (input : HealthFactorLendingSnapshot) :
    Except Failure ReferenceHealthFactorCalculation := do
  let snapshot ← input.parse
  let collateral := decimalToScaled snapshot.collateralValueUsd
  let debt := decimalToScaled snapshot.debtValueUsd
  -- The basis points are applied before the ratio is brought back to eighteen places.
  let numerator := collateral * snapshot.liquidationThresholdBps.toNat * decimalScaleFactor
  let denominator := debt * 10000
  let healthFactorExact := scaledToDecimal (numerator / denominator)
  match toNumber (decimalRational healthFactorExact) with
  | none => throwCommerce .invalidJob "The lending snapshot produces an unrepresentable health factor."
  | some healthFactor => return ⟨healthFactor, healthFactorExact, healthFactorInterpretation healthFactor⟩

end Bnbera.HealthFactor
