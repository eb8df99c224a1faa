import Mathlib.Order.Bounds.Defs
import Bnbera.HealthFactor.Reference

namespace Bnbera.HealthFactor

open Rounding

theorem decimalToScaled_eq {text : String} (accepted : isDecimalText text = true) :
    (decimalToScaled text : ℚ) = decimalRational text * decimalScaleFactor := by
  obtain ⟨short, digits⟩ := isDecimalText_fraction accepted
  have whole : (fractionPart text).takeWhile (· ≠ '.') = fractionPart text :=
    List.takeWhile_eq_self_iff.mpr fun c member => decide_eq_true (ne_point_of_isDigit (digits c member))
  have filled : (fractionPart text ++ List.replicate decimalScale '0').take decimalScale =
      fractionPart text ++ List.replicate (18 - (fractionPart text).length) '0' := by
    rw [List.take_append, List.take_of_length_le (show (fractionPart text).length ≤ decimalScale from short), List.take_replicate]
    congr 2
    show min (18 - _) 18 = _
    omega
  have power : (10 : ℚ) ^ 18 = 10 ^ (fractionPart text).length * 10 ^ (18 - (fractionPart text).length) := by
    rw [← pow_add]
    congr 1
    omega
  have scale : (decimalScaleFactor : ℚ) = 10 ^ 18 := by norm_num [decimalScaleFactor, decimalScale]
  have nonzero : (10 : ℚ) ^ (fractionPart text).length ≠ 0 := pow_ne_zero _ (by norm_num)
  rw [decimalToScaled, whole, filled, digitsValue_append, digitsValue_zeros, List.length_replicate, decimalRational, scale]
  push_cast
  rw [scale, power]
  field_simp
  ring

theorem digitsValue_eq_zero {digits : List Char} (all : ∀ c ∈ digits, isDigit c = true) (zero : digitsValue digits = 0) :
    ∀ c ∈ digits, c = '0' := by
  induction digits using List.reverseRecOn with
  | nil => exact fun _ member => nomatch member
  | append_singleton digits last ih =>
    rw [digitsValue_append, List.length_singleton, Nat.pow_one] at zero
    have before := ih (fun c member => all c (List.mem_append_left _ member)) (by omega)
    have digit := all last (List.mem_append_right _ (List.mem_singleton_self _))
    simp only [isDigit, Bool.and_eq_true, decide_eq_true_eq, Char.le_def, UInt32.le_iff_toNat_le] at digit
    have low : 48 ≤ last.toNat := digit.1
    have value : last.toNat - 48 = 0 := by
      have same : digitsValue [last] = 10 * 0 + (last.toNat - '0'.toNat) := by
        rw [digitsValue, Nat.ofDigitChars_cons, Nat.ofDigitChars_nil]
      have code : '0'.toNat = 48 := rfl
      omega
    have same : last = '0' := by
      rw [← Char.toNat_inj]
      show last.toNat = 48
      omega
    intro c member
    rcases List.mem_append.mp member with old | new
    · exact before c old
    · exact (List.mem_singleton.mp new).trans same

theorem isWhole_zero {chars : List Char} (whole : isWhole chars = true) (zero : digitsValue chars = 0) : chars = ['0'] := by
  have zeros := digitsValue_eq_zero (isWhole_digits whole).2 zero
  unfold isWhole at whole
  split at whole
  · rfl
  · rename_i first rest _
    simp only [Bool.and_eq_true, decide_eq_true_eq] at whole
    have low := whole.1.1
    rw [zeros first List.mem_cons_self] at low
    exact absurd low (by decide)
  · cases whole

theorem isDecimalText_toList {text : String} (accepted : isDecimalText text = true) :
    text.toList = wholePart text ∨ (fractionPart text ≠ [] ∧ text.toList = wholePart text ++ '.' :: fractionPart text) := by
  have joined : text.toList = wholePart text ++ text.toList.dropWhile (· ≠ '.') := List.takeWhile_append_dropWhile.symm
  unfold isDecimalText at accepted
  rw [Bool.and_eq_true] at accepted
  have places := accepted.2
  cases rest : text.toList.dropWhile (· ≠ '.') with
  | nil =>
    rw [rest, List.append_nil] at joined
    exact .inl joined
  | cons point places' =>
    rw [rest] at places
    have point_first : point = '.' := by
      have head := List.head?_dropWhile_not (· ≠ '.') text.toList
      rw [rest] at head
      simpa using head
    have fraction : fractionPart text = places' := by rw [fractionPart, rest]; rfl
    simp only [Bool.and_eq_true, decide_eq_true_eq] at places
    refine .inr ⟨?_, ?_⟩
    · rw [fraction]
      rintro rfl
      exact absurd places.1.1 (by decide)
    · rw [fraction, ← point_first, ← rest]
      exact joined

/-- A debt that is scaled to nothing is spelled as nothing. -/
theorem isZeroText_of_scaled {text : String} (accepted : isDecimalText text = true) (zero : decimalToScaled text = 0) :
    isZeroText text = true := by
  have scaled := decimalToScaled_eq accepted
  rw [zero, Nat.cast_zero] at scaled
  have factor : (decimalScaleFactor : ℚ) ≠ 0 := by norm_num [decimalScaleFactor, decimalScale]
  have value : decimalRational text = 0 := (mul_eq_zero.mp scaled.symm).resolve_right factor
  have whole_nonneg : (0 : ℚ) ≤ digitsValue (wholePart text) := Nat.cast_nonneg _
  have fraction_nonneg : (0 : ℚ) ≤ digitsValue (fractionPart text) / 10 ^ (fractionPart text).length := by positivity
  rw [decimalRational] at value
  have whole_zero : (digitsValue (wholePart text) : ℚ) = 0 := by linarith
  have fraction_zero : (digitsValue (fractionPart text) : ℚ) / 10 ^ (fractionPart text).length = 0 := by linarith
  have fraction_value : digitsValue (fractionPart text) = 0 := by
    have nonzero : (10 : ℚ) ^ (fractionPart text).length ≠ 0 := pow_ne_zero _ (by norm_num)
    exact_mod_cast (div_eq_zero_iff.mp fraction_zero).resolve_right nonzero
  have whole : isWhole (wholePart text) = true := by
    unfold isDecimalText at accepted
    exact (Bool.and_eq_true _ _ ▸ accepted).1
  have whole_text := isWhole_zero whole (by exact_mod_cast whole_zero)
  have zeros := digitsValue_eq_zero (isDecimalText_fraction accepted).2 fraction_value
  rcases isDecimalText_toList accepted with plain | ⟨some_places, split⟩
  · rw [isZeroText, plain, whole_text]
    rfl
  · rw [isZeroText, split, whole_text]
    cases places : fractionPart text with
    | nil => exact absurd places some_places
    | cons first rest =>
      rw [places] at zeros
      exact List.all_eq_true.mpr fun c member => beq_iff_eq.mpr (zeros c member)

def placesOf (value : Nat) : List Char :=
  ((Nat.toDigits 10 (value % decimalScaleFactor)).leftpad decimalScale '0').rdropWhile (· == '0')

theorem scaledToDecimal_eq (value : Nat) : scaledToDecimal value =
    if placesOf value = [] then String.ofList (Nat.toDigits 10 (value / decimalScaleFactor))
    else String.ofList (Nat.toDigits 10 (value / decimalScaleFactor) ++ '.' :: placesOf value) := rfl

theorem padded_places (value : Nat) :
    ((Nat.toDigits 10 (value % decimalScaleFactor)).leftpad decimalScale '0').length = 18 ∧
    digitsValue ((Nat.toDigits 10 (value % decimalScaleFactor)).leftpad decimalScale '0') = value % decimalScaleFactor ∧
    ∀ c ∈ (Nat.toDigits 10 (value % decimalScaleFactor)).leftpad decimalScale '0', isDigit c = true := by
  have small : value % decimalScaleFactor < 10 ^ 18 := Nat.mod_lt _ (by decide)
  have short : (Nat.toDigits 10 (value % decimalScaleFactor)).length ≤ 18 := Nat.toDigits_length 10 _ 18 (by decide) small
  refine ⟨?_, ?_, ?_⟩
  · rw [List.leftpad, List.length_append, List.length_replicate]
    show 18 - _ + _ = 18
    omega
  · rw [List.leftpad, digitsValue_append, digitsValue_zeros, Nat.zero_mul, Nat.zero_add, digitsValue_toDigits]
  · intro c member
    rcases List.mem_append.mp member with zero | digit
    · rw [List.eq_of_mem_replicate zero]
      decide
    · exact (isWhole_digits (isWhole_toDigits _)).2 c digit

theorem placesOf_split (value : Nat) : ∃ zeros, (Nat.toDigits 10 (value % decimalScaleFactor)).leftpad decimalScale '0' =
    placesOf value ++ List.replicate zeros '0' := by
  unfold placesOf
  generalize (Nat.toDigits 10 (value % decimalScaleFactor)).leftpad decimalScale '0' = padded
  have zeros : padded.rtakeWhile (· == '0') = List.replicate (padded.rtakeWhile (· == '0')).length '0' := by
    refine List.eq_replicate_iff.mpr ⟨rfl, fun c member => ?_⟩
    have zero : (c == '0') = true := List.mem_rtakeWhile_imp (p := (· == '0')) member
    exact beq_iff_eq.mp zero
  have split : padded.rdropWhile (· == '0') ++ padded.rtakeWhile (· == '0') = padded := List.rdropWhile_append_rtakeWhile
  exact ⟨_, split.symm.trans (congrArg _ zeros)⟩

theorem placesOf_length (value : Nat) : (placesOf value).length ≤ 18 := by
  obtain ⟨zeros, split⟩ := placesOf_split value
  have length := congrArg List.length split
  rw [(padded_places value).1, List.length_append] at length
  omega

theorem placesOf_digits (value : Nat) : ∀ c ∈ placesOf value, isDigit c = true := by
  obtain ⟨zeros, split⟩ := placesOf_split value
  intro c member
  exact (padded_places value).2.2 c (split ▸ List.mem_append_left _ member)

theorem placesOf_value (value : Nat) :
    ((value % decimalScaleFactor : Nat) : ℚ) / 10 ^ 18 = digitsValue (placesOf value) / 10 ^ (placesOf value).length := by
  obtain ⟨zeros, split⟩ := placesOf_split value
  obtain ⟨length, spelled, _⟩ := padded_places value
  rw [split, List.length_append, List.length_replicate] at length
  rw [split, digitsValue_append, digitsValue_zeros, List.length_replicate, Nat.add_zero] at spelled
  rw [← spelled, ← length, pow_add]
  push_cast
  have nonzero : (10 : ℚ) ^ zeros ≠ 0 := pow_ne_zero _ (by norm_num)
  exact mul_div_mul_right _ _ nonzero

theorem placesOf_last (value : Nat) : (placesOf value).getLast? ≠ some '0' := by
  intro last
  have nonempty : placesOf value ≠ [] := by
    intro empty
    rw [empty] at last
    cases last
  rw [List.getLast?_eq_some_getLast nonempty] at last
  exact List.rdropWhile_last_not (· == '0') _ nonempty (beq_iff_eq.mpr (Option.some.inj last))

theorem scaledToDecimal_parts (value : Nat) :
    wholePart (scaledToDecimal value) = Nat.toDigits 10 (value / decimalScaleFactor) ∧
    fractionPart (scaledToDecimal value) = placesOf value ∧ isDecimalText (scaledToDecimal value) = true := by
  have whole := isWhole_toDigits (value / decimalScaleFactor)
  have digits := (isWhole_digits whole).2
  rw [scaledToDecimal_eq]
  by_cases places : placesOf value = []
  · rw [if_pos places, places]
    have chars : (String.ofList (Nat.toDigits 10 (value / decimalScaleFactor))).toList =
        Nat.toDigits 10 (value / decimalScaleFactor) := String.toList_ofList
    obtain ⟨first, rest⟩ := span_of_whole (fun c member => digits c (chars ▸ member))
    rw [fractionPart, isDecimalText, first, rest, chars, whole]
    exact ⟨rfl, rfl, rfl⟩
  · rw [if_neg places]
    obtain ⟨first, rest⟩ := span_of_text (String.toList_ofList (l := Nat.toDigits 10 (value / decimalScaleFactor) ++ '.' :: placesOf value))
      digits
    rw [fractionPart, isDecimalText, first, rest, whole]
    refine ⟨rfl, rfl, ?_⟩
    have long : 1 ≤ (placesOf value).length := List.length_pos_iff.mpr places
    have all : (placesOf value).all isDigit = true := List.all_eq_true.mpr (placesOf_digits value)
    simp only [Bool.true_and, Bool.and_eq_true, decide_eq_true_eq]
    exact ⟨⟨long, placesOf_length value⟩, all⟩

theorem scaledToDecimal_exact (value : Nat) : IsCanonicalDecimal (scaledToDecimal value) ∧
    decimalRational (scaledToDecimal value) = value / 10 ^ 18 := by
  obtain ⟨whole, fraction, accepted⟩ := scaledToDecimal_parts value
  refine ⟨⟨accepted, fraction ▸ placesOf_last value⟩, ?_⟩
  rw [decimalRational, whole, fraction, digitsValue_toDigits, ← placesOf_value]
  have split : (value : ℚ) = (value / decimalScaleFactor : Nat) * 10 ^ 18 + (value % decimalScaleFactor : Nat) := by
    have exact := Nat.div_add_mod value decimalScaleFactor
    have factor : decimalScaleFactor = 10 ^ 18 := rfl
    rw [factor] at exact ⊢
    have cast := congrArg (Nat.cast (R := ℚ)) exact
    push_cast at cast ⊢
    linarith
  rw [split]
  field_simp

def HealthFactorLendingSnapshot.ratio (snapshot : HealthFactorLendingSnapshot) : ℚ :=
  decimalRational snapshot.collateralValueUsd * snapshot.liquidationThresholdBps /
    (decimalRational snapshot.debtValueUsd * 10000)

def RoundedAcross (ratio : ℚ) : Prop :=
  (11 / 10 - 22 / 10 ^ 18 ≤ ratio ∧ ratio < 11 / 10) ∨ (3 / 2 - 111 / 10 ^ 18 ≤ ratio ∧ ratio < 3 / 2)

def exactInterpretation (healthFactor : ℚ) : Interpretation :=
  if healthFactor < 11 / 10 then .critical else if healthFactor < 3 / 2 then .watch else .safe

structure HealthFactorLendingSnapshot.Sound (snapshot : HealthFactorLendingSnapshot) : Prop where
  collateral : isUsdValue snapshot.collateralValueUsd = true
  debt : isUsdValue snapshot.debtValueUsd = true
  threshold : 1 ≤ snapshot.liquidationThresholdBps ∧ snapshot.liquidationThresholdBps ≤ 10000
  positive : isZeroText snapshot.debtValueUsd = false

theorem HealthFactorLendingSnapshot.parse_eq {input snapshot : HealthFactorLendingSnapshot}
    (accepted : input.parse = .ok snapshot) : snapshot = input.trimmed ∧ snapshot.Sound := by
  unfold HealthFactorLendingSnapshot.parse at accepted
  split at accepted
  · rename_i clean
    cases accepted
    simp only [HealthFactorLendingSnapshot.issues, List.append_eq_nil_iff, issueIf_eq_nil, Bool.not_eq_false, not_lt,
      Bool.not_eq_true] at clean
    obtain ⟨⟨⟨⟨⟨⟨⟨⟨⟨⟨⟨collateral, debt⟩, low⟩, high⟩, _⟩, _⟩, _⟩, _⟩, _⟩, positive⟩, _⟩, _⟩ := clean
    exact ⟨rfl, collateral, debt, ⟨low, high⟩, positive⟩
  · cases accepted

theorem isUsdValue_text {text : String} (accepted : isUsdValue text = true) :
    isDecimalText text = true ∧ (wholePart text).length ≤ 30 := by
  simpa only [isUsdValue, Bool.and_eq_true, decide_eq_true_eq] using accepted

theorem isUsdValue_lt {text : String} (accepted : isUsdValue text = true) : decimalToScaled text < 10 ^ 49 := by
  obtain ⟨decimal, short⟩ := isUsdValue_text accepted
  obtain ⟨places, digits⟩ := isDecimalText_fraction decimal
  have whole : isWhole (wholePart text) = true := by
    unfold isDecimalText at decimal
    exact (Bool.and_eq_true _ _ ▸ decimal).1
  have first : digitsValue (wholePart text) < 10 ^ 30 :=
    (digitsValue_lt (isWhole_digits whole).2).trans_le (Nat.pow_le_pow_right (by decide) short)
  have second : digitsValue (((fractionPart text).takeWhile (· ≠ '.') ++ List.replicate decimalScale '0').take decimalScale) < 10 ^ 18 := by
    refine (digitsValue_lt fun c member => ?_).trans_le (Nat.pow_le_pow_right (by decide) (List.length_take_le _ _))
    rcases List.mem_append.mp (List.mem_of_mem_take member) with place | zero
    · exact digits c ((List.takeWhile_sublist _).subset place)
    · rw [List.eq_of_mem_replicate zero]
      decide
  have factor : decimalScaleFactor = 10 ^ 18 := rfl
  rw [decimalToScaled, factor]
  omega

def HealthFactorLendingSnapshot.exactScaled (snapshot : HealthFactorLendingSnapshot) : Nat :=
  decimalToScaled snapshot.collateralValueUsd * snapshot.liquidationThresholdBps.toNat * decimalScaleFactor /
    (decimalToScaled snapshot.debtValueUsd * 10000)

section
variable {input snapshot : HealthFactorLendingSnapshot}

theorem HealthFactorLendingSnapshot.Sound.denominator_ne_zero (sound : snapshot.Sound) :
    decimalToScaled snapshot.debtValueUsd * 10000 ≠ 0 := by
  intro zero
  have debt := isZeroText_of_scaled (isUsdValue_text sound.debt).1 (by omega)
  rw [sound.positive] at debt
  cases debt

theorem HealthFactorLendingSnapshot.Sound.debt_pos (sound : snapshot.Sound) : 0 < decimalRational snapshot.debtValueUsd := by
  have scaled := decimalToScaled_eq (isUsdValue_text sound.debt).1
  have nonzero := sound.denominator_ne_zero
  have positive : (0 : ℚ) < decimalToScaled snapshot.debtValueUsd := Nat.cast_pos.mpr (by omega)
  rw [scaled] at positive
  have factor : (0 : ℚ) < decimalScaleFactor := by norm_num [decimalScaleFactor, decimalScale]
  exact pos_of_mul_pos_left positive factor.le

theorem HealthFactorLendingSnapshot.Sound.le_exactScaled_iff (sound : snapshot.Sound) (units : Nat) :
    units ≤ snapshot.exactScaled ↔ (units : ℚ) / 10 ^ 18 ≤ snapshot.ratio := by
  have collateral := decimalToScaled_eq (isUsdValue_text sound.collateral).1
  have debt := decimalToScaled_eq (isUsdValue_text sound.debt).1
  have debt_pos := sound.debt_pos
  have threshold : ((snapshot.liquidationThresholdBps.toNat : Nat) : ℚ) = snapshot.liquidationThresholdBps := by
    have whole : (snapshot.liquidationThresholdBps.toNat : Int) = snapshot.liquidationThresholdBps :=
      Int.toNat_of_nonneg (by have := sound.threshold.1; omega)
    exact_mod_cast whole
  have factor : (decimalScaleFactor : ℚ) = 10 ^ 18 := by norm_num [decimalScaleFactor, decimalScale]
  have denominator : 0 < decimalToScaled snapshot.debtValueUsd * 10000 := Nat.pos_of_ne_zero sound.denominator_ne_zero
  rw [exactScaled, Nat.le_div_iff_mul_le denominator, ← Nat.cast_le (α := ℚ), HealthFactorLendingSnapshot.ratio]
  push_cast
  rw [collateral, debt, threshold, factor, div_le_div_iff₀ (by positivity) (by positivity)]
  constructor
  · intro le
    nlinarith [le]
  · intro le
    nlinarith [le]

theorem HealthFactorLendingSnapshot.Sound.exactScaled_lt (sound : snapshot.Sound) : snapshot.exactScaled < 10 ^ 71 := by
  have collateral := isUsdValue_lt sound.collateral
  have threshold : snapshot.liquidationThresholdBps.toNat ≤ 10000 := by
    have := sound.threshold.2
    omega
  calc snapshot.exactScaled
      ≤ decimalToScaled snapshot.collateralValueUsd * snapshot.liquidationThresholdBps.toNat * decimalScaleFactor := Nat.div_le_self _ _
    _ ≤ decimalToScaled snapshot.collateralValueUsd * 10000 * decimalScaleFactor := by gcongr
    _ < 10 ^ 49 * 10000 * decimalScaleFactor := by
        have factor : 0 < decimalScaleFactor := by decide
        gcongr
    _ = 10 ^ 71 := by decide

theorem toNumber_of_lt {units : Nat} (small : units < 10 ^ 71) :
    toNumber ((units : ℚ) / 10 ^ 18) = some (nearest 53 ((units : ℚ) / 10 ^ 18)) := by
  have below : (units : ℚ) / 10 ^ 18 ≤ 2 ^ 200 := by
    have cast : (units : ℚ) ≤ 10 ^ 71 := by exact_mod_cast small.le
    rw [div_le_iff₀ (by positivity)]
    refine cast.trans ?_
    norm_num
  have finite : nearest 53 ((units : ℚ) / 10 ^ 18) < 2 ^ 1024 := by
    calc nearest 53 ((units : ℚ) / 10 ^ 18) ≤ nearest 53 (2 ^ 200) := nearest_mono (by decide) below
      _ ≤ 2 ^ (Int.log 2 ((2 : ℚ) ^ 200) + 1) := nearest_le_zpow_log 53 (by positivity)
      _ = 2 ^ 201 := by
          have log : Int.log 2 ((2 : ℚ) ^ 200) = 200 := by
            have whole := Int.log_zpow (R := ℚ) (b := 2) one_lt_two 200
            exact_mod_cast whole
          rw [log]
          norm_cast
      _ < 2 ^ 1024 := pow_lt_pow_right₀ one_lt_two (by decide)
  exact if_pos finite

theorem below_threshold {units : Nat} :
    (nearest 53 ((units : ℚ) / 10 ^ 18) < nearest 53 (11 / 10) ↔ units ≤ 1099999999999999977) ∧
    (nearest 53 ((units : ℚ) / 10 ^ 18) < nearest 53 (3 / 2) ↔ units ≤ 1499999999999999888) := by
  have first : nearest 53 (1099999999999999977 / 10 ^ 18) < nearest 53 (11 / 10) ∧
      nearest 53 (11 / 10) ≤ nearest 53 (1099999999999999978 / 10 ^ 18) := by decide +kernel
  have second : nearest 53 (1499999999999999888 / 10 ^ 18) < nearest 53 (3 / 2) ∧
      nearest 53 (3 / 2) ≤ nearest 53 (1499999999999999889 / 10 ^ 18) := by decide +kernel
  have mono {a b : ℚ} (le : a ≤ b) : nearest 53 (a / 10 ^ 18) ≤ nearest 53 (b / 10 ^ 18) :=
    nearest_mono (by decide) (div_le_div_of_nonneg_right le (by positivity))
  constructor
  · constructor
    · intro less
      by_contra above
      have reached : (1099999999999999978 : ℚ) ≤ units := by exact_mod_cast (by omega : 1099999999999999978 ≤ units)
      exact absurd less (not_lt.mpr (first.2.trans (mono reached)))
    · intro le
      have cast : (units : ℚ) ≤ 1099999999999999977 := by exact_mod_cast le
      exact (mono cast).trans_lt first.1
  · constructor
    · intro less
      by_contra above
      have reached : (1499999999999999889 : ℚ) ≤ units := by exact_mod_cast (by omega : 1499999999999999889 ≤ units)
      exact absurd less (not_lt.mpr (second.2.trans (mono reached)))
    · intro le
      have cast : (units : ℚ) ≤ 1499999999999999888 := by exact_mod_cast le
      exact (mono cast).trans_lt second.1

theorem exact_below {units : Nat} : ((units : ℚ) / 10 ^ 18 < 11 / 10 ↔ units < 1100000000000000000) ∧
    ((units : ℚ) / 10 ^ 18 < 3 / 2 ↔ units < 1500000000000000000) := by
  constructor
  · rw [div_lt_iff₀ (by positivity), ← Nat.cast_lt (α := ℚ)]
    norm_num
  · rw [div_lt_iff₀ (by positivity), ← Nat.cast_lt (α := ℚ)]
    norm_num

theorem interpretation_iff {units : Nat} :
    healthFactorInterpretation (nearest 53 ((units : ℚ) / 10 ^ 18)) = exactInterpretation ((units : ℚ) / 10 ^ 18) ↔
      ¬((1099999999999999978 ≤ units ∧ units < 1100000000000000000) ∨
        (1499999999999999889 ≤ units ∧ units < 1500000000000000000)) := by
  simp only [healthFactorInterpretation, exactInterpretation, below_threshold.1, below_threshold.2, exact_below.1, exact_below.2]
  split
  · rw [if_pos (by omega)]
    exact ⟨fun _ => by omega, fun _ => rfl⟩
  · by_cases low : units < 1100000000000000000
    · rw [if_pos low, if_pos (by omega)]
      exact ⟨nofun, fun outside => absurd outside (by omega)⟩
    · rw [if_neg low]
      split
      · rw [if_pos (by omega)]
        exact ⟨fun _ => by omega, fun _ => rfl⟩
      · by_cases high : units < 1500000000000000000
        · rw [if_pos high]
          exact ⟨nofun, fun outside => absurd outside (by omega)⟩
        · rw [if_neg high]
          exact ⟨fun _ => by omega, fun _ => rfl⟩

theorem HealthFactorLendingSnapshot.Sound.roundedAcross_iff (sound : snapshot.Sound) : RoundedAcross snapshot.ratio ↔
    (1099999999999999978 ≤ snapshot.exactScaled ∧ snapshot.exactScaled < 1100000000000000000) ∨
    (1499999999999999889 ≤ snapshot.exactScaled ∧ snapshot.exactScaled < 1500000000000000000) := by
  have first := sound.le_exactScaled_iff 1099999999999999978
  have second := sound.le_exactScaled_iff 1100000000000000000
  have third := sound.le_exactScaled_iff 1499999999999999889
  have fourth := sound.le_exactScaled_iff 1500000000000000000
  norm_num at first second third fourth
  rw [RoundedAcross, ← not_le, ← not_le, ← not_le, ← not_le, first, second, third, fourth]
  norm_num

theorem calculateReferenceHealthFactor_eq (accepted : input.parse = .ok snapshot) :
    calculateReferenceHealthFactor input = .ok ⟨nearest 53 ((snapshot.exactScaled : ℚ) / 10 ^ 18),
      scaledToDecimal snapshot.exactScaled,
      healthFactorInterpretation (nearest 53 ((snapshot.exactScaled : ℚ) / 10 ^ 18))⟩ := by
  obtain ⟨_, sound⟩ := HealthFactorLendingSnapshot.parse_eq accepted
  refine bind_eq_ok.mpr ⟨snapshot, accepted, ?_⟩
  have number : toNumber (decimalRational (scaledToDecimal snapshot.exactScaled)) =
      some (nearest 53 ((snapshot.exactScaled : ℚ) / 10 ^ 18)) := by
    rw [(scaledToDecimal_exact _).2]
    exact toNumber_of_lt sound.exactScaled_lt
  unfold HealthFactorLendingSnapshot.exactScaled at number ⊢
  dsimp only
  rw [number]
  rfl

end

structure HealthFactorLendingSnapshot.Below (snapshot other : HealthFactorLendingSnapshot) : Prop where
  collateral : decimalRational snapshot.collateralValueUsd ≤ decimalRational other.collateralValueUsd
  threshold : snapshot.liquidationThresholdBps ≤ other.liquidationThresholdBps
  debt : decimalRational other.debtValueUsd ≤ decimalRational snapshot.debtValueUsd

/-- What a calculation promises for a snapshot, also beside the calculations for other ones. -/
structure DeliversExactly (snapshot : HealthFactorLendingSnapshot) (result : ReferenceHealthFactorCalculation) : Prop where
  greatest : IsGreatest {multiple : ℚ | (∃ units : ℤ, multiple = units / 10 ^ 18) ∧ multiple ≤ snapshot.ratio}
    (decimalRational result.healthFactorExact)
  canonical : IsCanonicalDecimal result.healthFactorExact
  nonnegative : 0 ≤ result.healthFactor
  divisible : decimalToScaled snapshot.debtValueUsd * 10000 ≠ 0
  ordered : ∀ other otherSnapshot otherResult, HealthFactorLendingSnapshot.parse other = .ok otherSnapshot →
    calculateReferenceHealthFactor other = .ok otherResult → snapshot.Below otherSnapshot →
      decimalRational result.healthFactorExact ≤ decimalRational otherResult.healthFactorExact ∧
      result.healthFactor ≤ otherResult.healthFactor
  numeric : ∀ other otherSnapshot otherResult, HealthFactorLendingSnapshot.parse other = .ok otherSnapshot →
    calculateReferenceHealthFactor other = .ok otherResult → snapshot.Below otherSnapshot → otherSnapshot.Below snapshot →
      result = otherResult
  interpreted : result.interpretation = exactInterpretation (decimalRational result.healthFactorExact)

section
variable {input snapshot other : HealthFactorLendingSnapshot}

theorem HealthFactorLendingSnapshot.Below.ratio_le (below : snapshot.Below other) (sound : snapshot.Sound) (sound' : other.Sound) :
    snapshot.ratio ≤ other.ratio := by
  have collateral : 0 ≤ decimalRational other.collateralValueUsd := by
    rw [decimalRational]
    positivity
  have threshold : (0 : ℚ) ≤ snapshot.liquidationThresholdBps := by
    have low := sound.threshold.1
    exact_mod_cast (by omega : 0 ≤ snapshot.liquidationThresholdBps)
  have bps : (snapshot.liquidationThresholdBps : ℚ) ≤ other.liquidationThresholdBps := by exact_mod_cast below.threshold
  have debt := sound'.debt_pos
  unfold ratio
  refine div_le_div₀ (mul_nonneg collateral (threshold.trans bps)) ?_ (by positivity) ?_
  · exact mul_le_mul below.collateral bps threshold collateral
  · exact mul_le_mul_of_nonneg_right below.debt (by norm_num)

theorem HealthFactorLendingSnapshot.Below.exactScaled_le (below : snapshot.Below other) (sound : snapshot.Sound)
    (sound' : other.Sound) : snapshot.exactScaled ≤ other.exactScaled := by
  rw [sound'.le_exactScaled_iff]
  exact ((sound.le_exactScaled_iff _).mp le_rfl).trans (below.ratio_le sound sound')

theorem HealthFactorLendingSnapshot.Sound.isGreatest (sound : snapshot.Sound) :
    IsGreatest {multiple : ℚ | (∃ units : ℤ, multiple = units / 10 ^ 18) ∧ multiple ≤ snapshot.ratio}
      ((snapshot.exactScaled : ℚ) / 10 ^ 18) := by
  refine ⟨⟨⟨snapshot.exactScaled, by rw [Int.cast_natCast]⟩, (sound.le_exactScaled_iff _).mp le_rfl⟩, ?_⟩
  rintro multiple ⟨⟨units, rfl⟩, le⟩
  rcases Int.le_total 0 units with nonneg | negative
  · obtain ⟨count, rfl⟩ := Int.eq_ofNat_of_zero_le nonneg
    rw [Int.cast_natCast] at le ⊢
    have reached := (sound.le_exactScaled_iff count).mpr le
    exact div_le_div_of_nonneg_right (Nat.cast_le.mpr reached) (by positivity)
  · have below : (units : ℚ) ≤ snapshot.exactScaled := le_trans (by exact_mod_cast negative) (Nat.cast_nonneg _)
    exact div_le_div_of_nonneg_right below (by positivity)

/-- For every accepted snapshot the delivered health factor is exact, and it is interpreted exactly
unless its ratio is rounded across a threshold. -/
theorem healthFactor_exact_iff (accepted : input.parse = .ok snapshot) :
    (∃ result, calculateReferenceHealthFactor input = .ok result ∧ DeliversExactly snapshot result) ↔
      ¬RoundedAcross snapshot.ratio := by
  obtain ⟨_, sound⟩ := HealthFactorLendingSnapshot.parse_eq accepted
  obtain ⟨canonical, exact⟩ := scaledToDecimal_exact snapshot.exactScaled
  have interpreted := @interpretation_iff snapshot.exactScaled
  rw [← sound.roundedAcross_iff] at interpreted
  rw [calculateReferenceHealthFactor_eq accepted, ← interpreted]
  constructor
  · rintro ⟨result, same, delivers⟩
    cases same
    have shown := delivers.interpreted
    rw [exact] at shown
    exact shown
  · intro interpreted
    refine ⟨_, rfl, exact ▸ sound.isGreatest, canonical, nearest_nonneg (by decide) _, sound.denominator_ne_zero, ?_, ?_,
      exact ▸ interpreted⟩
    · intro other otherSnapshot otherResult otherAccepted calculated below
      obtain ⟨_, sound'⟩ := HealthFactorLendingSnapshot.parse_eq otherAccepted
      rw [calculateReferenceHealthFactor_eq otherAccepted] at calculated
      cases calculated
      have le : ((snapshot.exactScaled : Nat) : ℚ) / 10 ^ 18 ≤ otherSnapshot.exactScaled / 10 ^ 18 :=
        div_le_div_of_nonneg_right (Nat.cast_le.mpr (below.exactScaled_le sound sound')) (by positivity)
      rw [exact, (scaledToDecimal_exact _).2]
      exact ⟨le, nearest_mono (by decide) le⟩
    · intro other otherSnapshot otherResult otherAccepted calculated below above
      obtain ⟨_, sound'⟩ := HealthFactorLendingSnapshot.parse_eq otherAccepted
      rw [calculateReferenceHealthFactor_eq otherAccepted] at calculated
      cases calculated
      have same : snapshot.exactScaled = otherSnapshot.exactScaled :=
        le_antisymm (below.exactScaled_le sound sound') (above.exactScaled_le sound' sound)
      rw [same]

end

def sampleSnapshot (collateralValueUsd : String) : HealthFactorLendingSnapshot where
  collateralValueUsd := collateralValueUsd
  debtValueUsd := "1"
  liquidationThresholdBps := 10000
  sourceKind := .callerAttested
  sourceReference := "attested"
  observedAtUnix := 1
  observedBlock := none
  observedBlockHash := none

theorem healthFactor_exact_iff_sample : (sampleSnapshot "1.2").parse = .ok (sampleSnapshot "1.2") ∧
    ((∃ result, calculateReferenceHealthFactor (sampleSnapshot "1.2") = .ok result ∧
      DeliversExactly (sampleSnapshot "1.2") result) ↔ ¬RoundedAcross (sampleSnapshot "1.2").ratio) := by
  have accepted : (sampleSnapshot "1.2").parse = .ok (sampleSnapshot "1.2") := by decide +kernel
  exact ⟨accepted, healthFactor_exact_iff accepted⟩

/-- A health factor below 1.1 in its last place only is interpreted as one that is not. -/
theorem threshold_missed : ¬∀ input snapshot : HealthFactorLendingSnapshot, input.parse = .ok snapshot →
    ∃ result, calculateReferenceHealthFactor input = .ok result ∧ DeliversExactly snapshot result := by
  intro delivers
  have accepted : (sampleSnapshot "1.099999999999999999").parse = .ok (sampleSnapshot "1.099999999999999999") := by decide +kernel
  obtain ⟨result, calculated, delivered⟩ := delivers _ _ accepted
  have watched : (calculateReferenceHealthFactor (sampleSnapshot "1.099999999999999999")).toOption.map
      (fun result => (result.healthFactorExact, result.interpretation)) = some ("1.099999999999999999", .watch) := by decide +kernel
  have critical : exactInterpretation (decimalRational "1.099999999999999999") = .critical := by decide +kernel
  rw [calculated] at watched
  obtain ⟨exact, interpretation⟩ := Prod.mk.inj (Option.some.inj watched)
  have interpreted := delivered.interpreted
  rw [exact, critical, interpretation] at interpreted
  cases interpreted

end Bnbera.HealthFactor
