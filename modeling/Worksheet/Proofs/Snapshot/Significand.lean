import Mathlib
import Worksheet.Proofs.Number.Approximation
import Worksheet.Proofs.Number.ShortestDecimals
import Worksheet.Snapshot.Numeral

/-!
# The significands of written numerals

All the digits of a numeral that is written for a number are taken in when it is read: the
significand and the power of ten that it is read as have the value of the shortest decimal
(`significandOf_writtenNumeral`). Digits are taken in as long as their value has 64 bits
(`takeWhole_eq`, `takeFraction_eq`), and the shortest decimal of a magnitude has neither more digits
nor a power of ten beyond what one or two scalings reach (`Binary64.shortest_bounds`).
-/

set_option autoImplicit false
set_option relaxedAutoImplicit false

namespace Worksheet

/-! ### Sizes of shortest decimals -/

/-- Taking the tens of the coefficient into the exponent raises the exponent. -/
theorem Decimal.exponent_le_normalize {decimal : Decimal} (filled : decimal.coefficient ≠ 0) :
    decimal.exponent ≤ decimal.normalize.exponent := by
  unfold normalize
  rw [if_neg filled]
  exact Int.le_add_of_nonneg_right (Int.natCast_nonneg _)

namespace Binary64

section Nearest

variable {value : ℚ} {code : ℕ}

/-- What rounds to a magnitude other than zero is not zero. -/
theorem IsNearest.pos (nearest : IsNearest value code) (positive : 0 < code) : 0 < value := by
  obtain ⟨before, rfl⟩ : ∃ before, code = before + 1 := ⟨code - 1, by omega⟩
  have above := nearest.midpoint_le
  have grows : magnitude before < magnitude (before + 1) :=
    strictMono_magnitude (Nat.lt_succ_self _)
  have nonneg := magnitude_nonneg before
  linarith

/-- What rounds to a magnitude other than zero is less than twice as large. -/
theorem IsNearest.lt_two_mul (nearest : IsNearest value code) (positive : 0 < code) :
    value < 2 * magnitude code := by
  obtain ⟨shift, significand, run⟩ := exists_onRun code
  have filled : 1 ≤ significand := by
    have whole := run.code_eq
    rcases run.normal with rfl | normal
    · omega
    · exact (by decide : 1 ≤ runLength).trans normal
  have least : 2 ^ shift / unitsInOne ≤ magnitude code := by
    rw [run.magnitude_eq_steps]
    exact le_mul_of_one_le_left (step_pos shift).le (by exact_mod_cast filled)
  have step := step_pos shift
  have below := nearest.le_midpoint
  rw [run.magnitude_succ] at below
  linarith

end Nearest

variable {code : ℕ}

/-- One unit is above `10 ^ -324`, and twice the limit of the magnitudes is below `10 ^ 309`. -/
theorem extreme_powers : unitsInOne < 10 ^ 324 ∧ 2 * 2 ^ 1024 < 10 ^ 309 := by decide +kernel

/-- The neighbours of a magnitude are more than two steps of the grid of `10 ^ -324` apart. -/
theorem isSome_onGrid?_least (tie : Tie) (positive : 0 < code) :
    (onGrid? tie code (-324)).isSome := by
  have unit := unitsInOne_cast_pos
  have before := strictMono_units (Nat.sub_lt positive Nat.one_pos)
  have after := strictMono_units (Nat.lt_add_one code)
  have apart : 2 / (unitsInOne : ℚ) ≤ magnitude (code + 1) - magnitude (code - 1) := by
    have counted : 2 + units (code - 1) ≤ units (code + 1) := by omega
    have cast : (2 : ℚ) + units (code - 1) ≤ units (code + 1) := by exact_mod_cast counted
    rw [magnitude, magnitude, ← sub_div, div_le_div_iff_of_pos_right unit]
    linarith
  have fine : 2 * (10 : ℚ) ^ (-324 : ℤ) < 2 / unitsInOne := by
    have cast : (unitsInOne : ℚ) < 10 ^ 324 := by exact_mod_cast extreme_powers.1
    rw [div_eq_mul_inv, zpow_neg]
    refine mul_lt_mul_of_pos_left ?_ two_pos
    rw [inv_lt_inv₀ (by positivity) unit]
    exact_mod_cast cast
  exact isSome_onGrid?_of_fine positive (fine.trans_le apart)

theorem neg_le_leadingExponent (positive : 0 < code) : -324 ≤ leadingExponent code := by
  have unit := unitsInOne_cast_pos
  have least : (10 : ℚ) ^ (-324 : ℤ) < magnitude code := by
    have powers : unitsInOne < 10 ^ 324 * units code :=
      extreme_powers.1.trans_le (Nat.le_mul_of_pos_right _ (strictMono_units positive))
    have cast : (unitsInOne : ℚ) < 10 ^ 324 * units code := by exact_mod_cast powers
    rw [magnitude, lt_div_iff₀ unit, zpow_neg, inv_mul_lt_iff₀ (by positivity)]
    exact_mod_cast cast
  have bound := least.trans (leadingExponent_spec positive).2
  have exponents := (zpow_lt_zpow_iff_right₀ (by norm_num)).mp bound
  omega

/-- The shortest decimal of zero. -/
theorem shortest_zero : shortest .even 0 = ⟨0, 0⟩ := by decide +kernel

/-- The shortest decimal of a magnitude other than zero has no place below `10 ^ -324`, and none
that is more than sixteen places below the leading digit. -/
theorem exponent_shortest (tie : Tie) (positive : 0 < code) :
    -324 ≤ (shortest tie code).exponent ∧
      leadingExponent code - 16 ≤ (shortest tie code).exponent := by
  obtain ⟨places, few, found, least, most⟩ : ∃ places : ℕ, places < 17 ∧
      (onGrid? tie code (leadingExponent code - places)).isSome ∧
        -324 ≤ leadingExponent code - places ∧ places ≤ 16 := by
    have leading := neg_le_leadingExponent positive
    by_cases large : -308 ≤ leadingExponent code
    · exact ⟨16, by decide, isSome_onGrid?_sixteen tie positive, by omega, le_rfl⟩
    · obtain ⟨places, counted⟩ :=
        Int.eq_ofNat_of_zero_le (by omega : 0 ≤ leadingExponent code + 324)
      have grid : leadingExponent code - places = -324 := by omega
      exact ⟨places, by omega, grid ▸ isSome_onGrid?_least tie positive, by omega, by omega⟩
  obtain ⟨other, fewer, decimal, onGrid, same⟩ := exists_grid tie few found
  obtain ⟨nearest, exponent⟩ := isNearest_of_onGrid? onGrid
  have filled : decimal.coefficient ≠ 0 := by
    intro zero
    have some := nearest.pos positive
    rw [Decimal.value, zero, Nat.cast_zero, zero_mul] at some
    exact lt_irrefl 0 some
  have raised := decimal.exponent_le_normalize filled
  rw [same]
  omega

/-- A decimal with no place more than sixteen below its leading digit has a coefficient of 64
bits. -/
theorem coefficient_lt_of_value_lt {decimal : Decimal} {leading : ℤ}
    (near : leading - 16 ≤ decimal.exponent) (below : decimal.value < 2 * 10 ^ (leading + 1)) :
    decimal.coefficient < 2 ^ 64 := by
  have power : (0 : ℚ) < 10 ^ (leading - 16) := zpow_pos (by norm_num) _
  have split : (10 : ℚ) ^ (leading + 1) = 10 ^ (17 : ℤ) * 10 ^ (leading - 16) := by
    rw [← zpow_add₀ (by norm_num)]
    congr 1
    ring
  have short : (decimal.coefficient : ℚ) * 10 ^ (leading - 16) <
      2 * 10 ^ (17 : ℤ) * 10 ^ (leading - 16) := by
    calc (decimal.coefficient : ℚ) * 10 ^ (leading - 16)
        ≤ decimal.value := mul_le_mul_of_nonneg_left
          (zpow_le_zpow_right₀ (by norm_num) near) (Nat.cast_nonneg _)
      _ < 2 * 10 ^ (leading + 1) := below
      _ = _ := by rw [split, mul_assoc]
  have bound : (decimal.coefficient : ℚ) < 2 ^ 64 :=
    (lt_of_mul_lt_mul_right short power.le).trans (by norm_num)
  exact_mod_cast bound

/-- A decimal below twice the limit of the magnitudes has no power of ten above `10 ^ 308`. -/
theorem exponent_le_of_value_lt {decimal : Decimal} (filled : 0 < decimal.coefficient)
    (below : decimal.value < 2 * 2 ^ 1024) : decimal.exponent ≤ 308 := by
  by_contra large
  have some : (1 : ℚ) ≤ decimal.coefficient := by exact_mod_cast filled
  have powers : (2 : ℚ) * 2 ^ 1024 < 10 ^ 309 := by exact_mod_cast extreme_powers.2
  have grown : (10 : ℚ) ^ 309 ≤ decimal.value := by
    calc (10 : ℚ) ^ 309 = 10 ^ (309 : ℤ) := (zpow_ofNat _ _).symm
      _ ≤ 10 ^ decimal.exponent := zpow_le_zpow_right₀ (by norm_num) (by omega)
      _ ≤ decimal.value := le_mul_of_one_le_left (zpow_pos (by norm_num) _).le some
  exact lt_irrefl _ (grown.trans_lt (below.trans powers))

/-- The shortest decimal of a finite magnitude other than zero has a coefficient of 64 bits, and a
power of ten between `10 ^ -324` and `10 ^ 308`. -/
theorem shortest_bounds (tie : Tie) (positive : 0 < code) (finite : code < infinity) :
    0 < (shortest tie code).coefficient ∧ (shortest tie code).coefficient < 2 ^ 64 ∧
      -324 ≤ (shortest tie code).exponent ∧ (shortest tie code).exponent ≤ 308 := by
  obtain ⟨least, near⟩ := exponent_shortest tie positive
  have nearest := isNearest_shortest tie positive
  have value := nearest.pos positive
  have below := nearest.lt_two_mul positive
  have leading := (leadingExponent_spec positive).2
  have largest := strictMono_magnitude finite
  rw [magnitude_infinity] at largest
  have filled : 0 < (shortest tie code).coefficient := by
    rw [Nat.pos_iff_ne_zero]
    intro zero
    rw [Decimal.value, zero, Nat.cast_zero, zero_mul] at value
    exact lt_irrefl 0 value
  exact ⟨filled, coefficient_lt_of_value_lt near (by linarith), least,
    exponent_le_of_value_lt filled (below.trans (mul_lt_mul_of_pos_left largest two_pos))⟩

end Binary64

namespace Snapshot

/-! ### Taking digits in -/

theorem digitsValue_cons (digit : Char) (rest : List Char) :
    digitsValue (digit :: rest) = 10 ^ rest.length * digitValue digit + digitsValue rest := by
  have one : digitsValue [digit] = digitValue digit := Nat.zero_add _
  rw [← one, ← digitsValue_append, List.singleton_append]

/-- What is taken in by a digit is taken in by all that follow it. -/
theorem taken_cons (significand : ℕ) (digit : Char) (rest : List Char) :
    10 ^ rest.length * (10 * significand + digitValue digit) + digitsValue rest =
      10 ^ (digit :: rest).length * significand + digitsValue (digit :: rest) := by
  rw [digitsValue_cons, List.length_cons, Nat.pow_succ]
  ring

theorem next_lt {significand : ℕ} {digit : Char} {rest : List Char}
    (short : 10 ^ (digit :: rest).length * significand + digitsValue (digit :: rest) <
      significandBound) : 10 * significand + digitValue digit < significandBound := by
  rw [← taken_cons] at short
  have grown := Nat.le_mul_of_pos_left (10 * significand + digitValue digit)
    (Nat.pow_pos (n := rest.length) (by decide : 0 < 10))
  omega

theorem takeWhole_eq {significand : ℕ} {digits : List Char}
    (short : 10 ^ digits.length * significand + digitsValue digits < significandBound) :
    takeWhole significand digits =
      (10 ^ digits.length * significand + digitsValue digits, 0) := by
  induction digits generalizing significand with
  | nil =>
    rw [takeWhole, List.length_nil, Nat.pow_zero, Nat.one_mul]
    rfl
  | cons digit rest ih =>
    rw [takeWhole, if_pos (next_lt short), ih (by rwa [taken_cons]), taken_cons]

theorem takeFraction_eq {significand : ℕ} {digits : List Char}
    (short : 10 ^ digits.length * significand + digitsValue digits < significandBound) :
    takeFraction significand digits =
      (10 ^ digits.length * significand + digitsValue digits, digits.length) := by
  induction digits generalizing significand with
  | nil =>
    rw [takeFraction, List.length_nil, Nat.pow_zero, Nat.one_mul]
    rfl
  | cons digit rest ih =>
    rw [takeFraction]
    simp only
    rw [if_pos (next_lt short), ih (by rwa [taken_cons]), taken_cons, List.length_cons]

/-- The power of ten that a numeral names. -/
def namedPower (numeral : Json.Numeral) : ℤ :=
  match numeral.power with
  | none => 0
  | some (true, digits) => -(digitsValue digits : ℤ)
  | some (false, digits) => digitsValue digits

/-- A numeral whose digits have a value of 64 bits is read with all of them. -/
theorem significandOf_eq {numeral : Json.Numeral}
    (short : digitsValue (numeral.whole ++ numeral.fraction.getD []) < significandBound) :
    significandOf numeral = (digitsValue (numeral.whole ++ numeral.fraction.getD []),
      namedPower numeral - (numeral.fraction.getD []).length) := by
  have split := digitsValue_append numeral.whole (numeral.fraction.getD [])
  have whole : takeWhole 0 numeral.whole = (digitsValue numeral.whole, 0) := by
    have taken := @takeWhole_eq 0 numeral.whole
    rw [Nat.mul_zero, Nat.zero_add] at taken
    have longer := Nat.le_mul_of_pos_left (digitsValue numeral.whole)
      (Nat.pow_pos (n := (numeral.fraction.getD []).length) (by decide : 0 < 10))
    exact taken (by omega)
  unfold significandOf
  rw [whole]
  simp only
  rw [takeFraction_eq (split ▸ short), ← split]
  refine congrArg (Prod.mk _) ?_
  show ((0 : ℕ) : ℤ) - (numeral.fraction.getD []).length + namedPower numeral = _
  rw [Nat.cast_zero]
  ring

/-! ### Written numerals -/

end Snapshot

namespace Decimal

variable {decimal : Decimal}

theorem places_of_nonneg (raised : 0 ≤ decimal.exponent) : decimal.places.2 = [] := by
  rw [places, if_pos raised]

theorem length_places_of_neg (lowered : decimal.exponent < 0) :
    decimal.places.2.length = decimal.exponent.natAbs := by
  rw [places, if_neg (by omega)]
  split
  · rw [List.length_drop]
    omega
  · rw [List.length_append, List.length_replicate]
    omega

/-- With places after the point, the digits of positional notation make up the coefficient. -/
theorem digitsValue_places_of_neg (lowered : decimal.exponent < 0) :
    digitsValue (decimal.places.1 ++ decimal.places.2) = decimal.coefficient := by
  have same := decimal.value_places
  have exponent : -(decimal.places.2.length : ℤ) = decimal.exponent := by
    rw [length_places_of_neg lowered]
    omega
  rw [exponent, value] at same
  have power : (10 : ℚ) ^ decimal.exponent ≠ 0 := (zpow_pos (by norm_num) _).ne'
  exact_mod_cast mul_right_cancel₀ power same

/-- Without places after the point, the digits before it make up the value. -/
theorem digitsValue_places_of_nonneg (raised : 0 ≤ decimal.exponent) :
    (digitsValue decimal.places.1 : ℚ) = decimal.value := by
  rw [← decimal.value_places, places_of_nonneg raised, List.append_nil, List.length_nil,
    Nat.cast_zero, neg_zero, zpow_zero, mul_one]

end Decimal

namespace Snapshot

open Binary64

section Reading

variable {decimal : Decimal} (negative : Bool)

/-- Places after the point are read as a power of ten. -/
theorem significandOf_of_neg (short : decimal.coefficient < 2 ^ 64)
    (lowered : decimal.exponent < 0) :
    significandOf ⟨negative, decimal.places.1, some decimal.places.2, none⟩ =
      (decimal.coefficient, decimal.exponent) := by
  have digits := Decimal.digitsValue_places_of_neg lowered
  have length := Decimal.length_places_of_neg lowered
  rw [significandOf_eq, Option.getD_some, digits, length, namedPower]
  · refine congrArg (Prod.mk _) ?_
    simp only
    omega
  · rw [Option.getD_some, digits]
    exact short

/-- A zero after the point is read as another digit. -/
theorem significandOf_of_nonneg (placed : decimal.leadingExponent < 16)
    (raised : 0 ≤ decimal.exponent) :
    significandOf ⟨negative, decimal.places.1, some ['0'], none⟩ =
      (10 * digitsValue decimal.places.1, -1) ∧ 10 * digitsValue decimal.places.1 < 2 ^ 64 := by
  have digits : digitsValue (decimal.places.1 ++ ['0']) = 10 * digitsValue decimal.places.1 :=
    digitsValue_append _ _
  have short : 10 * digitsValue decimal.places.1 < 2 ^ 64 := by
    have bound := decimal.value_lt_zpow
    rw [← Decimal.digitsValue_places_of_nonneg raised] at bound
    have power : (10 : ℚ) ^ (decimal.leadingExponent + 1) ≤ 10 ^ (16 : ℤ) :=
      zpow_le_zpow_right₀ (by norm_num) (by omega)
    have whole : (digitsValue decimal.places.1 : ℚ) < (10 ^ 16 : ℕ) := by
      refine (bound.trans_le power).trans_eq ?_
      norm_num
    have counted : digitsValue decimal.places.1 < 10 ^ 16 := by exact_mod_cast whole
    omega
  refine ⟨?_, short⟩
  rw [significandOf_eq, Option.getD_some, digits]
  · rfl
  · rw [Option.getD_some, digits]
    exact short

/-- Digits with a power of ten are read with what is left of the power at the last of them. -/
theorem significandOf_of_power (short : decimal.coefficient < 2 ^ 64) :
    significandOf ⟨negative, decimal.digits.take 1,
      if decimal.digits.drop 1 = [] then none else some (decimal.digits.drop 1),
      some (decimal.leadingExponent < 0, Nat.toDigits 10 decimal.leadingExponent.natAbs)⟩ =
        (decimal.coefficient, decimal.exponent) := by
  have fraction : (if decimal.digits.drop 1 = [] then none
      else some (decimal.digits.drop 1)).getD [] = decimal.digits.drop 1 := by
    split
    · next none => exact none.symm
    · rfl
  have digits : digitsValue (decimal.digits.take 1 ++ decimal.digits.drop 1) =
      decimal.coefficient := by
    rw [List.take_append_drop]
    exact digitsValue_toDigits decimal.coefficient
  have power : namedPower ⟨negative, decimal.digits.take 1,
      if decimal.digits.drop 1 = [] then none else some (decimal.digits.drop 1),
      some (decimal.leadingExponent < 0, Nat.toDigits 10 decimal.leadingExponent.natAbs)⟩ =
        decimal.leadingExponent := by
    by_cases lowered : decimal.leadingExponent < 0
    · simp only [namedPower, lowered, decide_true, digitsValue_toDigits]
      omega
    · simp only [namedPower, lowered, decide_false, digitsValue_toDigits]
      omega
  have filled : 0 < decimal.digits.length := Nat.length_toDigits_pos
  have leading : decimal.leadingExponent = decimal.exponent + decimal.digits.length - 1 := rfl
  rw [significandOf_eq, power]
  · simp only [fraction, digits]
    refine congrArg (Prod.mk _) ?_
    rw [List.length_drop]
    omega
  · simp only [fraction, digits]
    exact short

end Reading

/-- A numeral that is written for a finite number is read with all its digits: the significand has
64 bits, and with the power of ten it makes up the shortest decimal. -/
theorem significandOf_writtenNumeral {number : Float} (finite : code number < infinity) :
    (significandOf (writtenNumeral number)).1 < 2 ^ 64 ∧
      -324 ≤ (significandOf (writtenNumeral number)).2 ∧
      (significandOf (writtenNumeral number)).2 ≤ 308 ∧
      ((significandOf (writtenNumeral number)).1 : ℚ) *
        10 ^ (significandOf (writtenNumeral number)).2 = (shortest .even (code number)).value := by
  have bounds : (shortest .even (code number)).coefficient < 2 ^ 64 ∧
      -324 ≤ (shortest .even (code number)).exponent ∧
        (shortest .even (code number)).exponent ≤ 308 := by
    rcases Nat.eq_zero_or_pos (code number) with zero | positive
    · rw [zero, shortest_zero]
      decide
    · exact (shortest_bounds .even positive finite).2
  unfold writtenNumeral
  generalize shortest .even (code number) = decimal at bounds ⊢
  obtain ⟨short, least, most⟩ := bounds
  simp only
  split
  · next placed =>
    rcases lt_or_ge decimal.exponent 0 with lowered | raised
    · have filled : decimal.places.2 ≠ [] := by
        rw [← List.length_pos_iff, Decimal.length_places_of_neg lowered]
        omega
      rw [if_neg filled, significandOf_of_neg _ short lowered]
      exact ⟨short, least, most, rfl⟩
    · obtain ⟨same, shorter⟩ := significandOf_of_nonneg (isNegative number) placed.2 raised
      rw [Decimal.places_of_nonneg raised, if_pos rfl, same]
      refine ⟨shorter, by norm_num, by norm_num, ?_⟩
      rw [← Decimal.digitsValue_places_of_nonneg raised, zpow_neg_one]
      push_cast
      ring
  · rw [significandOf_of_power _ short]
    exact ⟨short, least, most, rfl⟩

end Snapshot

end Worksheet
