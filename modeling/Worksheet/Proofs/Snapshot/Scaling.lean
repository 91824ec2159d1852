import Mathlib
import Worksheet.Proofs.Number.Approximation
import Worksheet.Proofs.Number.Arithmetic
import Worksheet.Proofs.Number.ShortestDecimals
import Worksheet.Snapshot.Numeral

/-!
# Scaling a significand

A significand is scaled by a power of ten with a rounding at each step: the significand and the
power are rounded to numbers, and so is their product or quotient. The result is therefore close to
the magnitude nearest to the exact value, but need not be that magnitude. With one scaling it is at
most two codes away and with two divisions at most three (`scalesNear`), and the value that is
rounded last is the exact one when the significand and the power of ten are numbers
(`scaledValue_eq`).
-/

set_option autoImplicit false
set_option relaxedAutoImplicit false

namespace Worksheet

namespace Binary64

/-! ### Positive numbers -/

theorem magnitude_one : magnitude (1023 * runLength) = 1 := by
  have run : OnRun (1023 * runLength) 1022 runLength := ⟨by decide, by decide, Or.inr le_rfl⟩
  have power : runLength = 2 ^ 52 := rfl
  rw [run.magnitude_eq, power]
  norm_num

section Positive

variable {one other : ℕ} (finite : one < infinity) (finiteOther : other < infinity)

include finite

theorem beq_zero_ofCode : (ofCode false one == 0.0) = true ↔ one = 0 := by
  have same := code_ofCode finite.le false
  have zero := beq_zero_iff (same.symm ▸ finite)
  rwa [same] at zero

include finiteOther

/-- The product of two positive numbers, as codes. -/
theorem exists_ofCode_mul_eq : ∃ result, IsNearest (magnitude one * magnitude other) result ∧
    ofCode false one * ofCode false other = ofCode false (min result infinity) := by
  have same := code_ofCode finite.le false
  have sameOther := code_ofCode finiteOther.le false
  have product := exists_mul_eq (same.symm ▸ finite) (sameOther.symm ▸ finiteOther)
  rwa [same, sameOther, isNegative_ofCode finite.le, isNegative_ofCode finiteOther.le] at product

/-- The quotient of a positive number by one that is not below one, as codes. -/
theorem exists_ofCode_div_eq (large : 1 ≤ magnitude other) :
    ∃ result < infinity, IsNearest (magnitude one / magnitude other) result ∧
      ofCode false one / ofCode false other = ofCode false result := by
  have same := code_ofCode finite.le false
  have sameOther := code_ofCode finiteOther.le false
  have filled : 0 < other := by
    rw [Nat.pos_iff_ne_zero]
    rintro rfl
    rw [magnitude_zero] at large
    linarith
  have quotient := exists_div_eq (same.symm ▸ finite) (sameOther.symm ▸ finiteOther)
    (sameOther.symm ▸ filled)
  rw [same, sameOther, isNegative_ofCode finite.le, isNegative_ofCode finiteOther.le] at quotient
  obtain ⟨result, nearest, equal⟩ := quotient
  have shrunk : magnitude one / magnitude other ≤ magnitude one :=
    div_le_self (magnitude_nonneg one) large
  have below := (nearest.le_of_le_magnitude shrunk).trans_lt finite
  rw [min_eq_left below.le] at equal
  exact ⟨result, below, nearest, equal⟩

end Positive

end Binary64

namespace Snapshot

open Binary64

theorem magnitude_le_of_isNearest {value : ℚ} {code bound : ℕ} (nearest : IsNearest value code)
    (large : magnitude bound ≤ value) : magnitude bound ≤ magnitude code :=
  strictMono_magnitude.monotone (nearest.le_of_magnitude_le large)

theorem one_le_of_isNearest {value : ℚ} {code : ℕ} (nearest : IsNearest value code)
    (large : 1 ≤ value) : 1 ≤ magnitude code := by
  rw [← magnitude_one] at large ⊢
  exact magnitude_le_of_isNearest nearest large

/-! ### Powers of ten -/

/-- The code of the number nearest to a power of ten. -/
def powerCode (exponent : ℕ) : ℕ := Decimal.nearestCode ⟨1, exponent⟩

theorem isNearest_powerCode (exponent : ℕ) : IsNearest (10 ^ exponent) (powerCode exponent) := by
  have nearest := Decimal.isNearest_nearestCode ⟨1, exponent⟩
  rwa [Decimal.value, Nat.cast_one, one_mul, zpow_natCast] at nearest

/-- What the powers of ten are in units: up to `10 ^ 22` they are numbers, and `10 ^ 308` is finite
and closer to the number nearest to it than a rounding makes it, which does not take three below the
first run. -/
theorem powers_in_units :
    (∀ few < 23, units (powerCode few) = 10 ^ few * unitsInOne) ∧
      10 ^ 308 * unitsInOne ≤ units (infinity - 1) ∧
      2 ^ 54 * units (powerCode 308) ≤ (2 ^ 54 + 1) * (10 ^ 308 * unitsInOne) ∧
      2 ^ 54 * (10 ^ 308 * unitsInOne) ≤ (2 ^ 54 + 1) * units (powerCode 308) ∧
      units runLength * units (powerCode 308) ≤ 3 * (unitsInOne * unitsInOne) := by
  decide +kernel

/-- A value up to `10 ^ 308` is nearest to a finite magnitude. -/
theorem lt_infinity_of_isNearest {value : ℚ} {code : ℕ} (nearest : IsNearest value code)
    (small : value ≤ 10 ^ 308) : code < infinity := by
  have unit := unitsInOne_cast_pos
  have largest : (10 : ℚ) ^ 308 ≤ magnitude (infinity - 1) := by
    obtain ⟨-, counted, -⟩ := powers_in_units
    rw [magnitude, le_div_iff₀ unit]
    exact_mod_cast counted
  exact (nearest.le_of_le_magnitude (small.trans largest)).trans_lt (by decide)

theorem powerCode_lt {exponent : ℕ} (small : exponent ≤ 308) : powerCode exponent < infinity :=
  lt_infinity_of_isNearest (isNearest_powerCode exponent)
    (pow_le_pow_right₀ (by norm_num) small)

theorem magnitude_runLength_le : magnitude runLength ≤ 1 := by
  rw [← magnitude_one]
  exact strictMono_magnitude.monotone (by decide)

theorem one_le_power (exponent : ℕ) : (1 : ℚ) ≤ 10 ^ exponent := one_le_pow₀ (by norm_num)

theorem one_le_magnitude_powerCode (exponent : ℕ) : 1 ≤ magnitude (powerCode exponent) :=
  one_le_of_isNearest (isNearest_powerCode exponent) (one_le_power exponent)

theorem units_powerCode_pos (exponent : ℕ) : 0 < units (powerCode exponent) := by
  have unit := unitsInOne_cast_pos
  have power := one_pos.trans_le (one_le_magnitude_powerCode exponent)
  rw [magnitude, div_pos_iff_of_pos_right unit] at power
  exact_mod_cast power

theorem approximates_powerCode (exponent : ℕ) :
    Approximates roundingAbove roundingBelow (magnitude (powerCode exponent)) (10 ^ exponent) :=
  (isNearest_powerCode exponent).approximates (magnitude_runLength_le.trans (one_le_power exponent))

/-- The powers of ten up to `10 ^ 22` are numbers. -/
theorem magnitude_powerCode {exponent : ℕ} (small : exponent ≤ 22) :
    magnitude (powerCode exponent) = 10 ^ exponent := by
  have unit := unitsInOne_cast_pos.ne'
  obtain ⟨exact, -⟩ := powers_in_units
  rw [magnitude, exact exponent (by omega), Nat.cast_mul, mul_div_cancel_right₀ _ unit,
    Nat.cast_pow, Nat.cast_ofNat]

/-- The largest power of ten among the numbers is closer to its exact value than a rounding makes
it. -/
theorem approximates_largest_power :
    Approximates (1 + 1 / 2 ^ 54) (1 + 1 / 2 ^ 54) (magnitude (powerCode 308)) (10 ^ 308) := by
  have unit := unitsInOne_cast_pos
  obtain ⟨-, -, above, below, -⟩ := powers_in_units
  have castAbove :
      (2 ^ 54 : ℚ) * units (powerCode 308) ≤ (2 ^ 54 + 1) * (10 ^ 308 * unitsInOne) := by
    exact_mod_cast above
  have castBelow :
      (2 ^ 54 : ℚ) * (10 ^ 308 * unitsInOne) ≤ (2 ^ 54 + 1) * units (powerCode 308) := by
    exact_mod_cast below
  generalize (10 : ℚ) ^ 308 = power at castAbove castBelow ⊢
  constructor
  · rw [magnitude, div_le_iff₀ unit]
    linarith
  · rw [magnitude, ← mul_div_assoc, le_div_iff₀ unit]
    linarith

/-- A number from three on is not scaled below the first run by the largest power of ten. -/
theorem magnitude_runLength_le_div {number : ℕ} (three : 3 ≤ magnitude number) :
    magnitude runLength ≤ magnitude number / magnitude (powerCode 308) := by
  have unit := unitsInOne_cast_pos
  have power := one_pos.trans_le (one_le_magnitude_powerCode 308)
  have product : magnitude runLength * magnitude (powerCode 308) ≤ 3 := by
    obtain ⟨-, -, -, -, counted⟩ := powers_in_units
    rw [magnitude, magnitude, div_mul_div_comm, div_le_iff₀ (mul_pos unit unit)]
    exact_mod_cast counted
  rw [le_div_iff₀ power]
  exact product.trans three

/-! ### Scalings -/

section Scale

variable {number : ℕ} (finite : number < infinity) (filled : 0 < magnitude number)

include finite filled

theorem beq_zero_eq_false : ¬ (ofCode false number == 0.0) = true := by
  rw [beq_zero_ofCode finite]
  rintro rfl
  exact lt_irrefl _ (magnitude_zero ▸ filled)

/-- Scaling by a power of ten that is not below one is a product, if that is finite. -/
theorem exists_scale?_of_nonneg {exponent : ℕ} (small : exponent ≤ 308) :
    ∃ result, IsNearest (magnitude number * magnitude (powerCode exponent)) result ∧
      (result < infinity → scale? (ofCode false number) exponent = some (ofCode false result)) := by
  obtain ⟨result, nearest, same⟩ := exists_ofCode_mul_eq finite (powerCode_lt small)
  refine ⟨result, nearest, fun below ↦ ?_⟩
  rw [min_eq_left below.le] at same
  have product : ofCode false number * powerOfTen exponent = ofCode false result := same
  rw [scale?, if_neg (beq_zero_eq_false finite filled), if_neg (by omega),
    if_pos (Int.natCast_nonneg exponent), Int.natAbs_natCast]
  simp only [product]
  rw [if_pos (isFinite_ofCode false below)]

/-- Scaling by a power of ten down to `10 ^ -308` is a quotient. -/
theorem exists_scale?_of_neg {exponent : ℕ} (small : exponent ≤ 308) (positive : 0 < exponent) :
    ∃ result < infinity, IsNearest (magnitude number / magnitude (powerCode exponent)) result ∧
      scale? (ofCode false number) (-exponent) = some (ofCode false result) := by
  obtain ⟨result, below, nearest, same⟩ :=
    exists_ofCode_div_eq finite (powerCode_lt small) (one_le_magnitude_powerCode exponent)
  refine ⟨result, below, nearest, ?_⟩
  rw [scale?, if_neg (beq_zero_eq_false finite filled), if_neg (by omega),
    if_neg (by omega), if_pos (by omega), Int.natAbs_neg, Int.natAbs_natCast]
  exact congrArg some same

/-- Scaling by a power of ten below that is a quotient of a quotient. -/
theorem exists_scale?_of_low {exponent : ℕ} (small : exponent ≤ 308) (positive : 0 < exponent) :
    ∃ quotient < infinity, IsNearest (magnitude number / magnitude (powerCode 308)) quotient ∧
      ∃ result < infinity, IsNearest (magnitude quotient / magnitude (powerCode exponent)) result ∧
        scale? (ofCode false number) (-308 - exponent) = some (ofCode false result) := by
  obtain ⟨quotient, between, nearest, same⟩ :=
    exists_ofCode_div_eq finite (powerCode_lt le_rfl) (one_le_magnitude_powerCode 308)
  obtain ⟨result, below, last, equal⟩ :=
    exists_ofCode_div_eq between (powerCode_lt small) (one_le_magnitude_powerCode exponent)
  refine ⟨quotient, between, nearest, result, below, last, ?_⟩
  have rest : ((-308 - exponent : ℤ).natAbs - 308 : ℕ) = exponent := by omega
  rw [scale?, if_neg (beq_zero_eq_false finite filled), if_neg (by omega),
    if_neg (by omega), if_neg (by omega), if_pos (by omega), rest]
  show some (ofCode false number / ofCode false (powerCode 308) /
    ofCode false (powerCode exponent)) = _
  rw [same, equal]

end Scale

/-! ### Significands -/

/-- The code of the number nearest to a significand. -/
def significandCode (significand : ℕ) : ℕ := nearest significand 1

theorem isNearest_significandCode (significand : ℕ) :
    IsNearest significand (significandCode significand) := by
  have nearest := isNearest_nearest significand Nat.one_pos
  rwa [Nat.cast_one, div_one] at nearest

theorem significandCode_zero : significandCode 0 = 0 := by
  have nearest := isNearest_significandCode 0
  rw [Nat.cast_zero] at nearest
  exact nearest.unique isNearest_zero_zero

section Significand

variable {significand : ℕ}

theorem significandCode_lt (short : significand < 2 ^ 64) :
    significandCode significand < infinity := by
  have bound : (significand : ℚ) ≤ 2 ^ 64 := by exact_mod_cast short.le
  refine lt_infinity_of_isNearest (isNearest_significandCode significand) ?_
  calc (significand : ℚ) ≤ 2 ^ 64 := bound
    _ ≤ 10 ^ 64 := pow_le_pow_left₀ (by norm_num) (by norm_num) 64
    _ ≤ 10 ^ 308 := pow_le_pow_right₀ (by norm_num) (by norm_num)

/-- A significand is rounded to the nearest number. -/
theorem toFloat_significand (short : significand < 2 ^ 64) :
    (UInt64.ofNat significand).toFloat = ofCode false (significandCode significand) := by
  obtain ⟨rounded, nearest, same⟩ := exists_toFloat_eq (UInt64.ofNat significand)
  rw [UInt64.toNat_ofNat_of_lt' short] at nearest
  obtain rfl := nearest.unique (isNearest_significandCode significand)
  rwa [min_eq_left (significandCode_lt short).le] at same

theorem one_le_magnitude_significandCode (positive : 0 < significand) :
    1 ≤ magnitude (significandCode significand) :=
  one_le_of_isNearest (isNearest_significandCode significand) (by exact_mod_cast positive)

theorem approximates_significandCode (positive : 0 < significand) :
    Approximates roundingAbove roundingBelow (magnitude (significandCode significand))
      significand := by
  have one : (1 : ℚ) ≤ significand := by exact_mod_cast positive
  exact (isNearest_significandCode significand).approximates (magnitude_runLength_le.trans one)

/-- The significands of 53 bits are numbers. -/
theorem magnitude_significandCode (whole : significand < 2 ^ 53) :
    magnitude (significandCode significand) = significand := by
  obtain ⟨kept, value⟩ := exists_magnitude_eq whole
  have nearest := isNearest_significandCode significand
  rw [← value] at nearest
  rw [nearest.unique (isNearest_magnitude kept), value]

end Significand

/-! ### Scaled values -/

/-- The code of the number nearest to the quotient of a rounded significand by the largest power of
ten. -/
def quotientCode (significand : ℕ) : ℕ :=
  nearest (units (significandCode significand)) (units (powerCode 308))

/-- A quotient of magnitudes is rounded as one of units. -/
theorem isNearest_nearest_units (one : ℕ) {other : ℕ} (filled : 0 < units other) :
    IsNearest (magnitude one / magnitude other) (nearest (units one) (units other)) := by
  have unit := unitsInOne_cast_pos.ne'
  have nearest := isNearest_nearest (units one) filled
  rwa [← div_div_div_cancel_right₀ unit] at nearest

/-- A product of magnitudes is rounded as one of units. -/
theorem isNearest_nearest_mul (one other : ℕ) :
    IsNearest (magnitude one * magnitude other)
      (nearest (units one * units other) (unitsInOne * unitsInOne)) := by
  have nearest := isNearest_nearest (units one * units other)
    (Nat.mul_pos unitsInOne_pos unitsInOne_pos)
  rwa [Nat.cast_mul, Nat.cast_mul, ← div_mul_div_comm] at nearest

theorem isNearest_quotientCode (significand : ℕ) :
    IsNearest (magnitude (significandCode significand) / magnitude (powerCode 308))
      (quotientCode significand) :=
  isNearest_nearest_units _ (units_powerCode_pos 308)

/-- The value that the last step of a scaling rounds: the product or the quotient of what the steps
before it gave. -/
def scaledValue (significand : ℕ) (exponent : ℤ) : ℚ :=
  if 0 ≤ exponent then
    magnitude (significandCode significand) * magnitude (powerCode exponent.natAbs)
  else if -308 ≤ exponent then
    magnitude (significandCode significand) / magnitude (powerCode exponent.natAbs)
  else magnitude (quotientCode significand) / magnitude (powerCode (exponent.natAbs - 308))

section Scaled

variable {significand exponent : ℕ}

theorem scaledValue_of_nonneg : scaledValue significand exponent =
    magnitude (significandCode significand) * magnitude (powerCode exponent) := by
  rw [scaledValue, if_pos (Int.natCast_nonneg exponent), Int.natAbs_natCast]

theorem scaledValue_of_neg (small : exponent ≤ 308) (lowered : 0 < exponent) :
    scaledValue significand (-exponent) =
      magnitude (significandCode significand) / magnitude (powerCode exponent) := by
  rw [scaledValue, if_neg (by omega), if_pos (by omega), Int.natAbs_neg, Int.natAbs_natCast]

theorem scaledValue_of_low (lowered : 0 < exponent) :
    scaledValue significand (-308 - exponent) =
      magnitude (quotientCode significand) / magnitude (powerCode exponent) := by
  have rest : ((-308 - exponent : ℤ).natAbs - 308 : ℕ) = exponent := by omega
  rw [scaledValue, if_neg (by omega), if_neg (by omega), rest]

end Scaled

/-- Zero is scaled to zero. -/
theorem scaledValue_zero (exponent : ℤ) : scaledValue 0 exponent = 0 := by
  have quotient : quotientCode 0 = 0 := by
    have nearest := isNearest_quotientCode 0
    rw [significandCode_zero, magnitude_zero, zero_div] at nearest
    exact nearest.unique isNearest_zero_zero
  rw [scaledValue, significandCode_zero, quotient, magnitude_zero, zero_mul, zero_div, zero_div,
    ite_self, ite_self]

/-! ### Exponents -/

/-- A power of ten is scaled by as a factor, as a divisor, or as a divisor besides the largest
one. -/
theorem exponent_cases (exponent : ℤ) :
    (∃ places : ℕ, exponent = places) ∨
      (∃ places : ℕ, 0 < places ∧ places ≤ 308 ∧ exponent = -places) ∨
      ∃ places : ℕ, 0 < places ∧ exponent = -308 - places := by
  rcases lt_or_ge exponent 0 with lowered | raised
  · right
    by_cases low : exponent < -308
    · exact Or.inr ⟨(-308 - exponent).toNat, by omega, by omega⟩
    · exact Or.inl ⟨(-exponent).toNat, by omega, by omega, by omega⟩
  · exact Or.inl (Int.eq_ofNat_of_zero_le raised)

/-- The value of a significand and a power of ten as a quotient. -/
theorem mul_zpow_neg (significand : ℚ) (places : ℕ) :
    significand * 10 ^ (-places : ℤ) = significand / 10 ^ places := by
  rw [zpow_neg, zpow_natCast, ← div_eq_mul_inv]

/-- The value of a significand and one of the lowest powers of ten as a quotient of a quotient. -/
theorem mul_zpow_low (significand : ℚ) (places : ℕ) :
    significand * 10 ^ (-308 - places : ℤ) = significand / 10 ^ 308 / 10 ^ places := by
  rw [zpow_sub₀ (by norm_num), zpow_neg, zpow_natCast, zpow_ofNat, mul_div_assoc',
    ← div_eq_mul_inv]

/-! ### Scaled significands -/

/-- A significand is scaled to the number nearest to its scaled value, unless that is infinite,
which it is not when the power of ten is below one. -/
theorem exists_scaled {significand : ℕ} {exponent : ℤ} (positive : 0 < significand)
    (short : significand < 2 ^ 64) (least : -616 ≤ exponent) (most : exponent ≤ 308) :
    ∃ result, IsNearest (scaledValue significand exponent) result ∧
      (exponent < 0 → result < infinity) ∧
      (result < infinity →
        scale? (UInt64.ofNat significand).toFloat exponent = some (ofCode false result)) := by
  have finite := significandCode_lt short
  have filled := one_pos.trans_le (one_le_magnitude_significandCode positive)
  rw [toFloat_significand short]
  rcases exponent_cases exponent with
    ⟨places, rfl⟩ | ⟨places, lowered, small, rfl⟩ | ⟨places, lowered, rfl⟩
  · obtain ⟨result, close, scaled⟩ :=
      exists_scale?_of_nonneg finite filled (by omega : places ≤ 308)
    rw [← scaledValue_of_nonneg] at close
    exact ⟨result, close, fun negative ↦ absurd negative (by omega), scaled⟩
  · obtain ⟨result, below, close, scaled⟩ := exists_scale?_of_neg finite filled small lowered
    rw [← scaledValue_of_neg small lowered] at close
    exact ⟨result, close, fun _ ↦ below, fun _ ↦ scaled⟩
  · obtain ⟨quotient, -, same, result, below, close, scaled⟩ :=
      exists_scale?_of_low finite filled (by omega : places ≤ 308) lowered
    rw [same.unique (isNearest_quotientCode significand), ← scaledValue_of_low lowered] at close
    exact ⟨result, close, fun _ ↦ below, fun _ ↦ scaled⟩

/-- The quotient of a significand from three on by the largest power of ten is not below the first
run. -/
theorem magnitude_runLength_le_quotient {significand : ℕ} (three : 3 ≤ significand) :
    magnitude runLength ≤
      magnitude (significandCode significand) / magnitude (powerCode 308) := by
  obtain ⟨third, same⟩ := exists_magnitude_eq (by decide : 3 < 2 ^ 53)
  have larger : (3 : ℚ) ≤ significand := by exact_mod_cast three
  apply magnitude_runLength_le_div
  rw [Nat.cast_ofNat] at same
  rw [← same] at larger ⊢
  exact magnitude_le_of_isNearest (isNearest_significandCode significand) larger

section Near

variable {significand exponent code result : ℕ} (positive : 0 < significand)

include positive

/-- A product is nearest to a magnitude at most two codes away from the one nearest to the value. -/
theorem near_of_nonneg (exact : IsNearest (significand * 10 ^ exponent) code)
    (close : IsNearest (scaledValue significand exponent) result) :
    result ≤ code + 2 ∧ code ≤ result + 2 := by
  have filled := one_pos.trans_le (one_le_magnitude_significandCode positive)
  have power := one_pos.trans_le (one_le_magnitude_powerCode exponent)
  have product := (approximates_significandCode positive).mul (approximates_powerCode exponent)
    filled.le (Nat.cast_nonneg significand) power.le (by positivity)
  rw [scaledValue_of_nonneg] at close
  refine product.codes_near (mul_pos filled power) (by positivity) close exact ?_ ?_
  · norm_num [roundingAbove]
  · norm_num [roundingBelow]

/-- A quotient is nearest to a magnitude at most two codes away from the one nearest to the
value. -/
theorem near_of_neg (small : exponent ≤ 308) (lowered : 0 < exponent)
    (exact : IsNearest (significand / 10 ^ exponent) code)
    (close : IsNearest (scaledValue significand (-exponent)) result) :
    result ≤ code + 2 ∧ code ≤ result + 2 := by
  have filled := one_pos.trans_le (one_le_magnitude_significandCode positive)
  have power := one_pos.trans_le (one_le_magnitude_powerCode exponent)
  have quotient := (approximates_significandCode positive).div (approximates_powerCode exponent)
    filled.le (Nat.cast_nonneg significand) power (by positivity)
  rw [scaledValue_of_neg small lowered] at close
  refine quotient.codes_near (div_pos filled power) (by positivity) close exact ?_ ?_
  · norm_num [roundingAbove, roundingBelow]
  · norm_num [roundingAbove, roundingBelow]

/-- A quotient of a quotient is nearest to a magnitude at most three codes away from the one nearest
to the value. -/
theorem near_of_low (small : exponent ≤ 22) (lowered : 0 < exponent) (three : 3 ≤ significand)
    (exact : IsNearest (significand / 10 ^ 308 / 10 ^ exponent) code)
    (close : IsNearest (scaledValue significand (-308 - exponent)) result) :
    result ≤ code + 3 ∧ code ≤ result + 3 := by
  have filled := one_pos.trans_le (one_le_magnitude_significandCode positive)
  have power := one_pos.trans_le (one_le_magnitude_powerCode 308)
  have largest : (0 : ℚ) < 10 ^ 308 := pow_pos (by norm_num) 308
  have rest : (0 : ℚ) < 10 ^ exponent := pow_pos (by norm_num) exponent
  have cast : (0 : ℚ) < significand := by exact_mod_cast positive
  have first := isNearest_quotientCode significand
  have normal := magnitude_runLength_le_quotient three
  have between : 0 < magnitude (quotientCode significand) := by
    have least := strictMono_magnitude (by decide : 0 < runLength)
    rw [magnitude_zero] at least
    exact least.trans_le (magnitude_le_of_isNearest first normal)
  have firstQuotient := (first.approximates normal).trans
    ((approximates_significandCode positive).div approximates_largest_power filled.le cast.le
      power largest) (by norm_num [roundingAbove]) (by norm_num [roundingBelow])
  have lastQuotient := firstQuotient.div (.refl (10 ^ exponent)) between.le
    (div_pos cast largest).le rest rest
  rw [scaledValue_of_low lowered, magnitude_powerCode small] at close
  refine lastQuotient.codes_near (div_pos between rest) (div_pos (div_pos cast largest) rest)
    close exact ?_ ?_
  · norm_num [roundingAbove, roundingBelow]
  · norm_num [roundingAbove, roundingBelow]

/-- One and two are scaled to the nearest magnitude by the lowest powers of ten. -/
theorem eq_of_low_of_lt (small : exponent ≤ 16) (lowered : 0 < exponent) (three : significand < 3)
    (exact : IsNearest (significand / 10 ^ 308 / 10 ^ exponent) code)
    (close : IsNearest (scaledValue significand (-308 - exponent)) result) : result = code := by
  have each : ∀ few ∈ [1, 2], ∀ places < 17,
      nearest (units (quotientCode few)) (units (powerCode places)) =
        nearest few (10 ^ 308 * 10 ^ places) := by
    decide +kernel
  have equal := each significand (by simp; omega) exponent (by omega)
  have direct := isNearest_nearest significand (by positivity : 0 < 10 ^ 308 * 10 ^ exponent)
  rw [Nat.cast_mul, Nat.cast_pow, Nat.cast_pow, Nat.cast_ofNat, ← div_div] at direct
  rw [scaledValue_of_low lowered] at close
  rw [close.unique (isNearest_nearest_units _ (units_powerCode_pos exponent)), equal,
    direct.unique exact]

end Near

/-- The magnitude nearest to the scaled value is at most two codes away from the one nearest to the
value, or three after two divisions. -/
theorem near_scaledValue {significand code result : ℕ} {exponent : ℤ} (positive : 0 < significand)
    (least : -324 ≤ exponent) (exact : IsNearest (significand * 10 ^ exponent) code)
    (close : IsNearest (scaledValue significand exponent) result) :
    result ≤ code + (if exponent < -308 then 3 else 2) ∧
      code ≤ result + (if exponent < -308 then 3 else 2) := by
  rcases exponent_cases exponent with
    ⟨places, rfl⟩ | ⟨places, lowered, small, rfl⟩ | ⟨places, lowered, rfl⟩
  · rw [zpow_natCast] at exact
    rw [if_neg (by omega)]
    exact near_of_nonneg positive exact close
  · rw [mul_zpow_neg] at exact
    rw [if_neg (by omega)]
    exact near_of_neg positive small lowered exact close
  · rw [mul_zpow_low] at exact
    rw [if_pos (by omega)]
    rcases Nat.lt_or_ge significand 3 with few | three
    · have same := eq_of_low_of_lt positive (by omega) lowered few exact close
      omega
    · exact near_of_low positive (by omega) lowered three exact close

/-- When the significand and the power of ten are numbers, only the last step rounds. -/
theorem scaledValue_eq {significand : ℕ} {exponent : ℤ} (whole : significand < 2 ^ 53)
    (small : exponent.natAbs ≤ 22) :
    scaledValue significand exponent = significand * 10 ^ exponent := by
  rcases exponent_cases exponent with
    ⟨places, rfl⟩ | ⟨places, lowered, -, rfl⟩ | ⟨places, lowered, rfl⟩
  · rw [scaledValue_of_nonneg, magnitude_significandCode whole, magnitude_powerCode (by omega),
      zpow_natCast]
  · rw [scaledValue_of_neg (by omega) lowered, magnitude_significandCode whole,
      magnitude_powerCode (by omega), mul_zpow_neg]
  · omega

/-- A significand is scaled to a finite number that is at most so many codes away from a given
one. -/
def ScalesNear (significand : ℕ) (exponent : ℤ) (code distance : ℕ) : Prop :=
  ∃ result < infinity,
    scale? (UInt64.ofNat significand).toFloat exponent = some (ofCode false result) ∧
      IsNearest (scaledValue significand exponent) result ∧
        result ≤ code + distance ∧ code ≤ result + distance

theorem scalesNear_of_zero (exponent : ℤ) (distance : ℕ) : ScalesNear 0 exponent 0 distance := by
  have zero : scale? (UInt64.ofNat 0).toFloat exponent = some 0.0 := by
    rw [scale?, toFloat_significand (by decide), if_pos]
    exact (beq_zero_ofCode (significandCode_lt (by decide))).mpr significandCode_zero
  have same : (0.0 : Float) = ofCode false 0 := rfl
  refine ⟨0, by decide, same ▸ zero, ?_, Nat.zero_le _, Nat.zero_le _⟩
  rw [scaledValue_zero]
  exact isNearest_zero_zero

/-- A significand of 64 bits is scaled by any power of ten from `10 ^ -324` to `10 ^ 308` that keeps
it finite. The result is at most two codes away from the nearest magnitude, or three after two
divisions. -/
theorem scalesNear {significand code : ℕ} {exponent : ℤ} (positive : 0 < significand)
    (short : significand < 2 ^ 64) (least : -324 ≤ exponent) (most : exponent ≤ 308)
    (exact : IsNearest (significand * 10 ^ exponent) code)
    (inside : ∀ result, IsNearest (scaledValue significand exponent) result →
      result ≤ code + 2 → result < infinity) :
    ScalesNear significand exponent code (if exponent < -308 then 3 else 2) := by
  obtain ⟨result, close, below, scaled⟩ := exists_scaled positive short (by omega) most
  have near := near_scaledValue positive least exact close
  have finite : result < infinity := by
    rcases lt_or_ge exponent 0 with lowered | raised
    · exact below lowered
    · have high := near.1
      rw [if_neg (by omega)] at high
      exact inside result close high
  exact ⟨result, finite, scaled finite, close, near⟩

end Snapshot

end Worksheet
