import Mathlib
import Worksheet.Proofs.Address.A1Text
import Worksheet.Proofs.Number.Magnitudes

/-!
# Correct rounding of decimals

The rounding of a quotient gives the nearest magnitude (`isNearest_nearest`). A decimal therefore
has the finite code that it is read as exactly when its nearest magnitude has that code
(`Decimal.finiteCode?_eq_some_iff`); the decimals whose powers of ten are never computed are far
from the magnitudes at which the outcome changes.
-/

set_option autoImplicit false
set_option relaxedAutoImplicit false

namespace Worksheet

/-! ### Quotients -/

namespace Binary64

/-- The leading 53 bits of a whole number are the significand of a code. -/
theorem onRun_leading (whole : ℕ) :
    OnRun ((whole.log2 - 52) * runLength + whole / 2 ^ (whole.log2 - 52)) (whole.log2 - 52)
      (whole / 2 ^ (whole.log2 - 52)) := by
  have power : runLength = 2 ^ 52 := rfl
  refine ⟨rfl, ?_, ?_⟩
  · rw [Nat.div_lt_iff_lt_mul (Nat.two_pow_pos _), power, ← Nat.pow_succ', ← Nat.pow_add]
    exact Nat.lt_of_lt_of_le Nat.lt_log2_self (Nat.pow_le_pow_right (by decide) (by omega))
  · by_cases long : 52 < whole.log2
    · refine Or.inr ?_
      have positive : whole ≠ 0 := by
        rintro rfl
        simp at long
      rw [Nat.le_div_iff_mul_le (Nat.two_pow_pos _), power, ← Nat.pow_add,
        Nat.add_sub_cancel' long.le]
      exact Nat.log2_self_le positive
    · exact Or.inl (by omega)

/-- Rounding a quotient passes the test of the interval. -/
theorem roundsTo_nearest (numerator : ℕ) {denominator : ℕ} (positive : 0 < denominator) :
    roundsTo (nearest numerator denominator) (2 * numerator) unitsInOne denominator := by
  unfold nearest
  extract_lets scaled whole shift significand lower step rest
  have run : OnRun lower shift significand := onRun_leading whole
  have double : 2 * numerator * unitsInOne = 2 * scaled := Nat.mul_assoc 2 numerator unitsInOne
  have stepPositive : 0 < step := Nat.mul_pos positive (Nat.two_pow_pos shift)
  have leading : significand = scaled / step := Nat.div_div_eq_div_mul scaled denominator _
  have counted : units lower * denominator + rest = scaled := by
    have multiple : units lower * denominator = significand * step := by
      rw [run.units_eq]
      simp only [step, Nat.pow_eq]
      ring
    rw [multiple]
    exact Nat.add_sub_cancel' (leading ▸ Nat.div_mul_le_self scaled step)
  have short : rest < step := by
    have rest_eq : rest = scaled % step := by
      simp only [rest, leading]
      rw [Nat.mul_comm]
      exact (Nat.mod_eq_sub_mul_div).symm
    rw [rest_eq]
    exact Nat.mod_lt scaled stepPositive
  have next : units (lower + 1) * denominator = units lower * denominator + step := by
    rw [run.units_succ]
    simp only [step, Nat.pow_eq]
    ring
  have monotone {one other : ℕ} (less : one < other) :
      units one * denominator < units other * denominator :=
    Nat.mul_lt_mul_of_pos_right (strictMono_units less) positive
  clear_value rest step lower
  split
  · next down =>
    rw [roundsTo_iff, double, Nat.add_mul, Nat.add_mul, next]
    have before : units (lower - 1) * denominator ≤ units lower * denominator :=
      Nat.mul_le_mul_right _ (strictMono_units.monotone (Nat.sub_le lower 1))
    refine ⟨by omega, by omega, fun odd ↦ ?_⟩
    have strict := monotone (show lower - 1 < lower by omega)
    omega
  · next up =>
    rw [roundsTo_iff, double, Nat.add_sub_cancel, Nat.add_mul, Nat.add_mul, next]
    have after := monotone (Nat.lt_add_one (lower + 1))
    rw [next] at after
    refine ⟨by omega, by omega, fun odd ↦ by omega⟩

/-- Rounding a quotient gives the nearest magnitude. -/
theorem isNearest_nearest (numerator : ℕ) {denominator : ℕ} (positive : 0 < denominator) :
    IsNearest (numerator / denominator) (nearest numerator denominator) := by
  have unit := unitsInOne_cast_pos.ne'
  have nearest := ((roundsTo_iff_inInterval positive).mp
    (roundsTo_nearest numerator positive)).isNearest
  have value : ((2 * numerator : ℕ) * unitsInOne / (2 * unitsInOne * denominator) : ℚ) =
      numerator / denominator := by
    push_cast
    field_simp
  rwa [value] at nearest

end Binary64

/-! ### Numbers of digits -/

theorem lt_pow_length_toDigits (number : ℕ) : number < 10 ^ (Nat.toDigits 10 number).length :=
  (Nat.length_toDigits_le_iff (by decide) Nat.length_toDigits_pos).mp le_rfl

theorem pow_length_toDigits_le {number : ℕ} (positive : number ≠ 0) :
    10 ^ ((Nat.toDigits 10 number).length - 1) ≤ number := by
  have filled : 0 < (Nat.toDigits 10 number).length := Nat.length_toDigits_pos
  by_contra less
  rcases Nat.eq_zero_or_pos ((Nat.toDigits 10 number).length - 1) with single | several
  · rw [single, Nat.pow_zero] at less
    omega
  · have fewer := (Nat.length_toDigits_le_iff (by decide) several).mpr (Nat.lt_of_not_le less)
    omega

/-! ### Decimals -/

namespace Decimal

/-- The exact value of a decimal. -/
def value (decimal : Decimal) : ℚ := decimal.coefficient * 10 ^ decimal.exponent

/-- A decimal rounds to the nearest magnitude. -/
theorem isNearest_nearestCode (decimal : Decimal) :
    Binary64.IsNearest decimal.value decimal.nearestCode := by
  unfold nearestCode value
  simp only [Nat.pow_eq]
  by_cases negative : decimal.exponent < 0
  · obtain ⟨places, same⟩ := Int.eq_negSucc_of_lt_zero negative
    have power : 0 < 10 ^ decimal.exponent.natAbs := Nat.pow_pos (by decide)
    have nearest := Binary64.isNearest_nearest decimal.coefficient power
    rw [if_pos negative]
    convert nearest using 1
    rw [same, zpow_negSucc, Int.natAbs_negSucc, div_eq_mul_inv]
    push_cast
    rfl
  · obtain ⟨places, same⟩ := Int.eq_ofNat_of_zero_le (Int.not_lt.mp negative)
    have nearest := Binary64.isNearest_nearest (decimal.coefficient * 10 ^ decimal.exponent.natAbs)
      Nat.one_pos
    rw [if_neg negative]
    convert nearest using 1
    rw [same, zpow_natCast, Int.natAbs_natCast]
    push_cast
    rw [div_one]

section Size

variable {decimal : Decimal}

theorem zpow_leadingExponent_le (positive : decimal.coefficient ≠ 0) :
    (10 : ℚ) ^ decimal.leadingExponent ≤ decimal.value := by
  have ten : (10 : ℚ) ≠ 0 := by norm_num
  have filled : 0 < decimal.digits.length := Nat.length_toDigits_pos
  have least := pow_length_toDigits_le positive
  have split : decimal.leadingExponent =
      ((decimal.digits.length - 1 : ℕ) : ℤ) + decimal.exponent := by
    unfold leadingExponent
    omega
  have cast : (10 : ℚ) ^ (decimal.digits.length - 1) ≤ decimal.coefficient := by
    exact_mod_cast least
  rw [split, zpow_add₀ ten, zpow_natCast, value]
  exact mul_le_mul_of_nonneg_right cast (zpow_pos (by norm_num) _).le

theorem value_lt_zpow : decimal.value < (10 : ℚ) ^ (decimal.leadingExponent + 1) := by
  have ten : (10 : ℚ) ≠ 0 := by norm_num
  have most := lt_pow_length_toDigits decimal.coefficient
  have split : decimal.leadingExponent + 1 = (decimal.digits.length : ℤ) + decimal.exponent := by
    unfold leadingExponent
    omega
  have cast : (decimal.coefficient : ℚ) < 10 ^ decimal.digits.length := by exact_mod_cast most
  rw [split, zpow_add₀ ten, zpow_natCast, value]
  exact mul_lt_mul_of_pos_right cast (zpow_pos (by norm_num) _)

end Size

theorem value_nonneg (decimal : Decimal) : 0 ≤ decimal.value :=
  mul_nonneg (Nat.cast_nonneg _) (zpow_pos (by norm_num) _).le

/-- Zero and the decimals below `10 ^ -330` are nearest to zero. -/
theorem isNearest_zero {decimal : Decimal}
    (small : decimal.coefficient = 0 ∨ decimal.leadingExponent < -330) :
    Binary64.IsNearest decimal.value 0 := by
  have one : Binary64.magnitude 1 = 1 / 2 ^ 1074 := by
    have unit : Binary64.units 1 = 1 := rfl
    rw [Binary64.magnitude, unit, Binary64.unitsInOne_eq, Nat.cast_one, Nat.cast_pow,
      Nat.cast_ofNat]
  have below : decimal.value ≤ 1 / 10 ^ 330 := by
    rcases small with zero | small
    · rw [value, zero, Nat.cast_zero, zero_mul]
      positivity
    · have power : (10 : ℚ) ^ (decimal.leadingExponent + 1) ≤ 10 ^ (-330 : ℤ) :=
        zpow_le_zpow_right₀ (by norm_num) (by omega)
      rw [zpow_neg, ← one_div] at power
      exact (decimal.value_lt_zpow.trans_le power).le
  have powers : 2 * (1 / (10 : ℚ) ^ 330) ≤ 1 / 2 ^ 1074 := by
    have whole : 2 ^ 1075 ≤ 10 ^ 330 := by decide +kernel
    have cast : (2 : ℚ) ^ 1075 ≤ 10 ^ 330 := by exact_mod_cast whole
    rw [mul_one_div, div_le_div_iff₀ (by positivity) (by positivity), one_mul, ← pow_succ']
    exact cast
  have within : Binary64.InInterval decimal.value 0 := by
    refine ⟨?_, ?_, fun odd ↦ absurd odd (by decide)⟩
    · rw [Binary64.magnitude_zero]
      linarith [decimal.value_nonneg]
    · rw [Binary64.magnitude_zero, one, zero_add]
      exact (mul_le_mul_of_nonneg_left below zero_le_two).trans powers
  exact within.isNearest

/-- The decimals from `10 ^ 310` on are nearest to no finite magnitude. -/
theorem infinity_le_of_large {decimal : Decimal} {code : ℕ} (positive : decimal.coefficient ≠ 0)
    (large : 310 ≤ decimal.leadingExponent) (nearest : Binary64.IsNearest decimal.value code) :
    Binary64.infinity ≤ code := by
  refine nearest.le_of_magnitude_le ?_
  have powers : 2 ^ 1024 ≤ 10 ^ 310 := by decide +kernel
  calc Binary64.magnitude Binary64.infinity = 2 ^ 1024 := Binary64.magnitude_infinity
    _ ≤ (10 : ℚ) ^ 310 := by exact_mod_cast powers
    _ = (10 : ℚ) ^ (310 : ℤ) := (zpow_ofNat _ _).symm
    _ ≤ 10 ^ decimal.leadingExponent := zpow_le_zpow_right₀ (by norm_num) large
    _ ≤ decimal.value := zpow_leadingExponent_le positive

/-- A decimal is read as a finite magnitude exactly if that is its nearest one. -/
theorem finiteCode?_eq_some_iff {decimal : Decimal} {code : ℕ} :
    decimal.finiteCode? = some code ↔
      code < Binary64.infinity ∧ Binary64.IsNearest decimal.value code := by
  have positive : 0 < Binary64.infinity := by decide
  unfold finiteCode?
  split
  · next small =>
    rw [Option.some.injEq]
    constructor
    · rintro rfl
      exact ⟨positive, isNearest_zero small⟩
    · rintro ⟨_, nearest⟩
      exact (isNearest_zero small).unique nearest
  · next notSmall =>
    have filled : decimal.coefficient ≠ 0 := fun zero ↦ notSmall (Or.inl zero)
    split
    · next large =>
      simp only [reduceCtorEq, false_iff, not_and]
      intro below nearest
      exact absurd (infinity_le_of_large filled large nearest) (Nat.not_le.mpr below)
    · have rounded := decimal.isNearest_nearestCode
      simp only [Option.ite_none_right_eq_some, Option.some.injEq]
      constructor
      · rintro ⟨below, rfl⟩
        exact ⟨below, rounded⟩
      · rintro ⟨below, nearest⟩
        obtain rfl := rounded.unique nearest
        exact ⟨below, rfl⟩

end Decimal

end Worksheet
