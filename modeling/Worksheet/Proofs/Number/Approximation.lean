import Mathlib
import Worksheet.Proofs.Number.Magnitudes

/-!
# How far rounding errors carry

Magnitudes that are nearest to two close values have close codes. The steps between magnitudes never
get shorter and a magnitude is less than `2 ^ 53` of the steps at it, so a value has to grow by
about `2 ^ -53` of itself for each code that the nearest magnitude moves on (`le_add_of_near`). How
close two values are is measured by two ratios (`Approximates`), which multiply along products,
quotients and further approximations. A rounding away from the last place has the ratios
`roundingAbove` and `roundingBelow` (`IsNearest.approximates`).
-/

set_option autoImplicit false
set_option relaxedAutoImplicit false

namespace Worksheet.Binary64

/-! ### Steps -/

theorem step_pos (shift : ℕ) : (0 : ℚ) < 2 ^ shift / unitsInOne :=
  div_pos (pow_pos two_pos shift) unitsInOne_cast_pos

namespace OnRun

variable {code shift significand : ℕ} (run : OnRun code shift significand)

include run

theorem magnitude_succ : magnitude (code + 1) = magnitude code + 2 ^ shift / unitsInOne := by
  rw [magnitude, run.units_succ, magnitude, Nat.cast_add, add_div, Nat.cast_pow, Nat.cast_ofNat]

theorem magnitude_eq_steps : magnitude code = significand * (2 ^ shift / unitsInOne) := by
  rw [magnitude, run.units_eq, Nat.cast_mul, Nat.cast_pow, Nat.cast_ofNat, mul_div_assoc]

theorem magnitude_succ_eq_steps :
    magnitude (code + 1) = (significand + 1) * (2 ^ shift / unitsInOne) := by
  rw [run.magnitude_succ, run.magnitude_eq_steps, add_mul, one_mul]

theorem shift_eq : shift = code / runLength - 1 := by
  have whole := run.code_eq
  have bound := run.significand_lt
  have normal := run.normal
  unfold runLength at *
  omega

/-- The next magnitude is less than `2 ^ 53` steps from zero, or that many. -/
theorem magnitude_succ_le : magnitude (code + 1) ≤ 2 ^ 53 * (2 ^ shift / unitsInOne) := by
  have short : (significand + 1 : ℚ) ≤ 2 ^ 53 := by exact_mod_cast run.significand_lt
  rw [run.magnitude_succ_eq_steps]
  exact mul_le_mul_of_nonneg_right short (step_pos shift).le

/-- The magnitudes that follow are at least as many steps away. -/
theorem magnitude_add_le (count : ℕ) :
    magnitude code + count * (2 ^ shift / unitsInOne) ≤ magnitude (code + count) := by
  induction count with
  | zero => rw [Nat.cast_zero, zero_mul, add_zero, Nat.add_zero]
  | succ count ih =>
    obtain ⟨later, _, next⟩ := exists_onRun (code + count)
    have longer : shift ≤ later := by
      rw [run.shift_eq, next.shift_eq]
      exact Nat.sub_le_sub_right (Nat.div_le_div_right (Nat.le_add_right code count)) 1
    have unit := unitsInOne_cast_pos
    have step : (2 : ℚ) ^ shift / unitsInOne ≤ 2 ^ later / unitsInOne :=
      div_le_div_of_nonneg_right (pow_le_pow_right₀ one_le_two longer) unit.le
    rw [← Nat.add_assoc, next.magnitude_succ, Nat.cast_succ, add_mul, one_mul]
    linarith

end OnRun

theorem magnitude_nonneg (code : ℕ) : 0 ≤ magnitude code := by
  rw [← magnitude_zero]
  exact strictMono_magnitude.monotone (Nat.zero_le code)

/-! ### Nearest magnitudes of close values -/

section Near

variable {one other : ℚ} {first second : ℕ}

theorem IsNearest.le_midpoint (nearest : IsNearest one first) :
    2 * one ≤ magnitude first + magnitude (first + 1) := by
  by_contra above
  have grows : magnitude first < magnitude (first + 1) := strictMono_magnitude (Nat.lt_succ_self _)
  have nearer := abs_sub_lt_of_midpoint_lt grows (not_le.mp above)
  exact absurd (nearest.closest (first + 1)) (not_le.mpr nearer)

theorem IsNearest.midpoint_le (nearest : IsNearest one (first + 1)) :
    magnitude first + magnitude (first + 1) ≤ 2 * one := by
  by_contra below
  have grows : magnitude first < magnitude (first + 1) := strictMono_magnitude (Nat.lt_succ_self _)
  have nearer := abs_sub_lt_of_lt_midpoint grows (not_le.mp below)
  exact absurd (nearest.closest first) (not_le.mpr nearer)

/-- A value that is not beyond a magnitude is nearest to none with a larger code. -/
theorem IsNearest.le_of_le_magnitude (nearest : IsNearest one first)
    (within : one ≤ magnitude second) : first ≤ second := by
  by_contra more
  have larger := strictMono_magnitude (Nat.lt_of_not_le more)
  have nearer := abs_sub_lt_of_lt_midpoint larger (by linarith : 2 * one < _)
  exact absurd (nearest.closest second) (not_le.mpr nearer)

/-- The nearest magnitude moves on by fewer codes than the value grows by parts of about `2 ^ -53`
of itself. -/
theorem le_add_of_near (nearest : IsNearest one first) (nearestOther : IsNearest other second)
    {count : ℕ} (near : (2 ^ 54 - 1) * (other - one) < 2 * count * one) :
    second ≤ first + count := by
  by_contra far
  obtain ⟨later, rfl⟩ : ∃ later, second = later + 1 := ⟨second - 1, by omega⟩
  obtain ⟨shift, significand, run⟩ := exists_onRun first
  have below := nearest.le_midpoint
  have above := nearestOther.midpoint_le
  have lower : magnitude (first + count) ≤ magnitude later :=
    strictMono_magnitude.monotone (by omega)
  have upper : magnitude (first + (count + 1)) ≤ magnitude (later + 1) :=
    strictMono_magnitude.monotone (by omega)
  have next := run.magnitude_succ
  have short := run.magnitude_succ_le
  have before := run.magnitude_add_le count
  have after := run.magnitude_add_le (count + 1)
  generalize (2 : ℚ) ^ shift / unitsInOne = step at next short before after
  push_cast at after
  have grown : count * step ≤ other - one := by linarith
  have small : 2 * one ≤ (2 ^ 54 - 1) * step := by linarith
  have some : 0 ≤ (count : ℚ) := Nat.cast_nonneg count
  have bound := mul_le_mul_of_nonneg_left small some
  linarith

end Near

/-! ### Ratios -/

/-- A value approximates another one up to two ratios. -/
structure Approximates (above below value exact : ℚ) : Prop where
  /-- The value is at most so many times the other one. -/
  le_above : value ≤ above * exact
  /-- The other one is at most so many times the value. -/
  le_below : exact ≤ below * value

namespace Approximates

variable {above below value exact otherAbove otherBelow other otherExact : ℚ}

theorem refl (value : ℚ) : Approximates 1 1 value value := ⟨(one_mul value).ge, (one_mul value).ge⟩

theorem trans (first : Approximates above below value exact)
    (second : Approximates otherAbove otherBelow exact other) (aboveNonneg : 0 ≤ above)
    (belowNonneg : 0 ≤ otherBelow) :
    Approximates (above * otherAbove) (otherBelow * below) value other where
  le_above := by
    rw [mul_assoc]
    exact first.le_above.trans (mul_le_mul_of_nonneg_left second.le_above aboveNonneg)
  le_below := by
    rw [mul_assoc]
    exact second.le_below.trans (mul_le_mul_of_nonneg_left first.le_below belowNonneg)

theorem mul (first : Approximates above below value exact)
    (second : Approximates otherAbove otherBelow other otherExact) (valueNonneg : 0 ≤ value)
    (exactNonneg : 0 ≤ exact) (otherNonneg : 0 ≤ other) (otherExactNonneg : 0 ≤ otherExact) :
    Approximates (above * otherAbove) (below * otherBelow) (value * other)
      (exact * otherExact) where
  le_above := by
    rw [mul_mul_mul_comm]
    exact mul_le_mul first.le_above second.le_above otherNonneg (valueNonneg.trans first.le_above)
  le_below := by
    rw [mul_mul_mul_comm]
    exact mul_le_mul first.le_below second.le_below otherExactNonneg
      (exactNonneg.trans first.le_below)

theorem inv (approximates : Approximates above below value exact) (valuePos : 0 < value)
    (exactPos : 0 < exact) : Approximates below above value⁻¹ exact⁻¹ where
  le_above := by
    rw [← div_eq_mul_inv, le_div_iff₀ exactPos, inv_mul_le_iff₀ valuePos, mul_comm]
    exact approximates.le_below
  le_below := by
    rw [← div_eq_mul_inv, le_div_iff₀ valuePos, inv_mul_le_iff₀ exactPos, mul_comm]
    exact approximates.le_above

theorem div (first : Approximates above below value exact)
    (second : Approximates otherAbove otherBelow other otherExact) (valueNonneg : 0 ≤ value)
    (exactNonneg : 0 ≤ exact) (otherPos : 0 < other) (otherExactPos : 0 < otherExact) :
    Approximates (above * otherBelow) (below * otherAbove) (value / other)
      (exact / otherExact) := by
  rw [div_eq_mul_inv, div_eq_mul_inv]
  exact first.mul (second.inv otherPos otherExactPos) valueNonneg exactNonneg
    (inv_pos.mpr otherPos).le (inv_pos.mpr otherExactPos).le

/-- The magnitudes nearest to a value and to one that approximates it have close codes. -/
theorem codes_near {code exactCode count : ℕ}
    (approximates : Approximates above below value exact) (valuePos : 0 < value)
    (exactPos : 0 < exact) (nearest : IsNearest value code)
    (nearestExact : IsNearest exact exactCode)
    (aboveSmall : (2 ^ 54 - 1) * (above - 1) < 2 * count)
    (belowSmall : (2 ^ 54 - 1) * (below - 1) < 2 * count) :
    code ≤ exactCode + count ∧ exactCode ≤ code + count := by
  have higher := approximates.le_above
  have lower := approximates.le_below
  refine ⟨le_add_of_near nearestExact nearest ?_, le_add_of_near nearest nearestExact ?_⟩
  · have scaled := mul_lt_mul_of_pos_right aboveSmall exactPos
    linarith
  · have scaled := mul_lt_mul_of_pos_right belowSmall valuePos
    linarith

end Approximates

/-! ### One rounding -/

/-- How much larger than a value the nearest magnitude can be. -/
def roundingAbove : ℚ := (2 ^ 53 + 2) / (2 ^ 53 + 1)

/-- How much larger than the nearest magnitude a value can be. -/
def roundingBelow : ℚ := (2 ^ 53 + 1) / 2 ^ 53

/-- A magnitude beyond the first run has at least `2 ^ 52` of the steps at it. -/
theorem OnRun.le_magnitude {code shift significand : ℕ} (run : OnRun code shift significand)
    (normal : runLength ≤ code) : 2 ^ 52 * (2 ^ shift / unitsInOne) ≤ magnitude code := by
  have unit := unitsInOne_cast_pos
  have whole := run.code_eq
  have filled : runLength ≤ significand := by
    rcases run.normal with rfl | filled
    · omega
    · exact filled
  have counted : 2 ^ 52 * 2 ^ shift ≤ units code := by
    rw [run.units_eq]
    exact Nat.mul_le_mul_right _ filled
  rw [magnitude, ← mul_div_assoc, div_le_div_iff_of_pos_right unit]
  exact_mod_cast counted

/-- Rounding a value that is not below the first run changes it by the ratios of a rounding at
most. -/
theorem IsNearest.approximates {value : ℚ} {code : ℕ} (nearest : IsNearest value code)
    (normal : magnitude runLength ≤ value) :
    Approximates roundingAbove roundingBelow (magnitude code) value := by
  have later := nearest.le_of_magnitude_le normal
  constructor
  · unfold roundingAbove
    rcases Nat.eq_or_lt_of_le later with rfl | beyond
    · have nonneg := magnitude_nonneg runLength
      linarith
    · obtain ⟨before, rfl⟩ : ∃ before, code = before + 1 := ⟨code - 1, by omega⟩
      obtain ⟨shift, significand, run⟩ := exists_onRun before
      have steps := run.le_magnitude (Nat.le_of_lt_succ beyond)
      have above := nearest.midpoint_le
      rw [run.magnitude_succ] at above ⊢
      linarith
  · unfold roundingBelow
    obtain ⟨shift, significand, run⟩ := exists_onRun code
    have steps := run.le_magnitude later
    have below := nearest.le_midpoint
    rw [run.magnitude_succ] at below
    linarith

end Worksheet.Binary64
