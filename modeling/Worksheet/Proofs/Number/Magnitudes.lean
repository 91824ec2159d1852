import Mathlib
import Worksheet.Number.Shortest

/-!
# Magnitudes and the nearest of them

A code is a step in a run of codes with steps of one length (`OnRun`, `exists_onRun`), from which
the magnitudes of the next code (`OnRun.units_succ`) and of the code before (`OnRun.units_pred`)
follow. The magnitudes grow with their codes (`strictMono_units`), so each value has at most one
nearest magnitude, ties going to the even code (`IsNearest.unique`). A value is nearest to a
magnitude when it lies between the midpoints to the two neighbours (`InInterval.isNearest`), which
is what `roundsTo` tests (`roundsTo_iff_inInterval`).
-/

set_option autoImplicit false
set_option relaxedAutoImplicit false

namespace Worksheet.Binary64

/-! ### Runs of codes -/

/-- A code has a significand in a run of codes whose steps have `2 ^ shift` units. Except in the
first run, the significand has 53 bits. -/
structure OnRun (code shift significand : ℕ) : Prop where
  /-- The code counts whole runs and the steps in the last one. -/
  code_eq : code = shift * runLength + significand
  /-- The significand has at most 53 bits. -/
  significand_lt : significand < 2 * runLength
  /-- The leading bit is set, unless the steps have one unit. -/
  normal : shift = 0 ∨ runLength ≤ significand

theorem units_of_normal {shift significand : ℕ} (bound : significand ≤ 2 * runLength)
    (normal : shift = 0 ∨ runLength ≤ significand) :
    units (shift * runLength + significand) = significand * 2 ^ shift := by
  have positive : 0 < runLength := by decide
  unfold units
  by_cases first : significand < runLength
  · obtain rfl : shift = 0 := normal.resolve_right (Nat.not_le.mpr first)
    rw [if_pos (by omega), Nat.zero_mul, Nat.zero_add, Nat.pow_zero, Nat.mul_one]
  · rw [if_neg (by omega), Nat.pow_eq]
    rcases Nat.lt_or_eq_of_le bound with inside | rfl
    · have split : shift * runLength + significand =
          significand - runLength + runLength * (shift + 1) := by
        rw [Nat.mul_add, Nat.mul_one, Nat.mul_comm]
        omega
      rw [split, Nat.add_mul_mod_self_left, Nat.add_mul_div_left _ _ positive,
        Nat.mod_eq_of_lt (by omega), Nat.div_eq_of_lt (by omega), Nat.zero_add,
        Nat.add_sub_cancel, Nat.add_sub_cancel' (Nat.le_of_not_lt first)]
    · have split : shift * runLength + 2 * runLength = runLength * (shift + 2) := by ring
      rw [split, Nat.mul_mod_right, Nat.mul_div_cancel_left _ positive]
      show (runLength + 0) * 2 ^ (shift + 1) = _
      ring

theorem exists_onRun (code : ℕ) : ∃ shift significand, OnRun code shift significand := by
  have positive : 0 < runLength := by decide
  have whole := Nat.div_add_mod code runLength
  have rest := Nat.mod_lt code positive
  rcases Nat.eq_zero_or_pos (code / runLength) with first | later
  · refine ⟨0, code, ⟨by omega, ?_, Or.inl rfl⟩⟩
    rw [first] at whole
    omega
  · refine ⟨code / runLength - 1, runLength + code % runLength, ⟨?_, by omega, Or.inr (by omega)⟩⟩
    rw [Nat.sub_mul, Nat.mul_comm]
    have enough : runLength ≤ runLength * (code / runLength) := Nat.le_mul_of_pos_right _ later
    omega

namespace OnRun

variable {code shift significand : ℕ} (run : OnRun code shift significand)

include run

theorem units_eq : units code = significand * 2 ^ shift := by
  rw [run.code_eq, units_of_normal run.significand_lt.le run.normal]

/-- The next magnitude is one step away. -/
theorem units_succ : units (code + 1) = units code + 2 ^ shift := by
  have normal : shift = 0 ∨ runLength ≤ significand + 1 := run.normal.imp_right Nat.le_succ_of_le
  rw [run.units_eq, run.code_eq, Nat.add_assoc,
    units_of_normal (Nat.succ_le_of_lt run.significand_lt) normal, Nat.succ_mul]

/-- The magnitude before is one step away, too, unless the significand is the smallest one of its
run. -/
theorem units_pred (positive : 0 < code) (other : significand ≠ runLength) :
    units (code - 1) + 2 ^ shift = units code := by
  have whole := run.code_eq
  have bound := run.significand_lt
  have normal : shift = 0 ∨ runLength ≤ significand - 1 := run.normal.imp_right (by omega)
  have filled : 0 < significand := by
    rcases run.normal with rfl | normal
    · omega
    · exact Nat.lt_of_lt_of_le (by decide) normal
  have last : code - 1 = shift * runLength + (significand - 1) := by omega
  rw [run.units_eq, last, units_of_normal (by omega) normal, ← Nat.succ_mul, Nat.succ_eq_add_one,
    Nat.sub_add_cancel filled]

end OnRun

/-- Larger codes have larger magnitudes. -/
theorem strictMono_units : StrictMono units := by
  refine strictMono_nat_of_lt_succ fun code ↦ ?_
  obtain ⟨shift, significand, run⟩ := exists_onRun code
  rw [run.units_succ]
  exact Nat.lt_add_of_pos_right (Nat.two_pow_pos shift)

theorem unitsInOne_eq : unitsInOne = 2 ^ 1074 := by decide +kernel

theorem unitsInOne_pos : 0 < unitsInOne := by
  rw [unitsInOne_eq]
  positivity

theorem unitsInOne_cast_pos : (0 : ℚ) < unitsInOne := by exact_mod_cast unitsInOne_pos

theorem pow_dvd_unitsInOne {bits : ℕ} (few : bits ≤ 1074) : 2 ^ bits ∣ unitsInOne := by
  obtain ⟨later, split⟩ := Nat.exists_eq_add_of_le few
  rw [unitsInOne_eq, split, Nat.pow_add]
  exact Nat.dvd_mul_right _ _

theorem units_zero : units 0 = 0 := rfl

theorem units_infinity : units infinity = 2 ^ 1024 * unitsInOne := by
  have run : OnRun infinity 2046 runLength := ⟨by decide, by decide, Or.inr (Nat.le_refl _)⟩
  have power : runLength = 2 ^ 52 := rfl
  have split (one other : ℕ) : 2 ^ (one + other) = 2 ^ one * 2 ^ other := Nat.pow_add 2 one other
  rw [run.units_eq, power, unitsInOne_eq, ← split, ← split]

/-! ### The nearest magnitude -/

/-- The magnitude with a code. -/
def magnitude (code : ℕ) : ℚ := units code / unitsInOne

theorem strictMono_magnitude : StrictMono magnitude := by
  intro one other less
  have positive := unitsInOne_cast_pos
  have grows : (units one : ℚ) < units other := by exact_mod_cast strictMono_units less
  exact div_lt_div_of_pos_right grows positive

theorem magnitude_zero : magnitude 0 = 0 := by
  rw [magnitude, units_zero, Nat.cast_zero, zero_div]

theorem magnitude_infinity : magnitude infinity = 2 ^ 1024 := by
  have positive := unitsInOne_cast_pos.ne'
  rw [magnitude, units_infinity, Nat.cast_mul, mul_div_cancel_right₀ _ positive, Nat.cast_pow,
    Nat.cast_ofNat]

/-- A magnitude is the nearest one to a value: no other is nearer, and if another is as near then
the code is even. -/
structure IsNearest (value : ℚ) (code : ℕ) : Prop where
  /-- No other magnitude is nearer. -/
  closest : ∀ other, |value - magnitude code| ≤ |value - magnitude other|
  /-- Ties go to the even code. -/
  even_of_tie : ∀ other ≠ code, |value - magnitude other| = |value - magnitude code| → code % 2 = 0

section Midpoints

variable {one other value : ℚ}

theorem abs_sub_le_of_midpoint_le (less : one < other) (above : one + other ≤ 2 * value) :
    |value - other| ≤ |value - one| := by
  rw [abs_of_pos (by linarith : 0 < value - one), abs_le]
  constructor <;> linarith

theorem abs_sub_lt_of_midpoint_lt (less : one < other) (above : one + other < 2 * value) :
    |value - other| < |value - one| := by
  rw [abs_of_pos (by linarith : 0 < value - one), abs_lt]
  constructor <;> linarith

theorem abs_sub_le_of_le_midpoint (less : one < other) (below : 2 * value ≤ one + other) :
    |value - one| ≤ |value - other| := by
  rw [abs_of_neg (by linarith : value - other < 0), abs_le]
  constructor <;> linarith

theorem abs_sub_lt_of_lt_midpoint (less : one < other) (below : 2 * value < one + other) :
    |value - one| < |value - other| := by
  rw [abs_of_neg (by linarith : value - other < 0), abs_lt]
  constructor <;> linarith

end Midpoints

/-- A value lies between the midpoints to the two neighbours of a magnitude, the midpoints included
if the code is even. -/
structure InInterval (value : ℚ) (code : ℕ) : Prop where
  /-- The value is not below the lower midpoint. -/
  low_le : magnitude (code - 1) + magnitude code ≤ 2 * value
  /-- The value is not above the upper midpoint. -/
  le_high : 2 * value ≤ magnitude code + magnitude (code + 1)
  /-- The value is no midpoint if the code is odd. -/
  strict : code % 2 = 1 → magnitude (code - 1) + magnitude code < 2 * value ∧
    2 * value < magnitude code + magnitude (code + 1)

theorem inInterval_of_lt {value : ℚ} {code : ℕ}
    (low : magnitude (code - 1) + magnitude code < 2 * value)
    (high : 2 * value < magnitude code + magnitude (code + 1)) : InInterval value code :=
  ⟨low.le, high.le, fun _ ↦ ⟨low, high⟩⟩

/-- A value in the interval of a magnitude is nearest to that magnitude. -/
theorem InInterval.isNearest {value : ℚ} {code : ℕ} (within : InInterval value code) :
    IsNearest value code := by
  have above := within.low_le
  have below := within.le_high
  have smaller {other : ℕ} (less : other < code) : magnitude other ≤ magnitude (code - 1) :=
    strictMono_magnitude.monotone (by omega)
  have larger {other : ℕ} (less : code < other) : magnitude (code + 1) ≤ magnitude other :=
    strictMono_magnitude.monotone less
  refine ⟨fun other ↦ ?_, fun other different tie ↦ ?_⟩
  · rcases Nat.lt_trichotomy other code with less | rfl | less
    · have := smaller less
      exact abs_sub_le_of_midpoint_le (strictMono_magnitude less) (by linarith)
    · exact le_rfl
    · have := larger less
      exact abs_sub_le_of_le_midpoint (strictMono_magnitude less) (by linarith)
  · by_contra odd
    obtain ⟨strictAbove, strictBelow⟩ := within.strict (by omega)
    rcases Nat.lt_or_gt_of_ne different with less | less
    · have := smaller less
      have nearer := abs_sub_lt_of_midpoint_lt (strictMono_magnitude less)
        (by linarith : magnitude other + magnitude code < 2 * value)
      exact nearer.ne tie.symm
    · have := larger less
      have nearer := abs_sub_lt_of_lt_midpoint (strictMono_magnitude less)
        (by linarith : 2 * value < magnitude code + magnitude other)
      exact nearer.ne tie.symm

/-- A value has no two nearest magnitudes. -/
theorem IsNearest.unique {value : ℚ} {one other : ℕ} (first : IsNearest value one)
    (second : IsNearest value other) : one = other := by
  by_contra different
  wlog less : one < other generalizing one other
  · exact this second first (Ne.symm different) (by omega)
  have tie := le_antisymm (first.closest other) (second.closest one)
  have even := first.even_of_tie other (Ne.symm different) tie.symm
  have evenOther := second.even_of_tie one different tie
  -- Between two even codes there is another one, whose magnitude is nearer than theirs.
  have lower := strictMono_magnitude (Nat.lt_succ_self one)
  have upper := strictMono_magnitude (by omega : one + 1 < other)
  have between := first.closest (one + 1)
  rw [← not_lt] at between
  apply between
  rcases le_or_gt (magnitude one + magnitude (one + 1)) (2 * value) with far | near
  · rcases eq_or_lt_of_le far with middle | beyond
    · have nearer := abs_sub_lt_of_lt_midpoint (strictMono_magnitude less)
        (by linarith : 2 * value < magnitude one + magnitude other)
      exact absurd tie nearer.ne
    · exact abs_sub_lt_of_midpoint_lt lower beyond
  · have nearer := abs_sub_lt_of_lt_midpoint (strictMono_magnitude less)
      (by linarith : 2 * value < magnitude one + magnitude other)
    exact absurd tie nearer.ne

/-- A value at or beyond a magnitude is nearest to none with a smaller code. -/
theorem IsNearest.le_of_magnitude_le {value : ℚ} {code bound : ℕ} (nearest : IsNearest value code)
    (beyond : magnitude bound ≤ value) : bound ≤ code := by
  by_contra less
  have lower := strictMono_magnitude (Nat.lt_of_not_le less)
  have nearer := abs_sub_lt_of_midpoint_lt lower (by linarith : _ < 2 * value)
  exact absurd (nearest.closest bound) (not_le.mpr nearer)

/-! ### The test of an interval -/

variable {code steps step scale : ℕ}

theorem roundsTo_iff :
    roundsTo code steps step scale ↔
      (units (code - 1) + units code) * scale ≤ steps * step ∧
        steps * step ≤ (units code + units (code + 1)) * scale ∧
          (code % 2 = 1 → (units (code - 1) + units code) * scale < steps * step ∧
            steps * step < (units code + units (code + 1)) * scale) := by
  unfold roundsTo
  rcases Nat.mod_two_eq_zero_or_one code with even | odd
  · simp [even]
  · simp only [odd, Nat.one_ne_zero, if_false, decide_eq_true_eq, true_imp_iff]
    exact ⟨fun inside ↦ ⟨inside.1.le, inside.2.le, inside⟩, fun inside ↦ inside.2.2⟩

/-- The test finds out whether a decimal is in the interval of a magnitude. -/
theorem roundsTo_iff_inInterval (positive : 0 < scale) :
    roundsTo code steps step scale ↔
      InInterval (steps * step / (2 * unitsInOne * scale)) code := by
  have unit := unitsInOne_cast_pos
  have scaled : (0 : ℚ) < scale := by exact_mod_cast positive
  have double : 2 * ((steps * step : ℚ) / (2 * unitsInOne * scale)) =
      (steps * step : ℕ) / (unitsInOne * scale) := by
    push_cast
    field_simp
  have sum (one other : ℕ) : magnitude one + magnitude other =
      ((units one + units other) * scale : ℕ) / (unitsInOne * scale) := by
    unfold magnitude
    push_cast
    field_simp
  have denominator : (0 : ℚ) < unitsInOne * scale := mul_pos unit scaled
  have le_iff {one other : ℕ} :
      (one : ℚ) / (unitsInOne * scale) ≤ other / (unitsInOne * scale) ↔ one ≤ other := by
    rw [div_le_div_iff_of_pos_right denominator, Nat.cast_le]
  have lt_iff {one other : ℕ} :
      (one : ℚ) / (unitsInOne * scale) < other / (unitsInOne * scale) ↔ one < other := by
    rw [div_lt_div_iff_of_pos_right denominator, Nat.cast_lt]
  rw [roundsTo_iff]
  constructor
  · rintro ⟨above, below, inside⟩
    refine ⟨?_, ?_, fun odd ↦ ?_⟩
    · rwa [double, sum, le_iff]
    · rwa [double, sum, le_iff]
    · rw [double, sum, sum, lt_iff, lt_iff]
      exact inside odd
  · rintro ⟨above, below, inside⟩
    rw [double, sum, le_iff] at above below
    rw [double, sum, sum, lt_iff, lt_iff] at inside
    exact ⟨above, below, inside⟩

end Worksheet.Binary64
