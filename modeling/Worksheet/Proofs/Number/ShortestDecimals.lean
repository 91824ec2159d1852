import Mathlib
import Worksheet.Proofs.Number.Positional

/-!
# Shortest decimals round to their magnitudes

The two decimals on a grid that enclose a magnitude are tested, and what passes the test is nearest
to the magnitude (`isNearest_of_onGrid?`). One of the two passes when the magnitude is on the grid
or when two steps of the grid are shorter than the distance of the two neighbours
(`isSome_onGrid?_of_on`, `isSome_onGrid?_of_fine`). Seventeen digits make the grid fine enough, so
the shortest decimal of a magnitude exists and rounds to it (`isNearest_shortest`). The shortest
decimal of a whole number below `10 ^ 15` is that number (`shortest_of_whole`).
-/

set_option autoImplicit false
set_option relaxedAutoImplicit false

namespace Worksheet.Binary64

/-! ### Grids -/

/-- The denominator of the steps of a grid. -/
def gridScale (exponent : ℤ) : ℕ := if exponent < 0 then 10 ^ exponent.natAbs else 1

/-- A step of a grid, in half units over the denominator. -/
def gridStep (exponent : ℤ) : ℕ :=
  if exponent < 0 then 2 * unitsInOne else 10 ^ exponent.natAbs * (2 * unitsInOne)

/-- The number of whole steps of a grid in a magnitude. -/
def gridSteps (code : ℕ) (exponent : ℤ) : ℕ :=
  2 * units code * gridScale exponent / gridStep exponent

theorem gridScale_pos (exponent : ℤ) : 0 < gridScale exponent := by
  unfold gridScale
  split
  · positivity
  · exact Nat.one_pos

theorem gridStep_pos (exponent : ℤ) : 0 < gridStep exponent := by
  have unit := unitsInOne_pos
  unfold gridStep
  split
  · omega
  · exact Nat.mul_pos (by positivity) (by omega)

/-- A step of the grid of `10 ^ exponent` is that power of ten. -/
theorem gridStep_div (exponent : ℤ) :
    (gridStep exponent : ℚ) / (2 * unitsInOne * gridScale exponent) = 10 ^ exponent := by
  have unit := unitsInOne_cast_pos.ne'
  have size : (exponent.natAbs : ℤ) = |exponent| := Int.natCast_natAbs _
  unfold gridStep gridScale
  split
  · next negative =>
    have same : exponent = -(exponent.natAbs : ℤ) := by rw [size, abs_of_neg negative, neg_neg]
    conv_rhs => rw [same, zpow_neg, zpow_natCast]
    push_cast
    field_simp
  · next positive =>
    have same : exponent = exponent.natAbs := by rw [size, abs_of_nonneg (Int.not_lt.mp positive)]
    conv_rhs => rw [same, zpow_natCast]
    push_cast
    field_simp

section OnGrid

variable {tie : Tie} {code : ℕ} {exponent : ℤ}

theorem roundsTo_grid {steps : ℕ} :
    roundsTo code steps (gridStep exponent) (gridScale exponent) ↔
      InInterval (steps * 10 ^ exponent) code := by
  rw [roundsTo_iff_inInterval (gridScale_pos exponent), mul_div_assoc, gridStep_div]

/-- The decimal on a grid is one of the two that enclose the magnitude, and there is none only if
neither of the two is in the interval. -/
theorem onGrid?_cases (tie : Tie) (code : ℕ) (exponent : ℤ) :
    (∃ steps : ℕ, onGrid? tie code exponent = some ⟨steps, exponent⟩ ∧
      InInterval (steps * 10 ^ exponent) code) ∨
    onGrid? tie code exponent = none ∧
      ¬ InInterval (gridSteps code exponent * 10 ^ exponent) code ∧
      ¬ InInterval ((gridSteps code exponent + 1 : ℕ) * 10 ^ exponent) code := by
  simp only [← roundsTo_grid]
  unfold onGrid?
  extract_lets power step scale value below rest
  split
  · next lower upper =>
    refine Or.inl ⟨_, rfl, ?_⟩
    split
    · exact lower
    · exact upper
  · next lower _ => exact Or.inl ⟨_, rfl, lower⟩
  · next _ upper => exact Or.inl ⟨_, rfl, upper⟩
  · next lower upper =>
    exact Or.inr ⟨rfl, ne_true_of_eq_false lower, ne_true_of_eq_false upper⟩

/-- A decimal on a grid is nearest to the magnitude. -/
theorem isNearest_of_onGrid? {decimal : Decimal}
    (found : onGrid? tie code exponent = some decimal) :
    IsNearest decimal.value code ∧ decimal.exponent = exponent := by
  rcases onGrid?_cases tie code exponent with ⟨steps, same, within⟩ | ⟨none, -⟩
  · obtain rfl := Option.some.inj (same.symm.trans found)
    exact ⟨within.isNearest, rfl⟩
  · rw [none] at found
    cases found

/-- The magnitude lies between two neighbouring decimals of the grid. -/
theorem gridSteps_le_lt (code : ℕ) (exponent : ℤ) :
    (gridSteps code exponent : ℚ) * 10 ^ exponent ≤ magnitude code ∧
      magnitude code < (gridSteps code exponent + 1 : ℕ) * 10 ^ exponent := by
  have unit := unitsInOne_cast_pos
  have scale : (0 : ℚ) < gridScale exponent := by exact_mod_cast gridScale_pos exponent
  have denominator : (0 : ℚ) < 2 * unitsInOne * gridScale exponent :=
    mul_pos (mul_pos two_pos unit) scale
  have value : magnitude code =
      (2 * units code * gridScale exponent : ℕ) / (2 * unitsInOne * gridScale exponent) := by
    unfold magnitude
    push_cast
    field_simp
  have rest : gridSteps code exponent * gridStep exponent ≤ 2 * units code * gridScale exponent :=
    Nat.div_mul_le_self _ _
  have next : 2 * units code * gridScale exponent <
      (gridSteps code exponent + 1) * gridStep exponent :=
    Nat.lt_mul_of_div_lt (Nat.lt_add_one _) (gridStep_pos exponent)
  rw [← gridStep_div exponent, value, ← mul_div_assoc, ← mul_div_assoc,
    div_le_div_iff_of_pos_right denominator, div_lt_div_iff_of_pos_right denominator]
  constructor
  · exact_mod_cast rest
  · exact_mod_cast next

/-- A grid that a magnitude other than zero is on has a decimal for it. -/
theorem isSome_onGrid?_of_on (positive : 0 < code)
    (on : (gridSteps code exponent : ℚ) * 10 ^ exponent = magnitude code) :
    (onGrid? tie code exponent).isSome := by
  have less := strictMono_magnitude (Nat.sub_lt positive Nat.one_pos)
  have more := strictMono_magnitude (Nat.lt_add_one code)
  rcases onGrid?_cases tie code exponent with ⟨steps, same, -⟩ | ⟨-, outside, -⟩
  · rw [same]
    rfl
  · rw [on] at outside
    exact absurd (inInterval_of_lt (by linarith) (by linarith)) outside

/-- A grid has a decimal for a magnitude other than zero if two of its steps are shorter than the
distance of the two neighbours. -/
theorem isSome_onGrid?_of_fine (positive : 0 < code)
    (fine : 2 * (10 : ℚ) ^ exponent < magnitude (code + 1) - magnitude (code - 1)) :
    (onGrid? tie code exponent).isSome := by
  have less := strictMono_magnitude (Nat.sub_lt positive Nat.one_pos)
  have more := strictMono_magnitude (Nat.lt_add_one code)
  obtain ⟨below, above⟩ := gridSteps_le_lt code exponent
  rcases onGrid?_cases tie code exponent with ⟨steps, same, -⟩ | ⟨-, lower, upper⟩
  · rw [same]
    rfl
  · push_cast at above upper
    -- One of the two is strictly between the midpoints, whichever the lower one is.
    rcases lt_or_ge (magnitude (code - 1) + magnitude code)
      (2 * (gridSteps code exponent * 10 ^ exponent)) with near | far
    · exact absurd (inInterval_of_lt near (by linarith)) lower
    · exact absurd (inInterval_of_lt (by linarith) (by linarith)) upper

end OnGrid

/-! ### Seventeen digits -/

section Digits

variable {code : ℕ}

/-- The neighbours of a magnitude are at least a part of `2 ^ -52` of it apart. -/
theorem magnitude_le_distance (positive : 0 < code) :
    2 * magnitude code ≤ 2 ^ 53 * (magnitude (code + 1) - magnitude (code - 1)) := by
  obtain ⟨shift, significand, run⟩ := exists_onRun code
  have next := run.units_succ
  have before := strictMono_units (Nat.sub_lt positive Nat.one_pos)
  have power : runLength = 2 ^ 52 := rfl
  have counted : 2 * units code + 2 ^ 53 * units (code - 1) ≤ 2 ^ 53 * units (code + 1) := by
    have product := run.units_eq
    by_cases smallest : significand = runLength
    · rw [smallest, power] at product
      omega
    · have whole := run.units_pred positive smallest
      have most := Nat.mul_le_mul_right (2 ^ shift) run.significand_lt.le
      rw [power, ← product] at most
      omega
  have unit := unitsInOne_cast_pos
  have cast : 2 * (units code : ℚ) + 2 ^ 53 * units (code - 1) ≤ 2 ^ 53 * units (code + 1) := by
    exact_mod_cast counted
  unfold magnitude
  rw [← sub_div, ← mul_div_assoc, ← mul_div_assoc, div_le_div_iff_of_pos_right unit]
  linarith

/-- A magnitude has the leading digit of the number of parts of a power of ten in it. -/
theorem zpow_le_and_lt_zpow {places parts : ℕ} (some : parts ≠ 0)
    (count : units code * Nat.pow 10 places / unitsInOne = parts) :
    (10 : ℚ) ^ (((Nat.toDigits 10 parts).length : ℤ) - 1 - places) ≤ magnitude code ∧
      magnitude code < 10 ^ (((Nat.toDigits 10 parts).length : ℤ) - places) := by
  have ten : (10 : ℚ) ≠ 0 := by norm_num
  have scale : (0 : ℚ) < 10 ^ places := by positivity
  have scaled : magnitude code * 10 ^ places = (units code * 10 ^ places : ℕ) / unitsInOne := by
    rw [magnitude, div_mul_eq_mul_div, Nat.cast_mul, Nat.cast_pow, Nat.cast_ofNat]
  have upper := Nat.lt_floor_add_one ((units code * 10 ^ places : ℕ) / unitsInOne : ℚ)
  have lower : ((units code * 10 ^ places / unitsInOne : ℕ) : ℚ) ≤ magnitude code * 10 ^ places :=
    scaled ▸ Nat.cast_div_le
  rw [Nat.pow_eq] at count
  rw [Nat.floor_div_eq_div, ← scaled, count] at upper
  rw [count] at lower
  have filled : 0 < (Nat.toDigits 10 parts).length := Nat.length_toDigits_pos
  have least : (10 : ℚ) ^ ((Nat.toDigits 10 parts).length - 1) ≤ parts := by
    exact_mod_cast pow_length_toDigits_le some
  have most : (parts : ℚ) + 1 ≤ 10 ^ (Nat.toDigits 10 parts).length := by
    exact_mod_cast lt_pow_length_toDigits parts
  have before : ((Nat.toDigits 10 parts).length : ℤ) - 1 =
      ((Nat.toDigits 10 parts).length - 1 : ℕ) := by omega
  constructor
  · rw [before, zpow_sub₀ ten, zpow_natCast, zpow_natCast, div_le_iff₀ scale]
    exact least.trans lower
  · rw [zpow_sub₀ ten, zpow_natCast, zpow_natCast, lt_div_iff₀ scale]
    exact upper.trans_le most

/-- A magnitude other than zero has its leading digit at the power of ten that is found for it. -/
theorem leadingExponent_spec (positive : 0 < code) :
    (10 : ℚ) ^ leadingExponent code ≤ magnitude code ∧
      magnitude code < 10 ^ (leadingExponent code + 1) := by
  have counted : 0 < units code * Nat.pow 10 330 / unitsInOne := by
    have powers : unitsInOne ≤ Nat.pow 10 330 := by decide +kernel
    have one : 0 < units code := strictMono_units positive
    exact Nat.div_pos (powers.trans (Nat.le_mul_of_pos_left _ one)) unitsInOne_pos
  rw [leadingExponent]
  generalize count : units code * Nat.pow 10 330 / unitsInOne = parts at counted ⊢
  have bounds := zpow_le_and_lt_zpow counted.ne' count
  generalize ((Nat.toDigits 10 parts).length : ℤ) = length at bounds ⊢
  have first : length - 1 - (330 : ℕ) = length - 331 := by omega
  have second : length - (330 : ℕ) = length - 331 + 1 := by omega
  rwa [first, second] at bounds

/-- Seventeen digits make a grid that has a decimal for a magnitude other than zero. -/
theorem isSome_onGrid?_sixteen (tie : Tie) (positive : 0 < code) :
    (onGrid? tie code (leadingExponent code - 16)).isSome := by
  have distance := magnitude_le_distance positive
  have leading := (leadingExponent_spec positive).1
  have split : (10 : ℚ) ^ leadingExponent code =
      10 ^ (leadingExponent code - 16) * 10 ^ (16 : ℤ) := by
    rw [← zpow_add₀ (by norm_num), sub_add_cancel]
  have power : (0 : ℚ) < 10 ^ (leadingExponent code - 16) := zpow_pos (by norm_num) _
  apply isSome_onGrid?_of_fine positive
  norm_num at split distance
  linarith

/-- The shortest decimal of a magnitude other than zero is on one of the grids up to the first one
that has a decimal. -/
theorem exists_grid (tie : Tie) {places : ℕ} (few : places < 17)
    (found : (onGrid? tie code (leadingExponent code - places)).isSome) :
    ∃ other ≤ places, ∃ decimal : Decimal,
      onGrid? tie code (leadingExponent code - other) = some decimal ∧
        shortest tie code = decimal.normalize := by
  obtain ⟨later, split⟩ := Nat.exists_eq_add_of_le (Nat.succ_le_of_lt few)
  have tried : ((List.range (places + 1)).findSome? fun (other : ℕ) ↦
      onGrid? tie code (leadingExponent code - other)).isSome :=
    List.findSome?_isSome_iff.mpr ⟨places, List.mem_range.mpr (Nat.lt_add_one places), found⟩
  obtain ⟨decimal, first⟩ := Option.isSome_iff_exists.mp tried
  obtain ⟨other, member, onGrid⟩ := List.exists_of_findSome?_eq_some first
  refine ⟨other, Nat.le_of_lt_succ (List.mem_range.mp member), decimal, onGrid, ?_⟩
  rw [shortest, shortest?, split, List.range_add, List.findSome?_append, first]
  rfl

/-- The shortest decimal of a magnitude other than zero rounds to that magnitude. -/
theorem isNearest_shortest (tie : Tie) (positive : 0 < code) :
    IsNearest (shortest tie code).value code := by
  obtain ⟨_, _, decimal, onGrid, same⟩ :=
    exists_grid tie (by decide : 16 < 17) (isSome_onGrid?_sixteen tie positive)
  rw [same, decimal.value_normalize]
  exact (isNearest_of_onGrid? onGrid).1

end Digits

/-! ### Whole numbers -/

/-- A whole number of up to 53 bits is a magnitude. -/
theorem exists_magnitude_eq {whole : ℕ} (small : whole < 2 ^ 53) :
    ∃ code, magnitude code = whole := by
  have unit := unitsInOne_cast_pos.ne'
  have run := onRun_leading (whole * unitsInOne)
  have shift : (whole * unitsInOne).log2 - 52 ≤ 1074 := by
    by_cases zero : whole = 0
    · rw [zero, Nat.zero_mul, Nat.log2_zero]
      omega
    · have power (bits : ℕ) : 2 ^ (53 + bits) = 2 ^ 53 * 2 ^ bits := Nat.pow_add 2 53 bits
      have bound : whole * unitsInOne < 2 ^ (53 + 1074) := by
        rw [power, ← unitsInOne_eq]
        exact Nat.mul_lt_mul_of_pos_right small unitsInOne_pos
      have bits := (Nat.log2_lt (Nat.mul_ne_zero zero unitsInOne_pos.ne')).mpr bound
      omega
  have divides := Dvd.dvd.mul_left (pow_dvd_unitsInOne shift) whole
  have counted := run.units_eq
  rw [Nat.div_mul_cancel divides] at counted
  exact ⟨_, by rw [magnitude, counted, Nat.cast_mul, mul_div_cancel_right₀ _ unit]⟩

variable {code whole : ℕ}

/-- A whole number of up to 53 bits is the nearest magnitude of no other whole number below its
size. -/
theorem IsNearest.eq_of_whole {value : ℕ} (same : magnitude code = whole)
    (small : whole < 2 ^ 53 - 1) (nearest : IsNearest value code) : value = whole := by
  have short : value < 2 ^ 53 := by
    by_contra long
    obtain ⟨bound, most⟩ := exists_magnitude_eq (by decide : 2 ^ 53 - 1 < 2 ^ 53)
    have cast : magnitude bound ≤ value := by
      rw [most, Nat.cast_le]
      omega
    have larger := strictMono_magnitude.monotone (nearest.le_of_magnitude_le cast)
    rw [most, same, Nat.cast_le] at larger
    omega
  obtain ⟨other, exact⟩ := exists_magnitude_eq short
  have close := nearest.closest other
  rw [exact, same, sub_self, abs_zero] at close
  exact_mod_cast sub_eq_zero.mp (abs_nonpos_iff.mp close)

/-- The shortest decimal of a whole number below `10 ^ 15` is that number, without places after the
point. -/
theorem shortest_of_whole (tie : Tie) (positive : 0 < code) (same : magnitude code = whole)
    (small : whole < 10 ^ 15) :
    (shortest tie code).value = whole ∧ 0 ≤ (shortest tie code).exponent := by
  obtain ⟨lower, upper⟩ := leadingExponent_spec positive
  have some : 0 < whole := by
    have less := strictMono_magnitude positive
    rw [magnitude_zero, same] at less
    exact_mod_cast less
  have cast : (whole : ℚ) < 10 ^ (15 : ℤ) := by exact_mod_cast small
  have least : (10 : ℚ) ^ (0 : ℤ) ≤ whole := by exact_mod_cast some
  rw [same] at lower upper
  have high : leadingExponent code < 15 :=
    (zpow_lt_zpow_iff_right₀ (by norm_num)).mp (lower.trans_lt cast)
  have low : 0 < leadingExponent code + 1 :=
    (zpow_lt_zpow_iff_right₀ (by norm_num)).mp (least.trans_lt upper)
  obtain ⟨places, counted⟩ := Int.eq_ofNat_of_zero_le (Int.lt_add_one_iff.mp low)
  -- The grid of the units has the number itself.
  have on : (gridSteps code 0 : ℚ) * 10 ^ (0 : ℤ) = magnitude code := by
    obtain ⟨below, above⟩ := gridSteps_le_lt code 0
    rw [zpow_zero, mul_one, same, Nat.cast_le] at below
    rw [zpow_zero, mul_one, same, Nat.cast_lt] at above
    rw [zpow_zero, mul_one, same, Nat.cast_inj]
    omega
  have found : (onGrid? tie code (leadingExponent code - places)).isSome := by
    rw [counted]
    simpa using isSome_onGrid?_of_on positive on
  obtain ⟨other, less, decimal, onGrid, shortest⟩ := exists_grid tie (by omega) found
  obtain ⟨nearest, exponent⟩ := isNearest_of_onGrid? onGrid
  have raised : 0 ≤ decimal.exponent := by omega
  rw [shortest, decimal.value_normalize]
  refine ⟨?_, decimal.exponent_normalize_nonneg raised⟩
  rw [decimal.value_of_nonneg raised] at nearest ⊢
  rw [nearest.eq_of_whole same (by omega)]

end Worksheet.Binary64
