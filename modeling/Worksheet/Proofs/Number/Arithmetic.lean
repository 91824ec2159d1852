import Mathlib
import Worksheet.Proofs.Number.Approximation
import Worksheet.Proofs.Number.Encodings
import Worksheet.Proofs.Number.Rounding

/-!
# Arithmetic gives the nearest magnitude

Products, quotients and whole numbers are rounded once. A significand with two residual bits says
where an exact value lies between two neighbouring magnitudes (`LiesAt`), shifting the significand
keeps that (`LiesAt.shiftRight`), and the residual bits then round the value to the nearest
magnitude (`isNearest_roundedMantissa`). So the magnitude of a product is the nearest one to the
product of the two magnitudes (`exists_mul_eq`), and quotients and whole numbers are rounded in the
same way (`exists_div_eq`, `exists_toFloat_eq`). A result that is too large is infinite.
-/

set_option autoImplicit false
set_option relaxedAutoImplicit false

namespace Worksheet.Binary64

open Float.Model
open Float.Model.UnpackedFloat (ExtendedMantissa Accuracy)

/-! ### Packing -/

theorem toNat_packComponents (sign : UnpackedFloat.Sign) (exponent : BitVec 11)
    (mantissa : BitVec 52) :
    (UnpackedFloat.packComponents Format.binary64 sign exponent mantissa).toNat =
      (if isMinus sign then codeCount else 0) + (exponent.toNat * runLength + mantissa.toNat) := by
  have power : runLength = 2 ^ 52 := rfl
  have bit : sign.toBitVec.toNat * 2 ^ 11 * runLength = if isMinus sign then codeCount else 0 := by
    cases sign with
    | negative => rfl
    | positive => rfl
  rw [UnpackedFloat.packComponents, BitVec.toNat_append, BitVec.toNat_append,
    ← Nat.shiftLeft_add_eq_or_of_lt exponent.isLt, ← Nat.shiftLeft_add_eq_or_of_lt mantissa.isLt,
    Nat.shiftLeft_eq, Nat.shiftLeft_eq, Nat.add_mul, Nat.add_assoc, ← bit, power]

/-- A number with the bits of a sign and a code is the number that they encode. -/
theorem eq_ofCode {number : Float} {negative : Bool} {code : ℕ}
    (bits : number.toBits.toNat = (if negative then codeCount else 0) + code) :
    number = ofCode negative code := by
  have word : (if negative then codeCount + code else code) = number.toBits.toNat := by
    rw [bits]
    split
    · rfl
    · exact (Nat.zero_add code).symm
  rw [ofCode, word, UInt64.ofNat_toNat, Float.ofBits_toBits]

/-- A significand in its place is packed as the code that it has there, unless the code is one
beyond infinity. -/
theorem ofModel_pack_finite {code shift significand : ℕ} (run : OnRun code shift significand)
    (sign : UnpackedFloat.Sign) (positive : 0 < significand) :
    Float.ofModel (pack (.finite sign significand (shift - 1074) positive)) =
      ofCode (isMinus sign) (min code infinity) := by
  have whole := run.code_eq
  have most := run.significand_lt
  have normal := run.normal
  have power : runLength = 2 ^ 52 := rfl
  have field : ((shift : ℤ) - 1074 + Format.binary64.exponentBias +
      Format.binary64.mantissaBitsWithoutImplicit).toNat = shift + 1 := by
    have bias : (Format.binary64.exponentBias : ℤ) = 1023 := rfl
    have places : (Format.binary64.mantissaBitsWithoutImplicit : ℤ) = 52 := rfl
    omega
  apply eq_ofCode
  show (UnpackedFloat.pack Format.binary64 (.finite sign significand _ positive)).toNat = _
  unfold UnpackedFloat.pack
  simp only [field]
  split
  · next large =>
    have beyond : infinity ≤ code := by
      rw [infinity, whole]
      unfold runLength at *
      norm_num at large
      omega
    rw [min_eq_right beyond]
    exact toNat_packComponents sign _ _
  · next small =>
    have early : shift < 2046 := by
      norm_num at small
      omega
    have below : code ≤ infinity := by
      rw [infinity, whole]
      unfold runLength at *
      omega
    rw [min_eq_left below]
    split
    · next long =>
      have leading : 2 ^ 52 ≤ significand := by
        have last := Nat.log2_self_le positive.ne'
        rwa [Nat.succ.inj long] at last
      have mantissa : significand % 2 ^ 52 = significand - runLength := by
        omega
      refine (toNat_packComponents sign _ _).trans ?_
      rw [BitVec.toNat_ofNat, BitVec.toNat_ofNat, mantissa, Nat.mod_eq_of_lt (by omega), whole]
      rw [← power] at leading
      rw [Nat.add_mul]
      omega
    · next short =>
      have first : significand < 2 ^ 52 := by
        by_contra leading
        have last := (Nat.log2_eq_iff positive.ne').mpr ⟨Nat.le_of_not_lt leading, most⟩
        exact short (congrArg Nat.succ last)
      refine (toNat_packComponents sign _ _).trans ?_
      rw [BitVec.toNat_ofNat, BitVec.toNat_ofNat, Nat.mod_eq_of_lt first, whole]
      obtain rfl : shift = 0 := normal.resolve_right (by omega)
      rfl

/-! ### Residual bits -/

/-- A mantissa with its round bit, in half steps. -/
def halfSteps (extended : ExtendedMantissa) : ℕ :=
  2 * extended.mantissa + extended.roundBit.toNat

/-- A value, in steps, is the one that a mantissa with residual bits was cut off from: its whole
half steps are those of the mantissa, and the sticky bit tells whether there is a rest. -/
structure LiesAt (extended : ExtendedMantissa) (position : ℚ) : Prop where
  /-- The half steps are not more than there are in the value. -/
  le : halfSteps extended ≤ 2 * position
  /-- There is less than another half step in the value. -/
  lt : 2 * position < halfSteps extended + 1
  /-- The sticky bit tells whether there is a rest. -/
  sticky_iff : extended.stickyBit ↔ halfSteps extended < 2 * position

theorem liesAt_exact (mantissa : ℕ) :
    LiesAt (.ofMantissaAndAccuracy mantissa .exact) mantissa := by
  have steps : halfSteps (.ofMantissaAndAccuracy mantissa .exact) = 2 * mantissa := rfl
  refine ⟨?_, ?_, ?_⟩
  all_goals
    rw [steps]
    push_cast
  · exact le_rfl
  · exact lt_add_one _
  · exact iff_of_false Bool.false_ne_true (lt_irrefl _)

theorem LiesAt.shiftRightOne {extended : ExtendedMantissa} {position : ℚ}
    (lies : LiesAt extended position) : LiesAt extended.shiftRightOne (position / 2) := by
  obtain ⟨mantissa, roundBit, stickyBit⟩ := extended
  obtain ⟨le, lt, sticky⟩ := lies
  have steps : halfSteps (ExtendedMantissa.shiftRightOne ⟨mantissa, roundBit, stickyBit⟩) =
      mantissa := by
    have parity := Nat.mod_two_eq_zero_or_one mantissa
    have bit : (mantissa % 2 != 0).toNat = mantissa % 2 := by
      rcases parity with even | odd
      · rw [even]
        rfl
      · rw [odd]
        rfl
    rw [halfSteps, ExtendedMantissa.shiftRightOne, bit, Nat.div_add_mod]
  have double : 2 * (position / 2) = position := by ring
  rw [halfSteps] at le lt sticky
  push_cast at le lt sticky
  have rounds : ((roundBit.toNat : ℕ) : ℚ) = if roundBit then 1 else 0 := by
    cases roundBit
    all_goals simp
  rw [rounds] at le lt sticky
  refine ⟨?_, ?_, ?_⟩
  all_goals rw [steps, double]
  · split at le <;> linarith
  · split at lt <;> linarith
  · cases roundBit with
    | true =>
      simp [ExtendedMantissa.shiftRightOne] at le ⊢
      linarith
    | false =>
      simp [ExtendedMantissa.shiftRightOne] at sticky ⊢
      exact sticky

/-- Shifting keeps where a value lies. -/
theorem LiesAt.shiftRight {extended : ExtendedMantissa} {position : ℚ}
    (lies : LiesAt extended position) (shift : ℕ) :
    LiesAt (extended >>> shift) (position / 2 ^ shift) := by
  show LiesAt (shift.repeat ExtendedMantissa.shiftRightOne extended) _
  induction shift with
  | zero => rwa [pow_zero, div_one]
  | succ shift ih =>
    rw [pow_succ, ← div_div]
    exact ih.shiftRightOne

/-! ### Between two magnitudes -/

section Between

variable {value : ℚ} {code : ℕ}

/-- A value in the lower half of a step is nearest to the lower magnitude. -/
theorem isNearest_of_lt_midpoint (above : magnitude code ≤ value)
    (below : 2 * value < magnitude code + magnitude (code + 1)) : IsNearest value code := by
  have before : magnitude (code - 1) ≤ magnitude code :=
    strictMono_magnitude.monotone (Nat.sub_le code 1)
  refine InInterval.isNearest ⟨by linarith, below.le, fun odd ↦ ⟨?_, below⟩⟩
  have strict : magnitude (code - 1) < magnitude code := strictMono_magnitude (by omega)
  linarith

/-- A value in the upper half of a step is nearest to the upper magnitude. -/
theorem isNearest_of_midpoint_lt (above : magnitude code + magnitude (code + 1) < 2 * value)
    (below : value ≤ magnitude (code + 1)) : IsNearest value (code + 1) := by
  have after : magnitude (code + 1) < magnitude (code + 1 + 1) :=
    strictMono_magnitude (Nat.lt_succ_self _)
  have low : magnitude (code + 1 - 1) + magnitude (code + 1) < 2 * value := by
    rwa [Nat.add_sub_cancel]
  exact (inInterval_of_lt low (by linarith)).isNearest

/-- A value in the middle of a step is nearest to the magnitude with the even code. -/
theorem isNearest_of_eq_midpoint (middle : 2 * value = magnitude code + magnitude (code + 1)) :
    IsNearest value (code + code % 2) := by
  have before : magnitude (code - 1) ≤ magnitude code :=
    strictMono_magnitude.monotone (Nat.sub_le code 1)
  have inside : magnitude code < magnitude (code + 1) := strictMono_magnitude (Nat.lt_succ_self _)
  have after : magnitude (code + 1) < magnitude (code + 1 + 1) :=
    strictMono_magnitude (Nat.lt_succ_self _)
  rcases Nat.mod_two_eq_zero_or_one code with even | odd
  · rw [even, Nat.add_zero]
    exact InInterval.isNearest ⟨by linarith, middle.le, fun odd ↦ by omega⟩
  · have low : magnitude (code + 1 - 1) + magnitude (code + 1) ≤ 2 * value := by
      rw [Nat.add_sub_cancel]
      exact middle.ge
    rw [odd]
    exact InInterval.isNearest ⟨low, by linarith, fun odd ↦ by omega⟩

theorem isNearest_magnitude (code : ℕ) : IsNearest (magnitude code) code := by
  have inside : magnitude code < magnitude (code + 1) := strictMono_magnitude (Nat.lt_succ_self _)
  exact isNearest_of_lt_midpoint le_rfl (by linarith)

theorem isNearest_zero_zero : IsNearest 0 0 := magnitude_zero ▸ isNearest_magnitude 0

end Between

/-- Residual bits round a value to the nearest magnitude. -/
theorem isNearest_roundedMantissa {code shift : ℕ} {extended : ExtendedMantissa} {position : ℚ}
    (run : OnRun code shift extended.mantissa) (lies : LiesAt extended position) :
    IsNearest (position * (2 ^ shift / unitsInOne))
      (shift * runLength + extended.roundedMantissa) := by
  obtain ⟨mantissa, roundBit, stickyBit⟩ := extended
  obtain ⟨le, lt, sticky⟩ := lies
  have whole : shift * runLength + mantissa = code := run.code_eq.symm
  have step := step_pos shift
  have lower := run.magnitude_eq_steps
  have upper := run.magnitude_succ_eq_steps
  have parity : mantissa % 2 = code % 2 := by
    unfold runLength at whole
    omega
  generalize 2 ^ shift / (unitsInOne : ℚ) = length at step lower upper ⊢
  have middle : magnitude code + magnitude (code + 1) = (2 * mantissa + 1) * length := by
    rw [lower, upper]
    ring
  have double : 2 * (position * length) = 2 * position * length := (mul_assoc _ _ _).symm
  cases roundBit with
  | false =>
    have rounded : ExtendedMantissa.roundedMantissa ⟨mantissa, false, stickyBit⟩ = mantissa := by
      cases stickyBit
      all_goals rfl
    have steps : halfSteps ⟨mantissa, false, stickyBit⟩ = 2 * mantissa := rfl
    rw [steps] at le lt
    push_cast at le lt
    rw [rounded, whole]
    apply isNearest_of_lt_midpoint
    · rw [lower]
      exact mul_le_mul_of_nonneg_right (by linarith) step.le
    · rw [middle, double]
      exact mul_lt_mul_of_pos_right lt step
  | true =>
    have steps : halfSteps ⟨mantissa, true, stickyBit⟩ = 2 * mantissa + 1 := rfl
    rw [steps] at le lt sticky
    push_cast at le lt sticky
    cases stickyBit with
    | false =>
      have exact : 2 * position = 2 * mantissa + 1 :=
        le_antisymm (not_lt.mp (sticky.not.mp Bool.false_ne_true)) le
      show IsNearest _ (shift * runLength + (mantissa + mantissa % 2))
      rw [← Nat.add_assoc, whole, parity]
      apply isNearest_of_eq_midpoint
      rw [middle, double, exact]
    | true =>
      show IsNearest _ (shift * runLength + (mantissa + 1))
      rw [← Nat.add_assoc, whole]
      apply isNearest_of_midpoint_lt
      · rw [middle, double]
        exact mul_lt_mul_of_pos_right (sticky.mp rfl) step
      · rw [upper]
        exact mul_le_mul_of_nonneg_right (by linarith) step.le

/-! ### Rounding -/

theorem mantissa_shiftRight (extended : ExtendedMantissa) (shift : ℕ) :
    (extended >>> shift).mantissa = extended.mantissa / 2 ^ shift := by
  show (shift.repeat ExtendedMantissa.shiftRightOne extended).mantissa = _
  induction shift with
  | zero => exact (Nat.div_one _).symm
  | succ shift ih =>
    show (shift.repeat ExtendedMantissa.shiftRightOne extended).mantissa / 2 = _
    rw [ih, Nat.div_div_eq_div_mul, Nat.pow_succ]

theorem le_roundedMantissa (extended : ExtendedMantissa) :
    extended.mantissa ≤ extended.roundedMantissa := by
  obtain ⟨mantissa, roundBit, stickyBit⟩ := extended
  cases roundBit
  all_goals cases stickyBit
  · exact le_rfl
  · exact le_rfl
  · exact Nat.le_add_right mantissa _
  · exact Nat.le_succ mantissa

theorem roundedMantissa_le (extended : ExtendedMantissa) :
    extended.roundedMantissa ≤ extended.mantissa + 1 := by
  obtain ⟨mantissa, roundBit, stickyBit⟩ := extended
  cases roundBit
  all_goals cases stickyBit
  · exact Nat.le_succ mantissa
  · exact Nat.le_succ mantissa
  · exact Nat.add_le_add_left (by omega) mantissa
  · exact le_rfl

theorem targetExponent_eq (mantissa : ℕ) (exponent : ℤ) :
    Format.binary64.targetExponent (totalExponent mantissa exponent) =
      max ((mantissa.log2 : ℤ) + exponent - 52) (-1074) := by
  have bits : (Format.binary64.mantissaBits : ℤ) = 53 := rfl
  have least : Format.binary64.minExponent = -1074 := rfl
  rw [Format.targetExponent, totalExponent, bits, least]
  congr 1
  ring

section Target

variable {mantissa places shift : ℕ} {exponent : ℤ}

/-- A mantissa has at most 53 bits left in the place that it is shifted to, and as many unless it is
the last place. -/
theorem onRun_target
    (target : Format.binary64.targetExponent (totalExponent mantissa exponent) = shift - 1074)
    (shifted : exponent + places = shift - 1074) :
    OnRun (shift * runLength + mantissa / 2 ^ places) shift (mantissa / 2 ^ places) := by
  have power : runLength = 2 ^ 52 := rfl
  have positive : 0 < 2 ^ places := Nat.two_pow_pos places
  rw [targetExponent_eq] at target
  refine ⟨rfl, ?_, ?_⟩
  · rw [Nat.div_lt_iff_lt_mul positive, power, ← Nat.pow_succ', ← Nat.pow_add]
    exact Nat.lt_of_lt_of_le Nat.lt_log2_self (Nat.pow_le_pow_right two_pos (by omega))
  · by_cases last : shift = 0
    · exact Or.inl last
    · have bits : mantissa.log2 = 52 + places := by omega
      have filled : mantissa ≠ 0 := by
        rintro rfl
        rw [Nat.log2_zero] at bits
        omega
      have leading := Nat.log2_self_le filled
      rw [bits, Nat.pow_add, ← power] at leading
      exact Or.inr ((Nat.le_div_iff_mul_le positive).mpr leading)

/-- A mantissa is shifted to its place. -/
theorem shiftToTargetExponent_eq {accuracy : Accuracy}
    (target : Format.binary64.targetExponent (totalExponent mantissa exponent) = shift - 1074)
    (shifted : exponent + places = shift - 1074) :
    UnpackedFloat.shiftToTargetExponent Format.binary64 mantissa exponent accuracy =
      (ExtendedMantissa.ofMantissaAndAccuracy mantissa accuracy >>> places,
        (shift : ℤ) - 1074) := by
  have count : (Format.binary64.targetExponent (totalExponent mantissa exponent) -
      exponent).toNat = places := by omega
  rw [UnpackedFloat.shiftToTargetExponent, UnpackedFloat.shiftToExponent, ← shifted]
  simp only [count]

/-- A mantissa of 53 bits is in its place. -/
theorem shiftToTargetExponent_of_short (short : mantissa < 2 ^ 53)
    (normal : shift = 0 ∨ 2 ^ 52 ≤ mantissa) :
    UnpackedFloat.shiftToTargetExponent Format.binary64 mantissa (shift - 1074) .exact =
      (ExtendedMantissa.ofMantissaAndAccuracy mantissa .exact, (shift : ℤ) - 1074) := by
  have most : mantissa.log2 ≤ 52 := by
    rcases Nat.eq_zero_or_pos mantissa with rfl | positive
    · exact Nat.zero_le 52
    · exact Nat.le_of_lt_succ ((Nat.log2_lt positive.ne').mpr short)
  refine shiftToTargetExponent_eq ?_ (by omega : shift - 1074 + (0 : ℕ) = (shift - 1074 : ℤ))
  rw [targetExponent_eq]
  rcases normal with rfl | long
  · omega
  · have least := (Nat.le_log2 (by omega)).mpr long
    omega

/-- A mantissa that rounding has carried over to 54 bits is shifted by one place. -/
theorem shiftToTargetExponent_of_carry :
    UnpackedFloat.shiftToTargetExponent Format.binary64 (2 ^ 53) (shift - 1074) .exact =
      (ExtendedMantissa.ofMantissaAndAccuracy (2 ^ 52) .exact, ((shift + 1 : ℕ) : ℤ) - 1074) := by
  refine shiftToTargetExponent_eq ?_
    (by omega : shift - 1074 + (1 : ℕ) = ((shift + 1 : ℕ) - 1074 : ℤ))
  rw [targetExponent_eq, Nat.log2_two_pow]
  omega

end Target

theorem ofModel_pack_zero (sign : UnpackedFloat.Sign) :
    Float.ofModel (pack (.zero sign)) = ofCode (isMinus sign) 0 :=
  eq_ofCode (toNat_packComponents sign 0 0)

/-- A rounded mantissa is packed as the code that it has in its place, also when rounding has
carried it over. -/
theorem ofModel_pack_rounded {mantissa shift : ℕ} (sign : UnpackedFloat.Sign)
    (most : mantissa ≤ 2 ^ 53) (normal : shift = 0 ∨ 2 ^ 52 ≤ mantissa) :
    Float.ofModel (pack
      (let (final, exponent) :=
        UnpackedFloat.shiftToTargetExponent Format.binary64 mantissa (shift - 1074) .exact
      if filled : final.mantissa = 0 then .zero sign
      else .finite sign final.mantissa exponent (Nat.pos_of_ne_zero filled))) =
      ofCode (isMinus sign) (min (shift * runLength + mantissa) infinity) := by
  have power : runLength = 2 ^ 52 := rfl
  rcases Nat.lt_or_eq_of_le most with short | rfl
  · rw [shiftToTargetExponent_of_short short normal]
    rcases Nat.eq_zero_or_pos mantissa with rfl | positive
    · obtain rfl : shift = 0 := normal.resolve_right (by decide)
      exact ofModel_pack_zero sign
    · refine (congrArg (Float.ofModel ∘ pack) (dif_neg positive.ne')).trans ?_
      exact ofModel_pack_finite ⟨rfl, short, normal⟩ sign positive
  · have code : shift * runLength + 2 ^ 53 = (shift + 1) * runLength + 2 ^ 52 := by
      rw [Nat.add_mul]
      omega
    rw [shiftToTargetExponent_of_carry, code]
    exact ofModel_pack_finite ⟨rfl, by decide, Or.inr le_rfl⟩ sign (by decide)

/-- A value that lies at a mantissa with residual bits is rounded to the nearest magnitude. -/
theorem exists_ofModel_pack_roundWithAccuracy {mantissa : ℕ} {exponent : ℤ} {accuracy : Accuracy}
    {position : ℚ} (sign : UnpackedFloat.Sign)
    (lies : LiesAt (.ofMantissaAndAccuracy mantissa accuracy) position)
    (low : exponent ≤ Format.binary64.targetExponent (totalExponent mantissa exponent)) :
    ∃ code, IsNearest (position * 2 ^ exponent) code ∧
      Float.ofModel (pack (UnpackedFloat.roundWithAccuracy Format.binary64 sign mantissa exponent
        accuracy)) = ofCode (isMinus sign) (min code infinity) := by
  obtain ⟨shift, target⟩ : ∃ shift : ℕ,
      Format.binary64.targetExponent (totalExponent mantissa exponent) = shift - 1074 := by
    refine ⟨(Format.binary64.targetExponent (totalExponent mantissa exponent) + 1074).toNat, ?_⟩
    rw [targetExponent_eq]
    omega
  obtain ⟨places, shifted⟩ : ∃ places : ℕ, exponent + places = shift - 1074 :=
    ⟨(shift - 1074 - exponent).toNat, by omega⟩
  have run := onRun_target target shifted
  have cut : (ExtendedMantissa.ofMantissaAndAccuracy mantissa accuracy >>> places).mantissa =
      mantissa / 2 ^ places := by
    rw [mantissa_shiftRight]
    match accuracy with
    | .exact | .inexact .lt | .inexact .eq | .inexact .gt => rfl
  have place : position * 2 ^ exponent = position / 2 ^ places * (2 ^ shift / unitsInOne) := by
    have power : exponent = (shift : ℤ) - (1074 : ℕ) - (places : ℕ) := by omega
    rw [power, zpow_sub₀ two_ne_zero, zpow_sub₀ two_ne_zero, zpow_natCast, zpow_natCast,
      zpow_natCast, unitsInOne_eq, Nat.cast_pow, Nat.cast_ofNat]
    generalize (2 : ℚ) ^ 1074 = unit
    ring
  have nearest := isNearest_roundedMantissa (cut.symm ▸ run) (lies.shiftRight places)
  refine ⟨_, place ▸ nearest, ?_⟩
  have bound := run.significand_lt
  have normal := run.normal
  have most :=
    roundedMantissa_le (ExtendedMantissa.ofMantissaAndAccuracy mantissa accuracy >>> places)
  have least :=
    le_roundedMantissa (ExtendedMantissa.ofMantissaAndAccuracy mantissa accuracy >>> places)
  rw [cut] at most least
  unfold UnpackedFloat.roundWithAccuracy
  rw [shiftToTargetExponent_eq target shifted]
  exact ofModel_pack_rounded sign (most.trans bound) (normal.imp_right least.trans')

/-! ### Operands -/

/-- A finite number is unpacked as zero, or as a significand in its place. -/
theorem unpack_cases {number : Float} (below : code number < infinity) :
    ∃ sign, isMinus sign = isNegative number ∧
      (code number = 0 ∧ number.toModel.unpack = .zero sign ∨
        ∃ (shift significand : ℕ) (positive : 0 < significand),
          OnRun (code number) shift significand ∧
            number.toModel.unpack = .finite sign significand (shift - 1074) positive) := by
  have place : code number = _ := mod_codeCount number.toBits.toNat
  have notLast := mod_codeCount_lt_infinity.mp below
  have rest := Nat.mod_lt number.toBits.toNat (by decide : 0 < runLength)
  have bias : (Format.binary64.exponentBias : ℤ) = 1023 := rfl
  have width : (Format.binary64.mantissaBitsWithoutImplicit : ℤ) = 52 := rfl
  refine ⟨_, isMinus_unpackSign number.toBits, ?_⟩
  show _ ∧ UnpackedFloat.unpack Format.binary64 number.toBits.toBitVec = _ ∨ ∃ _ _ _, _ ∧
    UnpackedFloat.unpack Format.binary64 number.toBits.toBitVec = _
  unfold UnpackedFloat.unpack
  simp only
  rw [if_neg ((unpackExponent_eq_last_iff number.toBits).not.mpr notLast)]
  split
  · next subnormal =>
    have field := (unpackExponent_eq_zero_iff number.toBits).mp subnormal
    rw [field, Nat.zero_mul, Nat.zero_add] at place
    split
    · next zero =>
      have none := (unpackMantissa_eq_zero_iff number.toBits).mp zero
      exact Or.inl ⟨place.trans none, rfl⟩
    · next filled =>
      have some := (unpackMantissa_eq_zero_iff number.toBits).not.mp filled
      refine Or.inr ⟨0, code number, ?_, ⟨?_, ?_, Or.inl rfl⟩, ?_⟩
      · omega
      · omega
      · omega
      · congr 1
        · rw [toNat_unpackMantissa, place]
        · rw [toNat_unpackExponent, field]
          rfl
  · next normal =>
    have later := (unpackExponent_eq_zero_iff number.toBits).not.mp normal
    have leading : (1#1 ++ @UnpackedFloat.unpackMantissa Format.binary64
        number.toBits.toBitVec).toNat = runLength + number.toBits.toNat % runLength := by
      rw [BitVec.toNat_append, toNat_unpackMantissa]
      exact (Nat.two_pow_add_eq_or_of_lt (i := 52) rest 1).symm
    refine Or.inr ⟨number.toBits.toNat / runLength % 2048 - 1,
      runLength + number.toBits.toNat % runLength, ?_, ⟨?_, ?_, ?_⟩, ?_⟩
    · omega
    · rw [place, ← Nat.add_assoc, ← Nat.succ_mul, Nat.succ_eq_add_one,
        Nat.sub_add_cancel (by omega)]
    · omega
    · exact Or.inr (Nat.le_add_right _ _)
    · congr 1
      rw [toNat_unpackExponent, bias, width]
      omega

/-- The magnitude of a significand in its place. -/
theorem OnRun.magnitude_eq {code shift significand : ℕ} (run : OnRun code shift significand) :
    magnitude code = significand * 2 ^ ((shift : ℤ) - 1074) := by
  have places : ((shift : ℤ) - 1074) = (shift : ℤ) - (1074 : ℕ) := rfl
  rw [magnitude, run.units_eq, unitsInOne_eq, places, zpow_sub₀ two_ne_zero, zpow_natCast,
    zpow_natCast, Nat.cast_mul, Nat.cast_pow, Nat.cast_pow, Nat.cast_ofNat, mul_div_assoc]

/-! ### Products -/

theorem isMinus_mul (one other : UnpackedFloat.Sign) :
    isMinus (one * other) = (isMinus one ^^ isMinus other) := by
  cases one
  all_goals cases other
  all_goals rfl

theorem mul_exponent_le {one other oneShift otherShift oneSignificand otherSignificand : ℕ}
    (first : OnRun one oneShift oneSignificand) (second : OnRun other otherShift otherSignificand)
    (onePositive : 0 < oneSignificand) (otherPositive : 0 < otherSignificand) :
    (oneShift - 1074 : ℤ) + (otherShift - 1074) ≤ Format.binary64.targetExponent
      (totalExponent (oneSignificand * otherSignificand)
        ((oneShift - 1074) + (otherShift - 1074))) := by
  have power : runLength = 2 ^ 52 := rfl
  have product : oneSignificand * otherSignificand ≠ 0 := by positivity
  have bits (long : 2 ^ 52 ≤ oneSignificand * otherSignificand) :
      52 ≤ (oneSignificand * otherSignificand).log2 := (Nat.le_log2 product).mpr long
  rw [targetExponent_eq]
  rcases first.normal with rfl | long
  · rcases second.normal with rfl | long
    · omega
    · have enough := bits (power ▸ long.trans (Nat.le_mul_of_pos_left _ onePositive))
      omega
  · have enough := bits (power ▸ long.trans (Nat.le_mul_of_pos_right _ otherPositive))
    omega

/-- A product of two finite numbers has the magnitude nearest to the product of theirs. -/
theorem exists_mul_eq {one other : Float} (finiteOne : code one < infinity)
    (finiteOther : code other < infinity) :
    ∃ result, IsNearest (magnitude (code one) * magnitude (code other)) result ∧
      one * other = ofCode (isNegative one ^^ isNegative other) (min result infinity) := by
  obtain ⟨sign, minus, first⟩ := unpack_cases finiteOne
  obtain ⟨otherSign, otherMinus, second⟩ := unpack_cases finiteOther
  have unpacked : one * other = Float.ofModel (pack (UnpackedFloat.mul Format.binary64
    one.toModel.unpack other.toModel.unpack)) := rfl
  have zero := isNearest_zero_zero
  rw [← minus, ← otherMinus, ← isMinus_mul, unpacked]
  rcases first with ⟨none, first⟩ | ⟨shift, significand, positive, run, first⟩
  · refine ⟨0, by rwa [none, magnitude_zero, zero_mul], ?_⟩
    rcases second with ⟨-, second⟩ | ⟨_, _, _, -, second⟩
    all_goals
      rw [first, second]
      exact ofModel_pack_zero _
  rcases second with
    ⟨none, second⟩ | ⟨otherShift, otherSignificand, otherPositive, otherRun, second⟩
  · refine ⟨0, by rwa [none, magnitude_zero, mul_zero], ?_⟩
    rw [first, second]
    exact ofModel_pack_zero _
  have low := mul_exponent_le run otherRun positive otherPositive
  obtain ⟨result, nearest, same⟩ := exists_ofModel_pack_roundWithAccuracy (sign * otherSign)
    (liesAt_exact (significand * otherSignificand)) low
  refine ⟨result, ?_, ?_⟩
  · convert nearest using 1
    rw [run.magnitude_eq, otherRun.magnitude_eq, zpow_add₀ two_ne_zero, Nat.cast_mul]
    ring
  · rw [first, second]
    exact same

/-! ### Quotients -/

theorem isMinus_div (one other : UnpackedFloat.Sign) :
    isMinus (one / other) = (isMinus one ^^ isMinus other) := by
  cases one
  all_goals cases other
  all_goals rfl

/-- A whole part and a rest lie at the whole part, with the residual bits of an inexact result that
tell how the rest compares to a half. -/
theorem liesAt_inexact (whole : ℕ) {rest : ℚ} {order : Ordering} (positive : 0 < rest)
    (below : rest < 1) (less : order = .lt ↔ 2 * rest < 1) (more : order = .gt ↔ 1 < 2 * rest) :
    LiesAt (.ofMantissaAndAccuracy whole (.inexact order)) (whole + rest) := by
  cases order with
  | lt =>
    have steps : halfSteps (.ofMantissaAndAccuracy whole (.inexact .lt)) = 2 * whole := rfl
    have lower := less.mp rfl
    refine ⟨?_, ?_, iff_of_true rfl ?_⟩
    all_goals
      rw [steps]
      push_cast
      linarith
  | eq =>
    have steps : halfSteps (.ofMantissaAndAccuracy whole (.inexact .eq)) = 2 * whole + 1 := rfl
    have least := not_lt.mp (less.not.mp (by decide))
    have most := not_lt.mp (more.not.mp (by decide))
    refine ⟨?_, ?_, iff_of_false Bool.false_ne_true (not_lt.mpr ?_)⟩
    all_goals
      rw [steps]
      push_cast
      linarith
  | gt =>
    have steps : halfSteps (.ofMantissaAndAccuracy whole (.inexact .gt)) = 2 * whole + 1 := rfl
    have upper := more.mp rfl
    refine ⟨?_, ?_, iff_of_true rfl ?_⟩
    all_goals
      rw [steps]
      push_cast
      linarith

/-- A quotient lies at its whole part, with the residual bits of the remainder. -/
theorem liesAt_fraction (numerator : ℕ) {denominator : ℕ} (positive : 0 < denominator) :
    LiesAt (.ofMantissaAndAccuracy (numerator / denominator)
      (UnpackedFloat.accuracyOfFraction (numerator % denominator) denominator))
      (numerator / denominator) := by
  have divisor : (0 : ℚ) < denominator := by exact_mod_cast positive
  have split : ((denominator * (numerator / denominator) + numerator % denominator : ℕ) : ℚ) =
      numerator := by rw [Nat.div_add_mod]
  have short : ((numerator % denominator : ℕ) : ℚ) < denominator := by
    exact_mod_cast Nat.mod_lt numerator positive
  have position : (numerator : ℚ) / denominator = (numerator / denominator : ℕ) +
      (numerator % denominator : ℕ) / denominator := by
    rw [← split]
    push_cast
    field_simp
  rw [position, UnpackedFloat.accuracyOfFraction]
  generalize numerator / denominator = whole
  generalize numerator % denominator = rest at short ⊢
  split
  · next none =>
    rw [none, Nat.cast_zero, zero_div, add_zero]
    exact liesAt_exact whole
  · next some =>
    have filled : (0 : ℚ) < rest := by exact_mod_cast Nat.pos_of_ne_zero some
    have double : 2 * ((rest : ℚ) / denominator) = (2 * rest : ℕ) / denominator := by
      push_cast
      ring
    refine liesAt_inexact whole (div_pos filled divisor) ((div_lt_one divisor).mpr short) ?_ ?_
    · rw [Nat.compare_eq_lt, double, div_lt_one divisor, Nat.cast_lt]
    · rw [Nat.compare_eq_gt, double, one_lt_div divisor, Nat.cast_lt]

/-- A mantissa is shifted for a division until the quotient has 53 bits, or down to the last place
if that comes first. -/
theorem exists_divCore_eq {one other : ℕ} (oneExponent otherExponent : ℤ) (onePositive : 0 < one)
    (otherPositive : 0 < other) :
    ∃ (places : ℕ) (exponent : ℤ), exponent + places = oneExponent - otherExponent ∧
      UnpackedFloat.divCore Format.binary64 one oneExponent other otherExponent =
        (one * 2 ^ places / other, exponent,
          UnpackedFloat.accuracyOfFraction (one * 2 ^ places % other) other) ∧
      exponent ≤ Format.binary64.targetExponent
        (totalExponent (one * 2 ^ places / other) exponent) := by
  unfold UnpackedFloat.divCore
  simp only [Nat.shiftLeft_eq]
  have target : Format.binary64.targetExponent (totalExponent one oneExponent -
      totalExponent other otherExponent) = max ((one.log2 : ℤ) + oneExponent -
        (other.log2 + otherExponent) - 53) (-1074) := by
    have bits : (Format.binary64.mantissaBits : ℤ) = 53 := rfl
    have least : Format.binary64.minExponent = -1074 := rfl
    rw [Format.targetExponent, totalExponent, totalExponent, bits, least]
    congr 1
    ring
  rw [target]
  generalize chosen : min (oneExponent - otherExponent) (max ((one.log2 : ℤ) + oneExponent -
    (other.log2 + otherExponent) - 53) (-1074)) = exponent
  generalize count : (oneExponent - otherExponent - exponent).toNat = places
  refine ⟨places, exponent, by omega, rfl, ?_⟩
  rw [targetExponent_eq]
  by_cases last : exponent ≤ -1074
  · exact last.trans (le_max_right _ _)
  · -- Before the last place, the quotient has at least 53 bits.
    have enough : 2 ^ 52 ≤ one * 2 ^ places / other := by
      rw [Nat.le_div_iff_mul_le otherPositive]
      calc 2 ^ 52 * other
          ≤ 2 ^ 52 * 2 ^ (other.log2 + 1) := Nat.mul_le_mul_left _ Nat.lt_log2_self.le
        _ = 2 ^ (52 + (other.log2 + 1)) := (Nat.pow_add _ _ _).symm
        _ ≤ 2 ^ (one.log2 + places) := Nat.pow_le_pow_right two_pos (by omega)
        _ = 2 ^ one.log2 * 2 ^ places := Nat.pow_add _ _ _
        _ ≤ one * 2 ^ places := Nat.mul_le_mul_right _ (Nat.log2_self_le onePositive.ne')
    have bits := (Nat.le_log2 (by omega)).mpr enough
    omega

/-- A quotient of a finite number and a finite number other than zero has the magnitude nearest to
the quotient of theirs. -/
theorem exists_div_eq {one other : Float} (finiteOne : code one < infinity)
    (finiteOther : code other < infinity) (filled : 0 < code other) :
    ∃ result, IsNearest (magnitude (code one) / magnitude (code other)) result ∧
      one / other = ofCode (isNegative one ^^ isNegative other) (min result infinity) := by
  obtain ⟨sign, minus, first⟩ := unpack_cases finiteOne
  obtain ⟨otherSign, otherMinus, second⟩ := unpack_cases finiteOther
  have unpacked : one / other = Float.ofModel (pack (UnpackedFloat.div Format.binary64
    one.toModel.unpack other.toModel.unpack)) := rfl
  rw [← minus, ← otherMinus, ← isMinus_div, unpacked]
  obtain ⟨otherShift, otherSignificand, otherPositive, otherRun, second⟩ :=
    second.resolve_left fun none ↦ filled.ne' none.1
  rcases first with ⟨none, first⟩ | ⟨shift, significand, positive, run, first⟩
  · have zero := isNearest_zero_zero
    refine ⟨0, by rwa [none, magnitude_zero, zero_div], ?_⟩
    rw [first, second]
    exact ofModel_pack_zero _
  obtain ⟨places, exponent, shifted, core, low⟩ := exists_divCore_eq (shift - 1074)
    (otherShift - 1074) positive otherPositive
  obtain ⟨result, nearest, same⟩ := exists_ofModel_pack_roundWithAccuracy (sign / otherSign)
    (liesAt_fraction (significand * 2 ^ places) otherPositive) low
  refine ⟨result, ?_, ?_⟩
  · convert nearest using 1
    have divisor : (otherSignificand : ℚ) ≠ 0 := by exact_mod_cast otherPositive.ne'
    have place : exponent = (shift - 1074 : ℤ) - (otherShift - 1074) - places := by omega
    rw [run.magnitude_eq, otherRun.magnitude_eq, place]
    generalize (shift - 1074 : ℤ) = oneExponent
    generalize (otherShift - 1074 : ℤ) = otherExponent
    rw [zpow_sub₀ two_ne_zero, zpow_sub₀ two_ne_zero, zpow_natCast, Nat.cast_mul, Nat.cast_pow,
      Nat.cast_ofNat]
    field_simp
  · rw [first, second]
    unfold UnpackedFloat.div
    simp only [core]
    exact same

/-! ### Whole numbers -/

theorem log2_mul_two_pow {number : ℕ} (positive : 0 < number) (places : ℕ) :
    (number * 2 ^ places).log2 = number.log2 + places := by
  have filled : number * 2 ^ places ≠ 0 := by positivity
  refine (Nat.log2_eq_iff filled).mpr ⟨?_, ?_⟩
  · rw [Nat.pow_add]
    exact Nat.mul_le_mul_right _ (Nat.log2_self_le positive.ne')
  · rw [Nat.add_right_comm, Nat.pow_add]
    exact Nat.mul_lt_mul_of_pos_right Nat.lt_log2_self (Nat.two_pow_pos places)

/-- A whole number of 64 bits has the magnitude nearest to it. -/
theorem exists_toFloat_eq (whole : UInt64) :
    ∃ result, IsNearest whole.toNat result ∧
      whole.toFloat = ofCode false (min result infinity) := by
  have unpacked : whole.toFloat = Float.ofModel (pack (UnpackedFloat.ofNat Format.binary64
    whole.toNat)) := rfl
  rw [unpacked, UnpackedFloat.ofNat, UnpackedFloat.ofInt, UnpackedFloat.normalize]
  generalize whole.toNat = number
  rcases Nat.eq_zero_or_pos number with rfl | positive
  · refine ⟨0, ?_, ofModel_pack_zero .positive⟩
    rw [Nat.cast_zero]
    exact isNearest_zero_zero
  have compared : compare (number : ℤ) 0 = .gt :=
    Int.compare_eq_gt.mpr (by exact_mod_cast positive)
  rw [compared]
  simp only [Int.toNat_natCast]
  unfold UnpackedFloat.round UnpackedFloat.decreaseExponent
  simp only [Nat.shiftLeft_eq]
  have target := targetExponent_eq number 0
  generalize Format.binary64.targetExponent (totalExponent number 0) = chosen at target ⊢
  generalize count : (0 - chosen).toNat = places
  have low : (0 - places : ℤ) ≤ Format.binary64.targetExponent
      (totalExponent (number * 2 ^ places) (0 - places)) := by
    rw [targetExponent_eq, log2_mul_two_pow positive]
    push_cast
    omega
  obtain ⟨result, nearest, same⟩ := exists_ofModel_pack_roundWithAccuracy .positive
    (liesAt_exact (number * 2 ^ places)) low
  refine ⟨result, ?_, same⟩
  convert nearest using 1
  rw [zero_sub, zpow_neg, zpow_natCast]
  push_cast
  field_simp

/-! ### Signs and zero -/

theorem neg_eq {number : Float} (finite : code number < infinity) :
    -number = ofCode (!isNegative number) (code number) := by
  have unpacked : -number = Float.ofModel (pack number.toModel.unpack.neg) := rfl
  obtain ⟨sign, minus, cases⟩ := unpack_cases finite
  have negated : isMinus (-sign) = !isNegative number := by
    rw [← minus]
    cases sign
    all_goals rfl
  rw [← negated, unpacked]
  rcases cases with ⟨none, zero⟩ | ⟨shift, significand, positive, run, filled⟩
  · rw [zero, none]
    exact ofModel_pack_zero _
  · have packed := ofModel_pack_finite run (-sign) positive
    rw [min_eq_left finite.le] at packed
    rw [filled]
    exact packed

/-- A finite number equals zero exactly if its magnitude is zero. -/
theorem beq_zero_iff {number : Float} (finite : code number < infinity) :
    (number == 0.0) = true ↔ code number = 0 := by
  have zero : (0.0 : Float).toModel.unpack = .zero .positive := rfl
  have compared : (number == 0.0) = number.toModel.unpack.beq (0.0 : Float).toModel.unpack := rfl
  obtain ⟨sign, -, cases⟩ := unpack_cases finite
  rw [compared, zero]
  rcases cases with ⟨none, unpacked⟩ | ⟨shift, significand, positive, run, unpacked⟩
  · rw [unpacked]
    exact iff_of_true rfl none
  · rw [unpacked]
    refine iff_of_false ?_ ?_
    · cases sign
      all_goals exact Bool.false_ne_true
    · have place := run.code_eq
      omega

end Worksheet.Binary64
