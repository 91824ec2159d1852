import Mathlib
import Worksheet.Proofs.Number.Finite
import Worksheet.Proofs.Number.Magnitudes

/-!
# Codes and floating-point numbers

A number is its sign and the code of its magnitude (`ofCode_code`). It is finite exactly if the code
is below that of infinity, and its exact value is then the magnitude with the sign
(`exactValue?_eq`); a larger code than that of infinity is no number (`isNaN_iff`). The code and the
sign of an encoded number are those that it was encoded from (`code_ofCode`, `isNegative_ofCode`).
-/

set_option autoImplicit false
set_option relaxedAutoImplicit false

namespace Worksheet.Binary64

open Float.Model

/-! ### Fields -/

section Fields

variable (bits : UInt64)

theorem toNat_unpackExponent :
    (@UnpackedFloat.unpackExponent Format.binary64 bits.toBitVec).toNat =
      bits.toNat / runLength % 2048 := by
  show (bits.toNat >>> 52) % 2048 = _
  rw [Nat.shiftRight_eq_div_pow]
  rfl

theorem unpackExponent_eq_last_iff :
    @UnpackedFloat.unpackExponent Format.binary64 bits.toBitVec = -1#11 ↔
      bits.toNat / runLength % 2048 = 2047 := by
  rw [← BitVec.toNat_inj, toNat_unpackExponent]
  rfl

theorem unpackExponent_eq_zero_iff :
    @UnpackedFloat.unpackExponent Format.binary64 bits.toBitVec = 0#11 ↔
      bits.toNat / runLength % 2048 = 0 := by
  rw [← BitVec.toNat_inj, toNat_unpackExponent]
  rfl

theorem toNat_unpackMantissa :
    (@UnpackedFloat.unpackMantissa Format.binary64 bits.toBitVec).toNat =
      bits.toNat % runLength := by
  show (bits.toNat >>> 0) % 2 ^ 52 = _
  rw [Nat.shiftRight_zero]
  rfl

theorem unpackMantissa_eq_zero_iff :
    @UnpackedFloat.unpackMantissa Format.binary64 bits.toBitVec = 0#52 ↔
      bits.toNat % runLength = 0 := by
  rw [← BitVec.toNat_inj, toNat_unpackMantissa]
  rfl

/-- Whether an unpacked sign is a minus sign. -/
def isMinus : UnpackedFloat.Sign → Bool
  | .negative => true
  | .positive => false

theorem isMinus_unpackSign :
    isMinus (.ofBitVec (@UnpackedFloat.unpackSign Format.binary64 bits.toBitVec)) =
      decide (codeCount ≤ bits.toNat) := by
  have toNat : (@UnpackedFloat.unpackSign Format.binary64 bits.toBitVec).toNat =
      bits.toNat / codeCount % 2 := by
    show (bits.toNat >>> 63) % 2 ^ 1 = _
    rw [Nat.shiftRight_eq_div_pow]
    rfl
  have range := bits.toNat_lt
  have zero : @UnpackedFloat.unpackSign Format.binary64 bits.toBitVec = 0#1 ↔
      ¬ codeCount ≤ bits.toNat := by
    rw [← BitVec.toNat_inj, toNat]
    show bits.toNat / codeCount % 2 = 0 ↔ _
    unfold codeCount
    omega
  unfold UnpackedFloat.Sign.ofBitVec
  simp only [zero, ite_not]
  split
  · next set => exact (decide_eq_true set).symm
  · next clear => exact (decide_eq_false clear).symm

end Fields

/-! ### The exact value -/

/-- A value with a sign. -/
def signed (negative : Bool) (value : ℚ) : ℚ := if negative then -value else value

/-- The exact value of an unpacked number, if it is finite. -/
def exactValueOf? : UnpackedFloat → Option ℚ
  | .zero _ => some 0
  | .finite sign significand exponent _ => some (signed (isMinus sign) (significand * 2 ^ exponent))
  | .infinity _ | .notANumber => none

/-- The exact value of a number, if it is finite. -/
def exactValue? (number : Float) : Option ℚ := exactValueOf? number.toModel.unpack

theorem isFinite_eq_isSome (number : Float) : number.isFinite = (exactValue? number).isSome := by
  show number.toModel.unpack.isFinite = (exactValueOf? number.toModel.unpack).isSome
  match number.toModel.unpack with
  | .zero _ | .finite .. | .infinity _ | .notANumber => rfl

/-- The magnitude that a significand and a field for the exponent encode. -/
theorem magnitude_of_fields {field significand : ℕ} (later : 0 < field)
    (short : significand < 2 * runLength) (normal : field = 1 ∨ runLength ≤ significand) :
    magnitude ((field - 1) * runLength + significand) =
      significand * 2 ^ ((field : ℤ) - 1075) := by
  have run : OnRun ((field - 1) * runLength + significand) (field - 1) significand :=
    ⟨rfl, short, normal.imp_left fun first ↦ by rw [first]⟩
  have two : (2 : ℚ) ≠ 0 := two_ne_zero
  have split : (field : ℤ) - 1075 = ((field - 1 : ℕ) : ℤ) - (1074 : ℕ) := by omega
  rw [magnitude, run.units_eq, unitsInOne_eq, split, zpow_sub₀ two, zpow_natCast, zpow_natCast]
  rw [Nat.cast_mul, Nat.cast_pow, Nat.cast_pow, Nat.cast_ofNat, mul_div_assoc]

section Unpacking

variable {bits : UInt64}

/-- The largest exponent is that of infinity, or of no number when other bits are set. -/
theorem unpack_of_last (last : bits.toNat / runLength % 2048 = 2047) :
    UnpackedFloat.unpack Format.binary64 bits.toBitVec =
      if bits.toNat % runLength = 0
      then .infinity (.ofBitVec (@UnpackedFloat.unpackSign Format.binary64 bits.toBitVec))
      else .notANumber := by
  unfold UnpackedFloat.unpack
  simp only [← unpackMantissa_eq_zero_iff]
  exact if_pos ((unpackExponent_eq_last_iff bits).mpr last)

/-- The exact value with any other exponent. -/
theorem exactValueOf?_unpack (notLast : bits.toNat / runLength % 2048 ≠ 2047) :
    exactValueOf? (UnpackedFloat.unpack Format.binary64 bits.toBitVec) =
      some (signed (decide (codeCount ≤ bits.toNat))
        (magnitude (bits.toNat / runLength % 2048 * runLength + bits.toNat % runLength))) := by
  have short := Nat.mod_lt bits.toNat (by decide : 0 < runLength)
  have bias : (Format.binary64.exponentBias : ℤ) = 1023 := rfl
  unfold UnpackedFloat.unpack
  simp only
  rw [if_neg ((unpackExponent_eq_last_iff bits).not.mpr notLast)]
  split
  · next subnormal =>
    have field := (unpackExponent_eq_zero_iff bits).mp subnormal
    split
    · next zero =>
      have none := (unpackMantissa_eq_zero_iff bits).mp zero
      rw [field, none, Nat.zero_mul, magnitude_zero, exactValueOf?]
      simp [signed]
    · have same := magnitude_of_fields Nat.one_pos
        (by omega : bits.toNat % runLength < 2 * runLength) (Or.inl rfl)
      rw [Nat.sub_self] at same
      rw [exactValueOf?, isMinus_unpackSign, toNat_unpackMantissa, toNat_unpackExponent, bias,
        field, same]
      norm_num
  · next normal =>
    have later := (unpackExponent_eq_zero_iff bits).not.mp normal
    have same := magnitude_of_fields (Nat.pos_of_ne_zero later)
      (by omega : runLength + bits.toNat % runLength < 2 * runLength) (Or.inr (by omega))
    have leading : (1#1 ++ @UnpackedFloat.unpackMantissa Format.binary64 bits.toBitVec).toNat =
        runLength + bits.toNat % runLength := by
      rw [BitVec.toNat_append, toNat_unpackMantissa]
      exact (Nat.two_pow_add_eq_or_of_lt (i := 52) short 1).symm
    have place : bits.toNat / runLength % 2048 * runLength + bits.toNat % runLength =
        (bits.toNat / runLength % 2048 - 1) * runLength + (runLength + bits.toNat % runLength) := by
      rw [← Nat.add_assoc, ← Nat.succ_mul, Nat.succ_eq_add_one, Nat.sub_add_cancel (by omega)]
    rw [exactValueOf?, isMinus_unpackSign, leading, toNat_unpackExponent, bias, place, same]
    rfl

end Unpacking

theorem mod_codeCount (word : ℕ) :
    word % codeCount = word / runLength % 2048 * runLength + word % runLength := by
  have count : codeCount = runLength * 2048 := by decide
  rw [count, Nat.mod_mul, Nat.add_comm, Nat.mul_comm]

theorem mod_codeCount_lt_infinity {word : ℕ} :
    word % codeCount < infinity ↔ word / runLength % 2048 ≠ 2047 := by
  have short := Nat.mod_lt word (by decide : 0 < runLength)
  rw [mod_codeCount, infinity]
  unfold runLength at *
  omega

/-! ### Numbers -/

variable {number : Float}

/-- A number is its sign and the code of its magnitude. -/
theorem ofCode_code (number : Float) : ofCode (isNegative number) (code number) = number := by
  have range := number.toBits.toNat_lt
  have word : (if isNegative number then codeCount + code number else code number) =
      number.toBits.toNat := by
    unfold isNegative code codeCount
    split
    · next set =>
      have := of_decide_eq_true set
      omega
    · next clear =>
      have := of_decide_eq_false (Bool.eq_false_of_not_eq_true clear)
      omega
  rw [ofCode, word, UInt64.ofNat_toNat, Float.ofBits_toBits]

/-- The exact value of a finite number is its magnitude with its sign. -/
theorem exactValue?_eq (below : code number < infinity) :
    exactValue? number = some (signed (isNegative number) (magnitude (code number))) := by
  have value := exactValueOf?_unpack (mod_codeCount_lt_infinity.mp below)
  rwa [← mod_codeCount] at value

/-- A number is finite exactly if its code is below that of infinity. -/
theorem isFinite_iff : number.isFinite ↔ code number < infinity := by
  constructor
  · intro finite
    by_contra beyond
    have last := not_not.mp (mod_codeCount_lt_infinity.not.mp beyond)
    have unpacked := unpack_of_last last
    have shown : number.isFinite =
      (UnpackedFloat.unpack Format.binary64 number.toBits.toBitVec).isFinite := rfl
    rw [shown, unpacked] at finite
    split at finite
    · cases finite
    · cases finite
  · intro below
    rw [isFinite_eq_isSome, exactValue?_eq below]
    rfl

/-- The codes beyond that of infinity are no numbers. -/
theorem isNaN_iff : number.isNaN ↔ infinity < code number := by
  have place : code number = _ := mod_codeCount number.toBits.toNat
  have short := Nat.mod_lt number.toBits.toNat (by decide : 0 < runLength)
  have shown : number.isNaN =
    (UnpackedFloat.unpack Format.binary64 number.toBits.toBitVec).isNaN := rfl
  by_cases finite : code number < infinity
  · have value := exactValueOf?_unpack (mod_codeCount_lt_infinity.mp finite)
    have notNaN : number.isNaN = false := by
      rw [shown]
      match UnpackedFloat.unpack Format.binary64 number.toBits.toBitVec, value with
      | .zero _, _ | .finite .., _ => rfl
    rw [notNaN]
    simp only [Bool.false_eq_true, false_iff]
    omega
  · have last := not_not.mp (mod_codeCount_lt_infinity.not.mp finite)
    rw [shown, unpack_of_last last, place, last, infinity]
    split
    · next none =>
      simp [UnpackedFloat.isNaN, none]
    · next other =>
      simp only [UnpackedFloat.isNaN, true_iff]
      omega

/-! ### Encoded numbers -/

/-- Bits that stand for a number or for infinity are kept. -/
theorem toBits_ofBits {bits : UInt64} (most : bits.toNat % codeCount ≤ infinity) :
    (Float.ofBits bits).toBits = bits := by
  have number : ¬ @UnpackedFloat.isNaNBits Format.binary64 bits.toBitVec := by
    intro nan
    obtain ⟨exponent, mantissa⟩ := of_decide_eq_true nan
    have last := (unpackExponent_eq_last_iff bits).mp exponent
    have other := (unpackMantissa_eq_zero_iff bits).not.mp mantissa
    rw [mod_codeCount, last, infinity] at most
    omega
  have kept := @UnpackedFloat.pack_unpack Format.binary64 bits.toBitVec (by decide)
  rw [if_neg number] at kept
  exact UInt64.toBitVec_inj.mp kept

section OfCode

variable {magnitudeCode : ℕ} (most : magnitudeCode ≤ infinity) (negative : Bool)

include most

theorem toNat_toBits_ofCode :
    (ofCode negative magnitudeCode).toBits.toNat =
      if negative then codeCount + magnitudeCode else magnitudeCode := by
  have count : codeCount = 2 ^ 63 := by decide
  have limit : infinity < 2 ^ 63 := by decide
  have fits : (if negative then codeCount + magnitudeCode else magnitudeCode) < 2 ^ 64 := by
    split <;> omega
  have word := UInt64.toNat_ofNat_of_lt' fits
  rw [ofCode, toBits_ofBits, word]
  rw [word]
  split
  · rw [Nat.add_mod_left, Nat.mod_eq_of_lt (by omega)]
    exact most
  · rw [Nat.mod_eq_of_lt (by omega)]
    exact most

theorem code_ofCode : code (ofCode negative magnitudeCode) = magnitudeCode := by
  have small : magnitudeCode < codeCount := most.trans_lt (by decide)
  rw [code, toNat_toBits_ofCode most]
  split
  · rw [Nat.add_mod_left, Nat.mod_eq_of_lt small]
  · exact Nat.mod_eq_of_lt small

theorem isNegative_ofCode : isNegative (ofCode negative magnitudeCode) = negative := by
  have small : magnitudeCode < codeCount := most.trans_lt (by decide)
  rw [isNegative, toNat_toBits_ofCode most]
  cases negative with
  | true => exact decide_eq_true (Nat.le_add_right _ _)
  | false => exact decide_eq_false (Nat.not_le.mpr small)

end OfCode

/-- The exact value of an encoded number is the magnitude that it was encoded from. -/
theorem exactValue?_ofCode {magnitudeCode : ℕ} (below : magnitudeCode < infinity)
    (negative : Bool) :
    exactValue? (ofCode negative magnitudeCode) =
      some (signed negative (magnitude magnitudeCode)) := by
  have same := code_ofCode below.le negative
  rw [exactValue?_eq (same.symm ▸ below), same, isNegative_ofCode below.le]

end Worksheet.Binary64
