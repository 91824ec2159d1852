import Mathlib
import Worksheet.Value

/-!
# Finite numbers

The magnitudes with codes below that of infinity are finite (`Binary64.isFinite_ofCode`). A numeral
is only read as a number when its magnitude has such a code, so no text denotes a number that is not
finite (`isFinite_of_parseDecimal`), and none is entered as one (`Value.finite_ofInput`).
-/

set_option autoImplicit false
set_option relaxedAutoImplicit false

namespace Worksheet

/-! ### Finite encodings -/

namespace Binary64

open Float.Model

theorem isFinite_unpack {bits : BitVec Format.binary64.numBits}
    (exponent : UnpackedFloat.unpackExponent bits ≠ -1#_) :
    (UnpackedFloat.unpack Format.binary64 bits).isFinite := by
  unfold UnpackedFloat.unpack
  simp only [if_neg exponent]
  split
  · split <;> rfl
  · rfl

/-- A number is finite if its exponent is not the largest one. -/
theorem isFinite_ofBits {bits : UInt64} (exponent : bits.toNat / runLength % 2048 ≠ 2047) :
    (Float.ofBits bits).isFinite := by
  have notLast : @UnpackedFloat.unpackExponent Format.binary64 bits.toBitVec ≠ -1#_ := by
    intro last
    apply exponent
    have same : (bits.toNat >>> 52) % 2048 = 2047 := congrArg BitVec.toNat last
    rw [Nat.shiftRight_eq_div_pow] at same
    exact same
  have kept : (UnpackedFloat.unpack Format.binary64 bits.toBitVec).pack Format.binary64 =
      bits.toBitVec := by
    rw [UnpackedFloat.pack_unpack, if_neg]
    intro nan
    exact notLast (of_decide_eq_true nan).1
  show (UnpackedFloat.unpack Format.binary64
    ((UnpackedFloat.unpack Format.binary64 bits.toBitVec).pack Format.binary64)).isFinite
  rw [kept]
  exact isFinite_unpack notLast

/-- The magnitudes with codes below that of infinity are finite. -/
theorem isFinite_ofCode (negative : Bool) {code : Nat} (below : code < infinity) :
    (ofCode negative code).isFinite := by
  apply isFinite_ofBits
  rw [infinity] at below
  have fits : (if negative then codeCount + code else code) < 2 ^ 64 := by
    unfold codeCount
    unfold runLength at below
    split <;> omega
  rw [UInt64.toNat_ofNat_of_lt' fits]
  unfold codeCount runLength at *
  split <;> omega

end Binary64

/-! ### Numerals -/

theorem Decimal.lt_infinity_of_finiteCode? {decimal : Decimal} {code : Nat}
    (found : decimal.finiteCode? = some code) : code < Binary64.infinity := by
  unfold finiteCode? at found
  split at found
  · cases found
    decide
  split at found
  · cases found
  simp only at found
  split at found
  · rename_i below
    cases found
    exact below
  · cases found

/-- A text that denotes a number denotes a finite one. -/
theorem isFinite_of_parseDecimal {text : String} {number : Float}
    (found : parseDecimal text = some number) : number.isFinite := by
  obtain ⟨numeral, _, read⟩ := Option.bind_eq_some_iff.mp found
  obtain ⟨code, small, rfl⟩ := Option.map_eq_some_iff.mp read
  exact Binary64.isFinite_ofCode _ (Decimal.lt_infinity_of_finiteCode? small)

/-! ### Values -/

namespace Value

/-- A value is finite if it is no number or a finite one. -/
def Finite : Value → Prop
  | number n => n.isFinite
  | empty | text _ | error _ => True

/-- Typed text is never entered as a number that is not finite. -/
theorem finite_ofInput (input : String) : (ofInput input).Finite := by
  unfold ofInput
  split
  · trivial
  split
  · rename_i found
    exact isFinite_of_parseDecimal found
  · trivial

end Value

end Worksheet
