import Worksheet.Number.Binary64

/-!
# Decimals

Exact decimals with a power of ten, their correctly rounded binary64 readings, and their layout in
positional notation, which spells every place out.
-/

set_option autoImplicit false
set_option relaxedAutoImplicit false

namespace Worksheet

/-- The number `coefficient * 10 ^ exponent`. -/
structure Decimal where
  /-- The digits of the number, as a whole number. -/
  coefficient : Nat
  /-- The power of ten that the last digit counts. -/
  exponent : Int
deriving DecidableEq, Repr

namespace Decimal

/-- The decimal digits of the coefficient; zero has one digit. -/
def digits (decimal : Decimal) : List Char := Nat.toDigits 10 decimal.coefficient

/-- The power of ten that the leading digit counts. -/
def leadingExponent (decimal : Decimal) : Int :=
  decimal.exponent + decimal.digits.length - 1

/-- The code of the binary64 magnitude nearest to a decimal. -/
def nearestCode (decimal : Decimal) : Nat :=
  let power := Nat.pow 10 decimal.exponent.natAbs
  if decimal.exponent < 0 then Binary64.nearest decimal.coefficient power
  else Binary64.nearest (decimal.coefficient * power) 1

/-- The code of the finite magnitude nearest to a decimal, or `none` when the decimal is too large
for one. Decimals from `10 ^ 310` on are too large and those below `10 ^ -330` have the nearest
magnitude zero, so their powers of ten are never computed. -/
def finiteCode? (decimal : Decimal) : Option Nat :=
  if decimal.coefficient = 0 ∨ decimal.leadingExponent < -330 then some 0
  else if 310 ≤ decimal.leadingExponent then none
  else
    let code := decimal.nearestCode
    if code < Binary64.infinity then some code else none

/-- Takes the factors of ten of the coefficient into the exponent. -/
def normalize (decimal : Decimal) : Decimal :=
  if decimal.coefficient = 0 then ⟨0, 0⟩
  else
    let zeros := (decimal.digits.reverse.takeWhile (· == '0')).length
    ⟨decimal.coefficient / Nat.pow 10 zeros, decimal.exponent + zeros⟩

/-- The digits before and after the point in positional notation, where every digit stands in its
place and at least one stands before the point. -/
def places (decimal : Decimal) : List Char × List Char :=
  let digits := decimal.digits
  let shift := decimal.exponent.natAbs
  if 0 ≤ decimal.exponent then (digits ++ List.replicate shift '0', [])
  else if shift < digits.length then
    (digits.take (digits.length - shift), digits.drop (digits.length - shift))
  else (['0'], List.replicate (shift - digits.length) '0' ++ digits)

/-- Positional notation, with a point where there is a fraction. -/
def positional (decimal : Decimal) : List Char :=
  match decimal.places with
  | (whole, []) => whole
  | (whole, fraction) => whole ++ '.' :: fraction

end Decimal

end Worksheet
