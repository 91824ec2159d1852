import Worksheet.Address
import Worksheet.Json.Basic
import Worksheet.Number.Numeral
import Worksheet.Number.Shortest

/-!
# Numbers in snapshots

The numerals by which snapshots keep numbers. A number is written with its shortest digits, in
positional notation with a place after the point while its leading digit counts from `10 ^ -5` up to
`10 ^ 15`, and with a power of ten otherwise.

A numeral is read quickly rather than exactly: its digits are taken in as long as they make up a
whole number of 64 bits, and that number is scaled by one power of ten, with a rounding at each of
these steps. The result can therefore differ from the nearest number in its last bits.
-/

set_option autoImplicit false
set_option relaxedAutoImplicit false

namespace Worksheet.Snapshot

/-! ### Writing -/

/-- The numeral of a finite number. -/
def writtenNumeral (number : Float) : Json.Numeral :=
  let decimal := Binary64.shortest .even (Binary64.code number)
  let negative := Binary64.isNegative number
  let leading := decimal.leadingExponent
  if -5 ≤ leading ∧ leading < 16 then
    let (whole, fraction) := decimal.places
    ⟨negative, whole, some (if fraction = [] then ['0'] else fraction), none⟩
  else
    let fraction := decimal.digits.drop 1
    ⟨negative, decimal.digits.take 1, if fraction = [] then none else some fraction,
      some (leading < 0, Nat.toDigits 10 leading.natAbs)⟩

/-- A number as it is kept. Numbers that are not finite have no numeral and are kept as null. -/
def numberJson (number : Float) : Json :=
  if number.isFinite then .number (writtenNumeral number) else .null

/-! ### Reading -/

/-- What a significand is below: the number of numbers of 64 bits. -/
def significandBound : Nat := 0x10000000000000000

/-- The value of a digit. -/
def digitValue (digit : Char) : Nat := digit.toNat - '0'.toNat

/-- Takes digits before the point into a significand of 64 bits, and gives the number of those left
out. -/
def takeWhole : Nat → List Char → Nat × Nat
  | significand, [] => (significand, 0)
  | significand, digit :: rest =>
    let next := 10 * significand + digitValue digit
    if next < significandBound then takeWhole next rest else (significand, rest.length + 1)

/-- Takes digits after the point into a significand of 64 bits, and gives the number of those taken
in. -/
def takeFraction : Nat → List Char → Nat × Nat
  | significand, [] => (significand, 0)
  | significand, digit :: rest =>
    let next := 10 * significand + digitValue digit
    if next < significandBound then
      let (last, places) := takeFraction next rest
      (last, places + 1)
    else (significand, 0)

/-- The significand and the power of ten that a numeral is read as. -/
def significandOf (numeral : Json.Numeral) : Nat × Int :=
  let (whole, leftOut) := takeWhole 0 numeral.whole
  let (significand, places) := takeFraction whole (numeral.fraction.getD [])
  let power : Int :=
    match numeral.power with
    | none => 0
    | some (true, digits) => -(digitsValue digits : Int)
    | some (false, digits) => digitsValue digits
  (significand, leftOut - places + power)

/-- The number nearest to a power of ten. -/
def powerOfTen (exponent : Nat) : Float :=
  Binary64.ofCode false (Decimal.nearestCode ⟨1, exponent⟩)

/-- Multiplies a number by a power of ten, unless the product is not finite. There is a power of ten
as a number up to `10 ^ 308`; a power below `10 ^ -308` takes two divisions, and one below
`10 ^ -616` leaves nothing of a significand. -/
def scale? (number : Float) (exponent : Int) : Option Float :=
  if number == 0.0 then some 0.0
  else if 308 < exponent then none
  else if 0 ≤ exponent then
    let product := number * powerOfTen exponent.natAbs
    if product.isFinite then some product else none
  else if -308 ≤ exponent then some (number / powerOfTen exponent.natAbs)
  else if -616 ≤ exponent then
    some (number / powerOfTen 308 / powerOfTen (exponent.natAbs - 308))
  else some 0.0

/-- The number that a numeral is read as, unless it is too large. -/
def readNumeral? (numeral : Json.Numeral) : Option Float :=
  let (significand, exponent) := significandOf numeral
  (scale? (UInt64.ofNat significand).toFloat exponent).map fun number ↦
    if numeral.negative then -number else number

/-- The count that a numeral is read as: a whole number of 32 bits that is written without a sign, a
point or a power of ten. -/
def readCount? (numeral : Json.Numeral) : Option UInt32 :=
  if !numeral.negative ∧ numeral.fraction = none ∧ numeral.power = none ∧
      digitsValue numeral.whole < Address.lineBound then
    some (UInt32.ofNat (digitsValue numeral.whole))
  else none

end Worksheet.Snapshot
