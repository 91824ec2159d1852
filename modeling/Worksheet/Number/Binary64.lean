/-!
# Magnitudes of binary64 numbers

The magnitudes of binary64 numbers, numbered from zero upwards. A finite magnitude is a whole
number of units of `2 ^ -1074`, and `units` gives that number from the code, the 63 bits that
follow the sign. Codes are in the order of the magnitudes, so the neighbours of a magnitude have
the neighbouring codes and the tie of a rounding is settled by the parity of a code. `nearest` is
the code of the magnitude nearest to a quotient, and `ofCode` and `code` pass between codes and
floating-point numbers.
-/

set_option autoImplicit false
set_option relaxedAutoImplicit false

namespace Worksheet.Binary64

/-- The number of codes in a run, which is `2 ^ 52`. -/
def runLength : Nat := 0x10000000000000

/-- The number of codes, and the weight of the sign bit: `2 ^ 63`. -/
def codeCount : Nat := 0x8000000000000000

/-- The number of units in one. -/
def unitsInOne : Nat := Nat.pow 2 1074

/-- The code of the infinite magnitude. The finite magnitudes have the codes below it. -/
def infinity : Nat := 2047 * runLength

/-- The magnitude with a code, in units of `2 ^ -1074`. Each run of codes has steps twice as long as
the run before it, except that the first two runs have steps of one unit. -/
def units (code : Nat) : Nat :=
  if code < runLength then code
  else (runLength + code % runLength) * Nat.pow 2 (code / runLength - 1)

/-- The code of the magnitude nearest to `numerator / denominator`; of two equally near ones, the
one with an even code. The codes from `infinity` on stand for quotients that are too large.

The quotient lies in a step between two codes. The lower one has the leading 53 bits of the
quotient, counted in units, and the remainder decides between the two. -/
def nearest (numerator denominator : Nat) : Nat :=
  let scaled := numerator * unitsInOne
  let whole := scaled / denominator
  let shift := whole.log2 - 52
  let significand := whole / Nat.pow 2 shift
  let lower := shift * runLength + significand
  let step := denominator * Nat.pow 2 shift
  let rest := scaled - significand * step
  if 2 * rest < step ∨ (2 * rest = step ∧ lower % 2 = 0) then lower else lower + 1

/-- The number with a sign and the code of a magnitude. -/
def ofCode (negative : Bool) (code : Nat) : Float :=
  Float.ofBits (UInt64.ofNat (if negative then codeCount + code else code))

/-- The code of the magnitude of a number. -/
def code (number : Float) : Nat := number.toBits.toNat % codeCount

/-- Whether the sign bit of a number is set; it is for negative zero. -/
def isNegative (number : Float) : Bool := codeCount ≤ number.toBits.toNat

end Worksheet.Binary64
