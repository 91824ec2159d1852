import Worksheet.Number.Decimal
import Worksheet.Text.Character

/-!
# Decimal numerals

The numerals that are read as numbers: an optional sign, digits with an optional point among or
around them, and an optional power of ten. `Numeral.read` takes a text apart, and `parseDecimal`
gives the correctly rounded value of a text with blanks around its numeral, unless that value is too
large to be finite.
-/

set_option autoImplicit false
set_option relaxedAutoImplicit false

namespace Worksheet

/-- The value of decimal digits, the leading one first. -/
def digitsValue (digits : List Char) : Nat :=
  digits.foldl (fun value digit ↦ 10 * value + (digit.toNat - '0'.toNat)) 0

/-- The parts of a decimal numeral. -/
structure Numeral where
  /-- Whether it begins with a minus sign. -/
  negative : Bool
  /-- The digits before the point. -/
  whole : List Char
  /-- The digits after the point. -/
  fraction : List Char
  /-- The power of ten that it names, or zero. -/
  power : Int
deriving DecidableEq, Repr

namespace Numeral

/-- Takes a leading sign off a text and says whether it is a minus sign. -/
def takeSign : List Char → Bool × List Char
  | '-' :: rest => (true, rest)
  | '+' :: rest => (false, rest)
  | text => (false, text)

/-- Reads what follows the digits of a numeral: nothing, or `e` or `E` and a power of ten. -/
def readPower : List Char → Option Int
  | [] => some 0
  | mark :: rest =>
    if mark = 'e' ∨ mark = 'E' then
      let (negative, digits) := takeSign rest
      if digits ≠ [] ∧ digits.all Char.isDigit then
        some (if negative then -(digitsValue digits : Int) else digitsValue digits)
      else none
    else none

/-- Takes the digits after a point off a text; without a point there are none. -/
def takeFraction : List Char → List Char × List Char
  | '.' :: rest => (rest.takeWhile Char.isDigit, rest.dropWhile Char.isDigit)
  | text => ([], text)

/-- Reads a numeral that is a whole text: an optional sign, digits with an optional point, at least
one digit in all, and an optional power of ten. -/
def read (text : List Char) : Option Numeral :=
  let (negative, unsigned) := takeSign text
  let whole := unsigned.takeWhile Char.isDigit
  let (fraction, afterFraction) := takeFraction (unsigned.dropWhile Char.isDigit)
  if whole = [] ∧ fraction = [] then none
  else (readPower afterFraction).map fun power ↦ ⟨negative, whole, fraction, power⟩

/-- The decimal that a numeral denotes, without its sign. -/
def decimal (numeral : Numeral) : Decimal :=
  ⟨digitsValue (numeral.whole ++ numeral.fraction), numeral.power - numeral.fraction.length⟩

/-- The nearest number to a numeral, or `none` when that number is not finite. -/
def toFloat? (numeral : Numeral) : Option Float :=
  numeral.decimal.finiteCode?.map (Binary64.ofCode numeral.negative)

end Numeral

/-- The number that a text denotes: the nearest one to the numeral between its blanks. There is none
for a text that is no numeral and for a numeral that is too large. -/
def parseDecimal (text : String) : Option Float :=
  (Numeral.read (Text.trim text.toList)).bind Numeral.toFloat?

end Worksheet
