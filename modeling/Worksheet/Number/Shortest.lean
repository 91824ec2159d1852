import Worksheet.Number.Decimal

/-!
# Shortest decimals

The shortest decimal that a correctly rounding reader takes back to a given binary64 magnitude. The
decimals that round to a magnitude fill the interval between the midpoints to its two neighbours,
ends included exactly when the code is even. On the grids of 1, 2, … 17 digits `shortest?` tests the
two decimals that enclose the magnitude; the first grid with a decimal in the interval wins, and of
two such decimals the nearer one.

A number is shown by its shortest digits in positional notation, never with a power of ten. An
integral number so has no point, and both zeros are `0`.
-/

set_option autoImplicit false
set_option relaxedAutoImplicit false

namespace Worksheet

namespace Binary64

/-- Which of two equally near decimals is taken. -/
inductive Tie where
  /-- The larger one. -/
  | upward
  /-- The one with an even last digit. -/
  | even
deriving DecidableEq, Repr

/-- The power of ten of the leading digit of a finite magnitude other than zero. -/
def leadingExponent (code : Nat) : Int :=
  ((Nat.toDigits 10 (units code * Nat.pow 10 330 / unitsInOne)).length : Int) - 331

/-- Whether a decimal, given as `steps * step / scale` half units, rounds to a magnitude. -/
def roundsTo (code steps step scale : Nat) : Bool :=
  let low := (units (code - 1) + units code) * scale
  let high := (units code + units (code + 1)) * scale
  let point := steps * step
  if code % 2 = 0 then low ≤ point ∧ point ≤ high else low < point ∧ point < high

/-- The decimal on the grid of `10 ^ exponent` that rounds to a magnitude, the nearest one if there
are two. A grid step is `step / scale` half units. -/
def onGrid? (tie : Tie) (code : Nat) (exponent : Int) : Option Decimal :=
  let power := Nat.pow 10 exponent.natAbs
  let step := if exponent < 0 then 2 * unitsInOne else power * (2 * unitsInOne)
  let scale := if exponent < 0 then power else 1
  let value := 2 * units code * scale
  let below := value / step
  let rest := value - below * step
  match roundsTo code below step scale, roundsTo code (below + 1) step scale with
  | true, true =>
    let takeBelow := 2 * rest < step ∨ (2 * rest = step ∧ tie = .even ∧ below % 2 = 0)
    some ⟨if takeBelow then below else below + 1, exponent⟩
  | true, false => some ⟨below, exponent⟩
  | false, true => some ⟨below + 1, exponent⟩
  | false, false => none

/-- The shortest decimal that rounds to a finite magnitude other than zero, as normalized digits.
Seventeen digits always suffice, so a magnitude of this kind has one. -/
def shortest? (tie : Tie) (code : Nat) : Option Decimal :=
  let leading := leadingExponent code
  ((List.range 17).findSome? fun (places : Nat) ↦ onGrid? tie code (leading - places)).map
    Decimal.normalize

/-- The shortest decimal of a finite magnitude; that of zero is zero. -/
def shortest (tie : Tie) (code : Nat) : Decimal := (shortest? tie code).getD ⟨0, 0⟩

end Binary64

/-! ### The text of a number -/

/-- The shortest decimal of a number as it is shown: of two equally near ones, the larger. -/
def shownDecimal (number : Float) : Decimal :=
  Binary64.shortest .upward (Binary64.code number)

/-- The text in which a number is shown. -/
def formatNumber (number : Float) : String :=
  if number.isNaN then "NaN"
  else
    let sign := if Binary64.isNegative number then ['-'] else []
    let code := Binary64.code number
    if code = Binary64.infinity then String.ofList (sign ++ ['i', 'n', 'f'])
    else if code = 0 then "0"
    else String.ofList (sign ++ (shownDecimal number).positional)

end Worksheet
