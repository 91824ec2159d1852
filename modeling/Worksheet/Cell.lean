import Worksheet.Address
import Worksheet.Value

/-!
# Cells

The record of a stored cell. A cell is always written as a whole, so a formula and its result never
come apart.
-/

set_option autoImplicit false
set_option relaxedAutoImplicit false

namespace Worksheet

/-- A stored cell. -/
structure Cell where
  /-- The address that the record names as its own. -/
  address : Address
  /-- The value as it was entered; there is none beside a formula. -/
  raw : Value
  /-- The text of the formula, with its leading equals sign. -/
  formula : Option String
  /-- The result of the last evaluation, or the entered value of a cell without a formula. -/
  computed : Value
deriving DecidableEq

namespace Cell

/-- A cell with an entered value. -/
def ofValue (address : Address) (value : Value) : Cell := ⟨address, value, none, value⟩

/-- A cell with a formula and its result. -/
def ofFormula (address : Address) (formula : String) (computed : Value) : Cell :=
  ⟨address, .empty, some formula, computed⟩

/-- Whether a cell has a formula. -/
def isFormula (cell : Cell) : Bool := cell.formula.isSome

/-- The same contents under another address. -/
def movedTo (cell : Cell) (address : Address) : Cell := { cell with address }

end Cell

end Worksheet
