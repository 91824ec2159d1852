import Worksheet.Evaluation

/-!
# Entering values and formulas

Writing to a sheet as a user does. Typed text that begins with an equals sign is a formula, which is
evaluated at once and stored with its result, also when it fails; any other text becomes a value.
Each operation names its cell by A1 text, and fails for a text that is no address without changing
the sheet.
-/

set_option autoImplicit false
set_option relaxedAutoImplicit false

namespace Worksheet.Sheet

/-- The value of a formula text as the content of a cell, with the built-in functions. -/
def evaluateCell (sheet : Sheet) (target : Address) (text : String) : Value :=
  (Context.builtIn sheet).evaluateCell target text

/-- Whether typed text is a formula. -/
def isFormulaText (text : String) : Bool := text.toList.head? = some '='

/-- Evaluates a formula for a cell and stores it there with its result. Text that is no formula is
its own value. -/
def applyFormulaAt (sheet : Sheet) (address : Address) (text : String) : Sheet × Value :=
  let value := sheet.evaluateCell address text
  let cell :=
    if isFormulaText text then Cell.ofFormula address text value else Cell.ofValue address value
  (sheet.put cell, value)

/-- Stores a value at an address in place of whatever was there. -/
def setValueAt (sheet : Sheet) (address : Address) (value : Value) : Sheet :=
  sheet.put (Cell.ofValue address value)

/-- Stores typed text at an address, as a formula or as a value. -/
def enterAt (sheet : Sheet) (address : Address) (input : String) : Sheet × Value :=
  if isFormulaText input then sheet.applyFormulaAt address input
  else
    let value := Value.ofInput input
    (sheet.setValueAt address value, value)

/-- Evaluates a formula for the cell that a text names, and stores it there. -/
def applyFormula (sheet : Sheet) (place text : String) : Except SheetError (Sheet × Value) :=
  (Address.parse place).map fun address ↦ sheet.applyFormulaAt address text

/-- Stores typed text at the cell that a text names. -/
def enter (sheet : Sheet) (place input : String) : Except SheetError (Sheet × Value) :=
  (Address.parse place).map fun address ↦ sheet.enterAt address input

/-- Stores a value at the cell that a text names. -/
def setValue (sheet : Sheet) (place : String) (value : Value) : Except SheetError Sheet :=
  (Address.parse place).map fun address ↦ sheet.setValueAt address value

/-- Removes the cell that a text names, and gives the removed record. -/
def clearText (sheet : Sheet) (place : String) : Except SheetError (Sheet × Option Cell) :=
  (Address.parse place).map fun address ↦ (sheet.clear address, sheet.cell? address)

end Worksheet.Sheet
