import Worksheet.Entry

/-!
# Recalculation

Evaluating every formula of a sheet anew, in row-major order. Each result is written back before the
next formula is evaluated. The pass can be told to stop after the first failure, and it reports what
it did.
-/

set_option autoImplicit false
set_option relaxedAutoImplicit false

namespace Worksheet

/-- What a recalculation did. -/
structure RecalculationReport where
  /-- The number of formula cells. -/
  formulaCount : Nat
  /-- The number of cells whose result was written. -/
  calculatedCount : Nat
  /-- The number of failures among those results. -/
  errorCount : Nat
deriving DecidableEq, Repr

namespace Sheet

/-- Evaluates the formula of the cell at an address anew and stores its result. There is nothing to
do at an address without a formula. -/
def recalculateAt? (sheet : Sheet) (address : Address) : Option (Sheet × Value) :=
  ((sheet.cell? address).bind Cell.formula).map fun formula ↦
    let value := sheet.evaluateCell address formula
    (sheet.put (Cell.ofFormula address formula value), value)

/-- Recalculates the cells at some addresses, and counts the results and the failures. -/
def recalculateCells (stopOnError : Bool) :
    List Address → Sheet → RecalculationReport → Sheet × RecalculationReport
  | [], sheet, report => (sheet, report)
  | address :: later, sheet, report =>
    match sheet.recalculateAt? address with
    | none => recalculateCells stopOnError later sheet report
    | some (sheet, value) =>
      let report := { report with
        calculatedCount := report.calculatedCount + 1
        errorCount := report.errorCount + (if value.isError then 1 else 0) }
      if value.isError && stopOnError then (sheet, report)
      else recalculateCells stopOnError later sheet report

/-- Recalculates all formula cells, or those up to the first failure. -/
def recalculate (sheet : Sheet) (stopOnError : Bool) : Sheet × RecalculationReport :=
  let order := sheet.formulaAddresses
  recalculateCells stopOnError order sheet ⟨order.length, 0, 0⟩

end Sheet

end Worksheet
