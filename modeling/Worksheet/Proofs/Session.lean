import Worksheet.Entry
import Worksheet.Recalculation
import Worksheet.Sheet.Shift
import Worksheet.Sheet

/-!
# Sessions

The operations on a sheet and what a sequence of them does. An operation that fails leaves the sheet
as it was, and the session goes on.
-/

set_option autoImplicit false
set_option relaxedAutoImplicit false

namespace Worksheet

/-- An operation on a sheet. -/
inductive Edit where
  /-- Types a text into a cell. -/
  | enter (place input : String)
  /-- Evaluates a formula for a cell and stores it there. -/
  | applyFormula (place text : String)
  /-- Stores a value in a cell. -/
  | setValue (place : String) (value : Value)
  /-- Stores a cell. -/
  | put (cell : Cell)
  /-- Removes a cell. -/
  | clear (place : String)
  /-- Removes all cells. -/
  | clearAll
  /-- Inserts or deletes a row. -/
  | rows (shift : Shift)
  /-- Inserts or deletes a column. -/
  | columns (shift : Shift)
  /-- Recalculates all formulas, or those up to the first failure. -/
  | recalculate (stopOnError : Bool)
  /-- Takes a snapshot and restores the sheet from it. -/
  | restore

/-- Whether an operation leaves cells where they are and stores a formula only with the value that
it has. -/
def Edit.isEntry : Edit → Bool
  | enter _ _ | applyFormula _ _ | setValue _ _ | clear _ | recalculate _ => true
  | put _ | clearAll | rows _ | columns _ | restore => false

namespace Sheet

/-- The sheet that an operation gives, or the one from before if it fails. -/
def orElse {ε : Type} (sheet : Sheet) : Except ε Sheet → Sheet
  | .ok later => later
  | .error _ => sheet

/-- The sheet after an operation. -/
def edit (sheet : Sheet) : Edit → Sheet
  | .enter place input => sheet.orElse ((sheet.enter place input).map Prod.fst)
  | .applyFormula place text => sheet.orElse ((sheet.applyFormula place text).map Prod.fst)
  | .setValue place value => sheet.orElse (sheet.setValue place value)
  | .put cell => sheet.put cell
  | .clear place => sheet.orElse ((sheet.clearText place).map Prod.fst)
  | .clearAll => sheet.clearAll
  | .rows shift => sheet.orElse (sheet.shiftRows shift)
  | .columns shift => sheet.orElse (sheet.shiftColumns shift)
  | .recalculate stopOnError => (sheet.recalculate stopOnError).1
  | .restore => sheet.snapshot.restore

/-- The sheet after a session. -/
def session (sheet : Sheet) (edits : List Edit) : Sheet := edits.foldl edit sheet

end Sheet

end Worksheet
