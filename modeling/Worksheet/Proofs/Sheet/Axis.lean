import Worksheet.Proofs.Session

/-!
# Rows and columns alike

What is done with rows is also done with columns. `Axis` stands for one of the two directions in
which a sheet has lines, so that what holds of both is said once.
-/

set_option autoImplicit false
set_option relaxedAutoImplicit false

namespace Worksheet

/-- The last line that there can be. -/
def lastLine : UInt32 := UInt32.ofNat 0xffffffff

/-- The two directions in which a sheet has lines. -/
inductive Axis where
  /-- The lines are the rows. -/
  | row
  /-- The lines are the columns. -/
  | column
deriving DecidableEq

namespace Axis

/-- The other direction. -/
def across : Axis → Axis
  | row => column
  | column => row

/-- The line on which an address is. -/
def line : Axis → Address → UInt32
  | row => Address.row
  | column => Address.column

/-- The address at the same place of another line. -/
def onLine : Axis → Address → UInt32 → Address
  | row, address, line => { address with row := line }
  | column, address, line => { address with column := line }

/-- The number of lines of a sheet. -/
def count : Axis → Sheet → UInt32
  | row => Sheet.rowCount
  | column => Sheet.columnCount

/-- Changes the lines of a sheet. -/
def shift : Axis → Sheet → Shift → Except SheetError Sheet
  | row => Sheet.shiftRows
  | column => Sheet.shiftColumns

/-- Changes the lines as an operation on a sheet. -/
def edit : Axis → Shift → Edit
  | row => .rows
  | column => .columns

/-- Inserts an empty line. -/
def insert : Axis → Sheet → UInt32 → Except SheetError Sheet
  | row => Sheet.insertRow
  | column => Sheet.insertColumn

/-- Deletes a line. -/
def delete : Axis → Sheet → UInt32 → Except SheetError Sheet
  | row => Sheet.deleteRow
  | column => Sheet.deleteColumn

/-- The failure of an edit past the end of the lines. -/
def outOfBounds : Axis → UInt32 → UInt32 → SheetError
  | row => .rowOutOfBounds
  | column => .columnOutOfBounds

variable {axis : Axis} {address : Address}

@[simp] theorem line_onLine (line : UInt32) : axis.line (axis.onLine address line) = line := by
  cases axis <;> rfl

@[simp] theorem line_across_onLine (line : UInt32) :
    axis.across.line (axis.onLine address line) = axis.across.line address := by
  cases axis <;> rfl

@[simp] theorem onLine_line (axis : Axis) (address : Address) :
    axis.onLine address (axis.line address) = address := by
  cases axis <;> rfl

@[simp] theorem onLine_onLine (line other : UInt32) :
    axis.onLine (axis.onLine address line) other = axis.onLine address other := by
  cases axis <;> rfl

theorem count_put (axis : Axis) (sheet : Sheet) (cell : Cell) :
    axis.count (sheet.put cell) =
      max (axis.count sheet) (Address.oneMore (axis.line cell.address)) := by
  cases axis <;> rfl

theorem insert_eq_shift (axis : Axis) (sheet : Sheet) (index : UInt32) :
    axis.insert sheet index = axis.shift sheet (.insert index) := by
  cases axis <;> rfl

theorem delete_eq_shift (axis : Axis) (sheet : Sheet) (index : UInt32) :
    axis.delete sheet index = axis.shift sheet (.delete index) := by
  cases axis <;> rfl

theorem edit_eq_orElse (axis : Axis) (sheet : Sheet) (shift : Shift) :
    sheet.edit (axis.edit shift) = sheet.orElse (axis.shift sheet shift) := by
  cases axis <;> rfl

end Axis

end Worksheet
