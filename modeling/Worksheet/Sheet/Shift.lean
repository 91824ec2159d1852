import Worksheet.Sheet

/-!
# Inserting and deleting rows and columns

A row edit gives each stored cell a new row or drops it, and a column edit does the same with
columns; `Shift` is the rule for one index. The cells are stored again under their new addresses
with their contents unchanged, and the extent changes by one line. An edit outside the extent is an
error.
-/

set_option autoImplicit false
set_option relaxedAutoImplicit false

namespace Worksheet

/-- A change of the lines of a sheet at an index. -/
inductive Shift where
  /-- An empty line comes in at the index. -/
  | insert (index : UInt32)
  /-- The line at the index is taken out. -/
  | delete (index : UInt32)
deriving DecidableEq, Repr

namespace Shift

/-- Where a line goes, or `none` for a line that is lost: the one that is taken out, and the last
line there can be when one comes in before it. -/
def line? : Shift → UInt32 → Option UInt32
  | insert index, line =>
    if line < index then some line
    else if line = UInt32.ofNat 0xffffffff then none
    else some (line + 1)
  | delete index, line =>
    if line < index then some line
    else if line = index then none
    else some (line - 1)

/-- Whether a change is possible with a number of lines. -/
def isWithin : Shift → UInt32 → Bool
  | insert index, count => index ≤ count
  | delete index, count => index < count

/-- The index of a change. -/
def index : Shift → UInt32
  | insert index => index
  | delete index => index

/-- The number of lines after a change, held at the largest count. -/
def newCount : Shift → UInt32 → UInt32
  | insert _, count => Address.oneMore count
  | delete _, count => count - 1

/-- The address after a change of the rows. -/
def rowAddress? (shift : Shift) (address : Address) : Option Address :=
  (shift.line? address.row).map fun row ↦ { address with row }

/-- The address after a change of the columns. -/
def columnAddress? (shift : Shift) (address : Address) : Option Address :=
  (shift.line? address.column).map fun column ↦ { address with column }

end Shift

namespace Sheet

/-- Stores every cell again under a new address, or drops it. -/
def moveCells (move : Address → Option Address) (cells : CellMap) : CellMap :=
  cells.foldl (fun moved address cell ↦
    match move address with
    | some target => moved.insert target (cell.movedTo target)
    | none => moved) ∅

/-- Moved cells name their new addresses. -/
theorem keyed_moveCells (move : Address → Option Address) (cells : CellMap) :
    (moveCells move cells).Keyed := by
  have step (entries : List (Address × Cell)) :
      ∀ moved : CellMap, moved.Keyed →
        CellMap.Keyed (entries.foldl (fun moved entry ↦
          match move entry.1 with
          | some target => Std.ExtTreeMap.insert moved target (entry.2.movedTo target)
          | none => moved) moved) := by
    induction entries with
    | nil => intro moved keyed; exact keyed
    | cons entry later ih =>
      intro moved keyed
      rw [List.foldl_cons]
      refine ih _ ?_
      split
      · exact keyed.insert (entry.2.movedTo _)
      · exact keyed
  unfold moveCells
  rw [Std.ExtTreeMap.foldl_eq_foldl_toList]
  exact step cells.toList ∅ CellMap.keyed_empty

/-- Changes the rows of a sheet. -/
def shiftRows (sheet : Sheet) (shift : Shift) : Except SheetError Sheet :=
  if shift.isWithin sheet.rowCount then
    .ok { sheet with
      cells := moveCells shift.rowAddress? sheet.cells
      rowCount := shift.newCount sheet.rowCount
      keyed := keyed_moveCells _ _ }
  else .error (.rowOutOfBounds shift.index sheet.rowCount)

/-- Changes the columns of a sheet. -/
def shiftColumns (sheet : Sheet) (shift : Shift) : Except SheetError Sheet :=
  if shift.isWithin sheet.columnCount then
    .ok { sheet with
      cells := moveCells shift.columnAddress? sheet.cells
      columnCount := shift.newCount sheet.columnCount
      keyed := keyed_moveCells _ _ }
  else .error (.columnOutOfBounds shift.index sheet.columnCount)

/-- Inserts an empty row. -/
def insertRow (sheet : Sheet) (index : UInt32) : Except SheetError Sheet :=
  sheet.shiftRows (.insert index)

/-- Deletes a row. -/
def deleteRow (sheet : Sheet) (index : UInt32) : Except SheetError Sheet :=
  sheet.shiftRows (.delete index)

/-- Inserts an empty column. -/
def insertColumn (sheet : Sheet) (index : UInt32) : Except SheetError Sheet :=
  sheet.shiftColumns (.insert index)

/-- Deletes a column. -/
def deleteColumn (sheet : Sheet) (index : UInt32) : Except SheetError Sheet :=
  sheet.shiftColumns (.delete index)

end Sheet

end Worksheet
