import Std.Data.ExtTreeMap
import Worksheet.Cell
import Worksheet.Error
import Worksheet.Region

/-!
# Sheets

A sheet stores cells by address and has an extent, the numbers of its rows and columns. Every cell
is stored under the address that its record names, and addresses without a stored cell read as
empty. The extent grows to take in every cell that is put; rows and columns can be inserted and
deleted, which moves the cells behind them and leaves formula texts as they are.

A snapshot is a copy of the cells and the extent of a sheet. When a sheet is restored from one,
every cell comes under its key, whatever address its record names, and the extent grows to take in
all cells.
-/

set_option autoImplicit false
set_option relaxedAutoImplicit false

namespace Worksheet

/-- Stored cells by address. Two maps with the same entries are equal. -/
abbrev CellMap := Std.ExtTreeMap Address Cell

namespace CellMap

/-- Every cell is stored under the address that its record names. -/
def Keyed (cells : CellMap) : Prop :=
  ∀ (address : Address) (cell : Cell), cells[address]? = some cell → cell.address = address

theorem keyed_empty : Keyed ∅ := by
  intro address cell stored
  simp at stored

theorem Keyed.insert {cells : CellMap} (keyed : cells.Keyed) (cell : Cell) :
    Keyed (Std.ExtTreeMap.insert cells cell.address cell) := by
  intro address other stored
  rw [Std.ExtTreeMap.getElem?_insert] at stored
  split at stored
  · rename_i same
    rw [← Option.some.inj stored]
    exact Std.LawfulEqOrd.eq_of_compare same
  · exact keyed address other stored

theorem Keyed.erase {cells : CellMap} (keyed : cells.Keyed) (removed : Address) :
    Keyed (Std.ExtTreeMap.erase cells removed) := by
  intro address cell stored
  rw [Std.ExtTreeMap.getElem?_erase] at stored
  split at stored
  · simp at stored
  · exact keyed address cell stored

end CellMap

/-- Stored cells and an extent. -/
structure Sheet where
  /-- The stored cells by address. -/
  cells : CellMap
  /-- The number of rows. -/
  rowCount : UInt32
  /-- The number of columns. -/
  columnCount : UInt32
  /-- No cell is stored under another address than its own. -/
  keyed : cells.Keyed

namespace Sheet

/-- An empty sheet with an extent. -/
def ofExtent (rows columns : UInt32) : Sheet := ⟨∅, rows, columns, CellMap.keyed_empty⟩

/-- An empty sheet with the usual extent, 100 rows by 26 columns. -/
def new : Sheet := ofExtent 100 26

/-! ### Reading -/

/-- The cell stored at an address. -/
def cell? (sheet : Sheet) (address : Address) : Option Cell := sheet.cells[address]?

/-- The value that is seen at an address: the computed value of its cell, or no value. -/
def valueAt (sheet : Sheet) (address : Address) : Value :=
  match sheet.cell? address with
  | some cell => cell.computed
  | none => .empty

/-- The number of stored cells. -/
def cellCount (sheet : Sheet) : Nat := sheet.cells.size

/-- Whether no cells are stored. -/
def isEmpty (sheet : Sheet) : Bool := sheet.cells.isEmpty

/-- The stored cells, row by row. -/
def storedCells (sheet : Sheet) : List Cell := sheet.cells.toList.map Prod.snd

/-- The addresses that the formula cells name as their own, in row-major order. -/
def formulaAddresses (sheet : Sheet) : List Address :=
  ((sheet.storedCells.filter Cell.isFormula).map Cell.address).mergeSort Address.le

/-- The smallest region with all stored cells. -/
def usedRegion? (sheet : Sheet) : Option Region :=
  match sheet.cells.keys with
  | [] => none
  | key :: keys =>
    some <| Region.ofCorners
      ⟨keys.foldl (fun row address ↦ min row address.row) key.row,
        keys.foldl (fun column address ↦ min column address.column) key.column⟩
      ⟨keys.foldl (fun row address ↦ max row address.row) key.row,
        keys.foldl (fun column address ↦ max column address.column) key.column⟩

/-! ### Writing -/

/-- Stores a cell under the address it names, and grows the extent to take it in. -/
def put (sheet : Sheet) (cell : Cell) : Sheet where
  cells := sheet.cells.insert cell.address cell
  rowCount := max sheet.rowCount (Address.oneMore cell.address.row)
  columnCount := max sheet.columnCount (Address.oneMore cell.address.column)
  keyed := sheet.keyed.insert cell

/-- Removes the cell at an address. The extent stays. -/
def clear (sheet : Sheet) (address : Address) : Sheet :=
  { sheet with cells := sheet.cells.erase address, keyed := sheet.keyed.erase address }

/-- Removes all cells. The extent stays. -/
def clearAll (sheet : Sheet) : Sheet := { sheet with cells := ∅, keyed := CellMap.keyed_empty }

end Sheet

/-! ### Snapshots -/

/-- A copy of the cells and the extent of a sheet. -/
structure Snapshot where
  /-- The cells by address. -/
  cells : CellMap
  /-- The number of rows. -/
  rowCount : UInt32
  /-- The number of columns. -/
  columnCount : UInt32

/-- The snapshot of a sheet. -/
def Sheet.snapshot (sheet : Sheet) : Snapshot := ⟨sheet.cells, sheet.rowCount, sheet.columnCount⟩

/-- The sheet with the cells of a snapshot. -/
def Snapshot.restore (snapshot : Snapshot) : Sheet :=
  snapshot.cells.foldl (fun sheet address cell ↦ sheet.put (cell.movedTo address))
    (Sheet.ofExtent snapshot.rowCount snapshot.columnCount)

end Worksheet
