import Worksheet.Proofs.Sheet.Axis
import Worksheet.Proofs.Sheet.Cells
import Worksheet.Proofs.Sheet.Extent
import Worksheet.Sheet

/-!
# Sheets restored from snapshots

Restoring puts the cells of a snapshot under their keys, one after the other. No two have the same
key, so each of them is found under its own (`cell?_restore`), and the extent is that of the
snapshot grown to take in all keys (`count_restore`).
-/

set_option autoImplicit false
set_option relaxedAutoImplicit false

namespace Worksheet

namespace Sheet

/-- The sheet after some cells have been put, one after the other. -/
def putEach (sheet : Sheet) (cells : List Cell) : Sheet := cells.foldl put sheet

theorem cells_putEach (sheet : Sheet) (cells : List Cell) :
    (sheet.putEach cells).cells =
      sheet.cells.insertMany (cells.map fun cell ↦ (cell.address, cell)) := by
  induction cells generalizing sheet with
  | nil => exact Std.ExtTreeMap.insertMany_nil.symm
  | cons cell later ih =>
    rw [List.map_cons, Std.ExtTreeMap.insertMany_cons]
    exact ih (sheet.put cell)

theorem count_putEach (axis : Axis) (sheet : Sheet) (cells : List Cell) :
    axis.count (sheet.putEach cells) =
      cover axis.line (axis.count sheet) (cells.map Cell.address) := by
  induction cells generalizing sheet with
  | nil => rfl
  | cons cell later ih =>
    refine (ih (sheet.put cell)).trans ?_
    rw [axis.count_put]
    rfl

end Sheet

namespace Snapshot

/-- The cells of a snapshot under their keys. -/
def placed (snapshot : Snapshot) : List Cell :=
  snapshot.cells.toList.map fun entry ↦ entry.2.movedTo entry.1

theorem restore_eq_putEach (snapshot : Snapshot) :
    snapshot.restore =
      (Sheet.ofExtent snapshot.rowCount snapshot.columnCount).putEach snapshot.placed := by
  rw [restore, Std.ExtTreeMap.foldl_eq_foldl_toList, Sheet.putEach, placed, List.foldl_map]

theorem map_address_placed (snapshot : Snapshot) :
    snapshot.placed.map Cell.address = snapshot.cells.keys := by
  rw [placed, List.map_map, ← Std.ExtTreeMap.map_fst_toList_eq_keys]
  rfl

/-- Each cell of a snapshot is found under its key, whatever address its record names. -/
theorem cell?_restore (snapshot : Snapshot) (address : Address) :
    snapshot.restore.cell? address =
      snapshot.cells[address]?.map fun cell ↦ cell.movedTo address := by
  have cells : snapshot.restore.cells =
      .ofList (snapshot.cells.toList.map fun entry ↦ (entry.1, entry.2.movedTo entry.1)) := by
    rw [restore_eq_putEach, Sheet.cells_putEach, placed, List.map_map,
      Std.ExtTreeMap.ofList_eq_insertMany_empty]
    rfl
  ext cell
  rw [Sheet.cell?, cells, CellMap.getElem?_ofList_eq_some_iff, List.mem_map, Option.map_eq_some_iff]
  · constructor
    · rintro ⟨⟨key, stored⟩, member, same⟩
      obtain ⟨rfl, rfl⟩ := Prod.mk.inj same
      exact ⟨stored, Std.ExtTreeMap.mem_toList_iff_getElem?_eq_some.mp member, rfl⟩
    · rintro ⟨stored, found, rfl⟩
      exact ⟨(address, stored), Std.ExtTreeMap.mem_toList_iff_getElem?_eq_some.mpr found, rfl⟩
  · exact List.pairwise_map.mpr Std.ExtTreeMap.distinct_keys_toList

theorem count_restore (axis : Axis) (snapshot : Snapshot) :
    axis.count snapshot.restore =
      Sheet.cover axis.line
        (axis.count (Sheet.ofExtent snapshot.rowCount snapshot.columnCount))
        snapshot.cells.keys := by
  rw [restore_eq_putEach, Sheet.count_putEach, map_address_placed]

end Snapshot

end Worksheet
