import Worksheet.Proofs.Session.Coverage

/-!
# Restoring is faithful and stable

A sheet that is restored from a snapshot has one cell for each key of the snapshot, with the content
that is kept under the key and with the key for its address, and an extent that is just large enough
for the extent of the snapshot and for all keys (`restore_faithful`). Nothing is left to correct
then, so a second restoring changes nothing. The sheets that are restored from their own snapshots
without any change are those whose extent takes in all cells (`restore_snapshot_eq_iff`).
-/

set_option autoImplicit false
set_option relaxedAutoImplicit false

namespace Worksheet

/-- The largest of a count and the counts that the lines of some addresses need. -/
theorem Sheet.toNat_cover (line : Address → UInt32) (count : UInt32) (addresses : List Address) :
    (cover line count addresses).toNat =
      (addresses.map fun address ↦ min ((line address).toNat + 1) 0xffffffff).foldl max
        count.toNat := by
  induction addresses generalizing count with
  | nil => rfl
  | cons address later ih =>
    refine (ih (max count (Address.oneMore (line address)))).trans ?_
    rw [toNat_max, Address.toNat_oneMore]
    rfl

theorem Sheet.cover_of_le {line : Address → UInt32} {count : UInt32} {addresses : List Address}
    (enough : ∀ address ∈ addresses, Address.oneMore (line address) ≤ count) :
    cover line count addresses = count :=
  UInt32.le_antisymm (cover_le (UInt32.le_refl count) enough) le_cover

namespace Snapshot

/-- Restoring moves each cell to its key. -/
theorem cells_restore (snapshot : Snapshot) :
    snapshot.restore.cells = snapshot.cells.map fun address cell ↦ cell.movedTo address := by
  refine Std.ExtTreeMap.ext_getElem? fun address ↦ ?_
  rw [Std.ExtTreeMap.getElem?_map]
  exact snapshot.cell?_restore address

theorem storedCells_restore (snapshot : Snapshot) :
    snapshot.restore.storedCells = snapshot.placed := by
  rw [Sheet.storedCells, cells_restore, Std.ExtTreeMap.toList_map, List.map_map]
  rfl

/-- The number of lines of a restored sheet. -/
theorem toNat_count_restore (axis : Axis) (snapshot : Snapshot) :
    (axis.count snapshot.restore).toNat =
      (snapshot.cells.keys.map fun key ↦ min ((axis.line key).toNat + 1) 0xffffffff).foldl max
        (axis.count (Sheet.ofExtent snapshot.rowCount snapshot.columnCount)).toNat := by
  rw [count_restore, Sheet.toNat_cover]

end Snapshot

/-- A sheet is the one that is restored from its snapshot if and only if its extent takes in all of
its cells. -/
theorem Sheet.restore_snapshot_eq_iff (sheet : Sheet) :
    sheet.snapshot.restore = sheet ↔ ∀ axis : Axis, axis.Covers sheet := by
  constructor
  · intro same axis
    have covers : axis.Covers sheet.snapshot.restore :=
      Axis.meets_restore Axis.modest_oneMore sheet.snapshot
    rwa [same] at covers
  · intro covers
    have count (axis : Axis) : axis.count sheet.snapshot.restore = axis.count sheet := by
      have needed : ∀ key ∈ sheet.snapshot.cells.keys,
          Address.oneMore (axis.line key) ≤ axis.count sheet := by
        intro key member
        refine covers axis key ?_
        rw [Std.ExtTreeMap.mem_keys, Std.ExtTreeMap.mem_iff_isSome_getElem?] at member
        exact member
      rw [Snapshot.count_restore]
      cases axis <;> exact cover_of_le needed
    refine ext_cell? (fun address ↦ ?_) (count .row) (count .column)
    rw [Snapshot.cell?_restore]
    match stored : sheet.cell? address with
    | none =>
      have absent : sheet.snapshot.cells[address]? = none := stored
      rw [absent]
      rfl
    | some cell =>
      have present : sheet.snapshot.cells[address]? = some cell := stored
      rw [present, ← address_of_cell? stored]
      rfl

namespace Snapshot

/-- Restoring is faithful and stable, whatever addresses the records of a snapshot name and whatever
its extent is. The restored sheet has just one cell for each key, with the content that is kept
under the key and with the key for its address. Its extent is the largest of that of the snapshot
and what the keys need. Restoring it from its own snapshot changes nothing, as for every sheet whose
extent takes in all of its cells, and for no other. -/
theorem restore_faithful (snapshot : Snapshot) :
    let restored := snapshot.restore
    (∀ address, restored.cell? address =
        snapshot.cells[address]?.map fun cell ↦ cell.movedTo address) ∧
      restored.storedCells =
        (snapshot.cells.toList.map fun entry ↦ entry.2.movedTo entry.1) ∧
      restored.rowCount.toNat =
        (snapshot.cells.keys.map fun key ↦ min (key.row.toNat + 1) 0xffffffff).foldl max
          snapshot.rowCount.toNat ∧
      restored.columnCount.toNat =
        (snapshot.cells.keys.map fun key ↦ min (key.column.toNat + 1) 0xffffffff).foldl max
          snapshot.columnCount.toNat ∧
      restored.snapshot.restore = restored ∧
      ∀ sheet : Sheet, sheet.snapshot.restore = sheet ↔
        ∀ address, (sheet.cell? address).isSome →
          min (address.row.toNat + 1) 0xffffffff ≤ sheet.rowCount.toNat ∧
            min (address.column.toNat + 1) 0xffffffff ≤ sheet.columnCount.toNat := by
  intro restored
  refine ⟨snapshot.cell?_restore, snapshot.storedCells_restore, toNat_count_restore .row snapshot,
    toNat_count_restore .column snapshot, ?_, fun sheet ↦ ?_⟩
  · refine restored.restore_snapshot_eq_iff.mpr fun axis ↦ ?_
    exact Axis.meets_restore Axis.modest_oneMore snapshot
  · rw [sheet.restore_snapshot_eq_iff]
    simp only [← Address.toNat_oneMore, ← UInt32.le_iff_toNat_le]
    constructor
    · intro covers address stored
      exact ⟨covers .row address stored, covers .column address stored⟩
    · rintro inside (_ | _) address stored
      · exact (inside address stored).1
      · exact (inside address stored).2

end Snapshot

end Worksheet
