import Worksheet.Proofs.Sheet.Axis
import Worksheet.Proofs.Sheet.Cells

/-!
# Where cells go when lines come and go

An edit of the rows gives every stored cell another row or drops it, and an edit of the columns does
the same with columns. Only one line comes to stand at an index (`Shift.line?_eq_some_iff`), so no
cell is stored over another, in whatever order the cells are moved (`moveEntries_perm`). The cell
that is found at an address after an edit is the one from the line that has come there
(`Axis.Shifted`). For insertions and deletions this is spelled out, together with the extent and the
edits that fail (`Axis.insert_delete_cells`).
-/

set_option autoImplicit false
set_option relaxedAutoImplicit false

namespace Worksheet

/-! ### Lines -/

namespace Shift

/-- The line that comes to stand at an index, or `none` for an empty line. -/
def source? : Shift → UInt32 → Option UInt32
  | insert index, line =>
    if line < index then some line
    else if line = index then none
    else some (line - 1)
  | delete index, line =>
    if line < index then some line
    else if line = lastLine then none
    else some (line + 1)

theorem line?_insert (index line : UInt32) : (insert index).line? line =
    if line < index then some line else if line = lastLine then none else some (line + 1) := rfl

/-- A line goes to an index exactly if it is the one that comes to stand there. -/
theorem line?_eq_some_iff {shift : Shift} {line target : UInt32} :
    shift.line? line = some target ↔ shift.source? target = some line := by
  cases shift with
  | insert index => grind [line?, source?]
  | delete index => grind [line?, source?, lastLine]

end Shift

namespace Axis

/-- The address after a change of the lines. -/
def address? (axis : Axis) (shift : Shift) (address : Address) : Option Address :=
  (shift.line? (axis.line address)).map (axis.onLine address)

variable {axis : Axis} {address place : Address} {shift : Shift}

/-- An address goes to a place exactly if it is at the same place of the line that comes to stand
there. -/
theorem address?_eq_some_iff :
    axis.address? shift address = some place ↔
      ∃ line, shift.source? (axis.line place) = some line ∧ axis.onLine place line = address := by
  rw [address?, Option.map_eq_some_iff]
  constructor
  · rintro ⟨target, moved, rfl⟩
    refine ⟨axis.line address, ?_, ?_⟩
    · rw [line_onLine, ← Shift.line?_eq_some_iff, moved]
    · rw [onLine_onLine, onLine_line]
  · rintro ⟨line, comes, rfl⟩
    refine ⟨axis.line place, ?_, ?_⟩
    · rw [line_onLine, Shift.line?_eq_some_iff, comes]
    · rw [onLine_onLine, onLine_line]

/-- Different addresses do not go to the same place. -/
theorem eq_of_address?_eq_some {other : Address} (one : axis.address? shift address = some place)
    (two : axis.address? shift other = some place) : address = other := by
  obtain ⟨line, comes, rfl⟩ := address?_eq_some_iff.mp one
  obtain ⟨again, same, rfl⟩ := address?_eq_some_iff.mp two
  rw [Option.some.inj (comes.symm.trans same)]

end Axis

/-! ### Moved entries -/

namespace Sheet

/-- Stores the cells of a list again under new addresses, one after the other, or drops them. -/
def moveEntries (move : Address → Option Address) (entries : List (Address × Cell)) : CellMap :=
  entries.foldl (fun moved entry ↦
    match move entry.1 with
    | some target => moved.insert target (entry.2.movedTo target)
    | none => moved) ∅

theorem moveCells_eq (move : Address → Option Address) (cells : CellMap) :
    moveCells move cells = moveEntries move cells.toList :=
  Std.ExtTreeMap.foldl_eq_foldl_toList

/-- A cell under its new address. -/
def movedEntry (move : Address → Option Address) (entry : Address × Cell) :
    Option (Address × Cell) :=
  (move entry.1).map fun target ↦ (target, entry.2.movedTo target)

theorem moveEntries_eq_ofList (move : Address → Option Address) (entries : List (Address × Cell)) :
    moveEntries move entries = .ofList (entries.filterMap (movedEntry move)) := by
  have step (entries : List (Address × Cell)) : ∀ moved : CellMap,
      entries.foldl (fun moved entry ↦
        match move entry.1 with
        | some target => Std.ExtTreeMap.insert moved target (entry.2.movedTo target)
        | none => moved) moved =
      Std.ExtTreeMap.insertMany moved (entries.filterMap (movedEntry move)) := by
    induction entries with
    | nil => intro moved; exact Std.ExtTreeMap.insertMany_nil.symm
    | cons entry later ih =>
      intro moved
      rw [List.foldl_cons, ih]
      match goes : move entry.1 with
      | none => rw [List.filterMap_cons_none (by rw [movedEntry, goes]; rfl)]
      | some target =>
        rw [List.filterMap_cons_some (b := (target, entry.2.movedTo target))
          (by rw [movedEntry, goes]; rfl), Std.ExtTreeMap.insertMany_cons]
  rw [moveEntries, step, Std.ExtTreeMap.ofList_eq_insertMany_empty]

section

variable {move : Address → Option Address} {entries others : List (Address × Cell)}
  (injective : ∀ {one other place : Address}, move one = some place → move other = some place →
    one = other)

include injective

/-- Cells that are moved to different places are found there. -/
theorem getElem?_moveEntries
    (distinct : entries.Pairwise fun one other ↦ ¬ compare one.1 other.1 = .eq)
    {place : Address} {cell : Cell} :
    (moveEntries move entries)[place]? = some cell ↔
      ∃ entry ∈ entries, movedEntry move entry = some (place, cell) := by
  rw [moveEntries_eq_ofList, CellMap.getElem?_ofList_eq_some_iff, List.mem_filterMap]
  refine distinct.filterMap _ fun one other apart _ oneMoved _ otherMoved same ↦ apart ?_
  obtain ⟨target, goes, rfl⟩ := Option.map_eq_some_iff.mp oneMoved
  obtain ⟨place, otherGoes, rfl⟩ := Option.map_eq_some_iff.mp otherMoved
  obtain rfl : target = place := Std.LawfulEqOrd.eq_of_compare same
  rw [injective goes otherGoes, Std.LawfulEqOrd.compare_eq_iff_eq]

/-- The order in which cells are moved to different places does not matter. -/
theorem moveEntries_perm
    (distinct : entries.Pairwise fun one other ↦ ¬ compare one.1 other.1 = .eq)
    (permuted : entries.Perm others) : moveEntries move entries = moveEntries move others := by
  have again : others.Pairwise fun one other ↦ ¬ compare one.1 other.1 = .eq :=
    distinct.perm permuted fun apart same ↦ apart (Std.OrientedCmp.eq_symm same)
  apply Std.ExtTreeMap.ext_getElem?
  intro place
  ext cell
  rw [getElem?_moveEntries injective distinct, getElem?_moveEntries injective again]
  simp only [permuted.mem_iff]

end

end Sheet

/-! ### Edits of lines -/

namespace Axis

open Sheet

/-- What a change of lines within the extent does: at each address there is the cell from the line
that has come there, and the extent changes by one line in the one direction. -/
structure Shifted (axis : Axis) (shift : Shift) (before after : Sheet) : Prop where
  /-- The change is within the extent. -/
  within : shift.isWithin (axis.count before)
  /-- Cells keep their contents and their place on the line. -/
  cell?_eq : ∀ address, after.cell? address = (shift.source? (axis.line address)).bind fun line ↦
    (before.cell? (axis.onLine address line)).map fun cell ↦ cell.movedTo address
  /-- The cells may be moved one after the other in any order. -/
  cells_eq : ∀ entries, entries.Perm before.cells.toList →
    after.cells = moveEntries (axis.address? shift) entries
  /-- The lines are counted anew. -/
  count_eq : axis.count after = shift.newCount (axis.count before)
  /-- In the other direction the extent stays. -/
  count_across_eq : axis.across.count after = axis.across.count before

variable {axis : Axis} {shift : Shift} {sheet after : Sheet}

theorem shift_of_outside (outside : shift.isWithin (axis.count sheet) = false) :
    axis.shift sheet shift = .error (axis.outOfBounds shift.index (axis.count sheet)) := by
  cases axis with
  | row => exact if_neg (Bool.eq_false_iff.mp outside)
  | column => exact if_neg (Bool.eq_false_iff.mp outside)

theorem exists_shift_of_within (within : shift.isWithin (axis.count sheet)) :
    ∃ after, axis.shift sheet shift = .ok after ∧
      after.cells = moveCells (axis.address? shift) sheet.cells ∧
        axis.count after = shift.newCount (axis.count sheet) ∧
          axis.across.count after = axis.across.count sheet := by
  cases axis with
  | row => exact ⟨_, if_pos within, rfl, rfl, rfl⟩
  | column => exact ⟨_, if_pos within, rfl, rfl, rfl⟩

/-- The cell that is found at an address after the cells have been moved. -/
theorem getElem?_moveCells (axis : Axis) (shift : Shift) (sheet : Sheet) (address : Address) :
    (moveCells (axis.address? shift) sheet.cells)[address]? =
      (shift.source? (axis.line address)).bind fun line ↦
        (sheet.cell? (axis.onLine address line)).map fun cell ↦ cell.movedTo address := by
  ext cell
  rw [moveCells_eq, getElem?_moveEntries eq_of_address?_eq_some Std.ExtTreeMap.distinct_keys_toList]
  constructor
  · rintro ⟨⟨source, stored⟩, member, moved⟩
    obtain ⟨place, goes, same⟩ := Option.map_eq_some_iff.mp moved
    obtain ⟨rfl, rfl⟩ := Prod.mk.inj same
    obtain ⟨line, comes, rfl⟩ := address?_eq_some_iff.mp goes
    have found : sheet.cell? (axis.onLine place line) = some stored :=
      Std.ExtTreeMap.mem_toList_iff_getElem?_eq_some.mp member
    rw [comes, Option.bind_some, found, Option.map_some]
  · intro found
    obtain ⟨line, comes, there⟩ := Option.bind_eq_some_iff.mp found
    obtain ⟨stored, before, rfl⟩ := Option.map_eq_some_iff.mp there
    refine ⟨(axis.onLine address line, stored), ?_, ?_⟩
    · exact Std.ExtTreeMap.mem_toList_iff_getElem?_eq_some.mpr before
    · rw [movedEntry, address?_eq_some_iff.mpr ⟨line, comes, rfl⟩, Option.map_some]

theorem shifted_of_eq_ok (done : axis.shift sheet shift = .ok after) :
    axis.Shifted shift sheet after := by
  cases within : shift.isWithin (axis.count sheet) with
  | false =>
    rw [shift_of_outside within] at done
    cases done
  | true =>
    obtain ⟨_, again, cells, count, across⟩ := exists_shift_of_within within
    obtain rfl := Except.ok.inj (done.symm.trans again)
    refine ⟨within, fun address ↦ ?_, fun entries permuted ↦ ?_, count, across⟩
    · rw [cell?, cells, getElem?_moveCells]
    · rw [cells, moveCells_eq]
      exact moveEntries_perm eq_of_address?_eq_some Std.ExtTreeMap.distinct_keys_toList
        permuted.symm

/-- A cell that is not lost is found where its address goes. -/
theorem Shifted.cell?_of_address? {before : Sheet} (shifted : axis.Shifted shift before after)
    {address place : Address} (goes : axis.address? shift address = some place) :
    after.cell? place = (before.cell? address).map fun cell ↦ cell.movedTo place := by
  obtain ⟨line, comes, rfl⟩ := address?_eq_some_iff.mp goes
  rw [shifted.cell?_eq, comes, Option.bind_some]

/-! ### Insertions and deletions -/

/-- What the insertion of an empty line does. -/
structure Inserted (axis : Axis) (index : UInt32) (before after : Sheet) : Prop where
  /-- The cells before the index stay, the line at the index is empty, and behind it there are the
  cells of one line before. -/
  cell?_eq : ∀ address, after.cell? address =
    if axis.line address < index then before.cell? address
    else if axis.line address = index then none
    else (before.cell? (axis.onLine address (axis.line address - 1))).map fun cell ↦
      { cell with address }
  /-- Only cells on the last line are lost. -/
  cell?_kept : ∀ address, axis.line address ≠ lastLine →
    let place := axis.onLine address
      (if axis.line address < index then axis.line address else axis.line address + 1)
    after.cell? place = (before.cell? address).map fun cell ↦ { cell with address := place }
  /-- The cells may be moved one after the other in any order. -/
  cells_eq : ∀ entries, entries.Perm before.cells.toList →
    after.cells = moveEntries (axis.address? (.insert index)) entries
  /-- There is one line more, unless there are as many as can be counted. -/
  count_eq : axis.count after = Address.oneMore (axis.count before)
  /-- In the other direction the extent stays. -/
  count_across_eq : axis.across.count after = axis.across.count before

/-- What the deletion of a line does. -/
structure Deleted (axis : Axis) (index : UInt32) (before after : Sheet) : Prop where
  /-- The cells before the index stay, and from there on there are the cells of one line behind. -/
  cell?_eq : ∀ address, after.cell? address =
    if axis.line address < index then before.cell? address
    else if axis.line address = lastLine then none
    else (before.cell? (axis.onLine address (axis.line address + 1))).map fun cell ↦
      { cell with address }
  /-- Only cells on the deleted line are lost. -/
  cell?_kept : ∀ address, axis.line address ≠ index →
    let place := axis.onLine address
      (if axis.line address < index then axis.line address else axis.line address - 1)
    after.cell? place = (before.cell? address).map fun cell ↦ { cell with address := place }
  /-- The cells may be moved one after the other in any order. -/
  cells_eq : ∀ entries, entries.Perm before.cells.toList →
    after.cells = moveEntries (axis.address? (.delete index)) entries
  /-- There is one line less. -/
  count_eq : axis.count after = axis.count before - 1
  /-- In the other direction the extent stays. -/
  count_across_eq : axis.across.count after = axis.across.count before

/-- A cell that is stored again under its own address stays the same. -/
theorem map_movedTo_cell? (sheet : Sheet) (address : Address) :
    ((sheet.cell? address).map fun cell ↦ cell.movedTo address) = sheet.cell? address := by
  match stored : sheet.cell? address with
  | none => rfl
  | some cell =>
    obtain rfl := address_of_cell? stored
    rfl

theorem inserted_of_shifted {before : Sheet} {index : UInt32}
    (shifted : axis.Shifted (.insert index) before after) : axis.Inserted index before after := by
  refine ⟨fun address ↦ ?_, fun address stays ↦ ?_, shifted.cells_eq, shifted.count_eq,
    shifted.count_across_eq⟩
  · rw [shifted.cell?_eq, Shift.source?]
    by_cases below : axis.line address < index
    · rw [if_pos below, if_pos below, Option.bind_some, onLine_line, map_movedTo_cell?]
    · rw [if_neg below, if_neg below]
      by_cases here : axis.line address = index
      · rw [if_pos here, if_pos here, Option.bind_none]
      · rw [if_neg here, if_neg here]
        rfl
  · apply shifted.cell?_of_address?
    rw [address?, Shift.line?_insert]
    by_cases below : axis.line address < index
    · rw [if_pos below, if_pos below, Option.map_some]
    · rw [if_neg below, if_neg below, if_neg stays, Option.map_some]

theorem deleted_of_shifted {before : Sheet} {index : UInt32}
    (shifted : axis.Shifted (.delete index) before after) : axis.Deleted index before after := by
  refine ⟨fun address ↦ ?_, fun address stays ↦ ?_, shifted.cells_eq, shifted.count_eq,
    shifted.count_across_eq⟩
  · rw [shifted.cell?_eq, Shift.source?]
    by_cases below : axis.line address < index
    · rw [if_pos below, if_pos below, Option.bind_some, onLine_line, map_movedTo_cell?]
    · rw [if_neg below, if_neg below]
      by_cases last : axis.line address = lastLine
      · rw [if_pos last, if_pos last, Option.bind_none]
      · rw [if_neg last, if_neg last]
        rfl
  · apply shifted.cell?_of_address?
    rw [address?, Shift.line?]
    by_cases below : axis.line address < index
    · rw [if_pos below, if_pos below, Option.map_some]
    · rw [if_neg below, if_neg below, if_neg stays, Option.map_some]

/-- An edit of lines fails exactly outside the extent. -/
theorem exists_error_iff :
    (∃ cause, axis.shift sheet shift = .error cause) ↔
      shift.isWithin (axis.count sheet) = false := by
  constructor
  · rintro ⟨cause, failed⟩
    refine Bool.eq_false_iff.mpr fun within ↦ ?_
    obtain ⟨_, done, _⟩ := exists_shift_of_within within
    rw [done] at failed
    cases failed
  · intro outside
    exact ⟨_, shift_of_outside outside⟩

theorem exists_insert_of_le {index : UInt32} (within : index ≤ axis.count sheet) :
    ∃ after, axis.insert sheet index = .ok after ∧ axis.Inserted index sheet after := by
  have possible : (Shift.insert index).isWithin (axis.count sheet) = true := decide_eq_true within
  obtain ⟨after, done, _⟩ := exists_shift_of_within possible
  exact ⟨after, (axis.insert_eq_shift _ _).trans done,
    inserted_of_shifted (shifted_of_eq_ok done)⟩

theorem exists_delete_of_lt {index : UInt32} (within : index < axis.count sheet) :
    ∃ after, axis.delete sheet index = .ok after ∧ axis.Deleted index sheet after := by
  have possible : (Shift.delete index).isWithin (axis.count sheet) = true := decide_eq_true within
  obtain ⟨after, done, _⟩ := exists_shift_of_within possible
  exact ⟨after, (axis.delete_eq_shift _ _).trans done, deleted_of_shifted (shifted_of_eq_ok done)⟩

/-- Inserting a line fails behind the end of the lines and deleting one fails from the end on, and
the sheet is then as it was. Otherwise every cell is found exactly where its line has gone, with its
contents unchanged. -/
theorem insert_delete_cells (axis : Axis) (sheet : Sheet) (index : UInt32) :
    ((∃ cause, axis.insert sheet index = .error cause) ↔ axis.count sheet < index) ∧
    ((∃ cause, axis.delete sheet index = .error cause) ↔ axis.count sheet ≤ index) ∧
    (∀ shift cause, axis.shift sheet shift = .error cause →
      cause = axis.outOfBounds shift.index (axis.count sheet) ∧
        sheet.edit (axis.edit shift) = sheet) ∧
    (index ≤ axis.count sheet →
      ∃ after, axis.insert sheet index = .ok after ∧ axis.Inserted index sheet after) ∧
    (index < axis.count sheet →
      ∃ after, axis.delete sheet index = .ok after ∧ axis.Deleted index sheet after) := by
  refine ⟨?_, ?_, fun shift cause failed ↦ ⟨?_, ?_⟩, exists_insert_of_le, exists_delete_of_lt⟩
  · rw [insert_eq_shift, exists_error_iff, Shift.isWithin, decide_eq_false_iff_not,
      UInt32.not_le]
  · rw [delete_eq_shift, exists_error_iff, Shift.isWithin, decide_eq_false_iff_not,
      UInt32.not_lt]
  · have outside := exists_error_iff.mp ⟨cause, failed⟩
    exact Except.error.inj (failed.symm.trans (shift_of_outside outside))
  · rw [edit_eq_orElse, failed, orElse]

end Axis

end Worksheet
