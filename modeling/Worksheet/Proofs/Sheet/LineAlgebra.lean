import Worksheet.Proofs.Sheet.Extent
import Worksheet.Proofs.Sheet.Moves

/-!
# Edits of lines one after the other

A line that comes in and is taken out again leaves every line where it was, but for the last one
there can be (`Shift.bind_source?_delete_insert`). So where no cell is on the last line and the
lines can still be counted, an insertion is undone by the deletion at the same index
(`Axis.delete_insert`). An edit of rows and an edit of columns look at different lines and different
counts, so either may come first (`Axis.edit_across_comm`). Both are put together in
`Axis.line_edits_algebra`.
-/

set_option autoImplicit false
set_option relaxedAutoImplicit false

namespace Worksheet

/-! ### Lines that come and go -/

namespace Shift

/-- When a line has come in at an index and is taken out again, the line that stands at a place is
the one from before. -/
theorem bind_source?_delete_insert {index line : UInt32}
    (inside : line < index ∨ line ≠ lastLine) :
    ((delete index).source? line).bind (insert index).source? = some line := by
  by_cases below : line < index
  · rw [source?, if_pos below, Option.bind_some, source?, if_pos below]
  · have notLast := inside.resolve_left below
    have behind : ¬ line + 1 < index := by grind [lastLine]
    have apart : line + 1 ≠ index := by grind [lastLine]
    rw [source?, if_neg below, if_neg notLast, Option.bind_some, source?, if_neg behind,
      if_neg apart, UInt32.add_sub_cancel]

end Shift

namespace Axis

open Sheet

@[simp] theorem across_across (axis : Axis) : axis.across.across = axis := by
  cases axis <;> rfl

/-- A place on a line is the same whether the one or the other line is chosen first. -/
theorem onLine_across_comm (axis : Axis) (address : Address) (line far : UInt32) :
    axis.onLine (axis.across.onLine address far) line =
      axis.across.onLine (axis.onLine address line) far := by
  cases axis <;> rfl

/-- Sheets are the same when they have the same cells and the same extent in both directions. -/
theorem ext_count (axis : Axis) {one other : Sheet}
    (stored : ∀ address, one.cell? address = other.cell? address)
    (count : axis.count one = axis.count other)
    (across : axis.across.count one = axis.across.count other) : one = other := by
  cases axis with
  | row => exact ext_cell? stored count across
  | column => exact ext_cell? stored across count

variable {axis : Axis} {shift other : Shift} {before middle after sheet : Sheet}

/-! ### Two edits in one direction -/

/-- After two changes of lines in one direction there is, at each address, the cell from the line
that has come there with both. -/
theorem Shifted.cell?_trans (first : axis.Shifted shift before middle)
    (second : axis.Shifted other middle after) (address : Address) :
    after.cell? address =
      ((other.source? (axis.line address)).bind shift.source?).bind fun line ↦
        (before.cell? (axis.onLine address line)).map fun cell ↦ cell.movedTo address := by
  rw [second.cell?_eq, Option.bind_assoc]
  refine congrArg (Option.bind _) (funext fun line ↦ ?_)
  rw [first.cell?_eq, line_onLine, Option.map_bind]
  refine congrArg (Option.bind _) (funext fun source ↦ ?_)
  rw [Function.comp_apply, onLine_onLine, Option.map_map]
  rfl

/-- Where the lines can still be counted and no cell is on the last line there can be, the deletion
of a line that has just been inserted gives back the sheet. -/
theorem delete_insert (countable : axis.count sheet < lastLine)
    (spared : ∀ address, (sheet.cell? address).isSome → axis.line address ≠ lastLine)
    {index : UInt32} (within : index ≤ axis.count sheet) :
    ∃ between, axis.insert sheet index = .ok between ∧ axis.delete between index = .ok sheet := by
  have inRange : (Shift.insert index).isWithin (axis.count sheet) = true := decide_eq_true within
  obtain ⟨between, inserted, -, grown, -⟩ := exists_shift_of_within inRange
  have counted : (axis.count between).toNat = (axis.count sheet).toNat + 1 := by
    rw [UInt32.lt_iff_toNat_lt] at countable
    change _ < 0xffffffff at countable
    rw [grown, Shift.newCount, Address.toNat_oneMore]
    omega
  have stillInRange : (Shift.delete index).isWithin (axis.count between) = true := by
    rw [UInt32.le_iff_toNat_le] at within
    refine decide_eq_true (UInt32.lt_iff_toNat_lt.mpr ?_)
    omega
  obtain ⟨after, deleted, -, shrunk, -⟩ := exists_shift_of_within stillInRange
  have first := shifted_of_eq_ok inserted
  have second := shifted_of_eq_ok deleted
  have same : after = sheet := by
    refine axis.ext_count (fun address ↦ ?_) ?_ ?_
    · rw [first.cell?_trans second]
      by_cases inside : axis.line address < index ∨ axis.line address ≠ lastLine
      · rw [Shift.bind_source?_delete_insert inside, Option.bind_some, onLine_line,
          map_movedTo_cell?]
      · -- The last line is empty before, and nothing comes there from behind.
        obtain ⟨behind, last⟩ := not_or.mp inside
        rw [Shift.source?, if_neg behind, if_pos (Classical.not_not.mp last)]
        exact (Option.not_isSome_iff_eq_none.mp fun stored ↦
          last (spared address stored)).symm
    · rw [← UInt32.toNat_inj, shrunk, Shift.newCount, UInt32.toNat_sub_of_le, counted]
      · rfl
      · rw [UInt32.le_iff_toNat_le, counted, UInt32.toNat_one]
        omega
    · rw [second.count_across_eq, first.count_across_eq]
  refine ⟨between, (axis.insert_eq_shift _ _).trans inserted, ?_⟩
  rw [delete_eq_shift, deleted, same]

/-! ### Edits in both directions -/

/-- What an edit of lines answers: nothing, or why it fails. -/
def answer (axis : Axis) (sheet : Sheet) (shift : Shift) : Except SheetError Unit :=
  (axis.shift sheet shift).map fun _ ↦ ()

/-- The answer to an edit depends only on the number of lines. -/
theorem answer_eq (axis : Axis) (sheet : Sheet) (shift : Shift) :
    axis.answer sheet shift = if shift.isWithin (axis.count sheet) then .ok ()
      else .error (axis.outOfBounds shift.index (axis.count sheet)) := by
  unfold answer
  cases within : shift.isWithin (axis.count sheet) with
  | false => rw [shift_of_outside within]; rfl
  | true =>
    obtain ⟨after, done, -⟩ := exists_shift_of_within within
    rw [done]
    rfl

theorem shifted_edit (within : shift.isWithin (axis.count sheet) = true) :
    axis.Shifted shift sheet (sheet.edit (axis.edit shift)) := by
  obtain ⟨after, done, -⟩ := exists_shift_of_within within
  rw [edit_eq_orElse, done]
  exact shifted_of_eq_ok done

theorem edit_of_outside (outside : shift.isWithin (axis.count sheet) = false) :
    sheet.edit (axis.edit shift) = sheet := by
  rw [edit_eq_orElse, shift_of_outside outside, orElse]

/-- An edit in one direction does not change the number of lines in the other. -/
theorem count_across_edit (axis : Axis) (sheet : Sheet) (shift : Shift) :
    axis.across.count (sheet.edit (axis.edit shift)) = axis.across.count sheet := by
  cases within : shift.isWithin (axis.count sheet) with
  | false => rw [edit_of_outside within]
  | true => exact (shifted_edit within).count_across_eq

theorem count_edit_across (axis : Axis) (sheet : Sheet) (shift : Shift) :
    axis.count (sheet.edit (axis.across.edit shift)) = axis.count sheet := by
  have same := axis.across.count_across_edit sheet shift
  rwa [across_across] at same

/-- After a change of lines in one direction and then in the other there is, at each address, the
cell from the lines that have come there. -/
theorem Shifted.cell?_across (first : axis.Shifted shift before middle)
    (second : axis.across.Shifted other middle after) (address : Address) :
    after.cell? address = (other.source? (axis.across.line address)).bind fun far ↦
      (shift.source? (axis.line address)).bind fun line ↦
        (before.cell? (axis.onLine (axis.across.onLine address far) line)).map fun cell ↦
          cell.movedTo address := by
  rw [second.cell?_eq]
  refine congrArg (Option.bind _) (funext fun far ↦ ?_)
  have near : axis.line (axis.across.onLine address far) = axis.line address := by
    have same := @line_across_onLine axis.across address far
    rwa [across_across] at same
  rw [first.cell?_eq, near, Option.map_bind]
  refine congrArg (Option.bind _) (funext fun line ↦ ?_)
  rw [Function.comp_apply, Option.map_map]
  rfl

/-- Two changes of lines in different directions give the same cells in either order. -/
theorem Shifted.cell?_comm {again last : Sheet} (first : axis.Shifted shift before middle)
    (second : axis.across.Shifted other middle after)
    (otherFirst : axis.across.Shifted other before again)
    (otherSecond : axis.Shifted shift again last) (address : Address) :
    after.cell? address = last.cell? address := by
  have swapped : axis.across.across.Shifted shift again last := by rwa [across_across]
  rw [first.cell?_across second, otherFirst.cell?_across swapped, Option.bind_comm]
  simp only [across_across, onLine_across_comm]

/-- An edit of lines in one direction and one in the other give the same answers and the same sheet
in either order, also where one of them or both fail. -/
theorem edit_across_comm (axis : Axis) (sheet : Sheet) (shift other : Shift) :
    axis.answer (sheet.edit (axis.across.edit other)) shift = axis.answer sheet shift ∧
      axis.across.answer (sheet.edit (axis.edit shift)) other = axis.across.answer sheet other ∧
        (sheet.edit (axis.edit shift)).edit (axis.across.edit other) =
          (sheet.edit (axis.across.edit other)).edit (axis.edit shift) := by
  have near := axis.count_edit_across sheet other
  have far := axis.count_across_edit sheet shift
  refine ⟨by rw [answer_eq, answer_eq, near], by rw [answer_eq, answer_eq, far], ?_⟩
  cases within : shift.isWithin (axis.count sheet) with
  | false =>
    have still : shift.isWithin (axis.count (sheet.edit (axis.across.edit other))) = false := by
      rw [near, within]
    rw [edit_of_outside within, edit_of_outside still]
  | true =>
    cases withinAcross : other.isWithin (axis.across.count sheet) with
    | false =>
      have still : other.isWithin (axis.across.count (sheet.edit (axis.edit shift))) = false := by
        rw [far, withinAcross]
      rw [edit_of_outside withinAcross, edit_of_outside still]
    | true =>
      have first := shifted_edit within
      have second := shifted_edit (far ▸ withinAcross)
      have otherFirst := shifted_edit withinAcross
      have otherSecond := shifted_edit (near ▸ within)
      refine axis.ext_count (first.cell?_comm second otherFirst otherSecond) ?_ ?_
      · rw [count_edit_across, first.count_eq, otherSecond.count_eq, near]
      · rw [count_across_edit, second.count_eq, otherFirst.count_eq, far]

/-- The edits of lines have an algebra. Where the lines can still be counted and no cell is on the
last line there can be, the deletion of a line that has just been inserted gives back the sheet as
it was, cells and extent. An edit of the lines in one direction and one in the other may be made in
either order, with the same answers and the same sheet at the end. -/
theorem line_edits_algebra (axis : Axis) (sheet : Sheet) :
    (axis.count sheet < lastLine →
      (∀ address, (sheet.cell? address).isSome → axis.line address ≠ lastLine) →
        ∀ index ≤ axis.count sheet, ∃ between,
          axis.insert sheet index = .ok between ∧ axis.delete between index = .ok sheet) ∧
    ∀ shift other : Shift,
      axis.answer (sheet.edit (axis.across.edit other)) shift = axis.answer sheet shift ∧
        axis.across.answer (sheet.edit (axis.edit shift)) other = axis.across.answer sheet other ∧
          (sheet.edit (axis.edit shift)).edit (axis.across.edit other) =
            (sheet.edit (axis.across.edit other)).edit (axis.edit shift) :=
  ⟨fun countable spared _ within ↦ delete_insert countable spared within,
    axis.edit_across_comm sheet⟩

/-- A cell two lines before the last one there can be goes to the line before the last and comes
back, with as many rows in between as can be counted. -/
theorem line_edits_algebra_near_last_line :
    let sheet := Sheet.new.setValueAt ⟨4294967293, 0⟩ (.text "x")
    row.count sheet < lastLine ∧
      (∀ address, (sheet.cell? address).isSome → row.line address ≠ lastLine) ∧
        0 ≤ row.count sheet ∧ ∃ between,
          row.insert sheet 0 = .ok between ∧ row.delete between 0 = .ok sheet := by
  intro sheet
  have countable : row.count sheet < lastLine := by decide +kernel
  have spared : ∀ address, (sheet.cell? address).isSome → row.line address ≠ lastLine := by
    intro address stored
    simp only [sheet, setValueAt, cell?_put] at stored
    split at stored
    · rename_i here
      rw [← here]
      decide
    · cases stored
  have within : 0 ≤ row.count sheet := by decide +kernel
  exact ⟨countable, spared, within, (line_edits_algebra row sheet).1 countable spared 0 within⟩

end Axis

end Worksheet
