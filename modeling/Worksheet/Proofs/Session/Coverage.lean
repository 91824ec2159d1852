import Worksheet.Proofs.Session.Effects
import Worksheet.Proofs.Sheet.Restore

/-!
# The extent and the stored cells

Putting a cell grows the extent to take its line in, as far as lines can be counted. All operations
keep that every stored cell is taken in, but for one: the deletion of a line while a cell is stored
on the last line that there can be (`Axis.Covers.not_covers_edit_iff`). The number of lines is held
at its largest value there, and then becomes one less than the cells need, until the sheet is
restored from a snapshot. No cell is ever stored more than one line past the extent.
`Axis.session_covers` says this for all sessions.
-/

set_option autoImplicit false
set_option relaxedAutoImplicit false

namespace Worksheet

theorem toNat_lastLine : lastLine.toNat = 0xffffffff := rfl

theorem one_le_of_lt {index count : UInt32} (within : index < count) : 1 ≤ count := by
  rw [UInt32.lt_iff_toNat_lt] at within
  rw [UInt32.le_iff_toNat_le, UInt32.toNat_one]
  omega

namespace Axis

open Sheet

/-! ### What a line needs -/

/-- Every stored cell is on a line that needs no more lines than there are. -/
def Meets (axis : Axis) (need : UInt32 → UInt32) (sheet : Sheet) : Prop :=
  ∀ address, (sheet.cell? address).isSome → need (axis.line address) ≤ axis.count sheet

/-- Every stored cell is taken in by the extent, which has one line more than the index of each, or
as many as can be counted. -/
def Covers (axis : Axis) (sheet : Sheet) : Prop := axis.Meets Address.oneMore sheet

/-- A need of lines that is met when a cell is put on the line, and that grows at most by one from
one line to the next. -/
structure Modest (need : UInt32 → UInt32) : Prop where
  /-- A line needs at most the lines that putting a cell on it makes. -/
  le_oneMore : ∀ line, need line ≤ Address.oneMore line
  /-- The next line needs at most one line more. -/
  next_le : ∀ line count, need line ≤ count → need (line + 1) ≤ Address.oneMore count

theorem modest_oneMore : Modest Address.oneMore := by
  constructor
  · intro line
    exact UInt32.le_refl _
  · intro line count enough
    rw [UInt32.le_iff_toNat_le] at *
    simp only [Address.toNat_oneMore, UInt32.toNat_add, UInt32.toNat_one] at *
    omega

theorem modest_id : Modest id := by
  constructor
  · intro line
    have below := line.toNat_lt
    rw [UInt32.le_iff_toNat_le, Address.toNat_oneMore, id]
    omega
  · intro line count enough
    rw [UInt32.le_iff_toNat_le] at *
    simp only [Address.toNat_oneMore, UInt32.toNat_add, UInt32.toNat_one, id] at *
    omega

variable {axis : Axis} {need : UInt32 → UInt32} {sheet after : Sheet}

/-! ### Single changes -/

/-- Fewer cells and more lines do no harm. -/
theorem Meets.mono (meets : axis.Meets need sheet)
    (fewer : ∀ address, (after.cell? address).isSome → (sheet.cell? address).isSome)
    (more : axis.count sheet ≤ axis.count after) : axis.Meets need after :=
  fun address stored ↦ UInt32.le_trans (meets address (fewer address stored)) more

theorem Meets.put (meets : axis.Meets need sheet) (modest : Modest need) (cell : Cell) :
    axis.Meets need (sheet.put cell) := by
  intro address stored
  rw [cell?_put] at stored
  rw [UInt32.le_iff_toNat_le, count_put, toNat_max]
  by_cases here : cell.address = address
  · have grown := modest.le_oneMore (axis.line address)
    rw [UInt32.le_iff_toNat_le] at grown
    rw [here]
    omega
  · rw [if_neg here] at stored
    have before := meets address stored
    rw [UInt32.le_iff_toNat_le] at before
    omega

theorem Meets.clear (meets : axis.Meets need sheet) (removed : Address) :
    axis.Meets need (sheet.clear removed) := by
  apply meets.mono
  · intro address stored
    rw [cell?_clear] at stored
    split at stored
    · cases stored
    · exact stored
  · cases axis <;> exact UInt32.le_refl _

theorem meets_of_empty (empty : ∀ address, sheet.cell? address = none) : axis.Meets need sheet := by
  intro address stored
  rw [empty] at stored
  cases stored

theorem meets_restore (modest : Modest need) (snapshot : Snapshot) :
    axis.Meets need snapshot.restore := by
  intro address stored
  rw [Snapshot.cell?_restore, Option.isSome_map] at stored
  rw [Snapshot.count_restore]
  refine UInt32.le_trans (modest.le_oneMore _) (oneMore_le_cover ?_)
  rw [Std.ExtTreeMap.mem_keys, Std.ExtTreeMap.mem_iff_isSome_getElem?]
  exact stored

/-- A change of lines in one direction is none in the other. -/
theorem Meets.shift_across {shift : Shift} (meets : axis.across.Meets need sheet)
    (shifted : axis.Shifted shift sheet after) : axis.across.Meets need after := by
  intro address stored
  rw [shifted.cell?_eq] at stored
  obtain ⟨cell, found⟩ := Option.isSome_iff_exists.mp stored
  obtain ⟨line, _, there⟩ := Option.bind_eq_some_iff.mp found
  obtain ⟨before, inside, _⟩ := Option.map_eq_some_iff.mp there
  have enough := meets (axis.onLine address line) (by rw [inside]; rfl)
  rw [line_across_onLine] at enough
  rw [shifted.count_across_eq]
  exact enough

theorem Meets.insert (meets : axis.Meets need sheet) (modest : Modest need) {index : UInt32}
    (inserted : axis.Inserted index sheet after) : axis.Meets need after := by
  intro address stored
  rw [inserted.cell?_eq] at stored
  rw [inserted.count_eq]
  split at stored
  · exact UInt32.le_trans (meets address stored) (modest_id.le_oneMore _)
  · split at stored
    · cases stored
    · rw [Option.isSome_map] at stored
      have before := meets _ stored
      rw [line_onLine] at before
      have next := modest.next_le _ _ before
      rw [UInt32.sub_add_cancel] at next
      exact next

/-- A deletion keeps that needs are met if the needs of the lines behind it go down. -/
theorem meets_delete (modest : Modest need) {index : UInt32}
    (within : index < axis.count sheet) (deleted : axis.Deleted index sheet after)
    (down : ∀ address, (sheet.cell? address).isSome → index < axis.line address →
      need (axis.line address - 1) ≤ axis.count sheet - 1) : axis.Meets need after := by
  intro address stored
  rw [deleted.cell?_eq] at stored
  rw [deleted.count_eq]
  split at stored
  · rename_i below
    have enough := modest.le_oneMore (axis.line address)
    have nonzero := one_le_of_lt within
    rw [UInt32.lt_iff_toNat_lt] at within below
    rw [UInt32.le_iff_toNat_le, Address.toNat_oneMore] at enough
    rw [UInt32.le_iff_toNat_le, UInt32.toNat_sub_of_le _ _ nonzero, UInt32.toNat_one]
    omega
  · rename_i behind
    split at stored
    · cases stored
    · rename_i notLast
      rw [Option.isSome_map] at stored
      have shrunk := down _ stored
      rw [line_onLine, UInt32.add_sub_cancel] at shrunk
      apply shrunk
      rw [UInt32.not_lt, UInt32.le_iff_toNat_le] at behind
      rw [← UInt32.toNat_inj, toNat_lastLine] at notLast
      have bound := (axis.line address).toNat_lt
      rw [UInt32.lt_iff_toNat_lt, UInt32.toNat_add, UInt32.toNat_one]
      omega

/-! ### Operations -/

theorem eq_or_eq_across (axis other : Axis) : other = axis ∨ axis = other.across := by
  cases axis <;> cases other <;> simp [across]

/-- An operation keeps that needs are met, if it is no deletion for which the needs of the lines
behind do not go down. -/
theorem Meets.edit (meets : axis.Meets need sheet) (modest : Modest need) (edit : Edit)
    (down : ∀ index, edit = axis.edit (.delete index) → index < axis.count sheet →
      ∀ address, (sheet.cell? address).isSome → index < axis.line address →
        need (axis.line address - 1) ≤ axis.count sheet - 1) :
    axis.Meets need (sheet.edit edit) := by
  have effect := sheet.effect_edit edit
  generalize sheet.edit edit = later at effect ⊢
  cases effect with
  | nothing => exact meets
  | formula => exact meets.put modest _
  | value => exact meets.put modest _
  | put cell => exact meets.put modest cell
  | clear _ address => exact meets.clear address
  | clearAll => exact meets_of_empty fun _ ↦ Std.ExtTreeMap.getElem?_empty
  | @shift _ other shift _ is shifted =>
    obtain rfl | rfl := eq_or_eq_across axis other
    · cases shift with
      | insert index => exact meets.insert modest (inserted_of_shifted shifted)
      | delete index =>
        have within : index < other.count sheet := by simpa [Shift.isWithin] using shifted.within
        exact meets_delete modest within (deleted_of_shifted shifted) (down index is within)
    · exact meets.shift_across shifted
  | recalculate _ done =>
    exact @refreshAll_keeps (axis.Meets need) (fun _ _ _ _ before ↦ before.put modest _) _ meets
      done
  | restore => exact meets_restore modest _

theorem sub_one_le_sub_one {index line count : UInt32} (behind : index < line)
    (enough : line ≤ count) : line - 1 ≤ count - 1 := by
  have lineNonzero := one_le_of_lt behind
  have countNonzero := UInt32.le_trans lineNonzero enough
  rw [UInt32.le_iff_toNat_le] at enough
  rw [UInt32.le_iff_toNat_le, UInt32.toNat_sub_of_le _ _ lineNonzero,
    UInt32.toNat_sub_of_le _ _ countNonzero]
  omega

/-- A cell that is taken in and not on the last line is on one of the lines of the extent. -/
theorem lt_of_oneMore_le {line count : UInt32} (notLast : line ≠ lastLine)
    (covered : Address.oneMore line ≤ count) : line < count := by
  have bound := line.toNat_lt
  rw [ne_eq, ← UInt32.toNat_inj, toNat_lastLine] at notLast
  rw [UInt32.le_iff_toNat_le, Address.toNat_oneMore] at covered
  rw [UInt32.lt_iff_toNat_lt]
  omega

/-- Behind the deleted line, only a cell on the last line is not taken in any more. -/
theorem oneMore_sub_one_le {index line count : UInt32} (behind : index < line)
    (notLast : line ≠ lastLine) (covered : Address.oneMore line ≤ count) :
    Address.oneMore (line - 1) ≤ count - 1 := by
  have below := lt_of_oneMore_le notLast covered
  have lineNonzero := one_le_of_lt behind
  have countNonzero := UInt32.le_trans lineNonzero (UInt32.le_of_lt below)
  rw [UInt32.lt_iff_toNat_lt] at below
  rw [UInt32.le_iff_toNat_le, UInt32.toNat_one] at lineNonzero
  rw [UInt32.le_iff_toNat_le, Address.toNat_oneMore, UInt32.toNat_sub_of_le _ _ lineNonzero,
    UInt32.toNat_sub_of_le _ _ countNonzero, UInt32.toNat_one]
  omega

/-- The deletion of a line leaves a cell that was on the last line outside the extent. -/
theorem Covers.not_covers_of_delete (covers : axis.Covers sheet) {index : UInt32}
    (within : index < axis.count sheet) {address : Address} (stored : (sheet.cell? address).isSome)
    (last : axis.line address = lastLine) :
    ¬ axis.Covers (sheet.edit (axis.edit (.delete index))) := by
  have full : axis.count sheet = lastLine := by
    have needed := covers address stored
    have bound := (axis.count sheet).toNat_lt
    rw [last, UInt32.le_iff_toNat_le, Address.toNat_oneMore, toNat_lastLine] at needed
    rw [← UInt32.toNat_inj, toNat_lastLine]
    omega
  rw [full, ← last] at within
  obtain ⟨after, done, deleted⟩ := exists_delete_of_lt (full ▸ last ▸ within)
  rw [edit_eq_orElse, ← delete_eq_shift, done]
  intro still
  -- The cell comes to the line before the last, but there are no more lines than that.
  have kept := deleted.cell?_kept address (UInt32.ne_of_lt within).symm
  rw [if_neg (UInt32.lt_asymm within)] at kept
  have needed : Address.oneMore _ ≤ axis.count after := still _ (by
    rw [← Option.isSome_map, ← kept] at stored
    exact stored)
  rw [line_onLine, last, deleted.count_eq, full] at needed
  exact absurd needed (by decide)

/-- An operation on a sheet whose cells are all taken in leaves a cell outside the extent exactly
if it deletes a line while a cell is on the last one. -/
theorem Covers.not_covers_edit_iff (covers : axis.Covers sheet) (edit : Edit) :
    ¬ axis.Covers (sheet.edit edit) ↔
      ∃ index, edit = axis.edit (.delete index) ∧ index < axis.count sheet ∧
        ∃ address, (sheet.cell? address).isSome ∧ axis.line address = lastLine := by
  constructor
  · intro broken
    refine Classical.byContradiction fun spared ↦ ?_
    refine broken (covers.edit modest_oneMore edit ?_)
    intro index is within address stored behind
    refine oneMore_sub_one_le behind (fun last ↦ spared ?_) (covers address stored)
    exact ⟨index, is, within, address, stored, last⟩
  · rintro ⟨index, rfl, within, address, stored, last⟩
    exact covers.not_covers_of_delete within stored last

/-! ### Sessions -/

/-- In a session, no line is deleted while a cell is on the last one, or the sheet is restored from
a snapshot afterwards. -/
def SparesLastLine (axis : Axis) (sheet : Sheet) (edits : List Edit) : Prop :=
  ∀ before index later, edits = before ++ axis.edit (.delete index) :: later →
    Edit.restore ∉ later → ∀ address, ((sheet.session before).cell? address).isSome →
      axis.line address ≠ lastLine

/-- A session that spares the last line ends with all cells taken in, if they were or the sheet is
restored on the way. -/
theorem covers_session {edits : List Edit} (covered : axis.Covers sheet ∨ Edit.restore ∈ edits)
    (spares : axis.SparesLastLine sheet edits) : axis.Covers (sheet.session edits) := by
  induction edits generalizing sheet with
  | nil => exact covered.resolve_right List.not_mem_nil
  | cons edit later ih =>
    refine ih ?_ fun before index after whole ↦
      spares (edit :: before) index after (congrArg (edit :: ·) whole)
    by_cases again : Edit.restore ∈ later
    · exact .inr again
    · refine .inl ?_
      by_cases now : edit = .restore
      · rw [now]
        exact meets_restore modest_oneMore _
      · have covers := covered.resolve_right (by simp [again, Ne.symm now])
        refine Classical.byContradiction fun broken ↦ ?_
        obtain ⟨index, rfl, _, address, stored, last⟩ := (covers.not_covers_edit_iff edit).mp broken
        exact spares [] index later rfl again address stored last

/-- In every session from an empty sheet, no cell comes to be more than one line past the extent. If
the session spares the last line, then the extent takes in every cell, and every line with a cell
can be deleted but the last. The extent stops taking in every cell with the deletion of a line while
a cell is on the last one, and takes them in again when the sheet is restored from a snapshot. -/
theorem session_covers (axis : Axis) (rows columns : UInt32) (edits : List Edit) :
    let sheet := (Sheet.ofExtent rows columns).session edits
    (∀ address, (sheet.cell? address).isSome → axis.line address ≤ axis.count sheet) ∧
      (axis.SparesLastLine (Sheet.ofExtent rows columns) edits →
        axis.Covers sheet ∧ ∀ address, (sheet.cell? address).isSome →
          axis.line address ≠ lastLine →
            ∃ after, axis.delete sheet (axis.line address) = .ok after) ∧
      (axis.Covers sheet → ∀ edit, ¬ axis.Covers (sheet.edit edit) ↔
        ∃ index, edit = axis.edit (.delete index) ∧ index < axis.count sheet ∧
          ∃ address, (sheet.cell? address).isSome ∧ axis.line address = lastLine) ∧
      axis.Covers (sheet.edit .restore) := by
  intro sheet
  have empty (need : UInt32 → UInt32) : axis.Meets need (Sheet.ofExtent rows columns) :=
    meets_of_empty fun _ ↦ Std.ExtTreeMap.getElem?_empty
  refine ⟨?_, ?_, fun covers edit ↦ covers.not_covers_edit_iff edit, meets_restore modest_oneMore _⟩
  · refine session_keeps (fun sheet edit _ (before : axis.Meets id sheet) ↦ ?_) (empty id)
    apply before.edit modest_id
    intro index _ _ address stored behind
    exact sub_one_le_sub_one behind (before address stored)
  · intro spares
    have covers : axis.Covers sheet := covers_session (.inl (empty _)) spares
    refine ⟨covers, fun address stored notLast ↦ ?_⟩
    have within := lt_of_oneMore_le notLast (covers address stored)
    obtain ⟨after, done, _⟩ := exists_delete_of_lt within
    exact ⟨after, done⟩

/-- After a cell on the last line there can be, the deletion of the first line leaves that cell
outside the extent. Its line then cannot be deleted, though it is not the last one, and restoring
the sheet from its own snapshot changes the extent. -/
theorem not_covers_after_deletion :
    let full := Sheet.new.session [.setValue "A4294967296" (.text "x")]
    let sheet := full.session [.rows (.delete 0)]
    row.Covers full ∧
      sheet.cell? ⟨4294967294, 0⟩ = some (Cell.ofValue ⟨4294967294, 0⟩ (.text "x")) ∧
        sheet.rowCount = 4294967294 ∧ ¬ row.Covers sheet ∧
          sheet.deleteRow 4294967294 = .error (.rowOutOfBounds 4294967294 4294967294) ∧
            (sheet.edit .restore).rowCount = 4294967295 := by
  intro full sheet
  have stored : full.cell? ⟨lastLine, 0⟩ = some (Cell.ofValue ⟨lastLine, 0⟩ (.text "x")) := rfl
  have covers : row.Covers full := by
    refine covers_session (.inl (meets_of_empty fun _ ↦ Std.ExtTreeMap.getElem?_empty)) ?_
    intro before index later whole
    cases before with
    | nil => cases whole
    | cons first before => cases before <;> cases whole
  have count : row.count sheet = 4294967294 := by decide +kernel
  have outside : (Shift.delete 4294967294).isWithin (row.count sheet) = false := by
    rw [count]
    rfl
  have refused := shift_of_outside outside
  rw [count] at refused
  refine ⟨covers, by decide +kernel, count, ?_, refused, by decide +kernel⟩
  have within : (0 : UInt32) < row.count full := by decide +kernel
  exact covers.not_covers_of_delete within (by rw [stored]; rfl) rfl

end Axis

end Worksheet
