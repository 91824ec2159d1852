import Worksheet.Proofs.Address.A1Grammar
import Worksheet.Proofs.Session.Effects
import Worksheet.Proofs.Sheet.Extent

/-!
# Operations on a single cell

Typing into a cell, applying a formula to it, storing a value in it and clearing it. Each of these
operations names its cell by a text and fails only if the text is no address. Then it changes
nothing. Otherwise it writes or removes the one record and leaves all others as they are
(`Sheet.single_cell_operations`). The failure of a formula is no failure of the operation: it is
stored as the value of the cell.
-/

set_option autoImplicit false
set_option relaxedAutoImplicit false

namespace Worksheet

/-- The text by which an operation on a single cell names the cell. -/
def Edit.place? : Edit → Option String
  | enter place _ | applyFormula place _ | setValue place _ | clear place => some place
  | put _ | clearAll | rows _ | columns _ | recalculate _ | restore => none

theorem Edit.StoresValue.exists_place {edit : Edit} {value : Value}
    (stores : edit.StoresValue value) : ∃ place, edit.place? = some place := by
  cases stores <;> exact ⟨_, rfl⟩

namespace Sheet

/-! ### What is written -/

/-- A cell has been written to a sheet: it replaces what was stored at its address, all else is as
before, and the extent grows to take its lines in, as far as lines can be counted. -/
structure Written (before : Sheet) (cell : Cell) (after : Sheet) : Prop where
  /-- The cell is stored as it is. -/
  cell?_self : after.cell? cell.address = some cell
  /-- All other cells are as before. -/
  cell?_of_ne : ∀ address ≠ cell.address, after.cell? address = before.cell? address
  /-- There are as many lines as before, or one more than the index of the line of the cell. -/
  count_eq : ∀ axis : Axis, (axis.count after).toNat =
    max (axis.count before).toNat (min ((axis.line cell.address).toNat + 1) 0xffffffff)

/-- A text has been stored at an address, with a value: a formula with the value that it has or with
its failure, and any other text with the value that it stands for. -/
structure Stored (before : Sheet) (address : Address) (text : String) (plain : Value)
    (after : Sheet) (value : Value) : Prop where
  /-- The whole record is written, with a formula only if the text is one. -/
  written : before.Written (if isFormulaText text then Cell.ofFormula address text value
    else Cell.ofValue address value) after
  /-- A formula has its value. -/
  value_of_ok : isFormulaText text → ∀ found,
    (Context.builtIn before).evaluateCell? address text = .ok found → value = found
  /-- A formula that fails has its failure for a value. -/
  value_of_error : isFormulaText text → ∀ cause,
    (Context.builtIn before).evaluateCell? address text = .error cause →
      value = .error cause.message
  /-- Any other text has the value that it stands for. -/
  value_of_plain : ¬ isFormulaText text → value = plain

/-- A cell has been removed from a sheet: all else is as before. -/
structure Cleared (before : Sheet) (address : Address) (after : Sheet) : Prop where
  /-- Nothing is stored at the address. -/
  cell?_self : after.cell? address = none
  /-- All other cells are as before. -/
  cell?_of_ne : ∀ other ≠ address, after.cell? other = before.cell? other
  /-- The extent is as before. -/
  count_eq : ∀ axis : Axis, axis.count after = axis.count before

theorem written_put (sheet : Sheet) (cell : Cell) : sheet.Written cell (sheet.put cell) := by
  refine ⟨?_, fun address different ↦ ?_, fun axis ↦ ?_⟩
  · rw [cell?_put, if_pos rfl]
  · rw [cell?_put, if_neg different.symm]
  · rw [Axis.count_put, toNat_max, Address.toNat_oneMore]

theorem cleared_clear (sheet : Sheet) (address : Address) :
    sheet.Cleared address (sheet.clear address) := by
  refine ⟨?_, fun other different ↦ ?_, fun axis ↦ ?_⟩
  · rw [cell?_clear, if_pos rfl]
  · rw [cell?_clear, if_neg different.symm]
  · cases axis <;> rfl

theorem stored_applyFormulaAt (sheet : Sheet) (address : Address) (text : String) :
    sheet.Stored address text (.text text) (sheet.applyFormulaAt address text).1
      (sheet.applyFormulaAt address text).2 := by
  refine ⟨?_, fun _ found evaluated ↦ ?_, fun _ cause failed ↦ ?_, fun plain ↦ ?_⟩
  · exact sheet.written_put _
  · show sheet.evaluateCell address text = found
    rw [evaluateCell, Context.evaluateCell, evaluated]
  · show sheet.evaluateCell address text = .error cause.message
    rw [evaluateCell, Context.evaluateCell, failed]
  · exact evaluateCell_of_plain plain sheet address

theorem stored_enterAt (sheet : Sheet) (address : Address) (input : String) :
    sheet.Stored address input (Value.ofInput input) (sheet.enterAt address input).1
      (sheet.enterAt address input).2 := by
  unfold enterAt
  by_cases formula : isFormulaText input
  · rw [if_pos formula]
    have applied := sheet.stored_applyFormulaAt address input
    exact ⟨applied.written, applied.value_of_ok, applied.value_of_error, absurd formula⟩
  · rw [if_neg formula]
    refine ⟨?_, fun isFormula ↦ absurd isFormula formula, fun isFormula ↦ absurd isFormula formula,
      fun _ ↦ rfl⟩
    rw [if_neg formula]
    exact sheet.written_put (Cell.ofValue address (Value.ofInput input))

/-! ### Places -/

variable {place : String}

theorem map_eq_error_iff {ε α β : Type} {outcome : Except ε α} {next : α → β} {cause : ε} :
    outcome.map next = .error cause ↔ outcome = .error cause := by
  constructor <;> intro failed <;> cases outcome <;> cases failed <;> rfl

/-- An operation on a single cell changes nothing if its text is no address. -/
theorem edit_of_parse_eq_error (sheet : Sheet) {edit : Edit} {cause : SheetError}
    (named : edit.place? = some place) (faulty : Address.parse place = .error cause) :
    sheet.edit edit = sheet := by
  cases edit with
  | enter | applyFormula | setValue | clear =>
    cases named
    simp only [Sheet.edit, enter, applyFormula, setValue, clearText, faulty]
    rfl
  | put | clearAll | rows | columns | recalculate | restore => cases named

/-- Storing a plain value puts a cell with it, in whatever way the value comes in. -/
theorem edit_of_storesValue (sheet : Sheet) {edit : Edit} {value : Value} {address : Address}
    (stores : edit.StoresValue value) (named : edit.place? = some place)
    (read : Address.parse place = .ok address) :
    sheet.edit edit = sheet.put (Cell.ofValue address value) := by
  cases stores with
  | enter _ plain =>
    cases named
    rw [Sheet.edit, enter, read]
    show (sheet.enterAt address _).1 = _
    rw [enterAt, if_neg plain]
    rfl
  | applyFormula _ plain =>
    cases named
    rw [Sheet.edit, applyFormula, read]
    show (sheet.applyFormulaAt address _).1 = _
    simp only [applyFormulaAt, if_neg plain, evaluateCell_of_plain plain]
  | setValue =>
    cases named
    rw [Sheet.edit, setValue, read]
    rfl

/-- Plain values may be stored at different places in either order. -/
theorem edit_comm (sheet : Sheet) {one other : Edit} {first second : Value}
    (storesFirst : one.StoresValue first) (storesSecond : other.StoresValue second)
    (apart : one.place? ≠ other.place?) :
    (sheet.edit one).edit other = (sheet.edit other).edit one := by
  obtain ⟨place, named⟩ := storesFirst.exists_place
  obtain ⟨next, namedNext⟩ := storesSecond.exists_place
  match read : Address.parse place, readNext : Address.parse next with
  | .error _, _ => rw [edit_of_parse_eq_error _ named read, edit_of_parse_eq_error _ named read]
  | .ok _, .error _ =>
    rw [edit_of_parse_eq_error _ namedNext readNext, edit_of_parse_eq_error _ namedNext readNext]
  | .ok address, .ok target =>
    have different : address ≠ target := by
      rintro rfl
      refine apart ?_
      rw [named, namedNext, ← Address.toA1_of_parse_eq_ok read,
        Address.toA1_of_parse_eq_ok readNext]
    simp only [edit_of_storesValue _ storesFirst named read,
      edit_of_storesValue _ storesSecond namedNext readNext]
    exact put_comm sheet different

/-! ### The operations -/

/-- An operation on a single cell fails just if the text by which it names the cell is no address,
and then the sheet is as before. Otherwise typing and applying a formula store the text with the
value that they give, storing a value writes it, and clearing removes the record that it gives.
Plain values may be stored at different places in either order. -/
theorem single_cell_operations (sheet : Sheet) :
    (∀ place cause,
      (∀ input, sheet.enter place input = .error cause ↔ Address.parse place = .error cause) ∧
      (∀ text, sheet.applyFormula place text = .error cause ↔
        Address.parse place = .error cause) ∧
      (∀ value, sheet.setValue place value = .error cause ↔ Address.parse place = .error cause) ∧
      (sheet.clearText place = .error cause ↔ Address.parse place = .error cause) ∧
      (Address.parse place = .error cause →
        ∀ edit : Edit, edit.place? = some place → sheet.edit edit = sheet)) ∧
    (∀ place address, Address.parse place = .ok address →
      (∀ input, ∃ after value, sheet.enter place input = .ok (after, value) ∧
        sheet.Stored address input (Value.ofInput input) after value) ∧
      (∀ text, ∃ after value, sheet.applyFormula place text = .ok (after, value) ∧
        sheet.Stored address text (.text text) after value) ∧
      (∀ value, ∃ after, sheet.setValue place value = .ok after ∧
        sheet.Written (Cell.ofValue address value) after) ∧
      ∃ after, sheet.clearText place = .ok (after, sheet.cell? address) ∧
        sheet.Cleared address after) ∧
    ∀ (one other : Edit) first second, one.StoresValue first → other.StoresValue second →
      one.place? ≠ other.place? → (sheet.edit one).edit other = (sheet.edit other).edit one := by
  refine ⟨fun place cause ↦ ⟨fun _ ↦ map_eq_error_iff, fun _ ↦ map_eq_error_iff,
    fun _ ↦ map_eq_error_iff, map_eq_error_iff, fun faulty edit named ↦ ?_⟩,
    fun place address read ↦ ⟨fun input ↦ ?_, fun text ↦ ?_, fun value ↦ ?_, ?_⟩,
    fun one other first second storesFirst storesSecond apart ↦ ?_⟩
  · exact edit_of_parse_eq_error sheet named faulty
  · refine ⟨_, _, ?_, sheet.stored_enterAt address input⟩
    rw [enter, read]
    rfl
  · refine ⟨_, _, ?_, sheet.stored_applyFormulaAt address text⟩
    rw [applyFormula, read]
    rfl
  · refine ⟨_, ?_, sheet.written_put (Cell.ofValue address value)⟩
    rw [setValue, read]
    rfl
  · refine ⟨_, ?_, sheet.cleared_clear address⟩
    rw [clearText, read]
    rfl
  · exact sheet.edit_comm storesFirst storesSecond apart

end Sheet

end Worksheet
