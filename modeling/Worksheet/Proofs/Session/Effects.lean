import Worksheet.Proofs.Recalculation.Refresh
import Worksheet.Proofs.Sheet.Moves

/-!
# What operations do

An operation of a session does one of a few things to the sheet, or nothing (`Edit.Effect`). A
property that each of these keeps is kept by every operation (`effect_edit`).
-/

set_option autoImplicit false
set_option relaxedAutoImplicit false

namespace Worksheet

namespace Edit

/-- The operation stores a formula together with its value. -/
inductive StoresFormula : Edit → String → Prop
  | enter (place : String) {text : String} (formula : Sheet.isFormulaText text) :
      StoresFormula (.enter place text) text
  | applyFormula (place : String) {text : String} (formula : Sheet.isFormulaText text) :
      StoresFormula (.applyFormula place text) text

/-- The operation stores a value without a formula. -/
inductive StoresValue : Edit → Value → Prop
  | enter (place : String) {input : String} (plain : ¬ Sheet.isFormulaText input) :
      StoresValue (.enter place input) (Value.ofInput input)
  | applyFormula (place : String) {text : String} (plain : ¬ Sheet.isFormulaText text) :
      StoresValue (.applyFormula place text) (.text text)
  | setValue (place : String) (value : Value) : StoresValue (.setValue place value) value

/-- What an operation can do to a sheet. -/
inductive Effect (sheet : Sheet) : Edit → Sheet → Prop
  /-- It fails, and nothing happens. -/
  | nothing (edit : Edit) : Effect sheet edit sheet
  /-- It stores a formula with the value that it has. -/
  | formula {edit : Edit} {text : String} (stores : edit.StoresFormula text) (address : Address) :
      Effect sheet edit
        (sheet.put (Cell.ofFormula address text (sheet.evaluateCell address text)))
  /-- It stores a value. -/
  | value {edit : Edit} {value : Value} (stores : edit.StoresValue value) (address : Address) :
      Effect sheet edit (sheet.setValueAt address value)
  /-- It stores a given cell. -/
  | put (cell : Cell) : Effect sheet (.put cell) (sheet.put cell)
  /-- It removes a cell. -/
  | clear (place : String) (address : Address) : Effect sheet (.clear place) (sheet.clear address)
  /-- It removes all cells. -/
  | clearAll : Effect sheet .clearAll sheet.clearAll
  /-- It changes the lines. -/
  | shift {edit : Edit} {axis : Axis} {shift : Shift} {after : Sheet} (is : edit = axis.edit shift)
      (shifted : axis.Shifted shift sheet after) : Effect sheet edit after
  /-- It evaluates formulas anew. -/
  | recalculate (stopOnError : Bool) (done : List Address) :
      Effect sheet (.recalculate stopOnError) (sheet.refreshAll done)
  /-- It restores the sheet from its snapshot. -/
  | restore : Effect sheet .restore sheet.snapshot.restore

end Edit

namespace Sheet

/-- Text that is no formula is its own value. -/
theorem evaluateCell_of_plain {text : String} (plain : ¬ isFormulaText text) (sheet : Sheet)
    (target : Address) : sheet.evaluateCell target text = .text text := by
  have read : Formula.read text = .ok (.constant (.text text)) := by
    rw [Formula.read, if_pos (by simpa [isFormulaText] using plain)]
  have found : (Context.builtIn sheet).evaluateCell? target text = .ok (.text text) := by
    rw [Context.evaluateCell?_eq, Formula.textMeaning, read]
    rfl
  rw [evaluateCell, Context.evaluateCell, found]

theorem effect_applyFormulaAt {sheet : Sheet} {edit : Edit} {text : String}
    (formula : isFormulaText text → edit.StoresFormula text)
    (plain : ¬ isFormulaText text → edit.StoresValue (.text text)) (address : Address) :
    edit.Effect sheet (sheet.applyFormulaAt address text).1 := by
  unfold applyFormulaAt
  by_cases isFormula : isFormulaText text
  · simp only [if_pos isFormula]
    exact .formula (formula isFormula) address
  · simp only [if_neg isFormula, evaluateCell_of_plain isFormula]
    exact .value (plain isFormula) address

theorem effect_enterAt (sheet : Sheet) (place input : String) (address : Address) :
    (Edit.enter place input).Effect sheet (sheet.enterAt address input).1 := by
  unfold enterAt
  by_cases formula : isFormulaText input
  · rw [if_pos formula]
    exact effect_applyFormulaAt (.enter place) (absurd formula) address
  · rw [if_neg formula]
    exact .value (.enter place formula) address

/-- An operation on lines changes them, or fails. -/
theorem effect_shift (sheet : Sheet) (axis : Axis) (shift : Shift) :
    (axis.edit shift).Effect sheet (sheet.edit (axis.edit shift)) := by
  rw [axis.edit_eq_orElse]
  match done : axis.shift sheet shift with
  | .ok after => exact .shift rfl (Axis.shifted_of_eq_ok done)
  | .error cause => exact .nothing _

/-- Every operation has one of the effects. -/
theorem effect_edit (sheet : Sheet) (edit : Edit) : edit.Effect sheet (sheet.edit edit) := by
  cases edit with
  | enter place input =>
    rw [Sheet.edit, enter]
    cases Address.parse place with
    | error cause => exact .nothing _
    | ok address => exact effect_enterAt sheet place input address
  | applyFormula place text =>
    rw [Sheet.edit, applyFormula]
    cases Address.parse place with
    | error cause => exact .nothing _
    | ok address => exact effect_applyFormulaAt (.applyFormula place) (.applyFormula place) address
  | setValue place value =>
    rw [Sheet.edit, setValue]
    cases Address.parse place with
    | error cause => exact .nothing _
    | ok address => exact .value (.setValue place value) address
  | put cell => exact .put cell
  | clear place =>
    rw [Sheet.edit, clearText]
    cases Address.parse place with
    | error cause => exact .nothing _
    | ok address => exact .clear place address
  | clearAll => exact .clearAll
  | rows shift => exact effect_shift sheet .row shift
  | columns shift => exact effect_shift sheet .column shift
  | recalculate stopOnError =>
    obtain ⟨done, _, _, whole⟩ := exists_refreshAll_of_recalculateCells stopOnError
      sheet.formulaAddresses sheet ⟨sheet.formulaAddresses.length, 0, 0⟩
    show Edit.Effect sheet _ (recalculateCells _ _ _ _).1
    rw [whole]
    exact .recalculate stopOnError done
  | restore => exact .restore

/-- Refreshing cells keeps what storing the formula of a cell with its value keeps. -/
theorem refreshAll_keeps {holds : Sheet → Prop}
    (keeps : ∀ sheet address formula, sheet.formula? address = some formula → holds sheet →
      holds (sheet.put (Cell.ofFormula address formula (sheet.evaluateCell address formula))))
    {sheet : Sheet} (before : holds sheet) (order : List Address) :
    holds (sheet.refreshAll order) := by
  induction order generalizing sheet with
  | nil => exact before
  | cons address later ih =>
    apply ih
    match found : sheet.formula? address with
    | none =>
      rw [refresh_of_no_formula found]
      exact before
    | some formula =>
      rw [refresh_of_formula found]
      exact keeps sheet address formula found before

/-- A session keeps what each of its operations keeps. -/
theorem session_keeps {holds : Sheet → Prop} {edits : List Edit}
    (keeps : ∀ sheet, ∀ edit ∈ edits, holds sheet → holds (sheet.edit edit)) {sheet : Sheet}
    (before : holds sheet) : holds (sheet.session edits) := by
  induction edits generalizing sheet with
  | nil => exact before
  | cons edit later ih =>
    refine ih (fun sheet edit member ↦ keeps sheet edit (List.mem_cons_of_mem _ member)) ?_
    exact keeps sheet edit List.mem_cons_self before

end Sheet

end Worksheet
