import Worksheet.Proofs.Session.Effects
import Worksheet.Proofs.Sheet.Restore

/-!
# What sessions keep of every cell

A property of single cells that does not depend on their addresses is kept by an operation if the
cells that the operation stores have it (`Sheet.EachCell.edit`): all other cells stay, are moved or
are lost.
-/

set_option autoImplicit false
set_option relaxedAutoImplicit false

namespace Worksheet.Sheet

/-- All stored cells have a property. -/
def EachCell (holds : Cell → Prop) (sheet : Sheet) : Prop :=
  ∀ address cell, sheet.cell? address = some cell → holds cell

variable {holds : Cell → Prop} {sheet after : Sheet}

theorem eachCell_of_empty (empty : ∀ address, sheet.cell? address = none) :
    sheet.EachCell holds := by
  intro address cell stored
  rw [empty] at stored
  cases stored

theorem EachCell.put (each : sheet.EachCell holds) {cell : Cell} (given : holds cell) :
    (sheet.put cell).EachCell holds := by
  intro address other stored
  rw [cell?_put] at stored
  split at stored
  · cases stored
    exact given
  · exact each address other stored

theorem EachCell.clear (each : sheet.EachCell holds) (removed : Address) :
    (sheet.clear removed).EachCell holds := by
  intro address cell stored
  rw [cell?_clear] at stored
  split at stored
  · cases stored
  · exact each address cell stored

section

variable (moved : ∀ cell address, holds cell → holds (cell.movedTo address))

include moved

theorem EachCell.of_shifted {axis : Axis} {shift : Shift} (each : sheet.EachCell holds)
    (shifted : axis.Shifted shift sheet after) : after.EachCell holds := by
  intro address cell stored
  rw [shifted.cell?_eq] at stored
  obtain ⟨line, _, there⟩ := Option.bind_eq_some_iff.mp stored
  obtain ⟨before, found, rfl⟩ := Option.map_eq_some_iff.mp there
  exact moved before address (each _ before found)

/-- If all cells of a snapshot have a property, then those of the restored sheet have it. -/
theorem eachCell_restore {snapshot : Snapshot}
    (each : ∀ (address : Address) (cell : Cell), snapshot.cells[address]? = some cell →
      holds cell) : snapshot.restore.EachCell holds := by
  intro address cell stored
  rw [Snapshot.cell?_restore] at stored
  obtain ⟨before, found, rfl⟩ := Option.map_eq_some_iff.mp stored
  exact moved before address (each address before found)

/-- An operation keeps a property of all cells if the cells that it stores have it: those with a
formula and its value, whose text begins as a formula does or is already stored, those with a plain
value, and a given cell. -/
theorem EachCell.edit (each : sheet.EachCell holds)
    (evaluated : ∀ (sheet : Sheet) address text, sheet.EachCell holds →
      isFormulaText text ∨ sheet.formula? address = some text →
        holds (Cell.ofFormula address text (sheet.evaluateCell address text)))
    {edit : Edit}
    (valued : ∀ value, edit.StoresValue value → ∀ address, holds (Cell.ofValue address value))
    (given : ∀ cell, edit = .put cell → holds cell) : (sheet.edit edit).EachCell holds := by
  have effect := sheet.effect_edit edit
  generalize sheet.edit edit = later at effect ⊢
  cases effect with
  | nothing => exact each
  | @formula _ text stores address =>
    have begins : isFormulaText text := by cases stores <;> assumption
    exact each.put (evaluated sheet address text each (Or.inl begins))
  | value stores address => exact each.put (valued _ stores address)
  | put cell => exact each.put (given cell rfl)
  | clear _ address => exact each.clear address
  | clearAll => exact eachCell_of_empty fun _ ↦ Std.ExtTreeMap.getElem?_empty
  | shift _ shifted => exact each.of_shifted moved shifted
  | recalculate _ done =>
    refine @refreshAll_keeps (EachCell holds) (fun sheet address formula found before ↦ ?_) _ each
      done
    exact before.put (evaluated sheet address formula before (Or.inr found))
  | restore => exact eachCell_restore moved each

end

end Worksheet.Sheet
