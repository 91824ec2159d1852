import Worksheet.Proofs.Recalculation.Refresh
import Worksheet.Proofs.Sheet.Extent

/-!
# Recalculation as simultaneous evaluation

A recalculation writes to the sheet that it reads from. When no stored value that references can see
is stale, this makes no difference: the result is the sheet in which every formula has been
evaluated on the sheet from before (`refreshAll_eq_evaluated`), and the order of the cells does not
matter.
-/

set_option autoImplicit false
set_option relaxedAutoImplicit false

namespace Worksheet.Sheet

/-! ### All formulas evaluated on one sheet -/

/-- A cell with the value that its formula, if it has one, has on a sheet. -/
def evaluatedCell (sheet : Sheet) (address : Address) (cell : Cell) : Cell :=
  match cell.formula with
  | some formula => Cell.ofFormula address formula (sheet.evaluateCell address formula)
  | none => cell

/-- The sheet in which every formula cell has the value of its formula on the given sheet. The
extent takes in the formula cells. -/
def evaluated (sheet : Sheet) : Sheet where
  cells := sheet.cells.map sheet.evaluatedCell
  rowCount := cover Address.row sheet.rowCount sheet.formulaAddresses
  columnCount := cover Address.column sheet.columnCount sheet.formulaAddresses
  keyed := by
    intro address cell stored
    rw [Std.ExtTreeMap.getElem?_map, Option.map_eq_some_iff] at stored
    obtain ⟨before, found, rfl⟩ := stored
    unfold evaluatedCell
    split
    · rfl
    · exact sheet.keyed address before found

variable {sheet : Sheet}

theorem cell?_evaluated (address : Address) :
    sheet.evaluated.cell? address = (sheet.cell? address).map (sheet.evaluatedCell address) :=
  Std.ExtTreeMap.getElem?_map

/-! ### Equality with the steps -/

theorem extent_refreshAll {order : List Address}
    (formulas : ∀ address ∈ order, ∃ formula, sheet.formula? address = some formula) :
    (sheet.refreshAll order).rowCount = cover Address.row sheet.rowCount order ∧
      (sheet.refreshAll order).columnCount = cover Address.column sheet.columnCount order := by
  induction order generalizing sheet with
  | nil => exact ⟨rfl, rfl⟩
  | cons address later ih =>
    obtain ⟨⟨formula, found⟩, rest⟩ := List.forall_mem_cons.mp formulas
    have grown := @ih (sheet.refresh address) fun other member ↦ by
      rw [formula?_refresh]
      exact rest other member
    rw [refreshAll_cons, grown.1, grown.2, refresh_of_formula found]
    exact ⟨rfl, rfl⟩

/-- When no formula that consists of its own address is stale, evaluation sees the same on the
sheets between the steps as on the first one. -/
theorem evaluateCell_refreshAll {order : List Address}
    (settled : sheet.Settled) (target : Address)
    (formula : String) :
    (sheet.refreshAll order).evaluateCell target formula = sheet.evaluateCell target formula :=
  evaluateCell_congr fun _ _ _ address _ ↦ content_refreshAll fun _ ↦ settled address

/-- Refreshing all formula cells, in any order, evaluates every formula on the sheet from before. -/
theorem refreshAll_eq_evaluated {order : List Address}
    (settled : sheet.Settled)
    (permuted : order.Perm sheet.formulaAddresses) : sheet.refreshAll order = sheet.evaluated := by
  have distinct : order.Nodup := permuted.nodup_iff.mpr sheet.nodup_formulaAddresses
  have formulas : ∀ address ∈ order, ∃ formula, sheet.formula? address = some formula :=
    fun _ member ↦ mem_formulaAddresses.mp (permuted.mem_iff.mp member)
  obtain ⟨rows, columns⟩ := extent_refreshAll formulas
  refine ext_cell? (fun address ↦ ?_) (rows.trans (cover_perm permuted))
    (columns.trans (cover_perm permuted))
  rw [cell?_evaluated]
  by_cases member : address ∈ order
  · obtain ⟨formula, found⟩ := formulas address member
    -- The cell is refreshed once, on a sheet that evaluation cannot tell from the first one.
    obtain ⟨before, after, rfl⟩ := List.append_of_mem member
    have last : address ∉ after := (List.nodup_cons.mp (List.nodup_append.mp distinct).2.1).1
    rw [cell?_refreshAll_append found last, evaluateCell_refreshAll settled]
    obtain ⟨cell, stored, written⟩ := Option.bind_eq_some_iff.mp found
    rw [stored, Option.map_some, evaluatedCell, written]
  · rw [cell?_refreshAll_of_not_mem member]
    match stored : sheet.cell? address with
    | none => rfl
    | some cell =>
      have written : cell.formula = none := by
        refine Option.eq_none_iff_forall_ne_some.mpr fun formula written ↦ member ?_
        refine permuted.mem_iff.mpr (mem_formulaAddresses.mpr ⟨formula, ?_⟩)
        rw [formula?, stored, Option.bind_some, written]
      rw [Option.map_some, evaluatedCell, written]

theorem recalculate_of_settled (settled : sheet.Settled) :
    (sheet.recalculate false).1 = sheet.evaluated := by
  rw [recalculate_eq_refreshAll]
  exact refreshAll_eq_evaluated settled (List.Perm.refl _)

theorem formulaAddresses_refreshAll (order : List Address) :
    (sheet.refreshAll order).formulaAddresses = sheet.formulaAddresses := by
  refine Address.eq_of_pairwise_before (pairwise_formulaAddresses _) (pairwise_formulaAddresses _)
    fun other ↦ ?_
  rw [mem_formulaAddresses, mem_formulaAddresses, formula?_refreshAll]

/-- Evaluating all formulas once more changes nothing. -/
theorem evaluated_evaluated (settled : sheet.Settled) :
    sheet.evaluated.evaluated = sheet.evaluated := by
  have steps := refreshAll_eq_evaluated settled (List.Perm.refl _)
  have addresses : sheet.evaluated.formulaAddresses = sheet.formulaAddresses := by
    rw [← steps, formulaAddresses_refreshAll]
  have values (address : Address) (formula : String) :
      sheet.evaluated.evaluateCell address formula = sheet.evaluateCell address formula := by
    rw [← steps, evaluateCell_refreshAll settled]
  refine ext_cell? (fun address ↦ ?_) ?_ ?_
  · rw [cell?_evaluated, cell?_evaluated, Option.map_map]
    refine congrArg (Option.map · (sheet.cell? address)) (funext fun cell ↦ ?_)
    show sheet.evaluated.evaluatedCell address (sheet.evaluatedCell address cell) =
      sheet.evaluatedCell address cell
    match written : cell.formula with
    | none => simp only [evaluatedCell, written]
    | some formula => simp only [evaluatedCell, written, Cell.ofFormula, values]
  · show cover _ (cover _ _ _) _ = cover _ _ _
    rw [addresses, cover_cover]
  · show cover _ (cover _ _ _) _ = cover _ _ _
    rw [addresses, cover_cover]

/-- When no formula consists of its own address alone, a recalculation that goes on after failures
evaluates every formula on the sheet from before, and so does one in any other order of the formula
cells. -/
theorem recalculate_eq_evaluated (sheet : Sheet)
    (plain : ∀ address formula, sheet.formula? address = some formula →
      Formula.body formula ≠ address.toA1) :
    (sheet.recalculate false).1 = sheet.evaluated ∧
      ∀ order : List Address, order.Perm sheet.formulaAddresses → ∀ report : RecalculationReport,
        (recalculateCells false order sheet report).1 = sheet.evaluated := by
  have settled : sheet.Settled := by
    rintro address ⟨formula, found, own⟩
    exact absurd own (plain address formula found)
  constructor
  · exact recalculate_of_settled settled
  · intro order permuted report
    rw [recalculateCells_eq_refreshAll]
    exact refreshAll_eq_evaluated settled permuted

/-- Two formulas with nothing stored yet, where the cell that comes second in row-major order
depends on the other one and is processed before it. -/
theorem recalculate_eq_evaluated_backwards :
    let sheet := ((Sheet.new.setValueAt ⟨0, 0⟩ (.text "x")).put
      (Cell.ofFormula ⟨0, 1⟩ "=A1" .empty)).put (Cell.ofFormula ⟨1, 0⟩ "=B1" .empty)
    (∀ address formula, sheet.formula? address = some formula →
      Formula.body formula ≠ address.toA1) ∧
        [Address.mk 1 0, ⟨0, 1⟩].Perm sheet.formulaAddresses ∧
          (sheet.recalculate false).1 = sheet.evaluated ∧
            (recalculateCells false [⟨1, 0⟩, ⟨0, 1⟩] sheet ⟨2, 0, 0⟩).1 = sheet.evaluated := by
  intro sheet
  have first : Formula.body "=A1" = Address.toA1 ⟨0, 0⟩ := by
    rw [Address.toA1_of_single_letter (by decide)]
    rfl
  have second : Formula.body "=B1" = Address.toA1 ⟨0, 1⟩ := by
    rw [Address.toA1_of_single_letter (by decide)]
    rfl
  have plain : ∀ address formula, sheet.formula? address = some formula →
      Formula.body formula ≠ address.toA1 := by
    intro address formula found own
    simp only [sheet, setValueAt, formula?, cell?_put] at found
    split at found
    · rename_i here
      cases here
      cases found
      exact absurd (Address.toA1_injective (second.symm.trans own)) (by decide)
    split at found
    · rename_i here
      cases here
      cases found
      exact absurd (Address.toA1_injective (first.symm.trans own)) (by decide)
    split at found
    · cases found
    · cases found
  have order : sheet.formulaAddresses = [⟨0, 1⟩, ⟨1, 0⟩] := by
    rw [formulaAddresses_eq]
    rfl
  have permuted : [Address.mk 1 0, ⟨0, 1⟩].Perm sheet.formulaAddresses := by
    rw [order]
    exact List.Perm.swap _ _ _
  obtain ⟨whole, other⟩ := recalculate_eq_evaluated sheet plain
  exact ⟨plain, permuted, whole, other _ permuted _⟩

end Worksheet.Sheet
