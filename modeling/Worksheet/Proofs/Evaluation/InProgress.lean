import Worksheet.Proofs.Evaluation.ReferencePath
import Worksheet.Proofs.Sheet.Extent

/-!
# Cells in progress are not read

What a sheet stores at a cell in progress does not matter to an evaluation. A reference to such a
cell is circular before the cell is looked at, and a range comes upon it in the same place whether
it is listed as stored, as in progress, or as one of all cells. So an evaluation has the same
outcome on two sheets that agree on all other cells (`Context.outcome_eq_of_agree_outside`),
although a cell that only one of them stores can turn a range from one way of walking to the other.
In particular the value of a formula as the content of a cell does not depend on what that cell
holds, and storing the formula there again changes nothing (`Sheet.applyFormulaAt_applyFormulaAt`).
-/

set_option autoImplicit false
set_option relaxedAutoImplicit false

namespace Worksheet

/-- After the same beginning, two evaluations with the same outcomes have the same outcome. -/
theorem Evaluation.outcome_bind_congr {α β : Type} {evaluation : Evaluation α}
    {next other : α → Evaluation β} {visiting : Visiting} {result : Except FormulaError α}
    (first : evaluation.Yields visiting result)
    (same : ∀ value, (next value).outcome visiting = (other value).outcome visiting) :
    (evaluation >>= next).outcome visiting = (evaluation >>= other).outcome visiting := by
  rw [outcome_bind, outcome_bind, first]
  cases result with
  | ok value => exact same value
  | error cause => rfl

namespace Context

variable {functions : Functions}

/-- Contents that agree outside the cells in progress make no difference to the value of a cell. -/
theorem lookup_congr_outside {one other : Address → Content} {visiting : Visiting}
    (agree : ∀ address, address ∉ visiting → one address = other address) (address : Address) :
    lookup functions one visiting address = lookup functions other visiting address := by
  by_cases member : address ∈ visiting
  · rw [lookup_of_mem member, lookup_of_mem member]
  have same := agree address member
  match followed : one address with
  | .value value =>
    rw [lookup_of_value member followed, lookup_of_value member (same ▸ followed)]
  | .formula text =>
    by_cases deep : depthLimit < visiting.size
    · rw [lookup_of_deep member followed deep, lookup_of_deep member (same ▸ followed) deep]
    · have shallow := Nat.not_lt.mp deep
      rw [lookup_of_formula member followed shallow,
        lookup_of_formula member (same ▸ followed) shallow]
      -- What was in progress still is, so the paths from the formula keep away from it.
      refine ReferencePath.textMeaning_congr fun path _ away reached onPath ↦ ?_
      exact agree reached ((Visiting.away_of_away_insert away).2 reached onPath)

end Context

/-! ### Storing a cell again -/

namespace Sheet

theorem put_put (sheet : Sheet) (cell : Cell) : (sheet.put cell).put cell = sheet.put cell := by
  have again (count needed : UInt32) : max (max count needed) needed = max count needed := by
    rw [← UInt32.toNat_inj, toNat_max, toNat_max]
    omega
  refine ext_cell? (fun address ↦ ?_) (again _ _) (again _ _)
  rw [cell?_put, cell?_put]
  split <;> rfl

theorem cell?_put_movedTo_of_ne (sheet : Sheet) (cell : Cell) {target address : Address}
    (different : address ≠ target) :
    (sheet.put (cell.movedTo target)).cell? address = sheet.cell? address := by
  rw [cell?_put]
  exact if_neg different.symm

end Sheet

/-! ### Evaluations -/

namespace Context

variable {registry : Registry} {outside : Nat → List Value → Except FormulaError Value}

/-- The value of a formula as the content of a cell is the same on sheets that agree on all other
cells. -/
theorem evaluateCell?_congr_outside {one other : Sheet} {target : Address}
    (agree : ∀ address, address ≠ target → one.cell? address = other.cell? address)
    (text : String) :
    evaluateCell? ⟨one, registry, .ofValues outside⟩ target text =
      evaluateCell? ⟨other, registry, .ofValues outside⟩ target text := by
  rw [evaluateCell?_eq, evaluateCell?_eq, functions_ofValues one other]
  refine Formula.textMeaning_congr fun address _ ↦
    lookup_congr_outside (fun place away ↦ ?_) address
  rw [Visiting.mem_ofList_singleton] at away
  exact Sheet.content_eq_of_cell? (agree place away)

end Context

/-- Storing a formula again in the same cell gives the same sheet and the same value. -/
theorem Sheet.applyFormulaAt_applyFormulaAt (sheet : Sheet) (target : Address) (text : String) :
    (sheet.applyFormulaAt target text).1.applyFormulaAt target text =
      sheet.applyFormulaAt target text := by
  let value := sheet.evaluateCell target text
  let cell :=
    if isFormulaText text then Cell.ofFormula target text value else Cell.ofValue target value
  have named : cell.address = target := by
    simp only [cell]
    split <;> rfl
  have same : (sheet.put cell).evaluateCell target text = value := by
    have found : (Context.builtIn (sheet.put cell)).evaluateCell? target text =
        (Context.builtIn sheet).evaluateCell? target text := by
      refine Context.evaluateCell?_congr_outside (fun address different ↦ ?_) text
      rw [cell?_put, named, if_neg different.symm]
    rw [evaluateCell, Context.evaluateCell, found]
    rfl
  show (sheet.put cell).applyFormulaAt target text = (sheet.put cell, value)
  rw [applyFormulaAt, same]
  exact congrArg (·, value) (sheet.put_put cell)

namespace Context

/-- What is stored at a cell in progress is never read. Two sheets that agree on all cells that are
not in progress give every text, every reference and every range the same values or the same
failure, whether or not a cell in progress is stored in them. In particular, the value of a text as
the content of a cell does not depend on what the cell holds, and storing the text there again gives
the same value and the same sheet. The functions may be any that look at nothing but values. -/
theorem outcome_eq_of_agree_outside {one other : Sheet} {visiting : Visiting}
    (agree : ∀ address, address ∉ visiting → one.cell? address = other.cell? address)
    (registry : Registry) (outside : Nat → List Value → Except FormulaError Value) :
    let on (sheet : Sheet) : Context := ⟨sheet, registry, .ofValues outside⟩
    (∀ text, ((on one).evaluate text).outcome visiting =
        ((on other).evaluate text).outcome visiting) ∧
      (∀ text, ((on one).resolveText text).outcome visiting =
        ((on other).resolveText text).outcome visiting) ∧
      (∀ first last, ((on one).expandTexts first last).outcome visiting =
        ((on other).expandTexts first last).outcome visiting) ∧
      (∀ (sheet : Sheet) (target : Address) (cell : Cell) (text : String),
        (on (sheet.put (cell.movedTo target))).evaluateCell? target text =
            (on sheet).evaluateCell? target text ∧
          (on (sheet.clear target)).evaluateCell? target text =
            (on sheet).evaluateCell? target text) ∧
      ∀ (sheet : Sheet) (target : Address) (text : String),
        (sheet.applyFormulaAt target text).1.applyFormulaAt target text =
          sheet.applyFormulaAt target text := by
  intro on
  have looked (address : Address) : lookup (on one).functions one.content visiting address =
      lookup (on one).functions other.content visiting address :=
    lookup_congr_outside (fun place away ↦ Sheet.content_eq_of_cell? (agree place away)) address
  refine ⟨fun text ↦ ?_, fun text ↦ ?_, fun first last ↦ ?_, fun sheet target cell text ↦ ⟨?_, ?_⟩,
    Sheet.applyFormulaAt_applyFormulaAt⟩
  · have outcome := (on one).yields_evaluate visiting text
    rw [Formula.textMeaning_congr fun address _ ↦ looked address] at outcome
    exact outcome.trans ((on other).yields_evaluate visiting text).symm
  · refine Evaluation.outcome_bind_congr (Evaluation.yields_ofOutcome _ visiting) fun address ↦ ?_
    have outcome := (on one).yields_resolve visiting address
    rw [looked] at outcome
    exact outcome.trans ((on other).yields_resolve visiting address).symm
  · refine Evaluation.outcome_bind_congr (Evaluation.yields_ofOutcome _ visiting) fun region ↦ ?_
    have outcome := (on one).yields_expand visiting region
    rw [Region.meaning_congr fun address _ ↦ looked address] at outcome
    exact outcome.trans ((on other).yields_expand visiting region).symm
  · exact evaluateCell?_congr_outside
      (fun address different ↦ sheet.cell?_put_movedTo_of_ne cell different) text
  · refine evaluateCell?_congr_outside (fun address different ↦ ?_) text
    rw [Sheet.cell?_clear, if_neg different.symm]

/-- The cell `B1` is in progress and stored on one of two sheets only, which makes one of them walk
through a range of two cells and the other along the cells in progress. -/
theorem outcome_eq_of_stored_in_progress :
    let one := Sheet.new.setValueAt ⟨0, 1⟩ (.text "x")
    let visiting : Visiting := Std.ExtTreeSet.ofList [Address.mk 0 1]
    let region := Region.ofCorners ⟨0, 0⟩ ⟨0, 1⟩
    (∀ address, address ∉ visiting → one.cell? address = Sheet.new.cell? address) ∧
      (builtIn one).candidates region visiting = [⟨0, 0⟩, ⟨0, 1⟩] ∧
      (builtIn Sheet.new).candidates region visiting = [⟨0, 1⟩] ∧
      ((builtIn one).evaluate "=SUM(A1:B1)").outcome visiting =
        ((builtIn Sheet.new).evaluate "=SUM(A1:B1)").outcome visiting := by
  intro one visiting region
  have agree : ∀ address, address ∉ visiting → one.cell? address = Sheet.new.cell? address := by
    intro address away
    rw [Visiting.mem_ofList_singleton] at away
    exact (Sheet.new.cell?_put (Cell.ofValue ⟨0, 1⟩ (.text "x")) address).trans
      (if_neg (Ne.symm away))
  exact ⟨agree, by decide +kernel, by decide +kernel,
    (outcome_eq_of_agree_outside agree .builtIn fun _ _ ↦ .ok .empty).1 "=SUM(A1:B1)"⟩

end Context

end Worksheet
