import Worksheet.Proofs.Recalculation.Refresh

/-!
# Stored results

The result that is stored with a formula is no part of what is entered into its cell
(`Cell.source`). References follow a formula and do not read its result, unless it consists of its
own address alone (`Sheet.content_eq_of_source?`). So on sheets where the same is entered, without
such formulas, all evaluations have the same outcomes, whatever results are stored
(`Sheet.outcome_eq_of_source?`). -/

set_option autoImplicit false
set_option relaxedAutoImplicit false

namespace Worksheet

/-! ### Cells without results -/

namespace Cell

/-- A cell without the values that are stored beside its formula, if it has one. -/
def source (cell : Cell) : Cell :=
  match cell.formula with
  | some formula => ofFormula cell.address formula .empty
  | none => cell

@[simp] theorem address_source (cell : Cell) : cell.source.address = cell.address := by
  unfold source
  split <;> rfl

@[simp] theorem formula_source (cell : Cell) : cell.source.formula = cell.formula := by
  unfold source
  split
  · rename_i formula written
    exact written.symm
  · rfl

theorem source_of_no_formula {cell : Cell} (none : cell.formula = none) : cell.source = cell := by
  rw [source, none]

theorem source_ofFormula (address : Address) (formula : String) (result : Value) :
    (ofFormula address formula result).source = ofFormula address formula .empty := rfl

end Cell

namespace Sheet

/-- What is entered at an address: the stored cell without the values beside its formula. -/
def source? (sheet : Sheet) (address : Address) : Option Cell :=
  (sheet.cell? address).map Cell.source

theorem source?_put (sheet : Sheet) (cell : Cell) (address : Address) :
    (sheet.put cell).source? address =
      if cell.address = address then some cell.source else sheet.source? address := by
  rw [source?, cell?_put]
  split <;> rfl

theorem formula?_eq_source? (sheet : Sheet) (address : Address) :
    sheet.formula? address = (sheet.source? address).bind Cell.formula := by
  rw [formula?, source?, Option.bind_map]
  exact congrArg (Option.bind _) (funext fun cell ↦ (Cell.formula_source cell).symm)

theorem source?_of_no_formula {sheet : Sheet} {address : Address}
    (none : sheet.formula? address = none) : sheet.source? address = sheet.cell? address := by
  unfold source?
  match stored : sheet.cell? address with
  | some cell =>
    rw [formula?, stored, Option.bind_some] at none
    rw [Option.map_some, Cell.source_of_no_formula none]
  | Option.none => rfl

/-! ### Evaluation apart from results -/

variable {one other : Sheet}

/-- Where the same is entered, references come upon the same, if they see the same result of a
formula that consists of its own address alone. -/
theorem content_eq_of_source? {address : Address}
    (same : one.source? address = other.source? address)
    (results : ∀ formula, one.formula? address = some formula →
      Formula.body formula = address.toA1 → one.valueAt address = other.valueAt address) :
    one.content address = other.content address := by
  have formulas : one.formula? address = other.formula? address := by
    rw [formula?_eq_source?, same, ← formula?_eq_source?]
  refine content_congr formulas fun unfollowed ↦ ?_
  match found : one.formula? address with
  | none =>
    have stored : one.cell? address = other.cell? address := by
      rw [← source?_of_no_formula found, same,
        source?_of_no_formula (formulas.symm.trans found)]
    rw [valueAt, stored, valueAt]
  | some formula =>
    obtain ⟨_, read, own⟩ := selfNamed_of_followed?_eq_none found unfollowed
    exact results _ read own

/-- Stored results do not matter. If the same is entered into two sheets and no formula consists of
its own address alone, then every text, cell and region evaluates to the same value or failure on
both, whatever values are stored with the formulas, whatever the extents and the cells in progress
are. The functions may be any that look at nothing but values. -/
theorem outcome_eq_of_source? (entries : ∀ address, one.source? address = other.source? address)
    (plain : ∀ address formula, one.formula? address = some formula →
      Formula.body formula ≠ address.toA1) (registry : Registry)
    (outside : Nat → List Value → Except FormulaError Value) (visiting : Visiting) :
    let on (sheet : Sheet) : Context := ⟨sheet, registry, .ofValues outside⟩
    (∀ text, ((on one).evaluate text).outcome visiting =
        ((on other).evaluate text).outcome visiting) ∧
      (∀ address, ((on one).resolve address).outcome visiting =
        ((on other).resolve address).outcome visiting) ∧
      ∀ region, ((on one).expand region).outcome visiting =
        ((on other).expand region).outcome visiting := by
  intro on
  have contents : (on one).sheet.content = (on other).sheet.content := by
    funext address
    refine content_eq_of_source? (entries address) fun formula found own ↦ ?_
    exact absurd own (plain address formula found)
  -- Outcomes are meanings, and a meaning sees the sheet through its contents alone.
  refine ⟨fun text ↦ ?_, fun address ↦ ?_, fun region ↦ ?_⟩
  · have outcome := (on one).yields_evaluate visiting text
    rw [contents] at outcome
    exact outcome.trans ((on other).yields_evaluate visiting text).symm
  · have outcome := (on one).yields_resolve visiting address
    rw [contents] at outcome
    exact outcome.trans ((on other).yields_resolve visiting address).symm
  · have outcome := (on one).yields_expand visiting region
    rw [contents] at outcome
    exact outcome.trans ((on other).yields_expand visiting region).symm

/-- A formula has the same value on a sheet where the result of a followed cell is missing and on a
larger one where it is stale. -/
theorem outcome_eq_of_stale :
    let one := (new.setValueAt ⟨0, 0⟩ (.text "x")).put (Cell.ofFormula ⟨0, 1⟩ "=A1" .empty)
    let other := ((ofExtent 7 300).setValueAt ⟨0, 0⟩ (.text "x")).put
      ⟨⟨0, 1⟩, .text "typed", some "=A1", .text "stale"⟩
    (∀ address, one.source? address = other.source? address) ∧
      (∀ address formula, one.formula? address = some formula →
        Formula.body formula ≠ address.toA1) ∧
        one.valueAt ⟨0, 1⟩ ≠ other.valueAt ⟨0, 1⟩ ∧
          ((Context.builtIn one).evaluate "=UPPER(B1)").outcome ∅ =
            ((Context.builtIn other).evaluate "=UPPER(B1)").outcome ∅ := by
  intro one other
  have entries : ∀ address, one.source? address = other.source? address := by
    intro address
    simp only [one, other, setValueAt, source?_put]
    rfl
  have body : Formula.body "=A1" = Address.toA1 ⟨0, 0⟩ := by
    rw [Address.toA1_of_single_letter (by decide)]
    rfl
  have plain : ∀ address formula, one.formula? address = some formula →
      Formula.body formula ≠ address.toA1 := by
    intro address formula found own
    simp only [one, setValueAt, formula?, cell?_put] at found
    split at found
    · rename_i here
      cases here
      cases found
      exact absurd (Address.toA1_injective (body.symm.trans own)) (by decide)
    split at found
    · cases found
    · cases found
  refine ⟨entries, plain, by decide +kernel, ?_⟩
  exact (outcome_eq_of_source? entries plain .builtIn (fun _ _ ↦ .ok .empty) ∅).1 "=UPPER(B1)"

end Sheet

end Worksheet
