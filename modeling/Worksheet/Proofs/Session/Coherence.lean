import Worksheet.Proofs.Session.EachCell

/-!
# Coherent records

What is stored for a cell is a formula with its result and nothing entered beside it, or an entered
value, which then is the computed value too and never a failure (`Cell.Coherent`). Cells are rebuilt
in many ways: entered, evaluated anew, moved under another address and restored. All of them keep
records coherent and under the addresses that they name, in every session that brings in no failures
as values (`Sheet.session_coherent`).
-/

set_option autoImplicit false
set_option relaxedAutoImplicit false

namespace Worksheet

/-- The parts of a record fit together. -/
structure Cell.Coherent (cell : Cell) : Prop where
  /-- A formula begins with an equals sign, and no value is entered beside it. -/
  formula : ∀ text, cell.formula = some text → text.toList.head? = some '=' ∧ cell.raw = .empty
  /-- Without a formula, the computed value is the entered one, which is no failure. -/
  plain : cell.formula = none → cell.computed = cell.raw ∧ cell.raw.isError = false

namespace Cell

theorem Coherent.movedTo {cell : Cell} (coherent : cell.Coherent) (address : Address) :
    (cell.movedTo address).Coherent := ⟨coherent.formula, coherent.plain⟩

theorem coherent_ofFormula {text : String} (begins : text.toList.head? = some '=')
    (address : Address) (computed : Value) : (ofFormula address text computed).Coherent := by
  constructor
  · intro other same
    cases same
    exact ⟨begins, rfl⟩
  · intro none
    cases none

theorem coherent_ofValue {value : Value} (fine : value.isError = false) (address : Address) :
    (ofValue address value).Coherent := by
  constructor
  · intro text formula
    cases formula
  · intro _
    exact ⟨rfl, fine⟩

end Cell

theorem Value.isError_ofInput (input : String) : (ofInput input).isError = false := by
  unfold ofInput
  split
  · rfl
  · split <;> rfl

/-- The values that an operation brings in are no failures, and a given cell is coherent. -/
def Edit.Coherent : Edit → Prop
  | setValue _ value => value.isError = false
  | put cell => cell.Coherent
  | enter _ _ | applyFormula _ _ | clear _ | clearAll | rows _ | columns _ | recalculate _
  | restore => True

theorem Edit.StoresValue.isError {edit : Edit} {value : Value} (stores : edit.StoresValue value)
    (given : edit.Coherent) : value.isError = false := by
  cases stores with
  | enter place plain => exact Value.isError_ofInput _
  | applyFormula place plain => rfl
  | setValue place value => exact given

namespace Sheet

/-- An operation that brings in no failures keeps all cells coherent. -/
theorem coherent_edit {sheet : Sheet} (each : sheet.EachCell Cell.Coherent) {edit : Edit}
    (given : edit.Coherent) : (sheet.edit edit).EachCell Cell.Coherent := by
  refine each.edit (fun _ address before ↦ before.movedTo address) ?_ ?_ ?_
  · intro earlier address text before written
    refine Cell.coherent_ofFormula ?_ address _
    rcases written with begins | found
    · simpa [isFormulaText] using begins
    · obtain ⟨cell, stored, formula⟩ := Option.bind_eq_some_iff.mp found
      exact ((before address cell stored).formula text formula).1
  · intro value stores address
    exact Cell.coherent_ofValue (stores.isError given) address
  · rintro cell rfl
    exact given

/-- In every session from an empty sheet that brings in no failures as values, each cell is stored
under its own address. If it has a formula, the formula begins with an equals sign and nothing is
entered beside it. If it has none, its computed value is the entered one, and no failure. -/
theorem session_coherent {edits : List Edit} (given : ∀ edit ∈ edits, edit.Coherent)
    (rows columns : UInt32) {address : Address} {cell : Cell}
    (stored : ((ofExtent rows columns).session edits).cell? address = some cell) :
    cell.address = address ∧
      (∀ text, cell.formula = some text → text.toList.head? = some '=' ∧ cell.raw = .empty) ∧
      (cell.formula = none → cell.computed = cell.raw ∧ cell.computed.isError = false) := by
  have empty : (ofExtent rows columns).EachCell Cell.Coherent :=
    eachCell_of_empty fun _ ↦ Std.ExtTreeMap.getElem?_empty
  have each : ((ofExtent rows columns).session edits).EachCell Cell.Coherent :=
    @session_keeps (EachCell Cell.Coherent) edits
      (fun _ edit member before ↦ coherent_edit before (given edit member)) _ empty
  have coherent := each address cell stored
  refine ⟨address_of_cell? stored, coherent.formula, fun plain ↦ ?_⟩
  obtain ⟨same, fine⟩ := coherent.plain plain
  exact ⟨same, same ▸ fine⟩

/-- A formula that fails, is moved by an inserted row, evaluated anew up to the first failure and
restored, in a session with operations that fail. -/
theorem session_coherent_after_failures :
    let edits : List Edit := [.setValue "B1" (.text "x"), .enter "A1" "=FOO(B1)",
      .setValue "A0" .empty, .rows (.insert 0), .columns (.delete 4000000000),
      .recalculate true, .restore]
    let cell := Cell.ofFormula ⟨1, 0⟩ "=FOO(B1)" (.error "Unknown function: FOO")
    (∀ edit ∈ edits, edit.Coherent) ∧ (new.session edits).cell? ⟨1, 0⟩ = some cell ∧
      cell.address = ⟨1, 0⟩ ∧ "=FOO(B1)".toList.head? = some '=' ∧ cell.raw = .empty := by
  intro edits cell
  have given : ∀ edit ∈ edits, edit.Coherent := by
    simp only [edits, List.forall_mem_cons]
    exact ⟨rfl, trivial, rfl, trivial, trivial, trivial, trivial, List.forall_mem_nil _⟩
  have stored : (new.session edits).cell? ⟨1, 0⟩ = some cell := by decide +kernel
  obtain ⟨named, formula, _⟩ := session_coherent given 100 26 stored
  exact ⟨given, stored, named, formula _ rfl⟩

end Sheet

end Worksheet
