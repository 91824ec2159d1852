import Worksheet.Proofs.Evaluation.ReferencePath
import Worksheet.Proofs.Number.Finite
import Worksheet.Proofs.Session.EachCell

/-!
# Finite sheets

A number comes into a formula as a constant, from a cell or as the result of a call. Constants are
read as finite numbers only and the results of calls are checked, whatever the functions do, so a
formula on a sheet of finite numbers has no other number for its value
(`Sheet.Finite.of_evaluateCell?`). No operation then stores another one, and the sheet stays finite
in every session that brings in finite values (`Sheet.session_finite`).
-/

set_option autoImplicit false
set_option relaxedAutoImplicit false

namespace Worksheet

variable {functions : Functions} {value : Value}

/-! ### Formulas -/

namespace Formula

theorem finite_of_readTerm {term : String} (found : readTerm term = .ok (constant value)) :
    value.Finite := by
  unfold readTerm at found
  split at found
  · cases found
    trivial
  obtain ⟨shape, _, rest⟩ := ok_of_bind found
  cases shape with
  | reference text =>
    obtain ⟨_, _, whole⟩ := ok_of_bind rest
    cases whole
  | literal text =>
    simp only at rest
    split at rest
    · rename_i parsed
      cases rest
      exact isFinite_of_parseDecimal parsed
    · cases rest
      trivial
  | range first last => cases rest
  | call name arguments => cases rest

/-- The constant that a formula text is read as is finite. -/
theorem finite_of_read {text : String} (found : read text = .ok (constant value)) :
    value.Finite := by
  unfold read at found
  split at found
  · cases found
    trivial
  obtain ⟨parsed, _, rest⟩ := ok_of_bind found
  cases parsed with
  | call name arguments => cases rest
  | term term => exact finite_of_readTerm rest

end Formula

theorem Context.finite_of_checkResult {definition : FunctionDefinition} {result : Value}
    (found : checkResult definition result = .ok value) : value.Finite := by
  cases result with
  | number n =>
    rw [checkResult] at found
    split at found
    · rename_i finite
      cases found
      exact finite
    · cases found
  | empty => cases found; trivial
  | text content => cases found; trivial
  | error message => cases found; trivial

/-- The value of a call is finite, whatever the function is. -/
theorem Functions.finite_of_callMeaning {name : String} {count : Nat}
    {arguments : Except FormulaError (List Value)}
    (found : functions.callMeaning name count arguments = .ok value) : value.Finite := by
  unfold callMeaning at found
  split at found
  · cases found
  obtain ⟨_, _, rest⟩ := ok_of_bind found
  obtain ⟨_, _, checked⟩ := ok_of_bind rest
  obtain ⟨_, _, passed⟩ := ok_of_bind checked
  exact Context.finite_of_checkResult passed

/-- The value of a formula is finite if all values that are looked up are. -/
theorem Formula.finite_of_textMeaning {look : Lookup} {text : String}
    (finite : ∀ address value, look address = .ok value → value.Finite)
    (found : textMeaning functions look text = .ok value) : value.Finite := by
  obtain ⟨formula, read, meant⟩ := ok_of_bind found
  cases formula with
  | constant => cases meant; exact finite_of_read read
  | reference address => exact finite address value meant
  | call name arguments => exact Functions.finite_of_callMeaning meant

/-- The value of a cell is finite if all values that stand in cells are. -/
theorem Context.finite_of_lookup {content : Address → Content}
    (finite : ∀ address value, content address = .value value → value.Finite)
    {visiting : Visiting} {address : Address} {value : Value}
    (looked : lookup functions content visiting address = .ok value) : value.Finite := by
  obtain ⟨absent, inner⟩ := lookup_eq_ok looked
  match seen : content address with
  | .value stored =>
    rw [lookup_of_value absent seen] at looked
    cases looked
    exact finite address value seen
  | .formula next =>
    obtain ⟨shallow, found⟩ := inner next seen
    have more := Visiting.size_insert absent
    exact Formula.finite_of_textMeaning (fun _ _ reached ↦ finite_of_lookup finite reached) found
termination_by depthLimit + 1 - visiting.size

/-! ### Sheets -/

/-- The numbers of a cell are finite. -/
structure Cell.Finite (cell : Cell) : Prop where
  /-- The entered value is. -/
  raw : cell.raw.Finite
  /-- The computed value is. -/
  computed : cell.computed.Finite

theorem Cell.Finite.movedTo {cell : Cell} (finite : cell.Finite) (address : Address) :
    (cell.movedTo address).Finite := ⟨finite.raw, finite.computed⟩

/-- The numbers of all stored cells are finite. -/
def Sheet.Finite (sheet : Sheet) : Prop :=
  ∀ address cell, sheet.cell? address = some cell → cell.Finite

/-- The numbers of all cells are finite. -/
def Snapshot.Finite (snapshot : Snapshot) : Prop :=
  ∀ (address : Address) (cell : Cell), snapshot.cells[address]? = some cell → cell.Finite

/-- The values that an operation brings in are finite. -/
def Edit.Finite : Edit → Prop
  | setValue _ value => value.Finite
  | put cell => cell.Finite
  | enter _ _ | applyFormula _ _ | clear _ | clearAll | rows _ | columns _ | recalculate _
  | restore => True

theorem Snapshot.finite_restore {snapshot : Snapshot} (finite : snapshot.Finite) :
    snapshot.restore.Finite :=
  Sheet.eachCell_restore (fun _ address before ↦ before.movedTo address) finite

namespace Sheet

variable {sheet : Sheet}

theorem finite_of_empty (empty : ∀ address, sheet.cell? address = none) : sheet.Finite :=
  eachCell_of_empty empty

theorem Finite.content (finite : sheet.Finite) (address : Address)
    (seen : sheet.content address = .value value) : value.Finite := by
  unfold Sheet.content at seen
  split at seen
  · cases seen
  cases seen
  unfold valueAt
  split
  · rename_i cell stored
    exact (finite address cell stored).computed
  · trivial

/-- A formula on a sheet with finite numbers has no other number for its value. -/
theorem Finite.of_evaluateCell? (finite : sheet.Finite) {registry : Registry}
    {outside : OutsideFunctions} {target : Address} {text : String}
    (found : Context.evaluateCell? ⟨sheet, registry, outside⟩ target text = .ok value) :
    value.Finite := by
  rw [Context.evaluateCell?_eq] at found
  refine Formula.finite_of_textMeaning (fun _ _ looked ↦ ?_) found
  exact Context.finite_of_lookup (fun address _ seen ↦ finite.content address seen) looked

theorem Finite.evaluateCell (finite : sheet.Finite) (target : Address) (text : String) :
    (sheet.evaluateCell target text).Finite := by
  unfold Sheet.evaluateCell Context.evaluateCell
  split
  · rename_i found
    exact finite.of_evaluateCell? found
  · trivial

theorem finite_of_storesValue {edit : Edit} (stores : edit.StoresValue value)
    (given : edit.Finite) : value.Finite := by
  cases stores with
  | enter place plain => exact Value.finite_ofInput _
  | applyFormula place plain => trivial
  | setValue place value => exact given

/-- An operation that brings in finite values keeps all numbers finite. -/
theorem Finite.edit (finite : sheet.Finite) {edit : Edit} (given : edit.Finite) :
    (sheet.edit edit).Finite := by
  have each : sheet.EachCell Cell.Finite := finite
  refine each.edit (fun _ address before ↦ before.movedTo address) ?_ ?_ ?_
  · intro earlier address text before _
    exact ⟨trivial, Finite.evaluateCell before address text⟩
  · intro value stores address
    have fine := finite_of_storesValue stores given
    exact ⟨fine, fine⟩
  · rintro cell rfl
    exact given

/-- In a session that brings in finite values, a sheet with finite numbers keeps all numbers finite,
entered and computed ones. On it no formula evaluates to a number that is not finite, with whatever
functions, and restoring a snapshot of finite numbers gives such a sheet again. -/
theorem session_finite {edits : List Edit} (finite : sheet.Finite)
    (given : ∀ edit ∈ edits, edit.Finite) :
    let later := sheet.session edits
    later.Finite ∧
      (∀ registry outside target text n,
        Context.evaluateCell? ⟨later, registry, outside⟩ target text = .ok (.number n) →
          n.isFinite) ∧
      ∀ snapshot : Snapshot, snapshot.Finite → snapshot.restore.Finite := by
  intro later
  have kept : later.Finite :=
    session_keeps (fun _ edit member before ↦ before.edit (given edit member)) finite
  refine ⟨kept, fun registry outside target text n found ↦ ?_, fun _ ↦ Snapshot.finite_restore⟩
  exact kept.of_evaluateCell? found

/-- A sum that overflows is stored as a failure, and the sheet stays finite. -/
theorem session_finite_after_overflow :
    let edits : List Edit := [.setValue "C1" (.number 1.5), .enter "A1" "1e308",
      .enter "B1" "=SUM(A1,A1)", .recalculate false, .restore]
    let later := new.session edits
    new.Finite ∧ (∀ edit ∈ edits, edit.Finite) ∧ later.Finite ∧
      later.valueAt ⟨0, 1⟩ = .error "Numeric overflow in SUM" := by
  intro edits later
  have finite : new.Finite := finite_of_empty fun _ ↦ Std.ExtTreeMap.getElem?_empty
  have number : (Edit.setValue "C1" (.number 1.5)).Finite := by
    show Float.isFinite 1.5
    decide +kernel
  have given : ∀ edit ∈ edits, edit.Finite := by
    simp only [edits, List.forall_mem_cons]
    exact ⟨number, trivial, trivial, trivial, trivial, List.forall_mem_nil _⟩
  refine ⟨finite, given, (session_finite finite given).1, ?_⟩
  decide +kernel

end Sheet

end Worksheet
