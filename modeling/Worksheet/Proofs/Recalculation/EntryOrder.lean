import Mathlib.Data.List.Nodup
import Worksheet.Proofs.Address.A1Grammar
import Worksheet.Proofs.Recalculation.Staleness
import Worksheet.Proofs.Recalculation.StoredResults

/-!
# The order of entries

What is entered into a cell does not depend on the other cells, only the result that is stored with
a formula does. So entries into different cells, made in different orders, give sheets that are
alike but for the results (`alike_enterEach`, `draft_perm`). A recalculation takes all results anew,
from what is entered: on alike sheets without stale values it gives the same sheet
(`Alike.evaluated_eq`). The order of entries is lost after it (`recalculate_enterAll_perm`).
-/

set_option autoImplicit false
set_option relaxedAutoImplicit false

namespace Worksheet

/-! ### Typed cells -/

namespace Cell

/-- The cell that typed text makes, before its formula is evaluated. -/
def ofInput (address : Address) (input : String) : Cell :=
  if Sheet.isFormulaText input then ofFormula address input .empty
  else ofValue address (Value.ofInput input)

@[simp] theorem address_ofInput (address : Address) (input : String) :
    (ofInput address input).address = address := by
  unfold ofInput
  split <;> rfl

end Cell

namespace Sheet

variable {one middle other : Sheet}

/-! ### Sheets that are alike -/

/-- Two sheets have the same extent and the same cells, but for the results of formulas. -/
structure Alike (one other : Sheet) : Prop where
  /-- The same is entered at every address. -/
  source?_eq : ∀ address, one.source? address = other.source? address
  /-- There are as many rows. -/
  rowCount_eq : one.rowCount = other.rowCount
  /-- There are as many columns. -/
  columnCount_eq : one.columnCount = other.columnCount

theorem Alike.refl (sheet : Sheet) : sheet.Alike sheet := ⟨fun _ ↦ rfl, rfl, rfl⟩

theorem Alike.symm (alike : one.Alike other) : other.Alike one :=
  ⟨fun address ↦ (alike.source?_eq address).symm, alike.rowCount_eq.symm,
    alike.columnCount_eq.symm⟩

theorem Alike.trans (first : one.Alike middle) (second : middle.Alike other) : one.Alike other :=
  ⟨fun address ↦ (first.source?_eq address).trans (second.source?_eq address),
    first.rowCount_eq.trans second.rowCount_eq, first.columnCount_eq.trans second.columnCount_eq⟩

/-- Alike sheets stay so when alike cells are put. -/
theorem Alike.put (alike : one.Alike other) {cell again : Cell}
    (same : cell.source = again.source) : (one.put cell).Alike (other.put again) := by
  have address : cell.address = again.address := by
    rw [← Cell.address_source, same, Cell.address_source]
  constructor
  · intro place
    rw [source?_put, source?_put, address, same, alike.source?_eq]
  · show max one.rowCount _ = max other.rowCount _
    rw [alike.rowCount_eq, address]
  · show max one.columnCount _ = max other.columnCount _
    rw [alike.columnCount_eq, address]

theorem Alike.formula?_eq (alike : one.Alike other) (address : Address) :
    one.formula? address = other.formula? address := by
  rw [formula?_eq_source?, formula?_eq_source?, alike.source?_eq]

/-! ### Recalculation of alike sheets -/

/-- References come upon the same in alike sheets without stale values: a value that is seen in
place of a formula is that of a formula which has the same value on every sheet. -/
theorem Alike.content_eq (alike : one.Alike other) (settled : one.Settled)
    (otherSettled : other.Settled) : one.content = other.content := by
  funext address
  refine content_eq_of_source? (alike.source?_eq address) fun formula found own ↦ ?_
  have again := (alike.formula?_eq address).symm.trans found
  rw [settled address ⟨formula, found, own⟩ formula found,
    otherSettled address ⟨formula, again, own⟩ formula again, evaluateCell_of_own own one other]

theorem evaluatedCell_source (sheet : Sheet) (address : Address) (cell : Cell) :
    sheet.evaluatedCell address cell.source = sheet.evaluatedCell address cell := by
  match written : cell.formula with
  | some formula => simp only [evaluatedCell, Cell.formula_source, written]
  | none => rw [Cell.source_of_no_formula written]

/-- All formulas evaluated, alike sheets without stale values are the same sheet. -/
theorem Alike.evaluated_eq (alike : one.Alike other) (settled : one.Settled)
    (otherSettled : other.Settled) : one.evaluated = other.evaluated := by
  have contents := alike.content_eq settled otherSettled
  have values (address : Address) : one.evaluatedCell address = other.evaluatedCell address := by
    funext cell
    unfold evaluatedCell
    split
    · rw [evaluateCell_congr fun _ _ _ reached _ ↦ congrFun contents reached]
    · rfl
  have sources (sheet : Sheet) (address : Address) : sheet.evaluated.cell? address =
      (sheet.source? address).map (sheet.evaluatedCell address) := by
    rw [cell?_evaluated, source?, Option.map_map]
    exact congrArg (Option.map · _) (funext fun cell ↦ (evaluatedCell_source sheet _ cell).symm)
  have addresses : one.formulaAddresses = other.formulaAddresses := by
    refine Address.eq_of_pairwise_before (pairwise_formulaAddresses _)
      (pairwise_formulaAddresses _) fun address ↦ ?_
    rw [mem_formulaAddresses, mem_formulaAddresses, alike.formula?_eq]
  refine ext_cell? (fun address ↦ ?_) ?_ ?_
  · rw [sources, sources, alike.source?_eq, values]
  · show cover _ _ _ = cover _ _ _
    rw [alike.rowCount_eq, addresses]
  · show cover _ _ _ = cover _ _ _
    rw [alike.columnCount_eq, addresses]

/-! ### Entries -/

/-- Entering a text puts the cell that it makes, with some result. -/
theorem exists_enterAt_eq_put (sheet : Sheet) (address : Address) (input : String) :
    ∃ cell, cell.source = (Cell.ofInput address input).source ∧
      (sheet.enterAt address input).1 = sheet.put cell := by
  unfold enterAt applyFormulaAt Cell.ofInput
  by_cases formula : isFormulaText input
  · simp only [if_pos formula]
    exact ⟨_, Cell.source_ofFormula _ _ _, rfl⟩
  · simp only [if_neg formula]
    exact ⟨_, rfl, rfl⟩

/-- The sheet after texts have been entered at some addresses, one after the other. -/
def enterEach (sheet : Sheet) (entries : List (Address × String)) : Sheet :=
  entries.foldl (fun sheet entry ↦ (sheet.enterAt entry.1 entry.2).1) sheet

/-- The sheet after the cells have been put that some texts make, with no formula evaluated. -/
def draft (sheet : Sheet) (entries : List (Address × String)) : Sheet :=
  entries.foldl (fun sheet entry ↦ sheet.put (Cell.ofInput entry.1 entry.2)) sheet

/-- Entering texts gives the cells that they make, but for the results. -/
theorem alike_enterEach (alike : one.Alike other) (entries : List (Address × String)) :
    (one.enterEach entries).Alike (other.draft entries) := by
  induction entries generalizing one other with
  | nil => exact alike
  | cons entry later ih =>
    obtain ⟨cell, same, put⟩ := exists_enterAt_eq_put one entry.1 entry.2
    have entered := alike.put same
    rw [← put] at entered
    exact ih entered

theorem settled_enterEach {sheet : Sheet} (settled : sheet.Settled)
    (entries : List (Address × String)) : (sheet.enterEach entries).Settled := by
  induction entries generalizing sheet with
  | nil => exact settled
  | cons entry later ih => exact ih (settled_enterAt settled entry.1 entry.2)

theorem draft_perm (sheet : Sheet) {entries others : List (Address × String)}
    (distinct : (entries.map Prod.fst).Nodup) (permuted : entries.Perm others) :
    sheet.draft entries = sheet.draft others := by
  refine permuted.foldl_eq' (fun first firstMember second secondMember so ↦ ?_) sheet
  by_cases same : first = second
  · rw [same]
  · refine put_comm so fun equal ↦ same ?_
    rw [Cell.address_ofInput, Cell.address_ofInput] at equal
    exact List.inj_on_of_nodup_map distinct firstMember secondMember equal

/-- Entries at different addresses of a sheet without stale values may be made in any order before a
recalculation. -/
theorem recalculate_enterEach_perm {sheet : Sheet} (settled : sheet.Settled)
    {entries others : List (Address × String)} (distinct : (entries.map Prod.fst).Nodup)
    (permuted : entries.Perm others) :
    ((sheet.enterEach entries).recalculate false).1 =
      ((sheet.enterEach others).recalculate false).1 := by
  have alike : (sheet.enterEach entries).Alike (sheet.enterEach others) := by
    have first := alike_enterEach (Alike.refl sheet) entries
    have second := alike_enterEach (Alike.refl sheet) others
    rw [draft_perm sheet distinct permuted] at first
    exact first.trans second.symm
  have before := settled_enterEach settled entries
  have after := settled_enterEach settled others
  rw [recalculate_of_settled before, recalculate_of_settled after,
    alike.evaluated_eq before after]

/-! ### Entries by the texts of addresses -/

/-- Enters texts at the cells that texts name, one after the other. -/
def enterAll (sheet : Sheet) (entries : List (String × String)) : Except SheetError Sheet :=
  entries.foldlM (fun sheet entry ↦ (sheet.enter entry.1 entry.2).map Prod.fst) sheet

/-- An entry with the address that its text names. -/
def located (entry : String × String) : Address × String :=
  ((Address.parse entry.1).toOption.getD default, entry.2)

theorem parse_eq_located {entry : String × String}
    (valid : ∃ address, Address.parse entry.1 = .ok address) :
    Address.parse entry.1 = .ok (located entry).1 := by
  obtain ⟨address, read⟩ := valid
  rw [located, read]
  rfl

theorem enterAll_eq {entries : List (String × String)}
    (valid : ∀ entry ∈ entries, ∃ address, Address.parse entry.1 = .ok address) (sheet : Sheet) :
    sheet.enterAll entries = .ok (sheet.enterEach (entries.map located)) := by
  induction entries generalizing sheet with
  | nil => rfl
  | cons entry later ih =>
    rw [List.forall_mem_cons] at valid
    have first : (sheet.enter entry.1 entry.2).map Prod.fst =
        .ok (sheet.enterAt (located entry).1 entry.2).1 := by
      rw [enter, parse_eq_located valid.1]
      rfl
    rw [enterAll, List.foldlM_cons, first]
    exact ih valid.2 _

/-- The order of entries at different addresses does not matter after a recalculation: in any order,
all of them can be made on an empty sheet of any extent, and a recalculation then gives the same
sheet. -/
theorem recalculate_enterAll_perm {entries others : List (String × String)}
    (valid : ∀ entry ∈ entries, ∃ address, Address.parse entry.1 = .ok address)
    (distinct : (entries.map Prod.fst).Nodup) (permuted : entries.Perm others)
    (rows columns : UInt32) :
    ∃ one other, (ofExtent rows columns).enterAll entries = .ok one ∧
      (ofExtent rows columns).enterAll others = .ok other ∧
        (one.recalculate false).1 = (other.recalculate false).1 := by
  have otherValid : ∀ entry ∈ others, ∃ address, Address.parse entry.1 = .ok address :=
    fun entry member ↦ valid entry (permuted.mem_iff.mpr member)
  refine ⟨_, _, enterAll_eq valid _, enterAll_eq otherValid _, ?_⟩
  refine recalculate_enterEach_perm (settled_ofExtent rows columns) ?_ (permuted.map located)
  -- An address has one text, so different texts name different addresses.
  rw [List.map_map]
  refine List.Nodup.of_map (fun address ↦ address.toA1) ?_
  rw [List.map_map]
  convert distinct using 1
  refine List.map_congr_left fun entry member ↦ ?_
  exact Address.toA1_of_parse_eq_ok (parse_eq_located (valid entry member))

/-- Entries in two orders: two formulas that refer to each other, one that refers to itself, one
that is malformed, and a number. -/
theorem recalculate_enterAll_perm_reversed :
    let entries := [("B1", "=A1"), ("A1", "=B1"), ("C3", "=C3"), ("D1", "=SUM("), ("E1", " 7 ")]
    (∀ entry ∈ entries, ∃ address, Address.parse entry.1 = .ok address) ∧
      (entries.map Prod.fst).Nodup ∧ entries.Perm entries.reverse ∧
        ∃ one other, (ofExtent 0 0).enterAll entries = .ok one ∧
          (ofExtent 0 0).enterAll entries.reverse = .ok other ∧
            (one.recalculate false).1 = (other.recalculate false).1 := by
  intro entries
  have valid : ∀ entry ∈ entries, ∃ address, Address.parse entry.1 = .ok address := by
    simp only [entries, List.forall_mem_cons]
    exact ⟨⟨⟨0, 1⟩, rfl⟩, ⟨⟨0, 0⟩, rfl⟩, ⟨⟨2, 2⟩, rfl⟩, ⟨⟨0, 3⟩, rfl⟩, ⟨⟨0, 4⟩, rfl⟩,
      List.forall_mem_nil _⟩
  have distinct : (entries.map Prod.fst).Nodup := by decide
  have permuted : entries.Perm entries.reverse := (List.reverse_perm entries).symm
  exact ⟨valid, distinct, permuted, recalculate_enterAll_perm valid distinct permuted 0 0⟩

end Sheet

end Worksheet
