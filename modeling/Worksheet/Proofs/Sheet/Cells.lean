import Worksheet.Proofs.Region.RowMajor
import Worksheet.Sheet

/-!
# The cells of a sheet

What is stored after a cell is put or cleared (`cell?_put`, `cell?_clear`), when two sheets are the
same (`ext_cell?`), and the lists that are made of the stored cells: all of them (`mem_storedCells`)
and the addresses of those with a formula, in row-major order (`mem_formulaAddresses`,
`pairwise_formulaAddresses`).
-/

set_option autoImplicit false
set_option relaxedAutoImplicit false

namespace Worksheet

theorem CellMap.getElem?_insert (cells : CellMap) (key : Address) (cell : Cell) (place : Address) :
    (cells.insert key cell)[place]? = if key = place then some cell else cells[place]? := by
  rw [Std.ExtTreeMap.getElem?_insert]
  by_cases same : key = place
  · rw [if_pos same, if_pos (Std.LawfulEqOrd.compare_eq_iff_eq.mpr same)]
  · rw [if_neg same, if_neg fun equal ↦ same (Std.LawfulEqOrd.eq_of_compare equal)]

/-- A list of entries with distinct keys makes a map with just these entries. -/
theorem CellMap.getElem?_ofList_eq_some_iff {entries : List (Address × Cell)}
    (distinct : entries.Pairwise fun one other ↦ ¬ compare one.1 other.1 = .eq)
    {place : Address} {cell : Cell} :
    (Std.ExtTreeMap.ofList entries)[place]? = some cell ↔ (place, cell) ∈ entries := by
  constructor
  · intro found
    by_cases key : place ∈ entries.map Prod.fst
    · obtain ⟨⟨_, other⟩, member, rfl⟩ := List.mem_map.mp key
      have stored := Std.ExtTreeMap.getElem?_ofList_of_mem
        (Std.LawfulEqOrd.compare_eq_iff_eq.mpr rfl) distinct member
      rw [Option.some.inj (found.symm.trans stored)]
      exact member
    · rw [Std.ExtTreeMap.getElem?_ofList_of_contains_eq_false (by simpa using key)] at found
      cases found
  · intro member
    exact Std.ExtTreeMap.getElem?_ofList_of_mem (Std.LawfulEqOrd.compare_eq_iff_eq.mpr rfl)
      distinct member

namespace Sheet

theorem address_of_cell? {sheet : Sheet} {address : Address} {cell : Cell}
    (stored : sheet.cell? address = some cell) : cell.address = address :=
  sheet.keyed address cell stored

theorem cell?_put (sheet : Sheet) (cell : Cell) (address : Address) :
    (sheet.put cell).cell? address = if cell.address = address then some cell
      else sheet.cell? address :=
  CellMap.getElem?_insert sheet.cells cell.address cell address

theorem cell?_clear (sheet : Sheet) (removed address : Address) :
    (sheet.clear removed).cell? address = if removed = address then none
      else sheet.cell? address := by
  unfold cell? clear
  rw [Std.ExtTreeMap.getElem?_erase]
  by_cases same : removed = address
  · rw [if_pos same, if_pos (Std.LawfulEqOrd.compare_eq_iff_eq.mpr same)]
  · rw [if_neg same, if_neg fun equal ↦ same (Std.LawfulEqOrd.eq_of_compare equal)]

/-- Sheets are the same when they have the same cells and the same extent. -/
theorem ext_cell? {one other : Sheet} (stored : ∀ address, one.cell? address = other.cell? address)
    (rows : one.rowCount = other.rowCount) (columns : one.columnCount = other.columnCount) :
    one = other := by
  have cells : one.cells = other.cells := Std.ExtTreeMap.ext_getElem? stored
  cases one
  cases other
  cases cells
  cases rows
  cases columns
  rfl

/-! ### Stored cells -/

theorem mem_storedCells {sheet : Sheet} {cell : Cell} :
    cell ∈ sheet.storedCells ↔ sheet.cell? cell.address = some cell := by
  simp only [storedCells, List.mem_map, Prod.exists, Std.ExtTreeMap.mem_toList_iff_getElem?_eq_some]
  constructor
  · rintro ⟨address, stored, found, rfl⟩
    rw [cell?, sheet.keyed address stored found]
    exact found
  · intro found
    exact ⟨cell.address, cell, found, rfl⟩

theorem mem_map_address_storedCells {sheet : Sheet} {address : Address} :
    address ∈ sheet.storedCells.map Cell.address ↔ (sheet.cell? address).isSome := by
  rw [List.mem_map, Option.isSome_iff_exists]
  constructor
  · rintro ⟨cell, member, rfl⟩
    exact ⟨cell, mem_storedCells.mp member⟩
  · rintro ⟨cell, stored⟩
    have named := address_of_cell? stored
    refine ⟨cell, mem_storedCells.mpr ?_, named⟩
    rw [named]
    exact stored

/-- The stored cells are listed in row-major order, each of them once. -/
theorem pairwise_storedCells (sheet : Sheet) :
    sheet.storedCells.Pairwise fun one other ↦ one.address.Before other.address := by
  have ordered := Std.ExtTreeMap.ordered_keys_toList (t := sheet.cells)
  rw [storedCells, List.pairwise_map]
  refine ordered.imp_of_mem fun {one other} oneMember otherMember before ↦ ?_
  rw [Std.ExtTreeMap.mem_toList_iff_getElem?_eq_some] at oneMember otherMember
  rw [sheet.keyed _ _ oneMember, sheet.keyed _ _ otherMember]
  exact before

/-! ### Formula cells -/

/-- The formula of the cell at an address, if there is one. -/
def formula? (sheet : Sheet) (address : Address) : Option String :=
  (sheet.cell? address).bind Cell.formula

theorem formulaAddresses_eq (sheet : Sheet) :
    sheet.formulaAddresses = (sheet.storedCells.filter Cell.isFormula).map Cell.address := by
  refine List.mergeSort_of_pairwise (List.pairwise_map.mpr ?_)
  exact (sheet.pairwise_storedCells.filter _).imp fun before ↦ Address.le_iff.mpr (Or.inl before)

theorem mem_formulaAddresses {sheet : Sheet} {address : Address} :
    address ∈ sheet.formulaAddresses ↔ ∃ formula, sheet.formula? address = some formula := by
  simp only [formulaAddresses_eq, List.mem_map, List.mem_filter, mem_storedCells, formula?,
    Option.bind_eq_some_iff, Cell.isFormula, Option.isSome_iff_exists]
  constructor
  · rintro ⟨cell, ⟨stored, formula, found⟩, rfl⟩
    exact ⟨formula, cell, stored, found⟩
  · rintro ⟨formula, cell, stored, found⟩
    have named := address_of_cell? stored
    refine ⟨cell, ⟨?_, formula, found⟩, named⟩
    rw [named]
    exact stored

/-- The formula cells are listed in row-major order, each of them once. -/
theorem pairwise_formulaAddresses (sheet : Sheet) :
    sheet.formulaAddresses.Pairwise Address.Before := by
  rw [formulaAddresses_eq, List.pairwise_map]
  exact sheet.pairwise_storedCells.filter _

/-- A formula cell parts the list into the formula cells before it and those after it. -/
theorem exists_formulaAddresses_eq {sheet : Sheet} {address : Address} {formula : String}
    (found : sheet.formula? address = some formula) :
    ∃ before after, sheet.formulaAddresses = before ++ address :: after ∧
      (∀ other ∈ before, other.Before address) ∧ ∀ other ∈ after, address.Before other := by
  obtain ⟨before, after, whole⟩ := List.append_of_mem (mem_formulaAddresses.mpr ⟨formula, found⟩)
  have ordered := sheet.pairwise_formulaAddresses
  rw [whole, List.pairwise_append, List.pairwise_cons] at ordered
  refine ⟨before, after, whole, fun other member ↦ ?_, ordered.2.1.1⟩
  exact ordered.2.2 other member address List.mem_cons_self

theorem nodup_formulaAddresses (sheet : Sheet) : sheet.formulaAddresses.Nodup :=
  Address.nodup_of_pairwise_before sheet.pairwise_formulaAddresses

end Sheet

end Worksheet
