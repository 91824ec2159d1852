import Worksheet.Entry
import Worksheet.Proofs.Address.A1Text
import Worksheet.Proofs.Evaluation.Meaning

/-!
# Expanding a range

A range is expanded along the cells that may matter, in one of two ways, and each of them is
resolved by evaluating further formulas. The result is that of the plain walk through the rectangle
between the corners (`expandTexts_eq_walk`): the same values in the same order, or the same failure,
with the same cells in progress afterwards.
-/

set_option autoImplicit false
set_option relaxedAutoImplicit false

namespace Worksheet.Context

/-- The plain walk between two opposite corners: every cell of the rectangle is resolved by its
text, row by row, up to the first failure, and the values that are empty are left out. -/
def walk (context : Context) (one other : Address) : Evaluation (List Value) := do
  let values ← (Region.ofCorners one other).addresses.mapM fun address ↦
    context.resolveText address.toA1
  return values.filter fun value ↦ !value.isEmpty

/-- Resolving the text of a cell looks the cell up. -/
theorem yields_resolveText_toA1 (context : Context) (visiting : Visiting) (address : Address) :
    (context.resolveText address.toA1).Yields visiting
      (lookup context.functions context.sheet.content visiting address) := by
  have whole := context.yields_resolveText visiting address.toA1
  rw [Formula.readAddress_toA1] at whole
  exact whole

theorem yields_walk (context : Context) (visiting : Visiting) (one other : Address) :
    (context.walk one other).Yields visiting ((Region.ofCorners one other).meaning
      (lookup context.functions context.sheet.content visiting)) := by
  refine (Evaluation.yields_mapM fun address _ ↦ ?_).bind fun values ↦ ?_
  · exact context.yields_resolveText_toA1 visiting address
  · exact Evaluation.yields_pure _ visiting

theorem yields_expandTexts_of_corners (context : Context) (visiting : Visiting)
    {first last : String} {one other : Address} (readFirst : Formula.readAddress first = .ok one)
    (readLast : Formula.readAddress last = .ok other) :
    (context.expandTexts first last).Yields visiting ((Region.ofCorners one other).meaning
      (lookup context.functions context.sheet.content visiting)) := by
  have read : Formula.readRegion first last = .ok (Region.ofCorners one other) := by
    rw [Formula.readRegion, readFirst, readLast]
    rfl
  have whole := context.yields_expandTexts visiting first last
  rw [read] at whole
  exact whole

/-- Expanding a range gives what the plain walk through its rectangle gives. The cells on the way do
not depend on the order in which the stored cells and those in progress are listed, and the
rectangle has the cells between the corners, in row-major order. -/
theorem expandTexts_eq_walk (context : Context) (visiting : Visiting) {first last : String}
    {one other : Address} (readFirst : Formula.readAddress first = .ok one)
    (readLast : Formula.readAddress last = .ok other) :
    (context.expandTexts first last).outcome visiting =
        (context.walk one other).outcome visiting ∧
      (∀ (stored : List Cell) (inProgress : List Address),
        stored.Perm context.sheet.storedCells → inProgress.Perm visiting.toList →
          candidatesAmong stored inProgress (Region.ofCorners one other) =
            context.candidates (Region.ofCorners one other) visiting) ∧
      (Region.ofCorners one other).addresses.Pairwise Address.Before ∧
      ∀ address, address ∈ (Region.ofCorners one other).addresses ↔
        (min one.row other.row ≤ address.row ∧ address.row ≤ max one.row other.row) ∧
          min one.column other.column ≤ address.column ∧
            address.column ≤ max one.column other.column := by
  refine ⟨?_, fun stored inProgress sameCells sameProgress ↦ ?_, ?_, fun address ↦ ?_⟩
  · have expanded := context.yields_expandTexts_of_corners visiting readFirst readLast
    have walked := context.yields_walk visiting one other
    exact expanded.trans walked.symm
  · exact candidatesAmong_perm sameCells sameProgress _
  · exact Region.pairwise_addresses _
  · rw [Region.mem_addresses, Region.contains, decide_eq_true_eq, and_assoc]
    rfl

/-- Corners from the bottom right to the top left, with one cell stored and another in progress. -/
theorem expandTexts_eq_walk_from_bottom_right :
    let context : Context :=
      .builtIn (Sheet.new.setValueAt ⟨499, 2⟩ (.text "c"))
    let visiting : Visiting := Std.ExtTreeSet.ofList [Address.mk 70000 3]
    Formula.readAddress "ZZ100000" = .ok ⟨99999, 701⟩ ∧ Formula.readAddress "A1" = .ok ⟨0, 0⟩ ∧
      (context.expandTexts "ZZ100000" "A1").outcome visiting =
        (context.walk ⟨99999, 701⟩ ⟨0, 0⟩).outcome visiting := by
  intro context visiting
  have first : Formula.readAddress "ZZ100000" = .ok ⟨99999, 701⟩ := rfl
  have last : Formula.readAddress "A1" = .ok ⟨0, 0⟩ := rfl
  exact ⟨first, last, (expandTexts_eq_walk context visiting first last).1⟩

end Worksheet.Context
