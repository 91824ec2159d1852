import Worksheet.Function.Definition

/-!
# Numbers of arguments

A function takes the numbers of arguments from the smallest to the largest of its definition
(`FunctionDefinition.Accepts`). The check lets these pass and no others, also when the largest is
below the smallest (`FunctionDefinition.checkArity_eq_ok_iff`), and its failure names the bound that
was missed (`FunctionDefinition.expected`).
-/

set_option autoImplicit false
set_option relaxedAutoImplicit false

namespace Worksheet.FunctionDefinition

/-- A number of arguments is at least the smallest and, if there is a largest, at most that. -/
def Accepts (definition : FunctionDefinition) (count : Nat) : Prop :=
  definition.minimum ≤ count ∧ ∀ maximum ∈ definition.maximum, count ≤ maximum

/-- What a refused number of arguments is told to be: a fixed number if there is only one, and else
the bound that it misses. -/
def expected (definition : FunctionDefinition) (count : Nat) : ArgumentBound :=
  match definition.maximum with
  | none => .atLeast definition.minimum
  | some maximum =>
    if maximum = definition.minimum then .exactly maximum
    else if count < definition.minimum then .atLeast definition.minimum
    else .atMost maximum

theorem checkArity_of_accepts {definition : FunctionDefinition} {count : Nat}
    (accepted : definition.Accepts count) : definition.checkArity count = .ok () := by
  obtain ⟨enough, few⟩ := accepted
  unfold checkArity
  cases bound : definition.maximum with
  | none => exact if_neg (Nat.not_lt.mpr enough)
  | some maximum =>
    have below : count ≤ maximum := few maximum bound
    simp only
    rw [if_neg (by omega), if_neg (by omega), if_neg (by omega)]

theorem checkArity_of_not_accepts {definition : FunctionDefinition} {count : Nat}
    (refused : ¬ definition.Accepts count) :
    definition.checkArity count =
      .error (.argumentCountMismatch definition.name (definition.expected count) count) := by
  unfold checkArity expected
  unfold Accepts at refused
  cases bound : definition.maximum with
  | none =>
    have few : count < definition.minimum := by simpa [bound] using refused
    exact if_pos few
  | some maximum =>
    have outside : definition.minimum ≤ count → maximum < count := by simpa [bound] using refused
    simp only
    by_cases single : maximum = definition.minimum
    · rw [if_pos ⟨single, by omega⟩, if_pos single]
    · rw [if_neg fun both ↦ single both.1, if_neg single]
      by_cases few : count < definition.minimum
      · rw [if_pos few, if_pos few]
      · rw [if_neg few, if_neg few, if_pos (outside (Nat.le_of_not_lt few))]

/-- A number of arguments passes exactly if it is accepted. -/
theorem checkArity_eq_ok_iff (definition : FunctionDefinition) (count : Nat) :
    definition.checkArity count = .ok () ↔ definition.Accepts count := by
  refine ⟨fun passed ↦ Classical.byContradiction fun refused ↦ ?_, checkArity_of_accepts⟩
  rw [checkArity_of_not_accepts refused] at passed
  cases passed

end Worksheet.FunctionDefinition
