import Worksheet.Evaluation

/-!
# Outcomes of evaluations

An evaluation that leaves the cells in progress as it found them is described by its outcome alone
(`Evaluation.Yields`). Outcomes are put together as the evaluations are: one after the other
(`Yields.bind`), along a list (`yields_mapM`), and while one more cell is in progress
(`Yields.during`), where the cell that was added is taken out again, also after a failure.
-/

set_option autoImplicit false
set_option relaxedAutoImplicit false

namespace Worksheet

/-! ### Cells in progress -/

namespace Visiting

theorem erase_insert {visiting : Visiting} {address : Address} (absent : address ∉ visiting) :
    (visiting.insert address).erase address = visiting := by
  refine Std.ExtTreeSet.ext_mem fun other ↦ ?_
  rw [Std.ExtTreeSet.mem_erase, Std.ExtTreeSet.mem_insert]
  constructor
  · rintro ⟨different, same | member⟩
    · exact absurd same different
    · exact member
  · intro member
    refine ⟨fun same ↦ absent ?_, Or.inr member⟩
    rw [Std.LawfulEqOrd.eq_of_compare same]
    exact member

theorem size_insert {visiting : Visiting} {address : Address} (absent : address ∉ visiting) :
    Std.ExtTreeSet.size (visiting.insert address) = visiting.size + 1 := by
  rw [Std.ExtTreeSet.size_insert,
    if_neg fun member ↦ absent (Std.ExtTreeSet.contains_iff_mem.mp member)]

theorem size_le_size {many few : Visiting} (inside : ∀ address ∈ few, address ∈ many) :
    few.size ≤ many.size := by
  rw [← Std.ExtTreeSet.length_toList, ← Std.ExtTreeSet.length_toList]
  have single : few.toList.Nodup := by
    refine Std.ExtTreeSet.distinct_toList.imp fun different same ↦ different ?_
    rw [same]
    exact Std.ReflCmp.compare_self
  refine single.length_le_of_subset fun address member ↦ ?_
  rw [Std.ExtTreeSet.mem_toList] at member ⊢
  exact inside address member

theorem mem_insert {visiting : Visiting} {address other : Address} :
    other ∈ visiting.insert address ↔ other = address ∨ other ∈ visiting := by
  rw [Std.ExtTreeSet.mem_insert, Std.LawfulEqOrd.compare_eq_iff_eq, eq_comm]

/-- Cells that are not in progress together with one more are others than that one, and were not in
progress before. -/
theorem away_of_away_insert {visiting : Visiting} {address : Address} {cells : List Address}
    (away : ∀ other ∈ cells, other ∉ visiting.insert address) :
    address ∉ cells ∧ ∀ other ∈ cells, other ∉ visiting := by
  refine ⟨fun member ↦ ?_, fun other member inProgress ↦ ?_⟩
  · exact away address member (mem_insert.mpr (Or.inl rfl))
  · exact away other member (mem_insert.mpr (Or.inr inProgress))

theorem mem_ofList_singleton {target address : Address} :
    address ∈ (Std.ExtTreeSet.ofList [target] : Visiting) ↔ address = target := by
  rw [Std.ExtTreeSet.mem_ofList, List.contains_iff_mem, List.mem_singleton]

theorem size_ofList_singleton (target : Address) :
    Std.ExtTreeSet.size (Std.ExtTreeSet.ofList [target] : Visiting) = 1 :=
  Std.ExtTreeSet.size_ofList (by simp)

end Visiting

/-! ### Outcomes -/

namespace Evaluation

variable {α β : Type}

/-- When some cells are in progress, an evaluation has an outcome and leaves these cells as they
were. -/
def Yields (evaluation : Evaluation α) (visiting : Visiting) (result : Except FormulaError α) :
    Prop := evaluation.outcome visiting = (result, visiting)

theorem Yields.unique {evaluation : Evaluation α} {visiting : Visiting}
    {one other : Except FormulaError α} (first : evaluation.Yields visiting one)
    (second : evaluation.Yields visiting other) : one = other :=
  congrArg Prod.fst (first.symm.trans second)

theorem yields_pure (value : α) (visiting : Visiting) :
    Yields (pure value) visiting (.ok value) := rfl

theorem yields_throw (cause : FormulaError) (visiting : Visiting) :
    Yields (throw cause : Evaluation α) visiting (.error cause) := rfl

theorem yields_ofOutcome (result : Except FormulaError α) (visiting : Visiting) :
    (ofOutcome result).Yields visiting result := by
  cases result with
  | ok value => exact yields_pure value visiting
  | error cause => exact yields_throw cause visiting

theorem outcome_bind (evaluation : Evaluation α) (next : α → Evaluation β) (visiting : Visiting) :
    (evaluation >>= next).outcome visiting =
      match evaluation.outcome visiting with
      | (.ok value, later) => (next value).outcome later
      | (.error cause, later) => (.error cause, later) := by
  have unfolded : (evaluation >>= next).outcome visiting =
      ExceptT.bindCont next (evaluation.outcome visiting).1 (evaluation.outcome visiting).2 := rfl
  rw [unfolded]
  match evaluation.outcome visiting with
  | (.ok _, _) => rfl
  | (.error _, _) => rfl

/-- An evaluation followed by another yields the outcomes of the two in turn. -/
theorem Yields.bind {evaluation : Evaluation α} {next : α → Evaluation β} {visiting : Visiting}
    {result : Except FormulaError α} {results : α → Except FormulaError β}
    (first : evaluation.Yields visiting result)
    (second : ∀ value, (next value).Yields visiting (results value)) :
    (evaluation >>= next).Yields visiting (result >>= results) := by
  rw [Yields, outcome_bind, first]
  cases result with
  | ok value => exact second value
  | error cause => rfl

/-- Reading the cells in progress gives them to the rest. -/
theorem Yields.get_bind {next : Visiting → Evaluation β} {visiting : Visiting}
    {result : Except FormulaError β} (rest : (next visiting).Yields visiting result) :
    (get >>= next).Yields visiting result := rest

/-- Along a list, the outcomes are those of its members, up to the first failure. -/
theorem yields_mapM {step : α → Evaluation β} {look : α → Except FormulaError β}
    {visiting : Visiting} {list : List α}
    (each : ∀ member ∈ list, (step member).Yields visiting (look member)) :
    (list.mapM step).Yields visiting (list.mapM look) := by
  induction list with
  | nil => exact yields_pure [] visiting
  | cons head tail ih =>
    rw [List.forall_mem_cons] at each
    rw [List.mapM_cons, List.mapM_cons]
    refine each.1.bind fun value ↦ ?_
    exact (ih each.2).bind fun values ↦ yields_pure (value :: values) visiting

/-- The cell that was in progress meanwhile is in progress no longer. -/
theorem Yields.during {evaluation : Evaluation α} {visiting : Visiting} {address : Address}
    {result : Except FormulaError α} (absent : address ∉ visiting)
    (inner : evaluation.Yields (visiting.insert address) result) :
    (during address evaluation).Yields visiting result := by
  have unfolded : (Evaluation.during address evaluation).outcome visiting =
      (ofOutcome (evaluation.outcome (visiting.insert address)).1).outcome
        ((evaluation.outcome (visiting.insert address)).2.erase address) := rfl
  rw [Yields, unfolded, inner, Visiting.erase_insert absent]
  exact yields_ofOutcome result visiting

end Evaluation

end Worksheet
