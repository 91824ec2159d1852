import Worksheet.Proofs.Recalculation.Refresh

/-!
# What a recalculation reports

A recalculation goes through the formula cells in row-major order and refreshes each of them, all of
them or those up to the first failure. Each step counts the cell that it refreshes
(`recalculateAt?_eq_some`), and a run of steps refreshes a front part of the list and counts it
(`exists_recalculateCells_eq`). No cell is refreshed twice, so the values that were written are
those that are seen afterwards, and the report can be read off the sheet: what was rewritten, what
was left as it was, and how many of the results are failures (`recalculate_prefix`).
-/

set_option autoImplicit false
set_option relaxedAutoImplicit false

namespace Worksheet

namespace Sheet

/-- Whether a failure is seen at an address. -/
def failsAt (sheet : Sheet) (address : Address) : Bool := (sheet.valueAt address).isError

end Sheet

/-- A report in which some more cells are counted, and as failures those of them where a failure is
seen on a sheet. -/
def RecalculationReport.counting (report : RecalculationReport) (sheet : Sheet)
    (cells : List Address) : RecalculationReport where
  formulaCount := report.formulaCount
  calculatedCount := report.calculatedCount + cells.length
  errorCount := report.errorCount + cells.countP sheet.failsAt

theorem RecalculationReport.counting_append (report : RecalculationReport) (sheet : Sheet)
    (cells more : List Address) :
    (report.counting sheet cells).counting sheet more = report.counting sheet (cells ++ more) := by
  unfold counting
  rw [List.length_append, List.countP_append, Nat.add_assoc, Nat.add_assoc]

namespace Sheet

variable {sheet : Sheet} {address : Address} {order : List Address}

/-! ### Steps and runs -/

/-- A step at a formula cell refreshes it and gives the value that is then seen there. -/
theorem recalculateAt?_eq_some {formula : String} (found : sheet.formula? address = some formula) :
    sheet.recalculateAt? address =
      some (sheet.refresh address, (sheet.refresh address).valueAt address) := by
  rw [valueAt_refresh_self found, refresh_of_formula found]
  rw [formula?] at found
  rw [recalculateAt?, found, Option.map_some]

theorem valueAt_refreshAll_of_not_mem (absent : address ∉ order) :
    (sheet.refreshAll order).valueAt address = sheet.valueAt address := by
  rw [valueAt, cell?_refreshAll_of_not_mem absent, valueAt]

/-- Where a run over some cells may end: behind the last of them or, when it stops at failures,
right behind the first failure. -/
structure EndsWell (stopOnError : Bool) (failed : Address → Bool) (done left : List Address) :
    Prop where
  /-- Without stopping, no cell is left. -/
  nothing_left : stopOnError = false → left = []
  /-- A run that stops at failures has gone on after the earlier cells, so these have not failed. -/
  earlier_sound : stopOnError = true → ∀ address ∈ done.dropLast, failed address = false
  /-- Cells are left only behind a failure. -/
  last_failed : stopOnError = true → left ≠ [] → ∃ address ∈ done.getLast?, failed address = true

theorem EndsWell.cons {stopOnError : Bool} {failed : Address → Bool} {done left : List Address}
    (ends : EndsWell stopOnError failed done left) (address : Address)
    (sound : stopOnError = true → ¬ failed address)
    (begun : done = [] → left = []) : EndsWell stopOnError failed (address :: done) left := by
  cases done with
  | nil =>
    obtain rfl := begun rfl
    exact ⟨fun _ ↦ rfl, fun _ _ member ↦ absurd member List.not_mem_nil,
      fun _ more ↦ absurd rfl more⟩
  | cons next done =>
    refine ⟨ends.nothing_left, fun stops ↦ ?_, fun stops more ↦ ?_⟩
    · rw [List.dropLast_cons_cons, List.forall_mem_cons]
      exact ⟨Bool.eq_false_iff.mpr (sound stops), ends.earlier_sound stops⟩
    · rw [List.getLast?_cons_cons]
      exact ends.last_failed stops more

/-- A run over different formula cells refreshes a front part of them, counts these, and ends behind
all of them or at the first failure. -/
theorem exists_recalculateCells_eq (stopOnError : Bool) (single : order.Nodup)
    (formulas : ∀ address ∈ order, ∃ formula, sheet.formula? address = some formula)
    (report : RecalculationReport) :
    ∃ done left, order = done ++ left ∧
      recalculateCells stopOnError order sheet report =
        (sheet.refreshAll done, report.counting (sheet.refreshAll done) done) ∧
      EndsWell stopOnError (sheet.refreshAll done).failsAt done left ∧ (done = [] → left = []) := by
  induction order generalizing sheet report with
  | nil =>
    refine ⟨[], [], rfl, rfl, ⟨fun _ ↦ rfl, fun _ _ member ↦ absurd member List.not_mem_nil,
      fun _ more ↦ absurd rfl more⟩, fun _ ↦ rfl⟩
  | cons address later ih =>
    obtain ⟨absent, single⟩ := List.nodup_cons.mp single
    obtain ⟨⟨formula, found⟩, formulas⟩ := List.forall_mem_cons.mp formulas
    rw [recalculateCells, recalculateAt?_eq_some found]
    simp only
    -- The value that is written stays, as the cell is not refreshed again.
    have step {done : List Address} (front : done ⊆ later) :
        ({ report with
          calculatedCount := report.calculatedCount + 1
          errorCount := report.errorCount +
            (if ((sheet.refresh address).valueAt address).isError then 1 else 0) }) =
          report.counting ((sheet.refresh address).refreshAll done) [address] := by
      rw [← valueAt_refreshAll_of_not_mem fun member ↦ absent (front member)]
      simp only [RecalculationReport.counting, List.countP_singleton, failsAt]
      rfl
    by_cases stops : (((sheet.refresh address).valueAt address).isError && stopOnError) = true
    · rw [if_pos stops]
      obtain ⟨failed, stops⟩ := Bool.and_eq_true_iff.mp stops
      refine ⟨[address], later, rfl, ?_, ⟨?_, ?_, ?_⟩, ?_⟩
      · exact congrArg _ (step (List.nil_subset later))
      · exact fun goesOn ↦ absurd (goesOn.symm.trans stops) (by decide)
      · exact fun _ _ member ↦ absurd member List.not_mem_nil
      · exact fun _ _ ↦ ⟨address, rfl, failed⟩
      · exact fun none ↦ absurd none (List.cons_ne_nil _ _)
    · rw [if_neg stops]
      obtain ⟨done, left, rfl, run, ends, begun⟩ :=
        @ih (sheet.refresh address) single (fun other member ↦ by
          rw [formula?_refresh]
          exact formulas other member) _
      refine ⟨address :: done, left, rfl, ?_, ?_, fun none ↦ absurd none (List.cons_ne_nil _ _)⟩
      · rw [run, refreshAll_cons, step (List.subset_append_left done left),
          RecalculationReport.counting_append]
        rfl
      · refine ends.cons address (fun on ↦ ?_) begun
        rw [failsAt, valueAt_refreshAll_of_not_mem fun member ↦
          absent (List.mem_append_left left member)]
        simpa [on] using stops

/-- A run that stops at failures meets one at most. -/
theorem EndsWell.countP_le_one {stopOnError : Bool} {failed : Address → Bool}
    {done left : List Address} (ends : EndsWell stopOnError failed done left)
    (stops : stopOnError = true) : done.countP failed ≤ 1 := by
  by_cases none : done = []
  · rw [none, List.countP_nil]
    exact Nat.zero_le 1
  · have earlier : done.dropLast.countP failed = 0 :=
      List.countP_eq_zero.mpr fun address member ↦ by
        rw [ends.earlier_sound stops address member]
        exact Bool.false_ne_true
    rw [← List.dropLast_concat_getLast none, List.countP_append, earlier, Nat.zero_add]
    exact List.countP_le_length

/-! ### The pass as a whole -/

/-- The sheet that stands when a number of formula cells, the first ones in row-major order, have
been refreshed. -/
def moment (sheet : Sheet) (count : Nat) : Sheet :=
  sheet.refreshAll (sheet.formulaAddresses.take count)

theorem moment_zero (sheet : Sheet) : sheet.moment 0 = sheet := by
  rw [moment, List.take_zero, refreshAll, List.foldl_nil]

/-- From one moment to the next, a formula is evaluated on the sheet that stands and stored with its
value. -/
theorem moment_succ {index : Nat} {formula : String}
    (next : sheet.formulaAddresses[index]? = some address)
    (found : sheet.formula? address = some formula) :
    sheet.moment (index + 1) = (sheet.moment index).put
      (Cell.ofFormula address formula ((sheet.moment index).evaluateCell address formula)) := by
  have still : (sheet.moment index).formula? address = some formula := by
    rw [moment, formula?_refreshAll, found]
  rw [← refresh_of_formula still]
  rw [moment, moment, List.take_add_one, next, Option.toList_some, refreshAll_append]
  rfl

/-- A cell that has been refreshed has its formula with the value that the formula had at its
turn. -/
theorem cell?_moment {index count : Nat} (reached : index < count) {formula : String}
    (next : sheet.formulaAddresses[index]? = some address)
    (found : sheet.formula? address = some formula) :
    (sheet.moment count).cell? address = some
      (Cell.ofFormula address formula ((sheet.moment index).evaluateCell address formula)) := by
  have parted : sheet.formulaAddresses.take count = sheet.formulaAddresses.take index ++
      address :: (sheet.formulaAddresses.take count).drop (index + 1) := by
    have whole := (List.take_append_drop index (sheet.formulaAddresses.take count)).symm
    rw [List.take_take, Nat.min_eq_left (Nat.le_of_lt reached)] at whole
    rw [← List.getElem?_take_of_lt reached] at next
    obtain ⟨inside, rfl⟩ := List.getElem?_eq_some_iff.mp next
    rwa [List.drop_eq_getElem_cons inside] at whole
  have single := sheet.nodup_formulaAddresses.sublist (List.take_sublist count _)
  rw [parted] at single
  have last := (List.nodup_cons.mp (List.nodup_append.mp single).2.1).1
  rw [moment, parted, cell?_refreshAll_append found last, moment]

/-- What a recalculation does to a sheet, and what it reports. -/
structure Recalculated (stopOnError : Bool) (before after : Sheet) (report : RecalculationReport) :
    Prop where
  /-- All formula cells are counted. -/
  formulaCount_eq : report.formulaCount = before.formulaAddresses.length
  /-- No more cells are calculated than there are with a formula. -/
  calculatedCount_le : report.calculatedCount ≤ report.formulaCount
  /-- The sheet is the one that stands when this number of cells has been refreshed. -/
  eq_moment : after = before.moment report.calculatedCount
  /-- Each of these cells keeps its address and its formula, and is rewritten with the value that
  the formula has at its turn. -/
  cell?_rewritten : ∀ index < report.calculatedCount, ∃ address formula,
    before.formulaAddresses[index]? = some address ∧ before.formula? address = some formula ∧
      after.cell? address = some
        (Cell.ofFormula address formula ((before.moment index).evaluateCell address formula))
  /-- Every other cell is as it was. -/
  cell?_kept : ∀ address ∉ before.formulaAddresses.take report.calculatedCount,
    after.cell? address = before.cell? address
  /-- Cells are stored at the same addresses as before. -/
  isSome_cell? : ∀ address, (after.cell? address).isSome = (before.cell? address).isSome
  /-- The failures among the values that were written are counted. -/
  errorCount_eq : report.errorCount =
    (before.formulaAddresses.take report.calculatedCount).countP after.failsAt
  /-- Without stopping, all formula cells are calculated. -/
  all_calculated : stopOnError = false → report.calculatedCount = report.formulaCount
  /-- When the pass stops at failures, no cell before the last one that is calculated fails. -/
  earlier_sound : stopOnError = true → ∀ index address, index + 1 < report.calculatedCount →
    before.formulaAddresses[index]? = some address → after.failsAt address = false
  /-- When cells are left, the last one that is calculated fails. -/
  last_failed : stopOnError = true → report.calculatedCount < report.formulaCount →
    ∃ index address, index + 1 = report.calculatedCount ∧
      before.formulaAddresses[index]? = some address ∧ after.failsAt address = true
  /-- Then there is one failure at most. -/
  errorCount_le_one : stopOnError = true → report.errorCount ≤ 1

theorem isSome_cell?_refreshAll (order : List Address) (other : Address) :
    ((sheet.refreshAll order).cell? other).isSome = (sheet.cell? other).isSome := by
  induction order generalizing sheet with
  | nil => rfl
  | cons address later ih =>
    rw [refreshAll_cons, ih]
    by_cases here : address = other
    · match found : sheet.formula? address with
      | none => rw [refresh_of_no_formula found]
      | some formula =>
        obtain ⟨cell, stored, -⟩ := Option.bind_eq_some_iff.mp found
        rw [cell?_refresh found, if_pos here, ← here, stored]
        rfl
    · rw [cell?_refresh_of_ne here]

theorem recalculated_recalculate (sheet : Sheet) (stopOnError : Bool) :
    Recalculated stopOnError sheet (sheet.recalculate stopOnError).1
      (sheet.recalculate stopOnError).2 := by
  obtain ⟨done, left, order, run, ends, -⟩ := exists_recalculateCells_eq stopOnError
    sheet.nodup_formulaAddresses (fun _ member ↦ mem_formulaAddresses.mp member)
    ⟨sheet.formulaAddresses.length, 0, 0⟩
  have front : sheet.formulaAddresses.take done.length = done := by rw [order, List.take_left]
  have after : sheet.refreshAll done = sheet.moment done.length := by rw [moment, front]
  have length : sheet.formulaAddresses.length = done.length + left.length := by
    rw [order, List.length_append]
  have place {index : Nat} (inside : index < done.length) :
      sheet.formulaAddresses[index]? = done[index]? := by
    rw [order, List.getElem?_append_left inside]
  rw [recalculate, run]
  simp only [RecalculationReport.counting, Nat.zero_add]
  constructor
  case formulaCount_eq => rfl
  case calculatedCount_le => exact length ▸ Nat.le_add_right _ _
  case eq_moment => exact after
  case cell?_rewritten =>
    intro index reached
    obtain ⟨address, next⟩ : ∃ address, sheet.formulaAddresses[index]? = some address :=
      ⟨done[index], by rw [place reached, List.getElem?_eq_getElem reached]⟩
    obtain ⟨formula, found⟩ := mem_formulaAddresses.mp (List.mem_of_getElem? next)
    exact ⟨address, formula, next, found, after ▸ cell?_moment reached next found⟩
  case cell?_kept =>
    intro address absent
    rw [front] at absent
    exact cell?_refreshAll_of_not_mem absent
  case isSome_cell? => exact isSome_cell?_refreshAll done
  case errorCount_eq => rw [front]
  case all_calculated =>
    intro goesOn
    rw [length, ends.nothing_left goesOn, List.length_nil, Nat.add_zero]
  case earlier_sound =>
    intro stops index address before next
    change index + 1 < done.length at before
    have early : done.dropLast[index]? = some address := by
      rw [List.getElem?_dropLast, if_pos (by omega), ← place (by omega), next]
    exact ends.earlier_sound stops address (List.mem_of_getElem? early)
  case last_failed =>
    intro stops more
    change done.length < sheet.formulaAddresses.length at more
    have cells : left ≠ [] := List.ne_nil_of_length_pos (by omega)
    obtain ⟨address, last, failed⟩ := ends.last_failed stops cells
    rw [Option.mem_def, List.getLast?_eq_getElem?] at last
    have inside := (List.getElem?_eq_some_iff.mp last).1
    refine ⟨done.length - 1, address, ?_, by rw [place inside, last], failed⟩
    show done.length - 1 + 1 = done.length
    omega
  case errorCount_le_one => exact fun stops ↦ ends.countP_le_one stops

/-- A recalculation rewrites a front part of the formula cells, listed in row-major order, and its
report says how many there are, how many were rewritten and how many of these failed. The sheet is
changed from one moment to the next by storing one formula with the value that it then has. All
formula cells are rewritten, or with stopping at failures those up to the first one that fails. -/
theorem recalculate_prefix (sheet : Sheet) (stopOnError : Bool) :
    sheet.formulaAddresses.Pairwise Address.Before ∧
      (∀ address, address ∈ sheet.formulaAddresses ↔
        ∃ formula, sheet.formula? address = some formula) ∧
      sheet.moment 0 = sheet ∧
      (∀ index address formula, sheet.formulaAddresses[index]? = some address →
        sheet.formula? address = some formula →
          sheet.moment (index + 1) = (sheet.moment index).put
            (Cell.ofFormula address formula ((sheet.moment index).evaluateCell address formula))) ∧
      Recalculated stopOnError sheet (sheet.recalculate stopOnError).1
        (sheet.recalculate stopOnError).2 :=
  ⟨sheet.pairwise_formulaAddresses, fun _ ↦ mem_formulaAddresses, sheet.moment_zero,
    fun _ _ _ next found ↦ moment_succ next found, sheet.recalculated_recalculate stopOnError⟩

-- The third formula has no turn after the second one has failed.
example :
    let sheet := ((Sheet.new.put (Cell.ofFormula ⟨0, 0⟩ "=SUM(1)" .empty)).put
      (Cell.ofFormula ⟨1, 0⟩ "=FOO()" .empty)).put (Cell.ofFormula ⟨1, 1⟩ "=BAR()" .empty)
    (sheet.recalculate true).2 = ⟨3, 2, 1⟩ ∧ (sheet.recalculate false).2 = ⟨3, 3, 2⟩ := by
  simp only [recalculate, formulaAddresses_eq]
  decide +kernel

end Sheet

end Worksheet
