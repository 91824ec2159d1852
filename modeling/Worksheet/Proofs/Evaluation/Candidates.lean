import Worksheet.Evaluation
import Worksheet.Proofs.Region.RowMajor

/-!
# The cells that are visited in a region

A region is walked through as a whole or, when it has more cells than there are stored and in
progress, along those of its cells that are stored or in progress. Sorting them and leaving out
repetitions gives a part of the whole walk in the same order (`candidatesAmong_eq`), whatever the
order in which they are listed (`candidatesAmong_perm`).
-/

set_option autoImplicit false
set_option relaxedAutoImplicit false

namespace Worksheet

/-! ### Repetitions in a sorted list -/

namespace Address

theorem loop_eraseReps (earlier : List Address) (list : List Address) :
    ∀ address, List.eraseRepsBy.loop (· == ·) address list earlier =
      earlier.reverse ++ List.eraseRepsBy.loop (· == ·) address list [] := by
  induction list generalizing earlier with
  | nil => intro address; simp [List.eraseRepsBy.loop]
  | cons head tail ih =>
    intro address
    rw [List.eraseRepsBy.loop, List.eraseRepsBy.loop]
    cases address == head with
    | true => exact ih earlier address
    | false =>
      simp only
      rw [ih (address :: earlier), ih [address]]
      simp

theorem eraseReps_cons_self (address : Address) (list : List Address) :
    (address :: address :: list).eraseReps = (address :: list).eraseReps := by
  simp [List.eraseReps, List.eraseRepsBy, List.eraseRepsBy.loop]

theorem eraseReps_cons_of_ne {one other : Address} (different : one ≠ other)
    (list : List Address) :
    (one :: other :: list).eraseReps = one :: (other :: list).eraseReps := by
  have unequal : (one == other) = false := by simpa using different
  simp only [List.eraseReps, List.eraseRepsBy, List.eraseRepsBy.loop, unequal]
  rw [loop_eraseReps]
  rfl

theorem mem_eraseReps {address : Address} (list : List Address) :
    address ∈ list.eraseReps ↔ address ∈ list := by
  induction list with
  | nil => rfl
  | cons one rest ih =>
    cases rest with
    | nil => rfl
    | cons other later =>
      by_cases same : one = other
      · rw [same, eraseReps_cons_self, ih]
        simp
      · rw [eraseReps_cons_of_ne same, List.mem_cons, ih]
        exact List.mem_cons.symm

/-- A sorted list without its repetitions has each of its members once. -/
theorem pairwise_eraseReps (list : List Address)
    (sorted : list.Pairwise fun one other ↦ one.le other) :
    list.eraseReps.Pairwise Before := by
  induction list with
  | nil => exact List.Pairwise.nil
  | cons one rest ih =>
    cases rest with
    | nil => exact List.pairwise_singleton Before one
    | cons other later =>
      rw [List.pairwise_cons] at sorted
      by_cases same : one = other
      · rw [same, eraseReps_cons_self]
        exact ih sorted.2
      · rw [eraseReps_cons_of_ne same, List.pairwise_cons]
        refine ⟨fun address member ↦ ?_, ih sorted.2⟩
        have next : one.Before other :=
          (le_iff.mp (sorted.1 other List.mem_cons_self)).resolve_right same
        rw [mem_eraseReps, List.mem_cons] at member
        rcases member with rfl | member
        · exact next
        · rcases le_iff.mp ((List.pairwise_cons.mp sorted.2).1 address member) with before | rfl
          · exact next.trans before
          · exact next

end Address

/-! ### Candidates -/

namespace Context

/-- The candidates are the cells of the region in their order: all of them, or those that are stored
or in progress. -/
theorem candidatesAmong_eq (stored : List Cell) (inProgress : List Address) (region : Region) :
    candidatesAmong stored inProgress region =
      if region.cellCount ≤ stored.length + inProgress.length then region.addresses
      else region.addresses.filter (· ∈ stored.map Cell.address ++ inProgress) := by
  unfold candidatesAmong
  split
  · rfl
  · refine Address.eq_of_pairwise_before (Address.pairwise_eraseReps _ ?_)
      (region.pairwise_addresses.filter _) fun address ↦ ?_
    · exact List.pairwise_mergeSort Address.le_trans Address.le_total _
    · rw [Address.mem_eraseReps, (List.mergeSort_perm _ _).mem_iff, List.mem_filter,
        List.mem_filter, Region.mem_addresses, decide_eq_true_eq, and_comm]

/-- The candidates do not depend on the order in which the stored cells and those in progress are
listed. -/
theorem candidatesAmong_perm {stored others : List Cell} {inProgress visiting : List Address}
    (sameCells : stored.Perm others) (sameProgress : inProgress.Perm visiting) (region : Region) :
    candidatesAmong stored inProgress region = candidatesAmong others visiting region := by
  rw [candidatesAmong_eq, candidatesAmong_eq, sameCells.length_eq, sameProgress.length_eq]
  have members (address : Address) : address ∈ stored.map Cell.address ++ inProgress ↔
      address ∈ others.map Cell.address ++ visiting :=
    ((sameCells.map Cell.address).append sameProgress).mem_iff
  simp only [members]

end Context

end Worksheet
