import Worksheet.Proofs.Sheet.Cells

/-!
# The extent after several cells

An extent that grows to take in one cell after the other is the largest of the counts that single
cells need and the one from before. It does not depend on the order of the cells (`cover_perm`), and
taking them in again changes nothing (`cover_cover`). So cells may be put at different addresses in
either order (`put_comm`).
-/

set_option autoImplicit false
set_option relaxedAutoImplicit false

namespace Worksheet

theorem toNat_max (one other : UInt32) :
    (max one other).toNat = max one.toNat other.toNat := by
  show (if one ≤ other then other else one).toNat = _
  split
  · rename_i below
    rw [UInt32.le_iff_toNat_le] at below
    omega
  · rename_i above
    rw [UInt32.le_iff_toNat_le] at above
    omega

theorem Address.toNat_oneMore (count : UInt32) :
    (oneMore count).toNat = min (count.toNat + 1) 0xffffffff := by
  have below := count.toNat_lt
  unfold oneMore
  split
  · rename_i last
    have same : count.toNat = 0xffffffff := congrArg UInt32.toNat last
    omega
  · rename_i other
    have apart : count.toNat ≠ 0xffffffff := fun same ↦ other (UInt32.toNat_inj.mp same)
    rw [UInt32.toNat_add]
    show (count.toNat + 1) % 0x100000000 = _
    omega

namespace Sheet

/-- A count of lines after the lines of some addresses have been taken in. -/
def cover (line : Address → UInt32) (count : UInt32) (addresses : List Address) : UInt32 :=
  addresses.foldl (fun count address ↦ max count (Address.oneMore (line address))) count

variable {line : Address → UInt32} {count : UInt32} {addresses : List Address}

theorem cover_perm {others : List Address} (permuted : addresses.Perm others) :
    cover line count addresses = cover line count others := by
  refine permuted.foldl_eq' (fun first _ second _ so ↦ UInt32.toNat_inj.mp ?_) count
  simp only [toNat_max]
  omega

/-- A count is at most a bound when it was and no address needs more. -/
theorem cover_le {bound : UInt32} (before : count ≤ bound)
    (needed : ∀ address ∈ addresses, Address.oneMore (line address) ≤ bound) :
    cover line count addresses ≤ bound := by
  induction addresses generalizing count with
  | nil => exact before
  | cons address later ih =>
    rw [List.forall_mem_cons] at needed
    refine ih ?_ needed.2
    have first := needed.1
    rw [UInt32.le_iff_toNat_le, toNat_max] at *
    omega

theorem le_cover : count ≤ cover line count addresses := by
  induction addresses generalizing count with
  | nil => exact UInt32.le_refl count
  | cons address later ih =>
    show count ≤ cover line (max count (Address.oneMore (line address))) later
    have rest := @ih (max count (Address.oneMore (line address)))
    rw [UInt32.le_iff_toNat_le, toNat_max] at *
    omega

theorem oneMore_le_cover {address : Address} (member : address ∈ addresses) :
    Address.oneMore (line address) ≤ cover line count addresses := by
  induction addresses generalizing count with
  | nil => cases member
  | cons first later ih =>
    show _ ≤ cover line (max count (Address.oneMore (line first))) later
    rcases List.mem_cons.mp member with rfl | inside
    · have grown := @le_cover line (max count (Address.oneMore (line address))) later
      rw [UInt32.le_iff_toNat_le, toNat_max] at grown
      rw [UInt32.le_iff_toNat_le]
      omega
    · exact ih inside

theorem cover_cover :
    cover line (cover line count addresses) addresses = cover line count addresses :=
  UInt32.le_antisymm (cover_le (UInt32.le_refl _) fun _ member ↦ oneMore_le_cover member) le_cover

/-- Cells that are put at different addresses may be put in either order. -/
theorem put_comm (sheet : Sheet) {cell next : Cell} (apart : cell.address ≠ next.address) :
    (sheet.put cell).put next = (sheet.put next).put cell := by
  refine ext_cell? (fun address ↦ ?_) ?_ ?_
  · simp only [cell?_put]
    by_cases here : cell.address = address
    · have elsewhere : next.address ≠ address := fun same ↦ apart (here.trans same.symm)
      simp [here, elsewhere]
    · simp [here]
  · show cover Address.row sheet.rowCount [cell.address, next.address] =
      cover Address.row sheet.rowCount [next.address, cell.address]
    exact cover_perm (List.Perm.swap _ _ _)
  · show cover Address.column sheet.columnCount [cell.address, next.address] =
      cover Address.column sheet.columnCount [next.address, cell.address]
    exact cover_perm (List.Perm.swap _ _ _)

end Sheet

end Worksheet
