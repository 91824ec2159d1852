import Worksheet.Region

/-!
# The cells of a region in row-major order

The list of the cells of a region has exactly the cells that lie in it (`mem_addresses`), each once
and row by row (`pairwise_addresses`). A list in row-major order is determined by its members
(`eq_of_pairwise_before`), so every other way to collect the cells of a region in that order gives
the same list.
-/

set_option autoImplicit false
set_option relaxedAutoImplicit false

namespace Worksheet

/-! ### Row-major order -/

namespace Address

/-- One address comes before another in row-major order. -/
def Before (one other : Address) : Prop := compare one other = .lt

theorem before_iff {one other : Address} :
    one.Before other ↔ one.row < other.row ∨ one.row = other.row ∧ one.column < other.column := by
  have unfolded : compare one other =
      (compare one.row other.row).then (compare one.column other.column) := rfl
  rw [Before, unfolded, Ordering.then_eq_lt, Std.compare_eq_lt, Std.compare_eq_lt,
    Std.LawfulEqOrd.compare_eq_iff_eq]

theorem not_before_self (address : Address) : ¬ address.Before address := by
  rw [before_iff]
  rintro (smaller | ⟨_, smaller⟩)
  · exact UInt32.lt_irrefl _ smaller
  · exact UInt32.lt_irrefl _ smaller

theorem Before.trans {one middle other : Address} (first : one.Before middle)
    (second : middle.Before other) : one.Before other :=
  Std.TransCmp.lt_trans first second

theorem Before.asymm {one other : Address} (before : one.Before other) : ¬ other.Before one :=
  fun after ↦ not_before_self one (before.trans after)

theorem before_or_eq_or_before (one other : Address) :
    one.Before other ∨ one = other ∨ other.Before one := by
  cases order : compare one other with
  | lt => exact Or.inl order
  | eq => exact Or.inr (Or.inl (Std.LawfulEqOrd.eq_of_compare order))
  | gt => exact Or.inr (Or.inr (Std.OrientedCmp.gt_iff_lt.mp order))

theorem le_iff {one other : Address} : one.le other ↔ one.Before other ∨ one = other := by
  rw [Address.le, Before, Ordering.isLE_iff_eq_lt_or_eq_eq, Std.LawfulEqOrd.compare_eq_iff_eq]

theorem le_trans (one middle other : Address) (first : one.le middle) (second : middle.le other) :
    one.le other :=
  Std.TransCmp.isLE_trans first second

theorem le_total (one other : Address) : (one.le other || other.le one) = true := by
  rw [Bool.or_eq_true, le_iff, le_iff]
  rcases before_or_eq_or_before one other with before | same | after
  · exact Or.inl (Or.inl before)
  · exact Or.inl (Or.inr same)
  · exact Or.inr (Or.inl after)

theorem nodup_of_pairwise_before {list : List Address} (sorted : list.Pairwise Before) :
    list.Nodup := by
  refine sorted.imp fun {first second} before same ↦ ?_
  rw [same] at before
  exact not_before_self second before

/-- Two lists in row-major order with the same members are the same list. -/
theorem eq_of_pairwise_before {one other : List Address} (first : one.Pairwise Before)
    (second : other.Pairwise Before) (members : ∀ address, address ∈ one ↔ address ∈ other) :
    one = other := by
  refine List.Perm.eq_of_pairwise (fun _ _ _ _ before after ↦ ?_) first second
    ((List.perm_ext_iff_of_nodup (nodup_of_pairwise_before first)
      (nodup_of_pairwise_before second)).mpr members)
  exact absurd after before.asymm

end Address

/-! ### Lines -/

namespace Region

/-- The indices from a first line to a last one. -/
def lines (first last : UInt32) : List UInt32 :=
  (List.range (last.toNat - first.toNat + 1)).map fun offset ↦ first + UInt32.ofNat offset

/-- Within the lines up to a last one, an offset is added without a carry. -/
theorem toNat_add_offset {first last : UInt32} {offset : Nat}
    (bound : offset < last.toNat - first.toNat + 1) (ordered : first ≤ last) :
    (first + UInt32.ofNat offset).toNat = first.toNat + offset := by
  have lastBound := last.toNat_lt
  rw [UInt32.le_iff_toNat_le] at ordered
  rw [UInt32.toNat_add, UInt32.toNat_ofNat', Nat.mod_eq_of_lt (a := offset) (by omega),
    Nat.mod_eq_of_lt (by omega)]

theorem mem_lines {first last line : UInt32} (ordered : first ≤ last) :
    line ∈ lines first last ↔ first ≤ line ∧ line ≤ last := by
  have bounded := UInt32.le_iff_toNat_le.mp ordered
  simp only [lines, List.mem_map, List.mem_range, UInt32.le_iff_toNat_le]
  constructor
  · rintro ⟨offset, bound, rfl⟩
    rw [toNat_add_offset bound ordered]
    omega
  · rintro ⟨above, below⟩
    refine ⟨line.toNat - first.toNat, by omega, UInt32.toNat_inj.mp ?_⟩
    rw [toNat_add_offset (by omega) ordered]
    omega

theorem pairwise_lines {first last : UInt32} (ordered : first ≤ last) :
    (lines first last).Pairwise (· < ·) := by
  rw [lines, List.pairwise_map]
  refine List.pairwise_lt_range.imp_of_mem fun oneMember otherMember smaller ↦ ?_
  rw [UInt32.lt_iff_toNat_lt, toNat_add_offset (List.mem_range.mp oneMember) ordered,
    toNat_add_offset (List.mem_range.mp otherMember) ordered]
  omega

/-! ### Cells -/

theorem addresses_eq (region : Region) :
    region.addresses = (lines region.first.row region.last.row).flatMap fun row ↦
      (lines region.first.column region.last.column).map fun column ↦ ⟨row, column⟩ := by
  simp only [addresses, rowCount, columnCount, lines, List.flatMap_map, List.map_map]
  rfl

/-- The list of the cells of a region has exactly the cells that lie in it. -/
theorem mem_addresses {region : Region} {address : Address} :
    address ∈ region.addresses ↔ region.contains address := by
  simp only [addresses_eq, List.mem_flatMap, List.mem_map, mem_lines region.row_le,
    mem_lines region.column_le, contains, decide_eq_true_eq]
  constructor
  · rintro ⟨row, rowBounds, column, columnBounds, rfl⟩
    exact ⟨rowBounds.1, rowBounds.2, columnBounds⟩
  · rintro ⟨above, below, left, right⟩
    exact ⟨address.row, ⟨above, below⟩, address.column, ⟨left, right⟩, rfl⟩

/-- The cells of a region are listed in row-major order, each of them once. -/
theorem pairwise_addresses (region : Region) : region.addresses.Pairwise Address.Before := by
  rw [addresses_eq, List.pairwise_flatMap]
  constructor
  · intro row _
    rw [List.pairwise_map]
    refine (pairwise_lines region.column_le).imp fun smaller ↦ ?_
    exact Address.before_iff.mpr (Or.inr ⟨rfl, smaller⟩)
  · refine (pairwise_lines region.row_le).imp fun smaller one oneMember other otherMember ↦ ?_
    obtain ⟨_, _, rfl⟩ := List.mem_map.mp oneMember
    obtain ⟨_, _, rfl⟩ := List.mem_map.mp otherMember
    exact Address.before_iff.mpr (Or.inl smaller)

end Region

end Worksheet
