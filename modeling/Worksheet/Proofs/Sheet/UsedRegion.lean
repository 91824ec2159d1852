import Worksheet.Proofs.Region.RegionText
import Worksheet.Proofs.Sheet.Axis
import Worksheet.Proofs.Sheet.Extent

/-!
# The region that is used

A region grows by one cell at a time to take in a list of cells (`Region.extend`,
`Region.enclosing?`), and the used region of a sheet is what comes of its stored cells in this way
(`Sheet.usedRegion?_eq_enclosing?`). A step keeps the region tight: all cells so far lie in it, and
each of its edges has one of them (`Region.TightAround.extend`). No other region that holds these
cells is smaller (`Region.TightAround.contains_of_contains`), so the order in which the cells are
taken in makes no difference (`Region.enclosing?_congr`).
-/

set_option autoImplicit false
set_option relaxedAutoImplicit false

namespace Worksheet

theorem toNat_min (one other : UInt32) :
    (min one other).toNat = min one.toNat other.toNat := by
  show (if one ≤ other then one else other).toNat = _
  split
  · next below =>
    rw [UInt32.le_iff_toNat_le] at below
    omega
  · next above =>
    rw [UInt32.le_iff_toNat_le] at above
    omega

namespace Region

/-! ### Taking in cells -/

/-- The smallest region that holds a region and a cell. -/
def extend (region : Region) (address : Address) : Region where
  first := ⟨min region.first.row address.row, min region.first.column address.column⟩
  last := ⟨max region.last.row address.row, max region.last.column address.column⟩
  row_le := by
    have ordered := region.row_le
    rw [UInt32.le_iff_toNat_le] at *
    rw [toNat_min, toNat_max]
    omega
  column_le := by
    have ordered := region.column_le
    rw [UInt32.le_iff_toNat_le] at *
    rw [toNat_min, toNat_max]
    omega

/-- The smallest region that holds some cells, if there are any. -/
def enclosing? : List Address → Option Region
  | [] => none
  | address :: later => some (later.foldl extend (single address))

variable {region : Region} {held : List Address} {address : Address}

theorem line_first_extend (axis : Axis) :
    axis.line (region.extend address).first =
      min (axis.line region.first) (axis.line address) := by
  cases axis <;> rfl

theorem line_last_extend (axis : Axis) :
    axis.line (region.extend address).last = max (axis.line region.last) (axis.line address) := by
  cases axis <;> rfl

/-- A cell lies in a region if it does so in both directions. -/
theorem contains_iff_line :
    region.contains address ↔ ∀ axis : Axis, axis.line region.first ≤ axis.line address ∧
      axis.line address ≤ axis.line region.last := by
  rw [contains, decide_eq_true_eq]
  constructor
  · rintro ⟨top, bottom, left, right⟩ (_ | _)
    · exact ⟨top, bottom⟩
    · exact ⟨left, right⟩
  · intro each
    exact ⟨(each .row).1, (each .row).2, each .column⟩

/-- Two regions are the same if they have the same first and last lines in both directions. -/
theorem ext_line {other : Region}
    (first : ∀ axis : Axis, axis.line region.first = axis.line other.first)
    (last : ∀ axis : Axis, axis.line region.last = axis.line other.last) : region = other := by
  obtain ⟨⟨_, _⟩, ⟨_, _⟩, _, _⟩ := region
  obtain ⟨⟨_, _⟩, ⟨_, _⟩, _, _⟩ := other
  obtain rfl := first .row
  obtain rfl := first .column
  obtain rfl := last .row
  obtain rfl := last .column
  rfl

/-! ### Tight regions -/

/-- All of some cells lie in a region, and each of its four edges has one of them: the first and the
last row and the first and the last column. -/
structure TightAround (region : Region) (held : List Address) : Prop where
  /-- No cell is outside. -/
  contains : ∀ address ∈ held, region.contains address
  /-- There is a cell on the first line. -/
  first : ∀ axis : Axis, ∃ address ∈ held, axis.line address = axis.line region.first
  /-- There is a cell on the last line. -/
  last : ∀ axis : Axis, ∃ address ∈ held, axis.line address = axis.line region.last

theorem tightAround_single (address : Address) : (single address).TightAround [address] where
  contains := by
    simp only [List.mem_singleton, forall_eq, contains_iff_line]
    exact fun axis ↦ ⟨UInt32.le_refl _, UInt32.le_refl _⟩
  first axis := ⟨address, List.mem_singleton.mpr rfl, rfl⟩
  last axis := ⟨address, List.mem_singleton.mpr rfl, rfl⟩

/-- Taking in one more cell keeps a region tight. -/
theorem TightAround.extend (tight : region.TightAround held) (address : Address) :
    (region.extend address).TightAround (held ++ [address]) where
  contains := by
    rw [List.forall_mem_append, List.forall_mem_singleton]
    simp only [contains_iff_line, line_first_extend, line_last_extend, UInt32.le_iff_toNat_le,
      toNat_min, toNat_max]
    refine ⟨fun other member axis ↦ ?_, fun axis ↦ ?_⟩
    · have inside := contains_iff_line.mp (tight.contains other member) axis
      rw [UInt32.le_iff_toNat_le, UInt32.le_iff_toNat_le] at inside
      omega
    · omega
  first axis := by
    obtain ⟨other, member, same⟩ := tight.first axis
    rw [line_first_extend]
    rcases UInt32.le_total (axis.line region.first) (axis.line address) with before | after
    · refine ⟨other, List.mem_append_left _ member, UInt32.toNat_inj.mp ?_⟩
      rw [same, toNat_min, Nat.min_eq_left (UInt32.le_iff_toNat_le.mp before)]
    · refine ⟨address, List.mem_append_right _ List.mem_cons_self, UInt32.toNat_inj.mp ?_⟩
      rw [toNat_min, Nat.min_eq_right (UInt32.le_iff_toNat_le.mp after)]
  last axis := by
    obtain ⟨other, member, same⟩ := tight.last axis
    rw [line_last_extend]
    rcases UInt32.le_total (axis.line address) (axis.line region.last) with before | after
    · refine ⟨other, List.mem_append_left _ member, UInt32.toNat_inj.mp ?_⟩
      rw [same, toNat_max, Nat.max_eq_left (UInt32.le_iff_toNat_le.mp before)]
    · refine ⟨address, List.mem_append_right _ List.mem_cons_self, UInt32.toNat_inj.mp ?_⟩
      rw [toNat_max, Nat.max_eq_right (UInt32.le_iff_toNat_le.mp after)]

/-- Taking in one cell after the other keeps a region tight. -/
theorem TightAround.foldl_extend (tight : region.TightAround held) (later : List Address) :
    (later.foldl Region.extend region).TightAround (held ++ later) := by
  induction later generalizing region held with
  | nil => rwa [List.append_nil]
  | cons address later ih =>
    rw [List.foldl_cons, List.append_cons]
    exact ih (tight.extend address)

theorem tightAround_of_enclosing? (found : enclosing? held = some region) :
    region.TightAround held := by
  cases held with
  | nil => cases found
  | cons address later =>
    obtain rfl := Option.some.inj found
    exact (tightAround_single address).foldl_extend later

theorem enclosing?_eq_none_iff : enclosing? held = none ↔ held = [] := by
  cases held with
  | nil => exact iff_of_true rfl rfl
  | cons address later => exact iff_of_false nofun nofun

/-- A tight region lies in every region that holds its cells. -/
theorem TightAround.contains_of_contains (tight : region.TightAround held) {other : Region}
    (holds : ∀ address ∈ held, other.contains address) (axis : Axis) :
    axis.line other.first ≤ axis.line region.first ∧
      axis.line region.last ≤ axis.line other.last := by
  obtain ⟨one, oneMember, first⟩ := tight.first axis
  obtain ⟨two, twoMember, last⟩ := tight.last axis
  rw [← first, ← last]
  exact ⟨(contains_iff_line.mp (holds one oneMember) axis).1,
    (contains_iff_line.mp (holds two twoMember) axis).2⟩

/-- There is only one region that is tight around some cells. -/
theorem TightAround.unique {others : List Address} {other : Region}
    (tight : region.TightAround held) (otherTight : other.TightAround others)
    (members : ∀ address, address ∈ held ↔ address ∈ others) : region = other := by
  have outer := tight.contains_of_contains fun address member ↦
    otherTight.contains address ((members address).mp member)
  have inner := otherTight.contains_of_contains fun address member ↦
    tight.contains address ((members address).mpr member)
  exact ext_line (fun axis ↦ UInt32.le_antisymm (inner axis).1 (outer axis).1)
    fun axis ↦ UInt32.le_antisymm (outer axis).2 (inner axis).2

/-- The order of the cells makes no difference to the region around them. -/
theorem enclosing?_congr {others : List Address}
    (members : ∀ address, address ∈ held ↔ address ∈ others) :
    enclosing? held = enclosing? others := by
  cases found : enclosing? held with
  | none =>
    rw [enclosing?_eq_none_iff] at found
    subst found
    refine (enclosing?_eq_none_iff.mpr (List.eq_nil_iff_forall_not_mem.mpr fun address ↦ ?_)).symm
    rw [← members]
    exact List.not_mem_nil
  | some region =>
    have tight := tightAround_of_enclosing? found
    cases foundOther : enclosing? others with
    | none =>
      obtain ⟨address, member, -⟩ := tight.first .row
      rw [enclosing?_eq_none_iff] at foundOther
      rw [members, foundOther] at member
      cases member
    | some other =>
      rw [tight.unique (tightAround_of_enclosing? foundOther) members]

end Region

/-! ### The used region -/

namespace Sheet

/-- The corners of a grown region are found one index at a time. -/
theorem corners_foldl_extend (later : List Address) (region : Region) :
    (later.foldl Region.extend region).first =
        ⟨later.foldl (fun row address ↦ min row address.row) region.first.row,
          later.foldl (fun column address ↦ min column address.column) region.first.column⟩ ∧
      (later.foldl Region.extend region).last =
        ⟨later.foldl (fun row address ↦ max row address.row) region.last.row,
          later.foldl (fun column address ↦ max column address.column) region.last.column⟩ := by
  induction later generalizing region with
  | nil => exact ⟨rfl, rfl⟩
  | cons address later ih => exact ih (region.extend address)

/-- The used region is the region around the stored cells. -/
theorem usedRegion?_eq_enclosing? (sheet : Sheet) :
    sheet.usedRegion? = Region.enclosing? sheet.cells.keys := by
  unfold usedRegion?
  cases sheet.cells.keys with
  | nil => rfl
  | cons address later =>
    obtain ⟨first, last⟩ := corners_foldl_extend later (.single address)
    refine congrArg some ?_
    rw [← Region.ofCorners_first_last (later.foldl Region.extend (.single address)), first, last]
    rfl

theorem mem_keys {sheet : Sheet} {address : Address} :
    address ∈ sheet.cells.keys ↔ (sheet.cell? address).isSome := by
  rw [Std.ExtTreeMap.mem_keys, Std.ExtTreeMap.mem_iff_isSome_getElem?]
  rfl

/-- There is no used region exactly if no cell is stored. Otherwise all stored cells lie in it, each
of its four edges has one of them, and every region that holds them reaches at least as far in all
directions. In whatever order the stored cells are gone through, the result is the same. -/
theorem usedRegion_tight (sheet : Sheet) :
    (sheet.usedRegion? = none ↔ ∀ address, sheet.cell? address = none) ∧
    (∀ used, sheet.usedRegion? = some used →
      (∀ address, (sheet.cell? address).isSome → used.contains address) ∧
      (∀ axis : Axis,
        (∃ address, (sheet.cell? address).isSome ∧ axis.line address = axis.line used.first) ∧
        ∃ address, (sheet.cell? address).isSome ∧ axis.line address = axis.line used.last) ∧
      ∀ other : Region, (∀ address, (sheet.cell? address).isSome → other.contains address) →
        ∀ axis : Axis, axis.line other.first ≤ axis.line used.first ∧
          axis.line used.last ≤ axis.line other.last) ∧
    ∀ listing : List Address, listing.Perm sheet.cells.keys →
      Region.enclosing? listing = sheet.usedRegion? := by
  rw [usedRegion?_eq_enclosing?]
  simp only [← mem_keys]
  refine ⟨?_, fun used found ↦ ?_, fun listing permuted ↦
    Region.enclosing?_congr fun address ↦ permuted.mem_iff⟩
  · rw [Region.enclosing?_eq_none_iff, List.eq_nil_iff_forall_not_mem]
    refine forall_congr' fun address ↦ ?_
    rw [mem_keys, Option.not_isSome_iff_eq_none]
  · have tight := Region.tightAround_of_enclosing? found
    exact ⟨tight.contains, fun axis ↦ ⟨tight.first axis, tight.last axis⟩,
      fun other ↦ tight.contains_of_contains⟩

/-- Three cells, none of them at a corner, gone through from the last to the first. -/
theorem usedRegion_tight_backwards :
    let places : List Address := [⟨1, 7⟩, ⟨3, 9⟩, ⟨5, 2⟩]
    let sheet := places.foldl (fun sheet place ↦ sheet.put (.ofValue place .empty)) Sheet.new
    places.reverse.Perm sheet.cells.keys ∧ Region.enclosing? places.reverse = sheet.usedRegion? ∧
      sheet.usedRegion? = some (.ofCorners ⟨5, 9⟩ ⟨1, 2⟩) := by
  intro places sheet
  have permuted : places.reverse.Perm sheet.cells.keys := by decide +kernel
  obtain ⟨-, -, order⟩ := usedRegion_tight sheet
  have same := order places.reverse permuted
  exact ⟨permuted, same, same ▸ by decide +kernel⟩

end Sheet

end Worksheet
