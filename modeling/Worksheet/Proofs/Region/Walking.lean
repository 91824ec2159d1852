import Worksheet.Proofs.Address.Words
import Worksheet.Proofs.Region.RowMajor

/-!
# Walking through a region

A walk through a region visits the cells of the list `addresses` one after the other. After any
number of visits the cell that comes next is the one at that place of the list (`step_past`), and
the number of cells that is reported as left is that of the rest of the list, held at the largest
count (`remaining_past`). A visit looks only at the cell where the walk is, so walk and list are
compared through the place that a cell has in the list (`cellAt`, `after?_cellAt`).

Indices have 32 bits and counts have 64, and a region may reach the last row and the last column.
Here each step of a walk and of its counts is one of words that is checked: it has no result where a
sum does not fit or a difference is below zero. Every step has its result, which is that without a
bound (`visitInWords?_eq`, `remainingInWords?_eq`, `cellCountInWords?_eq`). The whole is
`walk_enumerates`.
-/

set_option autoImplicit false
set_option relaxedAutoImplicit false

namespace Worksheet

/-! ### Steps in words -/

namespace Word

/-- The index after an index, unless that is the last one. -/
def successor? (index : UInt32) : Option UInt32 :=
  if index.toNat + 1 < 2 ^ 32 then some (index + 1) else none

/-- How far an index is beyond another, as a word, unless it is before it. -/
def distance? (index other : UInt32) : Option UInt64 :=
  if other ≤ index then some (index - other).toUInt64 else none

/-- The sum of two words, held at the largest word. -/
def saturatingAdd (one other : UInt64) : UInt64 :=
  (add? one other).getD (UInt64.ofNat Region.largestCount)

/-- The product of two words, held at the largest word. -/
def saturatingMul (one other : UInt64) : UInt64 :=
  (mul? one other).getD (UInt64.ofNat Region.largestCount)

theorem successor?_of_lt {index other : UInt32} (before : index < other) :
    successor? index = some (index + 1) := by
  have bound := other.toNat_lt
  rw [UInt32.lt_iff_toNat_lt] at before
  exact if_pos (by omega)

theorem distance?_of_le {index other : UInt32} (ordered : other ≤ index) :
    distance? index other = some (UInt64.ofNat (index.toNat - other.toNat)) := by
  have bound := index.toNat_lt
  refine (if_pos ordered).trans (congrArg some (UInt64.toNat_inj.mp ?_))
  rw [UInt32.toNat_toUInt64, UInt32.toNat_sub_of_le _ _ ordered, toNat_ofNat (by omega)]

variable {m n : Nat}

theorem saturatingAdd_ofNat (first : m < 2 ^ 64) (second : n < 2 ^ 64) :
    saturatingAdd (UInt64.ofNat m) (UInt64.ofNat n) =
      UInt64.ofNat (min (m + n) Region.largestCount) := by
  unfold Region.largestCount
  by_cases fits : m + n < 2 ^ 64
  · rw [saturatingAdd, add?_ofNat fits, Nat.min_eq_left (by omega)]
    rfl
  · rw [saturatingAdd, add?, toNat_ofNat first, toNat_ofNat second, if_neg fits,
      Nat.min_eq_right (by omega)]
    rfl

theorem saturatingMul_ofNat (first : m < 2 ^ 64) (second : n < 2 ^ 64) :
    saturatingMul (UInt64.ofNat m) (UInt64.ofNat n) =
      UInt64.ofNat (min (m * n) Region.largestCount) := by
  unfold Region.largestCount
  rw [saturatingMul, mul?_ofNat first second]
  by_cases fits : m * n < 2 ^ 64
  · rw [if_pos fits, Nat.min_eq_left (by omega)]
    rfl
  · rw [if_neg fits, Nat.min_eq_right (by omega)]
    rfl

end Word

open Word

namespace Region

/-! ### Corners -/

/-- Choosing between two things by the order of two indices, given the other way round. -/
theorem ite_le_comm {α : Type} {m n : UInt32} {one other : α} (same : m = n → one = other) :
    (if m ≤ n then one else other) = if n ≤ m then other else one := by
  split <;> split
  · exact same (UInt32.le_antisymm ‹_› ‹_›)
  · rfl
  · rfl
  · exact absurd ((UInt32.le_total m n).resolve_left ‹_›) ‹_›

/-- The order in which two corners are given does not matter. -/
theorem ofCorners_comm (one other : Address) : ofCorners one other = ofCorners other one := by
  have smaller (m n : UInt32) : min m n = min n m := ite_le_comm fun same ↦ same
  have larger (m n : UInt32) : max m n = max n m := ite_le_comm fun same ↦ same.symm
  simp only [ofCorners, smaller one.row, smaller one.column, larger one.row, larger one.column]

/-- A line is between two others, in whichever order they are given. -/
def Between (one other line : UInt32) : Prop :=
  one ≤ line ∧ line ≤ other ∨ other ≤ line ∧ line ≤ one

theorem min_le_and_le_max_iff {one other line : UInt32} :
    min one other ≤ line ∧ line ≤ max one other ↔ Between one other line := by
  show (if one ≤ other then one else other) ≤ line ∧ line ≤ (if one ≤ other then other else one) ↔ _
  simp only [Between, UInt32.le_iff_toNat_le]
  split <;> omega

/-- The cells of a region are those between two opposite corners, on both axes. -/
theorem contains_ofCorners_iff {one other address : Address} :
    (ofCorners one other).contains address ↔
      Between one.row other.row address.row ∧ Between one.column other.column address.column := by
  rw [contains, decide_eq_true_eq, ← min_le_and_le_max_iff, ← min_le_and_le_max_iff, and_assoc]
  rfl

/-! ### The cell at a place -/

variable (region : Region)

/-- The cell at a place of the list of the cells of a region. -/
def cellAt (place : Nat) : Address :=
  ⟨region.first.row + UInt32.ofNat (place / region.columnCount),
    region.first.column + UInt32.ofNat (place % region.columnCount)⟩

/-- The place of a cell is the number of cells in the rows above it and left of it in its own. -/
theorem cellAt_eq {row column : Nat} (bound : column < region.columnCount) :
    region.cellAt (region.columnCount * row + column) =
      ⟨region.first.row + UInt32.ofNat row, region.first.column + UInt32.ofNat column⟩ := by
  rw [cellAt, Nat.mul_add_mod, Nat.mod_eq_of_lt bound, Nat.mul_add_div (by omega),
    Nat.div_eq_of_lt bound, Nat.add_zero]

/-- The cells of a region are those at the places up to their number. -/
theorem addresses_eq_map :
    region.addresses = (List.range (region.rowCount * region.columnCount)).map region.cellAt := by
  unfold addresses
  generalize region.rowCount = rows
  induction rows with
  | zero => simp
  | succ rows ih =>
    rw [List.range_succ, List.flatMap_append, ih, Nat.succ_mul, List.range_add, List.map_append,
      List.flatMap_singleton, List.map_map]
    refine congrArg _ (List.map_congr_left fun column member ↦ ?_)
    rw [Function.comp_apply, Nat.mul_comm rows, cellAt_eq region (List.mem_range.mp member)]

theorem length_addresses : region.addresses.length = region.rowCount * region.columnCount := by
  rw [addresses_eq_map, List.length_map, List.length_range]

theorem getElem?_addresses {place : Nat} (bound : place < region.rowCount * region.columnCount) :
    region.addresses[place]? = some (region.cellAt place) := by
  rw [addresses_eq_map, List.getElem?_map, List.getElem?_range bound]
  rfl

variable {region}

/-- A place is in a row and in a column of the region. -/
theorem exists_row_column {place : Nat} (bound : place < region.rowCount * region.columnCount) :
    ∃ row < region.rowCount, ∃ column < region.columnCount,
      place = region.columnCount * row + column := by
  rw [Nat.mul_comm] at bound
  exact ⟨place / region.columnCount, Nat.div_lt_of_lt_mul bound, place % region.columnCount,
    Nat.mod_lt place (Nat.succ_pos _), (Nat.div_add_mod place region.columnCount).symm⟩

/-- The cells of a row and of the rows above it are some of the cells of the region. -/
theorem row_le_count {row : Nat} (bound : row < region.rowCount) :
    region.columnCount * row + region.columnCount ≤ region.rowCount * region.columnCount := by
  rw [← Nat.mul_succ, Nat.mul_comm region.rowCount]
  exact Nat.mul_le_mul_left _ bound

/-- A line within bounds is before the last one when the next one is within them. -/
theorem add_offset_lt_iff {first last : UInt32} {offset : Nat}
    (bound : offset < last.toNat - first.toNat + 1) (ordered : first ≤ last) :
    first + UInt32.ofNat offset < last ↔ offset + 1 < last.toNat - first.toNat + 1 := by
  rw [UInt32.lt_iff_toNat_lt, toNat_add_offset bound ordered]
  omega

theorem add_offset_succ (first : UInt32) (offset : Nat) :
    first + UInt32.ofNat offset + 1 = first + UInt32.ofNat (offset + 1) := by
  rw [UInt32.ofNat_add, UInt32.add_assoc]
  rfl

/-- The cell after the one at a place is the one at the next place. -/
theorem after?_cellAt {place : Nat} (bound : place < region.rowCount * region.columnCount) :
    Walk.after? region (region.cellAt place) = region.addresses[place + 1]? := by
  obtain ⟨row, rowBound, column, columnBound, rfl⟩ := exists_row_column bound
  have rowEnd := row_le_count rowBound
  rw [cellAt_eq region columnBound, Walk.after?]
  by_cases within : column + 1 < region.columnCount
  · rw [if_pos ((add_offset_lt_iff columnBound region.column_le).mpr within), add_offset_succ,
      Nat.add_assoc, getElem?_addresses region (by omega), cellAt_eq region within]
  · have next : region.columnCount * row + column + 1 = region.columnCount * (row + 1) + 0 := by
      rw [Nat.mul_succ]
      omega
    rw [if_neg (mt (add_offset_lt_iff columnBound region.column_le).mp within), next]
    by_cases above : row + 1 < region.rowCount
    · have first : 0 < region.columnCount := Nat.succ_pos _
      have nextEnd := row_le_count above
      rw [if_pos ((add_offset_lt_iff rowBound region.row_le).mpr above), add_offset_succ,
        getElem?_addresses region (by omega), cellAt_eq region first]
      simp
    · have last : row + 1 = region.rowCount := by omega
      rw [if_neg (mt (add_offset_lt_iff rowBound region.row_le).mp above), last, Nat.mul_comm,
        Nat.add_zero, List.getElem?_eq_none (Nat.le_of_eq (length_addresses region))]

/-! ### Visits -/

namespace Walk

/-- The walk through a region after a number of visits: the cell that comes next is the one at that
place. -/
def past (region : Region) (visits : Nat) : Walk region := ⟨region.addresses[visits]?⟩

theorem past_zero : past region 0 = start region := by
  have filled : 0 < region.rowCount * region.columnCount :=
    Nat.mul_pos (Nat.succ_pos _) (Nat.succ_pos _)
  rw [past, getElem?_addresses region filled]
  simp [cellAt, start]

/-- What is left at a place: no cell at the end, and the cell at the place before it. -/
theorem past_cases (region : Region) (visits : Nat) :
    region.rowCount * region.columnCount ≤ visits ∧ past region visits = ⟨none⟩ ∨
      visits < region.rowCount * region.columnCount ∧
        past region visits = ⟨some (region.cellAt visits)⟩ := by
  by_cases bound : visits < region.rowCount * region.columnCount
  · exact .inr ⟨bound, congrArg Walk.mk (getElem?_addresses region bound)⟩
  · refine .inl ⟨by omega, congrArg Walk.mk (List.getElem?_eq_none ?_)⟩
    rw [length_addresses]
    omega

/-- A visit goes to the next place. -/
theorem step_past (visits : Nat) : (past region visits).step = past region (visits + 1) := by
  rcases past_cases region visits with ⟨ended, walk⟩ | ⟨bound, walk⟩
  · rcases past_cases region (visits + 1) with ⟨_, later⟩ | ⟨bound, _⟩
    · rw [walk, later]
      rfl
    · omega
  · rw [walk]
    exact congrArg Walk.mk (after?_cellAt bound)

/-- Visiting gives the cells in the order of their list, up to its end. -/
theorem take_past (limit : Nat) : ∀ visits : Nat,
    take limit (past region visits) =
      ((region.addresses.drop visits).take limit, past region (visits + limit)) := by
  induction limit with
  | zero => exact fun visits ↦ rfl
  | succ limit ih =>
    intro visits
    cases found : region.addresses[visits]? with
    | none =>
      have ended := List.getElem?_eq_none_iff.mp found
      have later : region.addresses[visits + (limit + 1)]? = none :=
        List.getElem?_eq_none (by omega)
      rw [List.drop_eq_nil_of_le ended, past, past, found, later]
      rfl
    | some address =>
      obtain ⟨bound, rfl⟩ := List.getElem?_eq_some_iff.mp found
      have visited : take (limit + 1) (past region visits) =
          (region.addresses[visits] :: (take limit (past region visits).step).1,
            (take limit (past region visits).step).2) := by
        rw [past, found]
        rfl
      rw [List.drop_eq_getElem_cons bound, List.take_succ_cons, visited, step_past,
        ih (visits + 1), Nat.add_right_comm, Nat.add_assoc]

/-- The number of cells that are left is that of the places from the next one on. -/
theorem remaining_past (visits : Nat) : (past region visits).remaining =
    min (region.rowCount * region.columnCount - visits) largestCount := by
  rcases past_cases region visits with ⟨ended, walk⟩ | ⟨bound, walk⟩
  · rw [walk, Nat.sub_eq_zero_of_le ended, Nat.zero_min]
    rfl
  · rw [walk]
    obtain ⟨row, rowBound, column, columnBound, rfl⟩ := exists_row_column bound
    have rows : region.last.row.toNat - (region.first.row.toNat + row) =
        region.rowCount - (row + 1) := by
      unfold rowCount
      omega
    have columns : region.last.column.toNat - (region.first.column.toNat + column) + 1 =
        region.columnCount - column := by
      unfold columnCount at columnBound ⊢
      omega
    have rowEnd := row_le_count rowBound
    rw [cellAt_eq region columnBound, remaining]
    simp only [toNat_add_offset rowBound region.row_le, rows,
      toNat_add_offset columnBound region.column_le, columns]
    rw [Nat.sub_mul, Nat.mul_comm (row + 1), Nat.mul_succ]
    congr 1
    omega

/-! ### Counts and visits in words -/

end Walk

/-- The number of lines from a first one to a last one, in words. -/
def lineCountInWords? (first last : UInt32) : Option UInt64 := do
  add? (← distance? last first) 1

/-- The number of cells, in words. -/
def cellCountInWords? (region : Region) : Option UInt64 := do
  let rows ← lineCountInWords? region.first.row region.last.row
  let columns ← lineCountInWords? region.first.column region.last.column
  return saturatingMul rows columns

namespace Walk

/-- The cell after a cell of the region, with indices that do not go beyond the last one. -/
def afterInWords? (region : Region) (address : Address) : Option (Option Address) :=
  if address.column < region.last.column then do
    return some ⟨address.row, ← successor? address.column⟩
  else if address.row < region.last.row then do
    return some ⟨← successor? address.row, region.first.column⟩
  else some none

/-- A visit, in words: the cell that comes next, and the walk after it. -/
def visitInWords? (walk : Walk region) : Option (Option Address × Walk region) :=
  match walk.next? with
  | none => some (none, walk)
  | some address => do return (some address, ⟨← afterInWords? region address⟩)

/-- Visits one after the other, in words, with the answer of each. -/
def visitsInWords? : Nat → Walk region → Option (List (Option Address) × Walk region)
  | 0, walk => some ([], walk)
  | limit + 1, walk => do
    let (answer, rest) ← visitInWords? walk
    let (later, rest) ← visitsInWords? limit rest
    return (answer :: later, rest)

/-- The number of cells that are left, in words. -/
def remainingInWords? (walk : Walk region) : Option UInt64 :=
  match walk.next? with
  | none => some 0
  | some address => do
    let rows ← distance? region.last.row address.row
    let columns ← lineCountInWords? address.column region.last.column
    let width ← lineCountInWords? region.first.column region.last.column
    return saturatingAdd (saturatingMul rows width) columns

end Walk

theorem lineCountInWords?_eq {first last : UInt32} (ordered : first ≤ last) :
    lineCountInWords? first last = some (UInt64.ofNat (last.toNat - first.toNat + 1)) := by
  have bound := last.toNat_lt
  rw [lineCountInWords?, distance?_of_le ordered]
  exact add?_ofNat (n := 1) (by omega)

theorem rowCount_lt (region : Region) : region.rowCount < 2 ^ 64 := by
  have bound := region.last.row.toNat_lt
  unfold rowCount
  omega

theorem columnCount_lt (region : Region) : region.columnCount < 2 ^ 64 := by
  have bound := region.last.column.toNat_lt
  unfold columnCount
  omega

/-- No step of counting the cells is too large for a word, or below zero. -/
theorem cellCountInWords?_eq (region : Region) :
    region.cellCountInWords? = some (UInt64.ofNat region.cellCount) := by
  have rows := lineCountInWords?_eq region.row_le
  have columns := lineCountInWords?_eq region.column_le
  simp only [cellCountInWords?, rows, columns, bind, Option.bind]
  exact congrArg some (saturatingMul_ofNat region.rowCount_lt region.columnCount_lt)

namespace Walk

/-- No index goes beyond the last one. -/
theorem afterInWords?_eq (region : Region) (address : Address) :
    afterInWords? region address = some (after? region address) := by
  unfold afterInWords? after?
  split
  · rw [successor?_of_lt ‹_›]
    rfl
  · split
    · rw [successor?_of_lt ‹_›]
      rfl
    · rfl

theorem visitInWords?_eq (walk : Walk region) :
    visitInWords? walk = some (walk.next?, walk.step) := by
  obtain ⟨next?⟩ := walk
  cases next? with
  | none => rfl
  | some address =>
    simp only [visitInWords?, afterInWords?_eq]
    rfl

/-- Visiting gives the cells in the order of their list, and after its end no cell. -/
theorem visitsInWords?_past (limit : Nat) : ∀ visits : Nat,
    visitsInWords? limit (past region visits) =
      some ((List.range limit).map fun offset ↦ region.addresses[visits + offset]?,
        past region (visits + limit)) := by
  induction limit with
  | zero => exact fun visits ↦ rfl
  | succ limit ih =>
    intro visits
    have later (offset : Nat) : visits + 1 + offset = visits + (offset + 1) := by omega
    simp only [visitsInWords?, visitInWords?_eq, step_past, ih, later, bind, Option.bind,
      List.range_succ_eq_map, List.map_cons, List.map_map]
    rfl

/-- No step of counting the cells that are left is too large for a word, or below zero. -/
theorem remainingInWords?_eq {walk : Walk region}
    (inside : ∀ address, walk.next? = some address → region.contains address) :
    walk.remainingInWords? = some (UInt64.ofNat walk.remaining) := by
  obtain ⟨next?⟩ := walk
  cases next? with
  | none => rfl
  | some address =>
    obtain ⟨-, below, -, left⟩ := of_decide_eq_true (inside address rfl)
    have rowBound := region.last.row.toNat_lt
    have columnBound := region.last.column.toNat_lt
    have columns := lineCountInWords?_eq left
    have width : lineCountInWords? region.first.column region.last.column =
        some (UInt64.ofNat region.columnCount) := lineCountInWords?_eq region.column_le
    simp only [remainingInWords?, distance?_of_le below, columns, width, bind, Option.bind]
    refine congrArg some ?_
    rw [saturatingMul_ofNat (by omega) region.columnCount_lt,
      saturatingAdd_ofNat (by unfold largestCount; omega) (by omega), remaining]
    simp only
    congr 1
    unfold largestCount
    omega

theorem contains_of_past {visits : Nat} {address : Address}
    (next : (past region visits).next? = some address) : region.contains address :=
  mem_addresses.mp (List.mem_of_getElem? next)

end Walk

/-! ### The whole walk -/

/-- Two corners give one region, whichever comes first, and it holds what is between them. Visiting
its cells one after the other gives every cell that lies in it and no other, each of them once and
row by row, and then no cell any more. After any number of visits the number of cells that are left
is reported, and for the region that of all its cells, both held at the largest word. No step of a
visit or of a count goes beyond the last index, is too large for a word, or below zero. -/
theorem walk_enumerates (one other : Address) :
    ∃ (region : Region) (cells : List Address),
      ofCorners one other = region ∧ ofCorners other one = region ∧
      (∀ address, region.contains address ↔
        Between one.row other.row address.row ∧ Between one.column other.column address.column) ∧
      (∀ address, address ∈ cells ↔ region.contains address) ∧
      cells.Pairwise Address.Before ∧
      cells.length = region.rowCount * region.columnCount ∧
      region.cellCount = min cells.length (2 ^ 64 - 1) ∧
      region.cellCountInWords?.map UInt64.toNat = some (min cells.length (2 ^ 64 - 1)) ∧
      ∀ visits : Nat, ∃ walk : Walk region,
        (Walk.start region).take visits = (cells.take visits, walk) ∧
        (Walk.start region).visitsInWords? visits =
          some ((List.range visits).map fun visit ↦ cells[visit]?, walk) ∧
        walk.next? = cells[visits]? ∧
        walk.remaining = min (cells.length - visits) (2 ^ 64 - 1) ∧
        walk.remainingInWords?.map UInt64.toNat =
          some (min (cells.length - visits) (2 ^ 64 - 1)) := by
  have counted := length_addresses (ofCorners one other)
  have fits {count : Nat} : min count largestCount < 2 ^ 64 := by
    unfold largestCount
    omega
  refine ⟨ofCorners one other, (ofCorners one other).addresses, rfl,
    (ofCorners_comm one other).symm, fun address ↦ contains_ofCorners_iff,
    fun address ↦ mem_addresses, pairwise_addresses _, counted, ?_, ?_, fun visits ↦
    ⟨Walk.past _ visits, ?_, ?_, rfl, ?_, ?_⟩⟩
  · rw [counted]
    rfl
  · rw [cellCountInWords?_eq, counted]
    exact congrArg some (toNat_ofNat fits)
  · rw [← Walk.past_zero, Walk.take_past, List.drop_zero, Nat.zero_add]
  · rw [← Walk.past_zero, Walk.visitsInWords?_past]
    simp only [Nat.zero_add]
  · rw [Walk.remaining_past, counted]
    rfl
  · rw [Walk.remainingInWords?_eq fun address ↦ Walk.contains_of_past, Walk.remaining_past, counted]
    exact congrArg some (toNat_ofNat fits)

end Region

end Worksheet
