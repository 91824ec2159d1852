import Worksheet.Address.Text

/-!
# Regions

A region is a rectangle of cells, given by its first cell at the top left and its last one at the
bottom right. Any two opposite corners name one. `addresses` lists its cells row by row, and a
`Walk` visits them in that order one at a time and says how many are left.
-/

set_option autoImplicit false
set_option relaxedAutoImplicit false

namespace Worksheet

/-- A rectangle of cells. -/
structure Region where
  /-- The cell at the top left. -/
  first : Address
  /-- The cell at the bottom right. -/
  last : Address
  /-- The first row is not below the last. -/
  row_le : first.row ≤ last.row
  /-- The first column is not right of the last. -/
  column_le : first.column ≤ last.column
deriving DecidableEq

namespace Region

/-- The smaller of two indices is at most the larger. -/
theorem min_le_max (one other : UInt32) : min one other ≤ max one other := by
  show (if one ≤ other then one else other) ≤ (if one ≤ other then other else one)
  split
  · assumption
  · exact (UInt32.le_total one other).resolve_left ‹_›

/-- The smallest region that holds two cells. -/
def ofCorners (one other : Address) : Region where
  first := ⟨min one.row other.row, min one.column other.column⟩
  last := ⟨max one.row other.row, max one.column other.column⟩
  row_le := min_le_max one.row other.row
  column_le := min_le_max one.column other.column

/-- The region of a single cell. -/
def single (address : Address) : Region where
  first := address
  last := address
  row_le := UInt32.le_refl address.row
  column_le := UInt32.le_refl address.column

/-- Whether a cell lies in a region. -/
def contains (region : Region) (address : Address) : Bool :=
  region.first.row ≤ address.row ∧ address.row ≤ region.last.row ∧
    region.first.column ≤ address.column ∧ address.column ≤ region.last.column

/-- The number of rows. -/
def rowCount (region : Region) : Nat := region.last.row.toNat - region.first.row.toNat + 1

/-- The number of columns. -/
def columnCount (region : Region) : Nat :=
  region.last.column.toNat - region.first.column.toNat + 1

/-- The largest number of cells that is reported, the last number of 64 bits. -/
def largestCount : Nat := 0xffffffffffffffff

/-- The number of cells, held at the largest count. Only the region of all cells has more. -/
def cellCount (region : Region) : Nat :=
  min (region.rowCount * region.columnCount) largestCount

/-- The cells of a region, row by row. -/
def addresses (region : Region) : List Address :=
  (List.range region.rowCount).flatMap fun row ↦
    (List.range region.columnCount).map fun column ↦
      ⟨region.first.row + UInt32.ofNat row, region.first.column + UInt32.ofNat column⟩

/-! ### Texts -/

/-- The A1 text of a region: its two corners with a colon between them, or its only cell. -/
def toA1 (region : Region) : String :=
  if region.first = region.last then region.first.toA1
  else region.first.toA1 ++ ":" ++ region.last.toA1

/-- Reads two corners with a colon between them, or a single cell. Blanks around a corner are left
out, and a second colon is refused. -/
def parse (text : String) : Except SheetError Region :=
  match Address.splitAtColon? text.toList with
  | none => do
    let address ← Address.parse (Text.trimmed text)
    return single address
  | some (first, last) =>
    if last.contains ':' then .error (.invalidRegion text)
    else do
      let one ← Address.parse (String.ofList (Text.trim first))
      let other ← Address.parse (String.ofList (Text.trim last))
      return ofCorners one other

/-! ### Walks -/

/-- A walk through the cells of a region, row by row. -/
structure Walk (region : Region) where
  /-- The cell that comes next, unless the walk is over. -/
  next? : Option Address

namespace Walk

variable {region : Region}

/-- The walk before its first cell. -/
def start (region : Region) : Walk region := ⟨some region.first⟩

/-- The cell after a cell of the region, if there is one. -/
def after? (region : Region) (address : Address) : Option Address :=
  if address.column < region.last.column then some ⟨address.row, address.column + 1⟩
  else if address.row < region.last.row then some ⟨address.row + 1, region.first.column⟩
  else none

/-- Visits the next cell. -/
def step (walk : Walk region) : Walk region := ⟨walk.next?.bind (after? region)⟩

/-- The number of cells that are left, held at the largest count. -/
def remaining (walk : Walk region) : Nat :=
  match walk.next? with
  | none => 0
  | some address =>
    min ((region.last.row.toNat - address.row.toNat) * region.columnCount +
      (region.last.column.toNat - address.column.toNat + 1)) largestCount

/-- Visits up to a number of cells, and gives those cells and the walk after them. -/
def take : Nat → Walk region → List Address × Walk region
  | 0, walk => ([], walk)
  | limit + 1, walk =>
    match walk.next? with
    | none => ([], walk)
    | some address =>
      let (later, rest) := take limit walk.step
      (address :: later, rest)

end Walk

end Region

end Worksheet
