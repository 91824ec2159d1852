/-!
# Cell addresses

The address of a cell is its row and its column, both counted from zero. Addresses are ordered row
by row and, in a row, from left to right.
-/

set_option autoImplicit false
set_option relaxedAutoImplicit false

namespace Worksheet

/-- The row and the column of a cell, counted from zero. -/
structure Address where
  /-- The row, counted from zero. -/
  row : UInt32
  /-- The column, counted from zero. -/
  column : UInt32
deriving DecidableEq, Repr, Inhabited

namespace Address

/-- Row-major order: rows first, columns within a row. -/
instance : Ord Address where
  compare := compareLex (compareOn Address.row) (compareOn Address.column)

instance : Std.TransOrd Address :=
  inferInstanceAs (Std.TransCmp (compareLex (compareOn Address.row) (compareOn Address.column)))

instance : Std.LawfulEqOrd Address where
  eq_of_compare := by
    intro first second equal
    have equal : (compare first.row second.row).then (compare first.column second.column) = .eq :=
      equal
    rw [Ordering.then_eq_eq] at equal
    cases first
    cases second
    simp only [Address.mk.injEq]
    exact ⟨Std.LawfulEqOrd.eq_of_compare equal.1, Std.LawfulEqOrd.eq_of_compare equal.2⟩

/-- The number of rows and of columns that there can be: the number of indices of 32 bits. -/
def lineBound : Nat := 0x100000000

/-- Whether one address comes before another in row-major order, or is the same. -/
def le (first second : Address) : Bool := (compare first second).isLE

/-- One more than a count of lines, held at the largest count of 32 bits. A sheet reaches through
the line with an index when it has one line more than the index. -/
def oneMore (count : UInt32) : UInt32 :=
  if count = UInt32.ofNat 0xffffffff then count else count + 1

end Address

end Worksheet
