import Mathlib
import Worksheet.Proofs.Snapshot.RoundTrip
import Worksheet.Proofs.Snapshot.Scaling
import Worksheet.Proofs.Snapshot.Significand

/-!
# Numbers drift when they are read back

A snapshot whose numbers are finite is always read from its texts, with every number in its place
(`ofJson?_toJson_mapNumbers`), but numbers are read quickly rather than exactly. What is read for a
number has its sign and is at most two codes away from it, or three where the power of ten of its
numeral is below -308 (`NearlyKept`). It is the number itself when its significand is below `2 ^ 53`
and its power of ten is at most 22 either way, so that neither of them is rounded, and in general
exactly when the number is the nearest one to the value that is rounded last
(`numbers_nearly_kept`). Not every number is (`number_drifts`).
-/

set_option autoImplicit false
set_option relaxedAutoImplicit false

namespace Worksheet

/-! ### Other numbers in their places -/

/-- A value with another number in the place of its number. -/
def Value.mapNumber (change : Float → Float) : Value → Value
  | number n => number (change n)
  | other => other

/-- A cell with other numbers in the place of its numbers. -/
def Cell.mapNumbers (change : Float → Float) (cell : Cell) : Cell :=
  { cell with raw := cell.raw.mapNumber change, computed := cell.computed.mapNumber change }

namespace Snapshot

open Binary64

/-- A snapshot with other numbers in the place of its numbers. -/
def mapNumbers (change : Float → Float) (snapshot : Snapshot) : Snapshot :=
  { snapshot with cells := snapshot.cells.map fun _ cell ↦ cell.mapNumbers change }

/-! ### Numbers -/

/-- The number that is read from the numeral that is written for a number. -/
def readBack (number : Float) : Float := (readNumeral? (writtenNumeral number)).getD number

/-- What a number is read back as: the significand and the power of ten of its numeral, scaled. -/
structure NearlyKept (number back : Float) (distance : ℕ) : Prop where
  /-- The number is read back. -/
  read : readNumeral? (writtenNumeral number) = some back
  /-- What is read back is finite. -/
  finite : back.isFinite
  /-- The sign is kept, also that of zero. -/
  sign : isNegative back = isNegative number
  /-- What is read back is at most so many codes above the number. -/
  le_above : code back ≤ code number + distance
  /-- What is read back is at most so many codes below the number. -/
  le_below : code number ≤ code back + distance
  /-- What is read back is nearest to the value that is rounded last. -/
  nearest : IsNearest (scaledValue (significandOf (writtenNumeral number)).1
    (significandOf (writtenNumeral number)).2) (code back)

theorem negative_writtenNumeral (number : Float) :
    (writtenNumeral number).negative = isNegative number := by
  unfold writtenNumeral
  simp only
  split
  · rfl
  · rfl

/-- A number is read back as its significand is scaled, with its sign. -/
theorem exists_nearlyKept {number : Float} {distance : ℕ}
    (near : ScalesNear (significandOf (writtenNumeral number)).1
      (significandOf (writtenNumeral number)).2 (code number) distance) :
    ∃ back, NearlyKept number back distance := by
  obtain ⟨result, below, scaled, close, high, low⟩ := near
  have same := code_ofCode below.le (isNegative number)
  refine ⟨ofCode (isNegative number) result, ?_, isFinite_ofCode _ below,
    isNegative_ofCode below.le _, same.symm ▸ high, same.symm ▸ low, same.symm ▸ close⟩
  rw [readNumeral?]
  simp only
  rw [scaled, negative_writtenNumeral, Option.map_some]
  have positive := code_ofCode below.le false
  have negated := neg_eq (positive.symm ▸ below)
  rw [positive, isNegative_ofCode below.le] at negated
  cases isNegative number with
  | false => rfl
  | true => exact congrArg some negated

section Number

variable {number : Float} (finite : code number < infinity)

include finite

/-- The numbers that two codes lead beyond the finite ones are scaled to finite ones, too. -/
theorem scaled_lt_infinity {result : ℕ}
    (nearest : IsNearest (scaledValue (significandOf (writtenNumeral number)).1
      (significandOf (writtenNumeral number)).2) result)
    (near : result ≤ code number + 2) : result < infinity := by
  by_cases inside : code number + 2 < infinity
  · exact near.trans_lt inside
  · have numerals : ∀ negative,
        significandOf (writtenNumeral (ofCode negative (infinity - 2))) =
            (17976931348623155, 292) ∧
          significandOf (writtenNumeral (ofCode negative (infinity - 1))) =
            (17976931348623157, 292) := by
      decide +kernel
    have products : ∀ significand ∈ [17976931348623155, 17976931348623157],
        Binary64.nearest (units (significandCode significand) * units (powerCode 292))
          (unitsInOne * unitsInOne) < infinity := by
      decide +kernel
    have same := ofCode_code number
    obtain ⟨second, first⟩ := numerals (isNegative number)
    have last : code number = infinity - 2 ∨ code number = infinity - 1 := by omega
    obtain ⟨significand, member, read⟩ : ∃ significand ∈ [17976931348623155, 17976931348623157],
        significandOf (writtenNumeral number) = (significand, 292) := by
      rw [← same]
      rcases last with last | last
      · exact ⟨_, by simp, last ▸ second⟩
      · exact ⟨_, by simp, last ▸ first⟩
    have place : (292 : ℤ) = (292 : ℕ) := rfl
    rw [read, place, scaledValue_of_nonneg] at nearest
    rw [nearest.unique (isNearest_nearest_mul _ _)]
    exact products significand member

/-- The numeral that is written for a number has a value that the number is nearest to. -/
theorem isNearest_numeral :
    IsNearest ((significandOf (writtenNumeral number)).1 *
      10 ^ (significandOf (writtenNumeral number)).2) (code number) := by
  obtain ⟨-, -, -, value⟩ := significandOf_writtenNumeral finite
  rw [value]
  rcases Nat.eq_zero_or_pos (code number) with zero | positive
  · rw [zero, shortest_zero, Decimal.value, Nat.cast_zero, zero_mul]
    exact isNearest_zero_zero
  · exact isNearest_shortest .even positive

/-- How many codes a number is away from what it is read back as, at most. -/
theorem exists_scalesNear :
    ScalesNear (significandOf (writtenNumeral number)).1 (significandOf (writtenNumeral number)).2
      (code number) (if (significandOf (writtenNumeral number)).2 < -308 then 3 else 2) := by
  obtain ⟨short, least, most, -⟩ := significandOf_writtenNumeral finite
  have nearest := isNearest_numeral finite
  have inside {result : ℕ} := @scaled_lt_infinity number finite result
  generalize significandOf (writtenNumeral number) = read at *
  obtain ⟨significand, exponent⟩ := read
  rcases Nat.eq_zero_or_pos significand with rfl | positive
  · rw [Nat.cast_zero, zero_mul] at nearest
    rw [nearest.unique isNearest_zero_zero]
    exact scalesNear_of_zero exponent _
  · exact scalesNear positive short least most nearest fun result ↦ inside

end Number

/-- How many codes a number can be away from what it is read back as: two, or three where the power
of ten of its numeral is below -308. -/
def driftBound (number : Float) : ℕ :=
  if (significandOf (writtenNumeral number)).2 < -308 then 3 else 2

theorem NearlyKept.readBack_eq {number back : Float} {distance : ℕ}
    (kept : NearlyKept number back distance) : readBack number = back := by
  rw [readBack, kept.read, Option.getD_some]

/-- A number is its sign and its code. -/
theorem eq_of_code_eq {number other : Float} (sign : isNegative number = isNegative other)
    (same : code number = code other) : number = other := by
  rw [← ofCode_code number, ← ofCode_code other, sign, same]

section Finite

variable {number : Float} (finite : number.isFinite)

include finite

theorem nearlyKept_readBack : NearlyKept number (readBack number) (driftBound number) := by
  obtain ⟨back, kept⟩ := exists_nearlyKept (exists_scalesNear (isFinite_iff.mp finite))
  rw [kept.readBack_eq]
  exact kept

/-- A number is read back as itself exactly if it is the nearest one to the value that is rounded
last. -/
theorem readBack_eq_self_iff :
    readBack number = number ↔
      IsNearest (scaledValue (significandOf (writtenNumeral number)).1
        (significandOf (writtenNumeral number)).2) (code number) := by
  have kept := nearlyKept_readBack finite
  constructor
  · intro same
    have nearest := kept.nearest
    rwa [same] at nearest
  · intro nearest
    exact eq_of_code_eq kept.sign (kept.nearest.unique nearest)

/-- A number is read back as itself when its significand and its power of ten are numbers. -/
theorem readBack_eq_self (whole : (significandOf (writtenNumeral number)).1 < 2 ^ 53)
    (small : (significandOf (writtenNumeral number)).2.natAbs ≤ 22) : readBack number = number := by
  rw [readBack_eq_self_iff finite, scaledValue_eq whole small]
  exact isNearest_numeral (isFinite_iff.mp finite)

end Finite

/-! ### Snapshots -/

/-- A value whose number is finite is read back, with what is read back for the number. -/
theorem readValue?_valueJson_readBack {value : Value}
    (finite : ∀ number, value = .number number → number.isFinite) :
    readValue? (valueJson value) = some (value.mapNumber readBack) := by
  cases value with
  | number number =>
    have read := (nearlyKept_readBack (finite number rfl)).read
    have content : readValue? (valueJson (.number number)) =
        readContent? "number" (some (numberJson number)) := by
      rw [valueJson, Json.ofMembers, readValue?, namedMembers?_map]
      rfl
    rw [content, numberJson, if_pos (finite number rfl), readContent?, read]
    rfl
  | empty => rfl
  | text text => rfl
  | error message => rfl

theorem readCell?_cellJson_readBack {cell : Cell}
    (finite : ∀ number, cell.raw = .number number ∨ cell.computed = .number number →
      number.isFinite) :
    readCell? (cellJson cell) = some (cell.mapNumbers readBack) := by
  rw [readCell?_cellJson,
    readValue?_valueJson_readBack fun number same ↦ finite number (Or.inl same),
    readValue?_valueJson_readBack fun number same ↦ finite number (Or.inr same)]
  rfl

/-- A snapshot with finite numbers is read back, with what is read back for each number. -/
theorem ofJson?_toJson_mapNumbers {snapshot : Snapshot}
    (finite : ∀ number, snapshot.HasNumber number → number.isFinite) :
    ofJson? snapshot.toJson = some (snapshot.mapNumbers readBack) := by
  have cells : readCells? (cellsJson snapshot.cells) =
      some (snapshot.cells.map fun _ cell ↦ cell.mapNumbers readBack) := by
    rw [readCells?_eq_some_iff]
    refine ⟨fun key cell stored ↦ ⟨cell.mapNumbers readBack, ?_, ?_⟩, fun key empty ↦ ?_⟩
    · exact readCell?_cellJson_readBack fun number held ↦ finite number ⟨key, cell, stored, held⟩
    · rw [Std.ExtTreeMap.getElem?_map, stored, Option.map_some]
    · rw [Std.ExtTreeMap.getElem?_map, empty, Option.map_none]
  rw [ofJson?_toJson, cells]
  rfl

/-- A snapshot with finite numbers is read from both of its texts, with everything in it as it was
but for its numbers. Each of them has its sign and is at most two codes away, or three where the
power of ten of its numeral is below -308. It is the same number exactly if it is the nearest one to
the value that is rounded last, and so it is when its significand is below `2 ^ 53` and its power of
ten is at most 22 either way. -/
theorem numbers_nearly_kept (snapshot : Snapshot)
    (finite : ∀ number, snapshot.HasNumber number → number.isFinite) :
    ofText? snapshot.compactText = some (snapshot.mapNumbers readBack) ∧
      ofText? snapshot.indentedText = some (snapshot.mapNumbers readBack) ∧
      ∀ number, snapshot.HasNumber number →
        NearlyKept number (readBack number) (driftBound number) ∧
        (readBack number = number ↔
          IsNearest (scaledValue (significandOf (writtenNumeral number)).1
            (significandOf (writtenNumeral number)).2) (code number)) ∧
        ((significandOf (writtenNumeral number)).1 < 2 ^ 53 →
          (significandOf (writtenNumeral number)).2.natAbs ≤ 22 → readBack number = number) := by
  rw [ofText?_compactText, ofText?_indentedText]
  refine ⟨ofJson?_toJson_mapNumbers finite, ofJson?_toJson_mapNumbers finite,
    fun number held ↦ ?_⟩
  have single := finite number held
  exact ⟨nearlyKept_readBack single, readBack_eq_self_iff single, readBack_eq_self single⟩

/-- A snapshot with a negative zero and a whole number of 53 bits is read from its text with the
same zero. -/
theorem numbers_nearly_kept_negative_zero :
    let entries : List (Address × Cell) :=
      [(⟨0, 0⟩, ⟨⟨0, 0⟩, .number (-0.0), none, .number 9007199254740991⟩)]
    let snapshot : Snapshot := ⟨.ofList entries, 1, 1⟩
    (∀ number, snapshot.HasNumber number → number.isFinite) ∧
      ofText? snapshot.compactText = some (snapshot.mapNumbers readBack) ∧
      readBack (-0.0) = -0.0 := by
  intro entries snapshot
  have stored (key : Address) (cell : Cell) :
      snapshot.cells[key]? = some cell ↔ (key, cell) ∈ entries :=
    CellMap.getElem?_ofList_eq_some_iff (by decide)
  have finite : ∀ number, snapshot.HasNumber number → number.isFinite := by
    rintro number ⟨key, cell, held, same⟩
    obtain ⟨rfl, rfl⟩ := Prod.mk.inj (List.mem_singleton.mp ((stored key cell).mp held))
    rcases same with same | same
    · rw [← Value.number.inj same]
      decide +kernel
    · rw [← Value.number.inj same]
      decide +kernel
  have zero : snapshot.HasNumber (-0.0) :=
    ⟨_, _, (stored _ _).mpr (List.mem_singleton.mpr rfl), Or.inl rfl⟩
  obtain ⟨compact, -, each⟩ := numbers_nearly_kept snapshot finite
  exact ⟨finite, compact, (each _ zero).2.2 (by decide +kernel) (by decide +kernel)⟩

/-- The largest whole number below `2 ^ 53` is read back as the one before it. -/
theorem number_drifts :
    (9007199254740991 : Float).isFinite ∧ readBack 9007199254740991 = 9007199254740990 ∧
      ¬ Survives 9007199254740991 := by
  refine ⟨by decide +kernel, by decide +kernel, ?_⟩
  rw [survives_iff]
  decide +kernel

end Snapshot

end Worksheet
