import Worksheet.Proofs.Address.A1Text
import Worksheet.Proofs.Json.Scalars
import Worksheet.Snapshot.Numeral

/-!
# The numerals of snapshots can be read

The digits of the numeral that is written for a number are in order (`proper_writtenNumeral`), in
positional notation as well as with a power of ten. What could go wrong is a zero that is followed
by the zeros of a power of ten; shortest decimals are normalized, so that zero has no power of ten
(`Binary64.normal_shortest`).
-/

set_option autoImplicit false
set_option relaxedAutoImplicit false

namespace Worksheet

/-! ### Digits -/

namespace Json

variable {digits : List Char}

theorem digits_toDigits (number : Nat) : Digits (Nat.toDigits 10 number) :=
  ⟨Nat.toDigits_ne_nil, fun _ ↦ Nat.isDigit_of_mem_toDigits (by decide) (by decide)⟩

theorem wholeDigits_toDigits (number : Nat) : WholeDigits (Nat.toDigits 10 number) := by
  by_cases zero : number = 0
  · rw [zero]
    exact Or.inl rfl
  · exact Or.inr ⟨digits_toDigits number, head?_toDigits number zero⟩

theorem wholeDigits_toDigits_append {number : Nat} (positive : number ≠ 0)
    (all : ∀ c ∈ digits, c.isDigit) : WholeDigits (Nat.toDigits 10 number ++ digits) := by
  obtain ⟨filled, front⟩ := digits_toDigits number
  have first := head?_toDigits number positive
  refine Or.inr ⟨⟨List.append_ne_nil_of_left_ne_nil filled digits,
    List.forall_mem_append.mpr ⟨front, all⟩⟩, ?_⟩
  rwa [List.head?_append, Option.or_of_isSome (List.isSome_head?.mpr filled)]

theorem WholeDigits.take (whole : WholeDigits digits) {count : Nat} (positive : 0 < count) :
    WholeDigits (digits.take count) := by
  rcases whole with rfl | ⟨⟨filled, all⟩, noZero⟩
  · exact Or.inl (List.take_of_length_le positive)
  · refine Or.inr ⟨⟨?_, fun c member ↦ all c (List.mem_of_mem_take member)⟩, ?_⟩
    · rw [Ne, List.take_eq_nil_iff, not_or]
      exact ⟨Nat.ne_of_gt positive, filled⟩
    · rwa [List.head?_take, if_neg (Nat.ne_of_gt positive)]

end Json

/-! ### Decimals -/

/-- Whether zero, if a decimal is zero, has no power of ten. -/
def Decimal.Normal (decimal : Decimal) : Prop := decimal.coefficient = 0 → decimal.exponent = 0

/-- A positive number has a digit in front of the zeros at its end, so it is at least the power of
ten that they stand for. -/
theorem power_le_of_zeros {number : Nat} (positive : number ≠ 0) :
    Nat.pow 10 ((Nat.toDigits 10 number).reverse.takeWhile (· == '0')).length ≤ number := by
  have fewer : ¬ (Nat.toDigits 10 number).length ≤
      ((Nat.toDigits 10 number).reverse.takeWhile (· == '0')).length := by
    intro all
    have first := head?_toDigits number positive
    obtain ⟨leading, later, digits⟩ := List.exists_cons_of_ne_nil
      (Nat.toDigits_ne_nil (b := 10) (n := number))
    rw [digits] at all first
    rw [← List.length_reverse] at all
    have zeros := (List.takeWhile_prefix (· == '0')).eq_of_length_le all
    have zero := List.takeWhile_eq_self_iff.mp zeros leading (by simp)
    exact first (congrArg some (eq_of_beq zero))
  generalize ((Nat.toDigits 10 number).reverse.takeWhile (· == '0')).length = zeros at fewer ⊢
  match zeros with
  | 0 => exact Nat.one_le_iff_ne_zero.mpr positive
  | zeros + 1 =>
    rw [Nat.length_toDigits_le_iff (by decide) (Nat.succ_pos zeros)] at fewer
    exact Nat.le_of_not_lt fewer

theorem Decimal.normal_normalize (decimal : Decimal) : decimal.normalize.Normal := by
  unfold normalize
  split
  · exact fun _ ↦ rfl
  · next positive =>
    intro zero
    exact absurd zero (Nat.ne_of_gt (Nat.div_pos (power_le_of_zeros positive)
      (Nat.pow_pos (by decide))))

theorem Binary64.normal_shortest (tie : Tie) (code : Nat) : (shortest tie code).Normal := by
  rw [shortest, shortest?]
  match List.findSome? _ (List.range 17) with
  | some decimal => exact decimal.normal_normalize
  | none => exact fun _ ↦ rfl

/-- The digits of a decimal in positional notation. -/
theorem Decimal.Normal.places {decimal : Decimal} (normal : decimal.Normal) :
    Json.WholeDigits decimal.places.1 ∧ ∀ c ∈ decimal.places.2, c.isDigit := by
  have whole : Json.WholeDigits decimal.digits := Json.wholeDigits_toDigits decimal.coefficient
  have digits : ∀ c ∈ decimal.digits, c.isDigit := (Json.digits_toDigits decimal.coefficient).2
  have zeros (count : Nat) : ∀ c ∈ List.replicate count '0', c.isDigit := by
    intro c member
    rw [(List.mem_replicate.mp member).2]
    rfl
  unfold Decimal.places
  simp only
  split
  · refine ⟨?_, fun _ member ↦ nomatch member⟩
    by_cases zero : decimal.coefficient = 0
    · simpa [normal zero] using whole
    · exact Json.wholeDigits_toDigits_append zero (zeros _)
  · split
    · exact ⟨whole.take (by omega), fun c member ↦ digits c (List.mem_of_mem_drop member)⟩
    · exact ⟨Or.inl rfl, List.forall_mem_append.mpr ⟨zeros _, digits⟩⟩

/-- The digits of the numeral of a number are in order. -/
theorem Snapshot.proper_writtenNumeral (number : Float) : (writtenNumeral number).Proper := by
  have normal := Binary64.normal_shortest .even (Binary64.code number)
  unfold writtenNumeral
  generalize Binary64.shortest .even (Binary64.code number) = decimal at normal ⊢
  simp only
  split
  · obtain ⟨whole, fraction⟩ := normal.places
    refine ⟨whole, ?_, fun _ member ↦ nomatch member⟩
    rintro _ ⟨⟩
    split
    · exact Json.digits_toDigits 0
    · next filled => exact ⟨filled, fraction⟩
  · refine ⟨(Json.wholeDigits_toDigits _).take (by decide), ?_, ?_⟩
    · intro digits written
      split at written
      · cases written
      · next filled =>
        cases written
        exact ⟨filled, fun c member ↦ (Json.digits_toDigits _).2 c (List.mem_of_mem_drop member)⟩
    · rintro _ ⟨⟩
      exact Json.digits_toDigits _

end Worksheet
