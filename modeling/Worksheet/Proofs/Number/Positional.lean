import Mathlib
import Worksheet.Proofs.Number.NumeralGrammar
import Worksheet.Proofs.Number.Rounding
import Worksheet.Proofs.Snapshot.WrittenNumeral
import Worksheet.Proofs.Text.Trimming

/-!
# Positional notation

The positional notation of a decimal is a numeral for the value of the decimal
(`Decimal.Normal.spells_positional`, `Decimal.value_numeral`), and the zeros at the end of the
coefficient can go to the power of ten without changing the value (`Decimal.value_normalize`). A
numeral has no blanks, so trimming keeps it (`Numeral.Spells.trim_eq`).
-/

set_option autoImplicit false
set_option relaxedAutoImplicit false

namespace Worksheet

/-! ### Values of digits -/

theorem digitsValue_append (front back : List Char) :
    digitsValue (front ++ back) = 10 ^ back.length * digitsValue front + digitsValue back :=
  (Nat.ofDigitChars_append 0).trans Nat.ofDigitChars_eq_ofDigitChars_zero

theorem digitsValue_replicate (count : ℕ) : digitsValue (List.replicate count '0') = 0 :=
  (Nat.ofDigitChars_replicate_zero).trans (Nat.mul_zero _)

/-- The zeros at the end of a number count the tens that divide it. -/
theorem div_mul_pow_zeros (number : ℕ) :
    number / 10 ^ ((Nat.toDigits 10 number).reverse.takeWhile (· == '0')).length *
      10 ^ ((Nat.toDigits 10 number).reverse.takeWhile (· == '0')).length = number := by
  have value := digitsValue_toDigits number
  have split : _ ++ _ = (Nat.toDigits 10 number).reverse :=
    List.takeWhile_append_dropWhile (p := (· == '0'))
  have zeros : (Nat.toDigits 10 number).reverse.takeWhile (· == '0') =
      List.replicate ((Nat.toDigits 10 number).reverse.takeWhile (· == '0')).length '0' :=
    List.eq_replicate_iff.mpr ⟨rfl, fun c member ↦
      eq_of_beq (List.all_eq_true.mp List.all_takeWhile c member)⟩
  generalize ((Nat.toDigits 10 number).reverse.takeWhile (· == '0')).length = count at zeros ⊢
  have digits := congrArg List.reverse split
  rw [List.reverse_reverse, List.reverse_append, zeros, List.reverse_replicate] at digits
  rw [← digits, digitsValue_append, digitsValue_replicate, List.length_replicate,
    Nat.add_zero] at value
  exact Nat.div_mul_cancel (Dvd.intro _ value)

/-- A power of ten adds zeros to the digits of a number. -/
theorem toDigits_mul_pow {number : ℕ} (positive : number ≠ 0) (count : ℕ) :
    Nat.toDigits 10 (number * 10 ^ count) = Nat.toDigits 10 number ++ List.replicate count '0' := by
  induction count with
  | zero => rw [Nat.pow_zero, Nat.mul_one, List.replicate_zero, List.append_nil]
  | succ count ih =>
    have filled : 0 < number * 10 ^ count :=
      Nat.mul_pos (Nat.pos_of_ne_zero positive) (by positivity)
    have last := Nat.toDigits_append_toDigits (by decide : 1 < 10) filled (by decide : 0 < 10)
    have product : number * 10 ^ (count + 1) = 10 * (number * 10 ^ count) + 0 := by ring
    rw [product, ← last, ih, List.replicate_succ', List.append_assoc]
    rfl

/-! ### Decimals -/

namespace Decimal

/-- Taking the tens of the coefficient into the exponent keeps the value. -/
theorem value_normalize (decimal : Decimal) : decimal.normalize.value = decimal.value := by
  unfold normalize
  split
  · next zero => simp [value, zero]
  · have whole := div_mul_pow_zeros decimal.coefficient
    unfold value
    simp only [digits, Nat.pow_eq]
    generalize ((Nat.toDigits 10 decimal.coefficient).reverse.takeWhile (· == '0')).length = count
      at whole ⊢
    rw [zpow_add₀ (by norm_num), zpow_natCast]
    conv_rhs => rw [← whole]
    push_cast
    ring

theorem exponent_normalize_nonneg {decimal : Decimal} (raised : 0 ≤ decimal.exponent) :
    0 ≤ decimal.normalize.exponent := by
  unfold normalize
  split
  · exact le_rfl
  · exact Int.add_nonneg raised (Int.natCast_nonneg _)

/-- A decimal without places after the point is a whole number. -/
theorem value_of_nonneg {decimal : Decimal} (raised : 0 ≤ decimal.exponent) :
    decimal.value = (decimal.coefficient * 10 ^ decimal.exponent.natAbs : ℕ) := by
  obtain ⟨places, same⟩ := Int.eq_ofNat_of_zero_le raised
  rw [value, same, zpow_natCast, Int.natAbs_natCast, Nat.cast_mul, Nat.cast_pow, Nat.cast_ofNat]

/-- The positional notation of a decimal without places after the point is that of the number. -/
theorem positional_of_nonneg {decimal : Decimal} (raised : 0 ≤ decimal.exponent)
    (filled : decimal.coefficient ≠ 0) :
    decimal.positional =
      Nat.toDigits 10 (decimal.coefficient * 10 ^ decimal.exponent.natAbs) := by
  rw [positional, places, if_pos raised, toDigits_mul_pow filled]
  rfl

/-- The digits in positional notation have the value of the decimal. -/
theorem value_places (decimal : Decimal) :
    (digitsValue (decimal.places.1 ++ decimal.places.2) : ℚ) *
      10 ^ (-(decimal.places.2.length : ℤ)) = decimal.value := by
  have digits : digitsValue decimal.digits = decimal.coefficient :=
    digitsValue_toDigits decimal.coefficient
  have shift : (decimal.exponent.natAbs : ℤ) = |decimal.exponent| := Int.natCast_natAbs _
  unfold places value
  simp only
  split
  · next raised =>
    have exponent : decimal.exponent = decimal.exponent.natAbs := by
      rw [shift, abs_of_nonneg raised]
    rw [List.append_nil, digitsValue_append, digitsValue_replicate, List.length_replicate, digits]
    conv_rhs => rw [exponent, zpow_natCast]
    simp [mul_comm]
  · next lowered =>
    have exponent : decimal.exponent = -(decimal.exponent.natAbs : ℤ) := by
      rw [shift, abs_of_neg (Int.not_le.mp lowered), neg_neg]
    split
    · next inside =>
      have length : (decimal.digits.drop (decimal.digits.length - decimal.exponent.natAbs)).length =
          decimal.exponent.natAbs := by
        rw [List.length_drop]
        omega
      rw [List.take_append_drop, digits, length, ← exponent]
    · next outside =>
      have length : (List.replicate (decimal.exponent.natAbs - decimal.digits.length) '0' ++
          decimal.digits).length = decimal.exponent.natAbs := by
        rw [List.length_append, List.length_replicate]
        omega
      have zero : digitsValue ['0'] = 0 := rfl
      rw [length, ← exponent, digitsValue_append, digitsValue_append, digitsValue_replicate, zero,
        digits, Nat.mul_zero, Nat.mul_zero, Nat.zero_add, Nat.zero_add]

/-- The numeral of a decimal in positional notation. -/
def numeral (decimal : Decimal) (negative : Bool) : Numeral :=
  ⟨negative, decimal.places.1, decimal.places.2, 0⟩

/-- The numeral of a decimal has the value of the decimal. -/
theorem value_numeral (decimal : Decimal) (negative : Bool) :
    (decimal.numeral negative).decimal.value = decimal.value := by
  rw [← decimal.value_places]
  show (digitsValue (decimal.places.1 ++ decimal.places.2) : ℚ) *
    10 ^ (0 - (decimal.places.2.length : ℤ)) = _
  rw [zero_sub]

end Decimal

theorem Json.WholeDigits.isDigits {digits : List Char} (whole : WholeDigits digits) :
    IsDigits Char.isDigit digits := by
  rcases whole with rfl | ⟨all, -⟩
  · refine ⟨List.cons_ne_nil _ _, fun c member ↦ ?_⟩
    rw [List.mem_singleton.mp member]
    rfl
  · exact all

/-- The sign of a number as it is written. -/
def signText (negative : Bool) : List Char := if negative then ['-'] else []

theorem spellsSign_signText (negative : Bool) : SpellsSign negative (signText negative) := by
  cases negative with
  | false => exact .unsigned
  | true => exact .minus

/-- The positional notation of a decimal spells its numeral. -/
theorem Decimal.Normal.spells_positional {decimal : Decimal} (normal : decimal.Normal)
    (negative : Bool) :
    (decimal.numeral negative).Spells Char.isDigit (signText negative ++ decimal.positional) := by
  obtain ⟨whole, fraction⟩ := normal.places
  have placed : SpellsPlaces Char.isDigit decimal.places.1 decimal.places.2 decimal.positional := by
    unfold Decimal.positional
    generalize decimal.places = places at whole fraction
    split
    · exact .whole whole.isDigits
    · exact .point whole.isDigits fraction
  exact ⟨_, _, [], by rw [List.append_nil], spellsSign_signText negative, placed, .none⟩

/-! ### No blanks -/

theorem isBlank_of_mem_numeralMarks {c : Char} (member : c ∈ numeralMarks) :
    Text.isBlank c = false := by
  unfold numeralMarks at member
  simp only [List.mem_cons, List.not_mem_nil, or_false] at member
  rcases member with rfl | rfl | rfl | rfl | rfl
  all_goals decide

/-- A numeral is trimmed. -/
theorem Numeral.Spells.trim_eq {numeral : Numeral} {text : List Char}
    (spells : numeral.Spells Char.isDigit text) : Text.trim text = text := by
  have shown : ∀ c ∈ text, Text.isBlank c = false := by
    intro c member
    rcases spells.digit_or_mark member with digit | mark
    · have bounds := Address.isDigit_iff.mp digit
      exact Text.isBlank_eq_false (by omega) (by omega)
    · exact isBlank_of_mem_numeralMarks mark
  exact Text.trim_eq_self (fun c first ↦ shown c (List.mem_of_mem_head? first))
    fun c last ↦ shown c (List.mem_of_getLast? last)

end Worksheet
