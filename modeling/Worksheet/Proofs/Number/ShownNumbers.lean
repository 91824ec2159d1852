import Mathlib
import Worksheet.Proofs.Number.Reading
import Worksheet.Proofs.Number.ShortestDecimals

/-!
# Numbers survive their text

The text in which a finite number is shown denotes that number again, except that the sign of zero
is lost (`parseDecimal_formatNumber`), and the text of any other number denotes nothing
(`parseDecimal_formatNumber_eq_none`). A whole number below `10 ^ 15` is shown as an integer
(`formatNumber_of_whole`). Entering the text of an entered value therefore gives the value again
(`shown_numbers_survive`).
-/

set_option autoImplicit false
set_option relaxedAutoImplicit false

namespace Worksheet

open Binary64

/-! ### Finite numbers -/

/-- A number without the sign of zero: negative zero becomes zero. -/
def withoutSignOfZero (number : Float) : Float :=
  if number.toBits = 0x8000000000000000 then 0 else number

theorem ofCode_zero (negative : Bool) : withoutSignOfZero (ofCode negative 0) = 0 := by
  cases negative with
  | false => rfl
  | true => rfl

section Shown

variable {number : Float}

theorem withoutSignOfZero_of_pos (positive : 0 < code number) :
    withoutSignOfZero number = number := by
  refine if_neg fun zero ↦ ?_
  rw [code, zero] at positive
  exact absurd positive (by decide)

/-- A finite number is as large as the number without the sign of zero. -/
theorem withoutSignOfZero_beq (finite : number.isFinite) : withoutSignOfZero number == number := by
  rcases Nat.eq_zero_or_pos (code number) with zero | positive
  · rw [← ofCode_code number, zero, ofCode_zero]
    cases isNegative number with
    | false => rfl
    | true => rfl
  · rw [withoutSignOfZero_of_pos positive, Float.beq_self_iff]
    rintro rfl
    cases finite

theorem formatNumber_of_pos (finite : number.isFinite) (positive : 0 < code number) :
    formatNumber number =
      String.ofList (signText (isNegative number) ++ (shownDecimal number).positional) := by
  have below := isFinite_iff.mp finite
  have number : number.isNaN = false := by
    rw [Bool.eq_false_iff, Ne, isNaN_iff]
    omega
  unfold formatNumber
  rw [number]
  simp only [Bool.false_eq_true, if_false, if_neg below.ne, if_neg positive.ne']
  rfl

theorem formatNumber_of_zero (zero : code number = 0) : formatNumber number = "0" := by
  rw [← ofCode_code number, zero]
  cases isNegative number with
  | false => rfl
  | true => rfl

/-- The text of a finite number denotes that number, without the sign of zero. -/
theorem parseDecimal_formatNumber (finite : number.isFinite) :
    parseDecimal (formatNumber number) = some (withoutSignOfZero number) := by
  rcases Nat.eq_zero_or_pos (code number) with zero | positive
  · rw [formatNumber_of_zero zero, ← ofCode_code number, zero, ofCode_zero]
    rfl
  · have below := isFinite_iff.mp finite
    have spells := (normal_shortest .upward (code number)).spells_positional (isNegative number)
    rw [withoutSignOfZero_of_pos positive, formatNumber_of_pos finite positive,
      parseDecimal_eq_some_iff, String.toList_ofList]
    rw [← spells.trim_eq] at spells
    refine ⟨_, spells, code number, below, ?_, (ofCode_code number).symm⟩
    rw [Decimal.value_numeral]
    exact isNearest_shortest .upward positive

/-- The text of a number that is not finite denotes nothing. -/
theorem parseDecimal_formatNumber_eq_none (infinite : ¬ number.isFinite) :
    parseDecimal (formatNumber number) = none := by
  have beyond : infinity ≤ code number := Nat.le_of_not_lt (isFinite_iff.not.mp infinite)
  rcases Nat.eq_or_lt_of_le beyond with same | more
  · rw [← ofCode_code number, ← same]
    cases isNegative number with
    | false => rfl
    | true => rfl
  · rw [formatNumber, if_pos (isNaN_iff.mpr more)]
    rfl

/-! ### Whole numbers -/

theorem toString_signed {size : ℕ} (positive : size ≠ 0) (negative : Bool) :
    toString (if negative then -(size : ℤ) else size) =
      String.ofList (signText negative ++ Nat.toDigits 10 size) := by
  obtain ⟨before, rfl⟩ := Nat.exists_eq_succ_of_ne_zero positive
  cases negative with
  | false => exact Nat.repr_eq_ofList_toDigits
  | true =>
    show "-" ++ Nat.repr (before + 1) = _
    rw [Nat.repr_eq_ofList_toDigits, signText, if_pos rfl, String.ofList_append]

theorem eq_of_cast_eq_signed {whole : ℤ} {size : ℕ} {negative : Bool}
    (same : (whole : ℚ) = signed negative size) :
    whole = if negative then -(size : ℤ) else size := by
  cases negative with
  | false => exact Int.cast_injective (same.trans (Int.cast_natCast size).symm)
  | true =>
    refine Int.cast_injective (same.trans ?_)
    rw [if_pos rfl, Int.cast_neg, Int.cast_natCast]
    rfl

/-- A whole number below `10 ^ 15` is shown as an integer. -/
theorem formatNumber_of_whole {whole : ℤ} (same : exactValue? number = some (whole : ℚ))
    (small : whole.natAbs < 10 ^ 15) : formatNumber number = toString whole := by
  have finite : number.isFinite := by
    rw [isFinite_eq_isSome, same]
    rfl
  have value := exactValue?_eq (isFinite_iff.mp finite)
  rw [same, Option.some.injEq] at value
  rcases Nat.eq_zero_or_pos (code number) with zero | positive
  · rw [zero, magnitude_zero, signed, neg_zero, ite_self, Int.cast_eq_zero] at value
    rw [value, formatNumber_of_zero zero]
    rfl
  · have above := strictMono_magnitude positive
    rw [magnitude_zero] at above
    have size : magnitude (code number) = whole.natAbs := by
      rw [Nat.cast_natAbs, Int.cast_abs, value]
      unfold signed
      split
      · rw [abs_neg, abs_of_pos above]
      · rw [abs_of_pos above]
    rw [size] at value
    have some : whole.natAbs ≠ 0 := by
      intro none
      rw [size, none, Nat.cast_zero] at above
      exact above.false
    obtain ⟨exact, raised⟩ := shortest_of_whole .upward positive size small
    rw [Decimal.value_of_nonneg raised, Nat.cast_inj] at exact
    have filled : (shortest .upward (code number)).coefficient ≠ 0 := by
      intro none
      rw [none, Nat.zero_mul] at exact
      exact some exact.symm
    rw [eq_of_cast_eq_signed value, toString_signed some, formatNumber_of_pos finite positive,
      shownDecimal, Decimal.positional_of_nonneg raised filled, exact]

end Shown

/-! ### Entered values -/

namespace Value

/-- A value without the sign of zero. -/
def withoutSignOfZero : Value → Value
  | number n => number (Worksheet.withoutSignOfZero n)
  | other => other

/-- A text that denotes a number is entered as that number. -/
theorem ofInput_of_parseDecimal {input : String} {n : Float} (found : parseDecimal input = some n) :
    ofInput input = number n := by
  have shown : ¬ Text.isAllBlank input.toList := by
    intro blank
    have trimmed : Text.trim input.toList = [] := by
      have all := List.all_eq_true.mp blank
      rw [← List.append_nil input.toList, Text.trim_blank_append all]
      rfl
    rw [parseDecimal_eq_none_of_trim_eq_nil trimmed] at found
    cases found
  rw [ofInput, if_neg shown, found]

/-- The text of a finite number is entered as that number, without the sign of zero. -/
theorem ofInput_shown_number {n : Float} (finite : n.isFinite) :
    ofInput (number n).shown = number (Worksheet.withoutSignOfZero n) :=
  ofInput_of_parseDecimal (parseDecimal_formatNumber finite)

/-- The text of an entered value is entered as that value, without the sign of zero. -/
theorem ofInput_shown_ofInput (input : String) :
    ofInput (ofInput input).shown = (ofInput input).withoutSignOfZero := by
  by_cases blank : Text.isAllBlank input.toList
  · have entered : ofInput input = empty := if_pos blank
    rw [entered]
    rfl
  cases found : parseDecimal input with
  | some n =>
    rw [ofInput_of_parseDecimal found]
    exact ofInput_shown_number (isFinite_of_parseDecimal found)
  | none =>
    have entered : ofInput input = text input := by rw [ofInput, if_neg blank, found]
    rw [entered]
    exact entered

end Value

/-! ### Numbers survive their text -/

/-- Finite numbers survive their text up to the sign of zero, as numbers and as values, and so does
every entered value; the text of a number that is not finite denotes nothing. Whole numbers below
`10 ^ 15` are shown as integers. -/
theorem shown_numbers_survive :
    (∀ number : Float, number.isFinite →
      parseDecimal (formatNumber number) = some (withoutSignOfZero number) ∧
        (withoutSignOfZero number == number) ∧
        Value.ofInput (Value.number number).shown = .number (withoutSignOfZero number)) ∧
    (∀ number : Float, ¬ number.isFinite → parseDecimal (formatNumber number) = none) ∧
    (∀ input : String,
      Value.ofInput (Value.ofInput input).shown = (Value.ofInput input).withoutSignOfZero) ∧
    (∀ (number : Float) (whole : ℤ), exactValue? number = some (whole : ℚ) →
      whole.natAbs < 10 ^ 15 → formatNumber number = toString whole) :=
  ⟨fun _ finite ↦ ⟨parseDecimal_formatNumber finite, withoutSignOfZero_beq finite,
      Value.ofInput_shown_number finite⟩,
    fun _ infinite ↦ parseDecimal_formatNumber_eq_none infinite,
    Value.ofInput_shown_ofInput, fun _ _ exact small ↦ formatNumber_of_whole exact small⟩

/-- Negative zero loses its sign. The number next below zero and the one nearest to a tenth keep all
their bits. -/
theorem shown_numbers_survive_small :
    parseDecimal (formatNumber (ofCode true 0)) = some (ofCode false 0) ∧
      parseDecimal (formatNumber (ofCode true 1)) = some (ofCode true 1) ∧
      formatNumber (ofCode false 0x3fb999999999999a) = "0.1" ∧
      parseDecimal "0.1" = some (ofCode false 0x3fb999999999999a) := by
  obtain ⟨finite, -⟩ := shown_numbers_survive
  have tenth : formatNumber (ofCode false 0x3fb999999999999a) = "0.1" := by decide +kernel
  refine ⟨?_, ?_, tenth, ?_⟩
  · exact (finite (ofCode true 0) (isFinite_ofCode true (by decide))).1
  · exact (finite (ofCode true 1) (isFinite_ofCode true (by decide))).1
  · have read := (finite _ (isFinite_ofCode false (by decide : 0x3fb999999999999a < infinity))).1
    rwa [tenth] at read

end Worksheet
