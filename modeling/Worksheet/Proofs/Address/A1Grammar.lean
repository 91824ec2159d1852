import Mathlib.Algebra.Group.Nat.Defs
import Worksheet.Proofs.Address.A1Text

/-!
# The grammar of A1 texts

An A1 text has letters, which are a numeral in base 26 without a zero, and then the digits of a row
number without leading zeros (`A1Parts`). The texts of this form are exactly those that are read
(`ofA1?_eq_ok_iff`), and a text that is read is the text of its address (`a1_of_ofA1?_eq_ok`): the
letters of the number of some letters are these letters (`lettersOf_lettersNumber`), and the digits
of the value of some digits are these digits (`toDigits_digitsValue`).
-/

set_option autoImplicit false
set_option relaxedAutoImplicit false

namespace Worksheet

/-! ### Letters -/

namespace Column

/-- The number that a letter makes of the number of the letters before it. -/
def addLetter (number : Nat) (c : Char) : Nat := 26 * number + (c.toNat - 'A'.toNat + 1)

/-- The number of some letters: the value of a numeral in base 26 whose digits go from `A` for one
to `Z` for 26. -/
def lettersNumber (letters : List Char) : Nat := letters.foldl addLetter 0

variable {letters : List Char}

theorem lt_addLetter (number : Nat) (c : Char) : number < addLetter number c := by
  unfold addLetter
  omega

/-- More letters never make a number smaller. -/
theorem le_foldl_addLetter (letters : List Char) (number : Nat) :
    number ≤ letters.foldl addLetter number := by
  induction letters generalizing number with
  | nil => exact Nat.le_refl number
  | cons c rest ih => exact Nat.le_trans (Nat.le_of_lt (lt_addLetter number c)) (ih _)

theorem one_le_lettersNumber (filled : letters ≠ []) : 1 ≤ lettersNumber letters := by
  obtain ⟨c, rest, rfl⟩ := List.exists_cons_of_ne_nil filled
  exact Nat.le_trans (Nat.succ_le_of_lt (lt_addLetter 0 c)) (le_foldl_addLetter rest _)

theorem numberOf?_cons {c : Char} (letter : isLetter c) (whole : String) (number : Nat)
    (rest : List Char) :
    numberOf? whole number (c :: rest) =
      if addLetter number c ≤ Address.lineBound then numberOf? whole (addLetter number c) rest
      else .error (.columnTooLarge whole) := by
  rw [numberOf?, if_pos letter]
  rfl

/-- Reading checks the number after every letter, which comes to a check of the last number. -/
theorem numberOf?_eq (whole : String) (letters : List Char) (all : ∀ c ∈ letters, isLetter c) :
    ∀ number ≤ Address.lineBound, numberOf? whole number letters =
      if letters.foldl addLetter number ≤ Address.lineBound then
        .ok (letters.foldl addLetter number)
      else .error (.columnTooLarge whole) := by
  induction letters with
  | nil => intro number bound; simp [numberOf?, bound]
  | cons c rest ih =>
    intro number bound
    rw [List.forall_mem_cons] at all
    rw [numberOf?_cons all.1]
    by_cases next : addLetter number c ≤ Address.lineBound
    · rw [if_pos next, ih all.2 _ next, List.foldl_cons]
    · have beyond := le_foldl_addLetter rest (addLetter number c)
      rw [if_neg next, if_neg]
      exact fun within ↦ next (Nat.le_trans beyond within)

/-- Letters are the column whose number, from one, is theirs. -/
theorem ofLetters?_eq_ok_iff (filled : letters ≠ []) (all : ∀ c ∈ letters, isLetter c)
    {column : UInt32} :
    ofLetters? letters = .ok column ↔ column.toNat + 1 = lettersNumber letters := by
  have positive := one_le_lettersNumber filled
  have below := column.toNat_lt
  have read := numberOf?_eq (String.ofList letters) letters all 0 (Nat.zero_le _)
  change numberOf? _ 0 letters = if lettersNumber letters ≤ _ then .ok (lettersNumber letters)
    else _ at read
  rw [ofLetters?, if_neg filled, read]
  unfold Address.lineBound
  split
  · simp only [Except.map, Except.ok.injEq, ← UInt32.toNat_inj, UInt32.toNat_ofNat']
    omega
  · simp only [Except.map, reduceCtorEq, false_iff]
    omega

/-- A further letter is the last one of a larger number. -/
theorem lettersOf_addLetter (number : Nat) {c : Char} (letter : isLetter c) :
    lettersOf (addLetter number c) = lettersOf number ++ [c] := by
  have bounds := isLetter_iff.mp letter
  have base : 'A'.toNat = 65 := rfl
  have earlier : (addLetter number c - 1) / 26 = number := by
    unfold addLetter
    omega
  have place : 'A'.toNat + (addLetter number c - 1) % 26 = c.toNat := by
    unfold addLetter
    omega
  rw [lettersOf, if_neg (by have := lt_addLetter number c; omega), earlier, place, Char.ofNat_toNat]

theorem lettersOf_append (letters : List Char) (all : ∀ c ∈ letters, isLetter c) (number : Nat) :
    lettersOf number ++ letters = lettersOf (letters.foldl addLetter number) := by
  induction letters generalizing number with
  | nil => simp
  | cons c rest ih =>
    rw [List.forall_mem_cons] at all
    rw [List.foldl_cons, ← ih all.2, lettersOf_addLetter number all.1, List.append_assoc,
      List.singleton_append]

/-- The letters of the number of some letters are these letters. -/
theorem lettersOf_lettersNumber (all : ∀ c ∈ letters, isLetter c) :
    lettersOf (lettersNumber letters) = letters := by
  rw [lettersNumber, ← lettersOf_append letters all 0, lettersOf, if_pos rfl, List.nil_append]

end Column

/-! ### Digits -/

/-- The number that a digit makes of the number of the digits before it. -/
def addDigit (number : Nat) (c : Char) : Nat := 10 * number + (c.toNat - '0'.toNat)

theorem digitsValue_eq (digits : List Char) : digitsValue digits = digits.foldl addDigit 0 := rfl

theorem le_foldl_addDigit (digits : List Char) (number : Nat) :
    number ≤ digits.foldl addDigit number := by
  induction digits generalizing number with
  | nil => exact Nat.le_refl number
  | cons c rest ih =>
    refine Nat.le_trans ?_ (ih _)
    unfold addDigit
    omega

/-- The number of a single digit is written as that digit. -/
theorem toDigits_digit {c : Char} (digit : c.isDigit) :
    Nat.toDigits 10 (c.toNat - '0'.toNat) = [c] := by
  have bounds := Address.isDigit_iff.mp digit
  have base : '0'.toNat = 48 := rfl
  have small : c.toNat - '0'.toNat < 10 := by omega
  rw [Nat.toDigits_of_lt_base small]
  refine congrArg (· :: []) (Char.toNat_inj.mp ?_)
  rw [Nat.toNat_digitChar_of_lt_ten small]
  omega

/-- A further digit is the last one of a larger number. -/
theorem toDigits_addDigit {number : Nat} (positive : 0 < number) {c : Char} (digit : c.isDigit) :
    Nat.toDigits 10 (addDigit number c) = Nat.toDigits 10 number ++ [c] := by
  have bounds := Address.isDigit_iff.mp digit
  have base : '0'.toNat = 48 := rfl
  have place : c.toNat - '0'.toNat < 10 := by omega
  rw [addDigit, ← Nat.toDigits_append_toDigits (by decide) positive place, toDigits_digit digit]

theorem toDigits_append (digits : List Char) (all : ∀ c ∈ digits, c.isDigit) :
    ∀ number, 0 < number →
      Nat.toDigits 10 number ++ digits = Nat.toDigits 10 (digits.foldl addDigit number) := by
  induction digits with
  | nil => intro number _; simp
  | cons c rest ih =>
    intro number positive
    rw [List.forall_mem_cons] at all
    rw [List.foldl_cons, ← ih all.2 (addDigit number c) (by unfold addDigit; omega),
      toDigits_addDigit positive all.1, List.append_assoc, List.singleton_append]

section

variable {digits : List Char} (filled : digits ≠ []) (all : ∀ c ∈ digits, c.isDigit)
  (leading : digits.head? ≠ some '0')

include filled all leading

/-- Digits without leading zeros begin with a digit that is positive. -/
theorem exists_leading_digit :
    ∃ c rest, digits = c :: rest ∧ c.isDigit ∧ (∀ d ∈ rest, d.isDigit) ∧ 0 < addDigit 0 c := by
  obtain ⟨c, rest, rfl⟩ := List.exists_cons_of_ne_nil filled
  rw [List.forall_mem_cons] at all
  have bounds := Address.isDigit_iff.mp all.1
  have base : '0'.toNat = 48 := rfl
  have other : c.toNat ≠ '0'.toNat := fun same ↦ leading (congrArg some (Char.toNat_inj.mp same))
  refine ⟨c, rest, rfl, all.1, all.2, ?_⟩
  unfold addDigit
  omega

theorem one_le_digitsValue : 1 ≤ digitsValue digits := by
  obtain ⟨c, rest, rfl, _, _, positive⟩ := exists_leading_digit filled all leading
  exact Nat.le_trans positive (le_foldl_addDigit rest _)

/-- The digits of the value of some digits without leading zeros are these digits. -/
theorem toDigits_digitsValue : Nat.toDigits 10 (digitsValue digits) = digits := by
  obtain ⟨c, rest, rfl, digit, later, positive⟩ := exists_leading_digit filled all leading
  have single : Nat.toDigits 10 (addDigit 0 c) = [c] := by
    rw [addDigit, Nat.mul_zero, Nat.zero_add, toDigits_digit digit]
  rw [digitsValue_eq, List.foldl_cons, ← toDigits_append rest later _ positive, single,
    List.singleton_append]

end

/-! ### Addresses -/

namespace Address

open Column

/-- A text consists of letters and of the digits of a number from one without leading zeros, and
neither the number of the letters nor that of the digits is beyond the last line. -/
structure A1Parts (text letters digits : List Char) : Prop where
  /-- The text is the letters and then the digits. -/
  text_eq : text = letters ++ digits
  /-- There is a letter. -/
  letters_ne_nil : letters ≠ []
  /-- The letters go from `A` to `Z`. -/
  isLetter : ∀ c ∈ letters, Column.isLetter c
  /-- The number of the letters is that of a column, from one. -/
  column_le : lettersNumber letters ≤ 2 ^ 32
  /-- There is a digit. -/
  digits_ne_nil : digits ≠ []
  /-- The digits go from `0` to `9`. -/
  isDigit : ∀ c ∈ digits, c.isDigit
  /-- There is no leading zero. -/
  leading_ne_zero : digits.head? ≠ some '0'
  /-- Rows are counted from one. -/
  one_le_row : 1 ≤ digitsValue digits
  /-- The number of the digits is that of a row, from one. -/
  row_le : digitsValue digits ≤ 2 ^ 32

/-- Digits are the row whose number, from one, is theirs. -/
theorem rowOf?_eq_ok_iff {whole : String} {digits : List Char} {row : UInt32} :
    rowOf? whole digits = .ok row ↔
      digits ≠ [] ∧ (∀ c ∈ digits, c.isDigit) ∧ digits.head? ≠ some '0' ∧
        row.toNat + 1 = digitsValue digits := by
  have below := row.toNat_lt
  unfold rowOf?
  by_cases filled : digits = []
  · simp [filled]
  by_cases all : ∀ c ∈ digits, c.isDigit
  · by_cases leading : digits.head? = some '0'
    · rw [if_neg filled, if_neg (by simpa using all), if_pos leading]
      simp [leading]
    · have positive := one_le_digitsValue filled all leading
      have allOf : digits.all Char.isDigit = true := List.all_eq_true.mpr all
      rw [if_neg filled, allOf, if_neg (by decide), if_neg leading]
      unfold lineBound
      split
      · simp only [reduceCtorEq, false_iff]
        omega
      · simp only [Except.ok.injEq, ← UInt32.toNat_inj, UInt32.toNat_ofNat']
        simp only [filled, leading, ne_eq, not_false_eq_true, true_and]
        constructor
        · intro same
          exact ⟨all, by omega⟩
        · rintro ⟨_, same⟩
          omega
  · have notAll : digits.all Char.isDigit = false :=
      Bool.eq_false_iff.mpr fun every ↦ all (List.all_eq_true.mp every)
    simp [filled, notAll, all]

variable {text letters digits : List Char} {address : Address}

/-- Reading takes a text apart into letters and digits and gives the address that they number. -/
theorem ofA1?_eq_ok_iff :
    ofA1? text = .ok address ↔
      ∃ letters digits, A1Parts text letters digits ∧
        lettersNumber letters = address.column.toNat + 1 ∧
          digitsValue digits = address.row.toNat + 1 := by
  constructor
  · intro read
    unfold ofA1? at read
    by_cases filled : text = []
    · simp [filled] at read
    by_cases letter : text.takeWhile Column.isLetter = []
    · simp [filled, letter] at read
    simp only [filled, letter, if_false] at read
    match rowRead : rowOf? (String.ofList text) (text.dropWhile Column.isLetter),
      columnRead : Column.ofLetters? (text.takeWhile Column.isLetter), read with
    | .ok row, .ok column, read =>
      obtain rfl : Address.mk row column = address := Except.ok.inj read
      have letters : ∀ c ∈ text.takeWhile Column.isLetter, Column.isLetter c :=
        fun c member ↦ List.all_eq_true.mp List.all_takeWhile c member
      obtain ⟨someDigits, digits, leading, rowNumber⟩ := rowOf?_eq_ok_iff.mp rowRead
      have columnNumber := (ofLetters?_eq_ok_iff letter letters).mp columnRead
      have rowBelow := row.toNat_lt
      have columnBelow := column.toNat_lt
      refine ⟨_, _, ⟨List.takeWhile_append_dropWhile.symm, letter, letters, ?_, someDigits, digits,
        leading, ?_, ?_⟩, columnNumber.symm, rowNumber.symm⟩
      · omega
      · omega
      · omega
  · rintro ⟨letters, digits, parts, columnNumber, rowNumber⟩
    obtain ⟨taken, dropped⟩ := takeWhile_isLetter_append parts.isLetter parts.isDigit
    have filled : letters ++ digits ≠ [] := by simp [parts.letters_ne_nil]
    have row : rowOf? (String.ofList (letters ++ digits)) digits = .ok address.row :=
      rowOf?_eq_ok_iff.mpr
        ⟨parts.digits_ne_nil, parts.isDigit, parts.leading_ne_zero, rowNumber.symm⟩
    have column : Column.ofLetters? letters = .ok address.column :=
      (ofLetters?_eq_ok_iff parts.letters_ne_nil parts.isLetter).mpr columnNumber.symm
    rw [parts.text_eq, ofA1?, if_neg filled]
    simp only [taken, dropped, if_neg parts.letters_ne_nil, row, column]
    rfl

/-- A text that is read is the A1 text of its address. -/
theorem a1_of_ofA1?_eq_ok (read : ofA1? text = .ok address) : address.a1 = text := by
  obtain ⟨letters, digits, parts, columnNumber, rowNumber⟩ := ofA1?_eq_ok_iff.mp read
  rw [a1, Column.letters, ← columnNumber, ← rowNumber, lettersOf_lettersNumber parts.isLetter,
    toDigits_digitsValue parts.digits_ne_nil parts.isDigit parts.leading_ne_zero, parts.text_eq]

/-- The texts that are read are those of letters and digits. -/
theorem exists_ofA1?_eq_ok_iff :
    (∃ address, ofA1? text = .ok address) ↔ ∃ letters digits, A1Parts text letters digits := by
  constructor
  · rintro ⟨address, read⟩
    obtain ⟨letters, digits, parts, _⟩ := ofA1?_eq_ok_iff.mp read
    exact ⟨letters, digits, parts⟩
  · rintro ⟨letters, digits, parts⟩
    have column := one_le_lettersNumber parts.letters_ne_nil
    have columnBound := parts.column_le
    have row := parts.one_le_row
    have rowBound := parts.row_le
    refine ⟨⟨UInt32.ofNat (digitsValue digits - 1), UInt32.ofNat (lettersNumber letters - 1)⟩,
      ofA1?_eq_ok_iff.mpr ⟨letters, digits, parts, ?_, ?_⟩⟩
    · rw [UInt32.toNat_ofNat']
      omega
    · rw [UInt32.toNat_ofNat']
      omega

theorem parse_eq_ok_iff {text : String} :
    parse text = .ok address ↔ ofA1? text.toList = .ok address := by
  unfold parse
  cases ofA1? text.toList with
  | error fault =>
    constructor
    · intro read
      cases read
    · intro read
      cases read
  | ok found =>
    constructor
    · intro read
      cases read
      rfl
    · intro read
      cases read
      rfl

/-- A text that is read is the text of its address. -/
theorem toA1_of_parse_eq_ok {text : String} (read : parse text = .ok address) :
    address.toA1 = text := by
  rw [toA1, a1_of_ofA1?_eq_ok (parse_eq_ok_iff.mp read), String.ofList_toList]

end Address

end Worksheet
