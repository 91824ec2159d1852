import Worksheet.Formula.Expression

/-!
# Reading back the A1 text of an address

The A1 text that is written for an address is read as that address (`ofA1?_a1`,
`readAddress_toA1`): its letters give the column (`numberOf?_lettersOf`) and its digits the row
(`rowOf?_toDigits`).
-/

set_option autoImplicit false
set_option relaxedAutoImplicit false

namespace Worksheet

/-! ### Letters -/

namespace Column

theorem isLetter_iff {c : Char} : isLetter c ↔ 65 ≤ c.toNat ∧ c.toNat ≤ 90 := decide_eq_true_iff

/-- The letter with a place in the alphabet, from zero. -/
theorem letter_spec (place : Nat) (bound : place < 26) :
    isLetter (Char.ofNat ('A'.toNat + place)) ∧
      (Char.ofNat ('A'.toNat + place)).toNat - 'A'.toNat = place := by
  revert place
  decide

theorem isLetter_of_mem_lettersOf (number : Nat) : ∀ c ∈ lettersOf number, isLetter c := by
  induction number using lettersOf.induct with
  | case1 =>
    intro c member
    rw [lettersOf, if_pos rfl] at member
    cases member
  | case2 number positive ih =>
    intro c member
    rw [lettersOf, if_neg positive, List.mem_append, List.mem_singleton] at member
    rcases member with earlier | rfl
    · exact ih c earlier
    · exact (letter_spec _ (Nat.mod_lt _ (by decide))).1

theorem lettersOf_ne_nil {number : Nat} (positive : number ≠ 0) : lettersOf number ≠ [] := by
  rw [lettersOf, if_neg positive]
  simp

/-- The letters of a number are read as that number. -/
theorem numberOf?_lettersOf (whole : String) (number : Nat) (bound : number ≤ Address.lineBound) :
    ∀ rest, numberOf? whole 0 (lettersOf number ++ rest) = numberOf? whole number rest := by
  induction number using lettersOf.induct with
  | case1 =>
    intro rest
    rw [lettersOf, if_pos rfl, List.nil_append]
  | case2 number positive ih =>
    intro rest
    obtain ⟨letter, place⟩ := letter_spec ((number - 1) % 26) (Nat.mod_lt _ (by decide))
    have whole : 26 * ((number - 1) / 26) + ((number - 1) % 26 + 1) = number := by omega
    rw [lettersOf, if_neg positive, List.append_assoc, ih (by omega), List.singleton_append,
      numberOf?, if_pos letter, place, whole]
    exact if_pos bound

theorem ofLetters?_letters (column : UInt32) : ofLetters? (letters column) = .ok column := by
  have bound := column.toNat_lt
  have read := numberOf?_lettersOf (String.ofList (letters column)) (column.toNat + 1)
    (by unfold Address.lineBound; omega) []
  rw [List.append_nil, numberOf?] at read
  have someLetters : letters column ≠ [] := lettersOf_ne_nil (Nat.succ_ne_zero _)
  change numberOf? _ 0 (letters column) = _ at read
  rw [ofLetters?, if_neg someLetters, read]
  simp [Except.map]

end Column

/-! ### Digits -/

theorem digitsValue_toDigits (number : Nat) : digitsValue (Nat.toDigits 10 number) = number :=
  Nat.ofDigitChars_toDigits (by decide) (by decide)

/-- A positive number is written without leading zeros. -/
theorem head?_toDigits (number : Nat) (positive : number ≠ 0) :
    (Nat.toDigits 10 number).head? ≠ some '0' := by
  induction number using Nat.strongRecOn with
  | _ number ih =>
    rw [Nat.toDigits_eq_if (by decide)]
    split
    · simpa using positive
    · rw [List.head?_append, Option.or_of_isSome (by simp)]
      exact ih (number / 10) (by omega) (by omega)

namespace Address

theorem isDigit_of_mem_toDigits (number : Nat) : (Nat.toDigits 10 number).all Char.isDigit :=
  List.all_eq_true.mpr fun _ member ↦
    Nat.isDigit_of_mem_toDigits (by decide) (by decide) member

theorem rowOf?_toDigits (whole : String) (row : UInt32) :
    rowOf? whole (Nat.toDigits 10 (row.toNat + 1)) = .ok row := by
  have bound := row.toNat_lt
  have within : ¬ lineBound < row.toNat + 1 := by
    unfold lineBound
    omega
  rw [rowOf?, if_neg Nat.toDigits_ne_nil, isDigit_of_mem_toDigits, if_neg (by decide),
    if_neg (head?_toDigits _ (Nat.succ_ne_zero _)), digitsValue_toDigits, if_neg within]
  simp

/-! ### Addresses -/

theorem isDigit_iff {c : Char} : c.isDigit ↔ 48 ≤ c.toNat ∧ c.toNat ≤ 57 := by
  show (decide (48 ≤ c.toNat) && decide (c.toNat ≤ 57)) = true ↔ _
  rw [Bool.and_eq_true, decide_eq_true_iff, decide_eq_true_iff]

theorem isLetter_eq_false_of_isDigit {c : Char} (digit : c.isDigit) :
    Column.isLetter c = false := by
  rw [Bool.eq_false_iff, Ne, Column.isLetter_iff]
  have bounds := isDigit_iff.mp digit
  omega

/-- Letters and digits are the two parts into which reading takes a text. -/
theorem takeWhile_isLetter_append {letters digits : List Char}
    (letter : ∀ c ∈ letters, Column.isLetter c) (digit : ∀ c ∈ digits, c.isDigit) :
    (letters ++ digits).takeWhile Column.isLetter = letters ∧
      (letters ++ digits).dropWhile Column.isLetter = digits := by
  rw [List.takeWhile_append_of_pos letter, List.dropWhile_append_of_pos letter]
  cases digits with
  | nil => simp
  | cons c rest =>
    have first := isLetter_eq_false_of_isDigit (digit c List.mem_cons_self)
    simp [first]

theorem takeWhile_a1 (address : Address) :
    address.a1.takeWhile Column.isLetter = Column.letters address.column ∧
      address.a1.dropWhile Column.isLetter = Nat.toDigits 10 (address.row.toNat + 1) :=
  takeWhile_isLetter_append (Column.isLetter_of_mem_lettersOf _)
    fun _ ↦ Nat.isDigit_of_mem_toDigits (by decide) (by decide)

/-- The A1 text of an address has letters and digits only. -/
theorem isLetter_or_isDigit_of_mem_a1 {address : Address} {c : Char} (member : c ∈ address.a1) :
    Column.isLetter c ∨ c.isDigit := by
  rcases List.mem_append.mp member with letter | digit
  · exact Or.inl (Column.isLetter_of_mem_lettersOf _ c letter)
  · exact Or.inr (Nat.isDigit_of_mem_toDigits (by decide) (by decide) digit)

theorem a1_ne_nil (address : Address) : address.a1 ≠ [] := by
  simp [a1, Column.letters, Column.lettersOf_ne_nil]

/-- The A1 text of an address is read as that address. -/
theorem ofA1?_a1 (address : Address) : ofA1? address.a1 = .ok address := by
  obtain ⟨letters, digits⟩ := address.takeWhile_a1
  have someLetters : Column.letters address.column ≠ [] :=
    Column.lettersOf_ne_nil (Nat.succ_ne_zero _)
  rw [ofA1?, if_neg address.a1_ne_nil]
  simp only [letters, digits, if_neg someLetters, rowOf?_toDigits, Column.ofLetters?_letters]
  rfl

/-- The A1 text of an address in one of the first 26 columns. -/
theorem toA1_of_single_letter {address : Address} (short : address.column.toNat < 26) :
    address.toA1 = String.ofList (Char.ofNat ('A'.toNat + address.column.toNat) ::
      Nat.toDigits 10 (address.row.toNat + 1)) := by
  have rest : (address.column.toNat + 1 - 1) / 26 = 0 := by omega
  have place : (address.column.toNat + 1 - 1) % 26 = address.column.toNat := by omega
  rw [toA1, a1, Column.letters, Column.lettersOf, if_neg (Nat.succ_ne_zero _), rest, place,
    Column.lettersOf, if_pos rfl, List.nil_append, List.singleton_append]

theorem toA1_injective {one other : Address} (same : one.toA1 = other.toA1) : one = other := by
  have read := ofA1?_a1 one
  rw [String.ofList_injective same, ofA1?_a1] at read
  exact (Except.ok.inj read).symm

end Address

/-- The A1 text of an address is a reference to it. -/
theorem Formula.readAddress_toA1 (address : Address) :
    readAddress address.toA1 = .ok address := by
  rw [readAddress, Address.toA1, String.toList_ofList, Address.ofA1?_a1]

end Worksheet
