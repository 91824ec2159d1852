import Worksheet.Proofs.Address.A1Grammar

/-!
# A1 texts in words of 64 bits

The numbers of rows and columns go one beyond 32 bits, and the letters and digits of a text may be
any number. Here each step of reading and writing is one of words of 64 bits that is checked: it has
no result where a sum or a product does not fit, where a difference is below zero, and where a word
does not fit into the index or the character that is made of it.

Every step has its result, and together they give what reading and writing without a bound give
(`ofA1InWords?_eq`, `a1InWords?_eq`). Only the digits of a row can be too many for a word, which is
noticed and is one of the faults of reading. With the grammar of A1 texts this makes reading and
writing inverse to each other, between all addresses and exactly the texts of that grammar
(`parse_toA1_inverse`).
-/

set_option autoImplicit false
set_option relaxedAutoImplicit false

namespace Worksheet

/-! ### Steps -/

namespace Word

/-- The sum of two words, unless it does not fit into a word. -/
def add? (one other : UInt64) : Option UInt64 :=
  if one.toNat + other.toNat < 2 ^ 64 then some (one + other) else none

/-- The product of two words, unless it does not fit into a word. -/
def mul? (one other : UInt64) : Option UInt64 :=
  if one.toNat * other.toNat < 2 ^ 64 then some (one * other) else none

/-- The difference of two words, unless it is below zero. -/
def sub? (one other : UInt64) : Option UInt64 := if other ≤ one then some (one - other) else none

/-- The index that a word is, unless it has more than 32 bits. -/
def index? (word : UInt64) : Option UInt32 :=
  if word.toNat < 2 ^ 32 then some word.toUInt32 else none

/-- The character with a code of one byte that a word is, unless it has more than 8 bits. -/
def character? (word : UInt64) : Option Char :=
  if word.toNat < 2 ^ 8 then some (Char.ofNat word.toNat) else none

variable {m n : Nat}

theorem toNat_ofNat (fits : n < 2 ^ 64) : (UInt64.ofNat n).toNat = n := by
  rw [UInt64.toNat_ofNat', Nat.mod_eq_of_lt fits]

theorem add?_ofNat (fits : m + n < 2 ^ 64) :
    add? (UInt64.ofNat m) (UInt64.ofNat n) = some (UInt64.ofNat (m + n)) := by
  rw [add?, toNat_ofNat (by omega), toNat_ofNat (by omega), if_pos fits, UInt64.ofNat_add]

theorem mul?_ofNat (first : m < 2 ^ 64) (second : n < 2 ^ 64) :
    mul? (UInt64.ofNat m) (UInt64.ofNat n) =
      if m * n < 2 ^ 64 then some (UInt64.ofNat (m * n)) else none := by
  rw [mul?, toNat_ofNat first, toNat_ofNat second, UInt64.ofNat_mul]

theorem sub?_ofNat (first : m < 2 ^ 64) (below : n ≤ m) :
    sub? (UInt64.ofNat m) (UInt64.ofNat n) = some (UInt64.ofNat (m - n)) := by
  have ordered : UInt64.ofNat n ≤ UInt64.ofNat m := by
    rw [UInt64.le_iff_toNat_le, toNat_ofNat (by omega), toNat_ofNat first]
    exact below
  rw [sub?, if_pos ordered]
  refine congrArg some (UInt64.toNat_inj.mp ?_)
  rw [UInt64.toNat_sub_of_le _ _ ordered, toNat_ofNat first, toNat_ofNat (by omega),
    toNat_ofNat (by omega)]

theorem index?_ofNat (first : n < 2 ^ 64) :
    index? (UInt64.ofNat n) = if n < 2 ^ 32 then some (UInt32.ofNat n) else none := by
  have narrowed : (UInt64.ofNat n).toUInt32 = UInt32.ofNat n := by
    refine UInt32.toNat_inj.mp ?_
    rw [UInt64.toNat_toUInt32, toNat_ofNat first, UInt32.toNat_ofNat']
  rw [index?, toNat_ofNat first, narrowed]

theorem character?_ofNat (fits : n < 2 ^ 8) :
    character? (UInt64.ofNat n) = some (Char.ofNat n) := by
  rw [character?, toNat_ofNat (by omega), if_pos fits]

end Word

open Word

/-! ### Columns -/

namespace Column

/-- Reads letters onto a column number in words. -/
def numberInWords? (whole : String) : UInt64 → List Char → Option (Except AddressFault UInt64)
  | number, [] => some (.ok number)
  | number, c :: rest =>
    if isLetter c then do
      let place ← sub? (UInt64.ofNat c.toNat) 65
      let digit ← add? place 1
      let scaled ← mul? number 26
      let next ← add? scaled digit
      if next.toNat ≤ Address.lineBound then numberInWords? whole next rest
      else some (.error (.columnTooLarge whole))
    else some (.error (.invalidLetter (leadByte c)))

/-- The column with the given letters, in words. -/
def ofLettersInWords? (letters : List Char) : Option (Except AddressFault UInt32) :=
  if letters = [] then some (.error .emptyLetters)
  else do
    match ← numberInWords? (String.ofList letters) 0 letters with
    | .error fault => some (.error fault)
    | .ok number => return .ok (← index? (← sub? number 1))

/-- The letters of the column with a number counted from one, in words. -/
def lettersInWords? (number : UInt64) : Option (List Char) :=
  if number = 0 then some []
  else
    match _less : sub? number 1 with
    | none => none
    | some rest => do
      let earlier ← lettersInWords? (rest / 26)
      let letter ← character? (← add? 65 (rest % 26))
      return earlier ++ [letter]
termination_by number.toNat
decreasing_by
  rename_i positive
  simp only [sub?, Option.ite_none_right_eq_some, Option.some.injEq] at _less
  obtain ⟨below, rfl⟩ := _less
  rw [UInt64.toNat_div, UInt64.toNat_sub_of_le _ _ below]
  have nonzero : number.toNat ≠ 0 := fun zero ↦ positive (UInt64.toNat_inj.mp zero)
  show (number.toNat - 1) / 26 < number.toNat
  omega

variable {number : Nat}

/-- Up to the last column, no step of reading a letter is too large for a word. -/
theorem numberInWords?_eq (whole : String) (letters : List Char) :
    ∀ number ≤ Address.lineBound, numberInWords? whole (UInt64.ofNat number) letters =
      some ((numberOf? whole number letters).map UInt64.ofNat) := by
  unfold Address.lineBound
  induction letters with
  | nil => intro number _; rfl
  | cons c rest ih =>
    intro number bound
    by_cases letter : isLetter c
    · have bounds := isLetter_iff.mp letter
      have base : 'A'.toNat = 65 := rfl
      have step : addLetter number c = number * 26 + (c.toNat - 65 + 1) := by
        unfold addLetter
        omega
      have place : sub? (UInt64.ofNat c.toNat) 65 = some (UInt64.ofNat (c.toNat - 65)) :=
        sub?_ofNat (by omega) bounds.1
      have digit : add? (UInt64.ofNat (c.toNat - 65)) 1 = some (UInt64.ofNat (c.toNat - 65 + 1)) :=
        add?_ofNat (n := 1) (by omega)
      have scaled : mul? (UInt64.ofNat number) 26 = some (UInt64.ofNat (number * 26)) :=
        (mul?_ofNat (n := 26) (by omega) (by decide)).trans (if_pos (by omega))
      have next : add? (UInt64.ofNat (number * 26)) (UInt64.ofNat (c.toNat - 65 + 1)) =
          some (UInt64.ofNat (addLetter number c)) := by
        rw [add?_ofNat (by omega), step]
      have fits : (UInt64.ofNat (addLetter number c)).toNat = addLetter number c :=
        toNat_ofNat (by omega)
      rw [numberOf?_cons letter, numberInWords?, if_pos letter, place]
      simp only [bind, Option.bind, digit, scaled, next, fits]
      unfold Address.lineBound
      by_cases within : addLetter number c ≤ 0x100000000
      · rw [if_pos within, if_pos within, ih _ within]
      · rw [if_neg within, if_neg within]
        rfl
    · rw [numberInWords?, numberOf?, if_neg letter, if_neg letter]
      rfl

/-- A number that is read counts a column, from one. -/
theorem bounds_of_numberOf? {whole : String} {letters : List Char} (filled : letters ≠ [])
    (read : numberOf? whole 0 letters = .ok number) : 1 ≤ number ∧ number ≤ Address.lineBound := by
  have all : ∀ c ∈ letters, isLetter c := by
    clear filled
    generalize 0 = start at read
    induction letters generalizing start with
    | nil => simp
    | cons c rest ih =>
      unfold numberOf? at read
      split at read
      · rename_i letter
        simp only at read
        split at read
        · exact List.forall_mem_cons.mpr ⟨letter, ih _ read⟩
        · simp at read
      · simp at read
  have positive := one_le_lettersNumber filled
  rw [numberOf?_eq whole letters all 0 (Nat.zero_le _)] at read
  split at read
  · rename_i within
    obtain rfl := Except.ok.inj read
    exact ⟨positive, within⟩
  · simp at read

theorem ofLettersInWords?_eq (letters : List Char) :
    ofLettersInWords? letters = some (ofLetters? letters) := by
  unfold ofLettersInWords? ofLetters?
  by_cases filled : letters = []
  · simp [filled]
  rw [if_neg filled, if_neg filled,
    show (0 : UInt64) = UInt64.ofNat 0 from rfl,
    numberInWords?_eq (String.ofList letters) letters 0 (Nat.zero_le _)]
  match read : numberOf? (String.ofList letters) 0 letters with
  | .error fault => rfl
  | .ok number =>
    obtain ⟨positive, within⟩ := bounds_of_numberOf? filled read
    unfold Address.lineBound at within
    have before : sub? (UInt64.ofNat number) 1 = some (UInt64.ofNat (number - 1)) :=
      sub?_ofNat (n := 1) (by omega) positive
    have index : index? (UInt64.ofNat (number - 1)) = some (UInt32.ofNat (number - 1)) :=
      (index?_ofNat (by omega)).trans (if_pos (by omega))
    simp only [Except.map, bind, Option.bind, before, index]
    rfl

/-- No step of writing letters is too large for a word, or below zero. -/
theorem lettersInWords?_eq (number : Nat) (fits : number < 2 ^ 64) :
    lettersInWords? (UInt64.ofNat number) = some (lettersOf number) := by
  induction number using lettersOf.induct with
  | case1 =>
    rw [lettersInWords?, lettersOf]
    rfl
  | case2 number positive ih =>
    have nonzero : UInt64.ofNat number ≠ 0 := fun zero ↦
      positive (by rw [← toNat_ofNat fits, zero]; rfl)
    have before : sub? (UInt64.ofNat number) 1 = some (UInt64.ofNat (number - 1)) :=
      sub?_ofNat (n := 1) fits (by omega)
    have quotient : UInt64.ofNat (number - 1) / 26 = UInt64.ofNat ((number - 1) / 26) :=
      (UInt64.ofNat_div (b := 26) (by omega) (by decide)).symm
    have remainder : UInt64.ofNat (number - 1) % 26 = UInt64.ofNat ((number - 1) % 26) :=
      (UInt64.ofNat_mod (b := 26) (by omega) (by decide)).symm
    have code : add? 65 (UInt64.ofNat ((number - 1) % 26)) =
        some (UInt64.ofNat ('A'.toNat + (number - 1) % 26)) := add?_ofNat (m := 65) (by omega)
    have letter : character? (UInt64.ofNat ('A'.toNat + (number - 1) % 26)) =
        some (Char.ofNat ('A'.toNat + (number - 1) % 26)) :=
      character?_ofNat (by have : 'A'.toNat = 65 := rfl; omega)
    rw [lettersInWords?, if_neg nonzero, lettersOf, if_neg positive]
    split
    · rename_i below
      rw [before] at below
      simp at below
    · rename_i rest found
      obtain rfl := Option.some.inj (before.symm.trans found)
      rw [quotient, remainder, ih (by omega)]
      simp only [bind, Option.bind, code, letter]
      rfl

end Column

/-! ### Rows and addresses -/

namespace Address

/-- Reads digits onto a number in words, unless the number becomes too large for a word. -/
def digitsInWords? : UInt64 → List Char → Option UInt64
  | number, [] => some number
  | number, c :: rest => do
    let digit ← sub? (UInt64.ofNat c.toNat) 48
    let scaled ← mul? number 10
    let next ← add? scaled digit
    digitsInWords? next rest

/-- Reads a row number from one in words. A number that is too large for a word is too large for a
row. -/
def rowInWords? (whole : String) (digits : List Char) : Option (Except AddressFault UInt32) :=
  if digits = [] then some (.error (.noRow whole))
  else if !digits.all Char.isDigit then some (.error (.invalidRow whole))
  else if digits.head? = some '0' then some (.error (.leadingZero whole))
  else
    match digitsInWords? 0 digits with
    | none => some (.error (.rowTooLarge whole))
    | some number => do
      match index? (← sub? number 1) with
      | none => some (.error (.rowTooLarge whole))
      | some row => some (.ok row)

/-- Reads an A1 text in words. -/
def ofA1InWords? (text : List Char) : Option (Except AddressFault Address) :=
  let whole := String.ofList text
  if text = [] then some (.error .emptyAddress)
  else
    let letters := text.takeWhile Column.isLetter
    if letters = [] then some (.error (.noLetters whole))
    else do
      match ← rowInWords? whole (text.dropWhile Column.isLetter) with
      | .error fault => some (.error fault)
      | .ok row => return (← Column.ofLettersInWords? letters).map fun column ↦ ⟨row, column⟩

/-- The A1 text of an address, with the numbers of its column and its row in words. -/
def a1InWords? (address : Address) : Option (List Char) := do
  let letters ← Column.lettersInWords? (← add? address.column.toUInt64 1)
  let row ← add? address.row.toUInt64 1
  return letters ++ Nat.toDigits 10 row.toNat

/-- Digits give a word exactly when their number fits into one. -/
theorem digitsInWords?_eq (digits : List Char) (all : ∀ c ∈ digits, c.isDigit) :
    ∀ number < 2 ^ 64, digitsInWords? (UInt64.ofNat number) digits =
      if digits.foldl addDigit number < 2 ^ 64 then
        some (UInt64.ofNat (digits.foldl addDigit number))
      else none := by
  induction digits with
  | nil =>
    intro number fits
    exact (if_pos fits).symm
  | cons c rest ih =>
    intro number fits
    rw [List.forall_mem_cons] at all
    have bounds := isDigit_iff.mp all.1
    have base : '0'.toNat = 48 := rfl
    have step : addDigit number c = number * 10 + (c.toNat - 48) := by
      unfold addDigit
      omega
    have beyond := le_foldl_addDigit rest (addDigit number c)
    have digit : sub? (UInt64.ofNat c.toNat) 48 = some (UInt64.ofNat (c.toNat - 48)) :=
      sub?_ofNat (by omega) bounds.1
    have scaled : mul? (UInt64.ofNat number) 10 =
        if number * 10 < 2 ^ 64 then some (UInt64.ofNat (number * 10)) else none :=
      mul?_ofNat (n := 10) fits (by decide)
    rw [digitsInWords?, List.foldl_cons, digit]
    simp only [bind, Option.bind, scaled]
    by_cases small : addDigit number c < 2 ^ 64
    · have next : add? (UInt64.ofNat (number * 10)) (UInt64.ofNat (c.toNat - 48)) =
          some (UInt64.ofNat (addDigit number c)) := by
        rw [add?_ofNat (by omega), step]
      rw [if_pos (by omega : number * 10 < 2 ^ 64)]
      simp only [next]
      exact ih all.2 _ small
    · rw [if_neg (by omega : ¬ rest.foldl addDigit (addDigit number c) < 2 ^ 64)]
      by_cases product : number * 10 < 2 ^ 64
      · have next : add? (UInt64.ofNat (number * 10)) (UInt64.ofNat (c.toNat - 48)) = none := by
          rw [add?, toNat_ofNat product, toNat_ofNat (by omega), if_neg (by omega)]
        rw [if_pos product]
        simp only [next]
      · rw [if_neg product]

theorem rowInWords?_eq (whole : String) (digits : List Char) :
    rowInWords? whole digits = some (rowOf? whole digits) := by
  unfold rowInWords? rowOf?
  by_cases filled : digits = []
  · simp [filled]
  by_cases every : digits.all Char.isDigit = true
  · by_cases leading : digits.head? = some '0'
    · simp only [if_neg filled, every, Bool.not_true, Bool.false_eq_true, if_false, if_pos leading]
    have all : ∀ c ∈ digits, c.isDigit := List.all_eq_true.mp every
    have positive := one_le_digitsValue filled all leading
    have words : digitsInWords? 0 digits =
        if digitsValue digits < 2 ^ 64 then some (UInt64.ofNat (digitsValue digits)) else none :=
      digitsInWords?_eq digits all 0 (by decide)
    simp only [if_neg filled, every, Bool.not_true, Bool.false_eq_true, if_false, if_neg leading,
      words]
    unfold lineBound
    by_cases fits : digitsValue digits < 2 ^ 64
    · have before : sub? (UInt64.ofNat (digitsValue digits)) 1 =
          some (UInt64.ofNat (digitsValue digits - 1)) := sub?_ofNat (n := 1) fits positive
      have index := index?_ofNat (n := digitsValue digits - 1) (by omega)
      simp only [if_pos fits, bind, Option.bind, before, index]
      by_cases small : digitsValue digits - 1 < 2 ^ 32
      · rw [if_pos small, if_neg (by omega)]
      · rw [if_neg small, if_pos (by omega)]
    · rw [if_neg fits, if_pos (by omega)]
  · simp [filled, every]

/-- Reading in words gives what reading without a bound gives, for every text. -/
theorem ofA1InWords?_eq (text : List Char) : ofA1InWords? text = some (ofA1? text) := by
  unfold ofA1InWords? ofA1?
  by_cases filled : text = []
  · simp [filled]
  by_cases letter : text.takeWhile Column.isLetter = []
  · simp [filled, letter]
  simp only [if_neg filled, if_neg letter, rowInWords?_eq, Column.ofLettersInWords?_eq, bind,
    Option.bind]
  cases rowOf? (String.ofList text) (text.dropWhile Column.isLetter) with
  | error fault => rfl
  | ok row => cases Column.ofLetters? (text.takeWhile Column.isLetter) <;> rfl

/-- Writing in words gives what writing without a bound gives, for every address. -/
theorem a1InWords?_eq (address : Address) : address.a1InWords? = some address.a1 := by
  have next (index : UInt32) : add? index.toUInt64 1 = some (UInt64.ofNat (index.toNat + 1)) := by
    have below := index.toNat_lt
    have word : index.toUInt64 = UInt64.ofNat index.toNat := by
      refine UInt64.toNat_inj.mp ?_
      rw [UInt32.toNat_toUInt64, toNat_ofNat (by omega)]
    rw [word]
    exact add?_ofNat (n := 1) (by omega)
  have column := address.column.toNat_lt
  have row := address.row.toNat_lt
  have letters := Column.lettersInWords?_eq (address.column.toNat + 1) (by omega)
  have digits : (UInt64.ofNat (address.row.toNat + 1)).toNat = address.row.toNat + 1 :=
    toNat_ofNat (by omega)
  simp only [a1InWords?, next, letters, digits, bind, Option.bind]
  rfl

/-- Reading and writing A1 texts are inverse to each other. Every address is read from its text;
every text that is read is the text of its address; and the texts that are read are those of letters
and of a number without leading zeros, both within the bounds of addresses. No step of either is too
large for a word of 64 bits, or below zero, however long the text is. -/
theorem parse_toA1_inverse :
    (∀ address : Address, parse address.toA1 = .ok address) ∧
    (∀ (text : String) (address : Address), parse text = .ok address → address.toA1 = text) ∧
    (∀ text : String, (∃ address, parse text = .ok address) ↔
      ∃ letters digits, A1Parts text.toList letters digits) ∧
    (∀ text : List Char, ofA1InWords? text = some (ofA1? text)) ∧
    ∀ address : Address, address.a1InWords? = some address.a1 := by
  refine ⟨fun address ↦ ?_, fun text address ↦ toA1_of_parse_eq_ok, fun text ↦ ?_, ofA1InWords?_eq,
    a1InWords?_eq⟩
  · rw [parse_eq_ok_iff, toA1, String.toList_ofList]
    exact ofA1?_a1 address
  · simp only [parse_eq_ok_iff]
    exact exists_ofA1?_eq_ok_iff

end Address

end Worksheet
