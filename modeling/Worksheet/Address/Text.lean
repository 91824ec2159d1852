import Worksheet.Address
import Worksheet.Error
import Worksheet.Number.Numeral

/-!
# The texts of addresses

An address has two texts. The A1 text names the column by letters and the row by a number from one:
`B3` is row 2, column 1. Letters are a numeral in base 26 without a zero, so that `Z` is followed by
`AA`. Every address has exactly one A1 text, and other spellings are refused. The key text has both
indices with a colon between them, as `2:1`; when it is read, each index may have a plus sign and
leading zeros.
-/

set_option autoImplicit false
set_option relaxedAutoImplicit false

namespace Worksheet

/-! ### Columns -/

namespace Column

/-- Whether a character is a letter of a column. -/
def isLetter (c : Char) : Bool := 'A' ≤ c ∧ c ≤ 'Z'

/-- The letters of the column with a number counted from one. -/
def lettersOf (number : Nat) : List Char :=
  if number = 0 then []
  else lettersOf ((number - 1) / 26) ++ [Char.ofNat ('A'.toNat + (number - 1) % 26)]
termination_by number
decreasing_by omega

/-- The letters of a column. -/
def letters (column : UInt32) : List Char := lettersOf (column.toNat + 1)

/-- The first byte of a character in UTF-8. -/
def leadByte (c : Char) : UInt8 :=
  let point := c.toNat
  UInt8.ofNat <|
    if point < 0x80 then point
    else if point < 0x800 then 0xc0 + point / 0x40
    else if point < 0x10000 then 0xe0 + point / 0x1000
    else 0xf0 + point / 0x40000

/-- Reads letters from left to right onto a column number, from one. The number is checked after
every letter, so that letters beyond the last column win over faulty ones that follow them. -/
def numberOf? (whole : String) : Nat → List Char → Except AddressFault Nat
  | number, [] => .ok number
  | number, c :: rest =>
    if isLetter c then
      let next := 26 * number + (c.toNat - 'A'.toNat + 1)
      if next ≤ Address.lineBound then numberOf? whole next rest else .error (.columnTooLarge whole)
    else .error (.invalidLetter (leadByte c))

/-- The column with the given letters. -/
def ofLetters? (letters : List Char) : Except AddressFault UInt32 :=
  if letters = [] then .error .emptyLetters
  else (numberOf? (String.ofList letters) 0 letters).map fun number ↦ UInt32.ofNat (number - 1)

end Column

namespace Address

/-! ### A1 text -/

/-- The A1 text of an address, as characters. -/
def a1 (address : Address) : List Char :=
  Column.letters address.column ++ Nat.toDigits 10 (address.row.toNat + 1)

/-- The A1 text of an address. -/
def toA1 (address : Address) : String := String.ofList address.a1

/-- Reads a row number from one. -/
def rowOf? (whole : String) (digits : List Char) : Except AddressFault UInt32 :=
  if digits = [] then .error (.noRow whole)
  else if !digits.all Char.isDigit then .error (.invalidRow whole)
  else if digits.head? = some '0' then .error (.leadingZero whole)
  else if lineBound < digitsValue digits then .error (.rowTooLarge whole)
  else .ok (UInt32.ofNat (digitsValue digits - 1))

/-- Reads an A1 text: capital letters, then a row number without leading zeros, both within the
bounds of addresses. The row is looked at before the column. -/
def ofA1? (text : List Char) : Except AddressFault Address :=
  let whole := String.ofList text
  if text = [] then .error .emptyAddress
  else
    let letters := text.takeWhile Column.isLetter
    if letters = [] then .error (.noLetters whole)
    else do
      let row ← rowOf? whole (text.dropWhile Column.isLetter)
      let column ← Column.ofLetters? letters
      return ⟨row, column⟩

/-- Reads an A1 text. -/
def parse (text : String) : Except SheetError Address :=
  (ofA1? text.toList).mapError AddressFault.toError

/-! ### Key text -/

/-- The key text of an address, as characters. -/
def key (address : Address) : List Char :=
  Nat.toDigits 10 address.row.toNat ++ ':' :: Nat.toDigits 10 address.column.toNat

/-- The key text of an address. -/
def toKey (address : Address) : String := String.ofList address.key

/-- Takes an optional plus sign off a text. -/
def dropPlus : List Char → List Char
  | '+' :: rest => rest
  | text => text

/-- Reads an index: an optional plus sign and digits whose value has 32 bits. -/
def indexOf? (text : List Char) : Option UInt32 :=
  let digits := dropPlus text
  if digits ≠ [] ∧ digits.all Char.isDigit ∧ digitsValue digits < lineBound then
    some (UInt32.ofNat (digitsValue digits))
  else none

/-- Splits a text at its first colon. -/
def splitAtColon? (text : List Char) : Option (List Char × List Char) :=
  match text.dropWhile (· ≠ ':') with
  | [] => none
  | _ :: rest => some (text.takeWhile (· ≠ ':'), rest)

/-- Reads a key text: two indices around its first colon. -/
def ofKey? (text : List Char) : Option Address := do
  let (row, column) ← splitAtColon? text
  return ⟨← indexOf? row, ← indexOf? column⟩

/-- Reads a key text. -/
def parseKey (text : String) : Except SheetError Address :=
  match ofKey? text.toList with
  | some address => .ok address
  | none => .error (.invalidKey text)

end Address

end Worksheet
