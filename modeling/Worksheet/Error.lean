/-!
# Errors of addresses, regions and sheet edits

Each error is a cause. `AddressFault` says what is wrong with the text of an address, and
`SheetError` has the errors of sheets and of the texts of their parts. `message` gives the wording.
-/

set_option autoImplicit false
set_option relaxedAutoImplicit false

namespace Worksheet

/-- What keeps a text from being an address or the letters of a column. -/
inductive AddressFault where
  /-- There is no text. -/
  | emptyAddress
  /-- The text does not begin with a letter from `A` to `Z`. -/
  | noLetters (text : String)
  /-- Nothing follows the letters. -/
  | noRow (text : String)
  /-- Something else than a digit follows the letters. -/
  | invalidRow (text : String)
  /-- The row number begins with a zero. -/
  | leadingZero (text : String)
  /-- The row number is beyond the last row. -/
  | rowTooLarge (text : String)
  /-- There are no letters. -/
  | emptyLetters
  /-- A character of the letters begins with this byte, which is not a letter from `A` to `Z`. -/
  | invalidLetter (byte : UInt8)
  /-- The letters are beyond the last column. -/
  | columnTooLarge (letters : String)
deriving DecidableEq, Repr

namespace AddressFault

/-- The wording of a fault. -/
def message : AddressFault → String
  | emptyAddress => "empty address"
  | noLetters text => "no column letters in '" ++ text ++ "'"
  | noRow text => "no row number in '" ++ text ++ "'"
  | invalidRow text => "invalid row number in '" ++ text ++ "'"
  | leadingZero text => "row number must be >= 1 without leading zeros in '" ++ text ++ "'"
  | rowTooLarge text => "row number too large in '" ++ text ++ "'"
  | emptyLetters => "empty column letters"
  | invalidLetter byte =>
    "invalid column letter '" ++ String.singleton (Char.ofNat byte.toNat) ++ "'"
  | columnTooLarge letters => "column too large: " ++ letters

end AddressFault

/-- An error of a sheet operation. -/
inductive SheetError where
  /-- A text is not an address; the detail says why. -/
  | invalidAddress (detail : String)
  /-- A text is not a region. -/
  | invalidRegion (text : String)
  /-- A text is not the key of a cell. -/
  | invalidKey (text : String)
  /-- A row is edited that is not in the sheet. -/
  | rowOutOfBounds (index count : UInt32)
  /-- A column is edited that is not in the sheet. -/
  | columnOutOfBounds (index count : UInt32)
deriving DecidableEq, Repr

namespace SheetError

/-- The wording of an edit past the end of the rows or columns. -/
def outOfBounds (line : String) (index count : UInt32) : String :=
  line ++ " index " ++ toString index.toNat ++ " out of bounds (count: " ++
    toString count.toNat ++ ")"

/-- The wording of an error. -/
def message : SheetError → String
  | invalidAddress detail => "Invalid cell address: " ++ detail
  | invalidRegion text => "Invalid cell range: " ++ text
  | invalidKey text => "Invalid cell id: " ++ text
  | rowOutOfBounds index count => outOfBounds "Row" index count
  | columnOutOfBounds index count => outOfBounds "Column" index count

end SheetError

/-- A faulty address as an error. -/
def AddressFault.toError (fault : AddressFault) : SheetError := .invalidAddress fault.message

end Worksheet
