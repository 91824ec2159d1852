import Worksheet.Json.Basic

/-!
# Reading JSON

A strict reader of JSON: blanks are spaces, tabs and line ends, strings hold no controls, numerals
have no leading zeros, and nothing but blanks surrounds the value. The recursion is on a bound that
`read?` takes from the length of the text: a value or a part of one is reached by at most two steps
for every character before it.
-/

set_option autoImplicit false
set_option relaxedAutoImplicit false

namespace Worksheet.Json

/-- Whether a character is a blank. -/
def isBlank (c : Char) : Bool := c = ' ' || c = '\t' || c = '\n' || c = '\r'

/-- Leaves out the blanks at the beginning of a text. -/
def skip (text : List Char) : List Char := text.dropWhile isBlank

/-! ### Strings -/

/-- The value of a hexadecimal digit. -/
def hexValue? (c : Char) : Option Nat :=
  if '0' ≤ c ∧ c ≤ '9' then some (c.toNat - '0'.toNat)
  else if 'a' ≤ c ∧ c ≤ 'f' then some (c.toNat - 'a'.toNat + 10)
  else if 'A' ≤ c ∧ c ≤ 'F' then some (c.toNat - 'A'.toNat + 10)
  else none

/-- The value of four hexadecimal digits. -/
def unit? (a b c d : Char) : Option Nat := do
  return ((← hexValue? a) * 16 + (← hexValue? b)) * 256 + (← hexValue? c) * 16 + (← hexValue? d)

/-- The character of a one-letter escape. -/
def escape? : Char → Option Char
  | '"' => some '"'
  | '\\' => some '\\'
  | '/' => some '/'
  | 'b' => some '\x08'
  | 'f' => some '\x0c'
  | 'n' => some '\n'
  | 'r' => some '\r'
  | 't' => some '\t'
  | _ => none

/-- A part of a string: a character, or a unit of 16 bits that was given by its value. -/
inductive StringPart where
  /-- A character. -/
  | char (c : Char)
  /-- A unit of 16 bits. -/
  | unit (value : Nat)

/-- Reads the parts of a string after its opening quote, and the text after its closing quote. -/
def readParts? : List Char → Option (List StringPart × List Char)
  | [] => none
  | '"' :: rest => some ([], rest)
  | '\\' :: 'u' :: a :: b :: c :: d :: rest => do
    let value ← unit? a b c d
    (readParts? rest).map fun read ↦ (.unit value :: read.1, read.2)
  | '\\' :: c :: rest => do
    let plain ← escape? c
    (readParts? rest).map fun read ↦ (.char plain :: read.1, read.2)
  | c :: rest =>
    if c = '\\' ∨ c.toNat < 0x20 then none
    else (readParts? rest).map fun read ↦ (.char c :: read.1, read.2)

/-- The characters of the parts of a string. Two units can be the halves of one character; a half
without the other is no character. -/
def joinParts? : List StringPart → Option (List Char)
  | [] => some []
  | .char c :: rest => (joinParts? rest).map (c :: ·)
  | .unit value :: .unit second :: rest =>
    if 0xd800 ≤ value ∧ value < 0xdc00 then
      if 0xdc00 ≤ second ∧ second < 0xe000 then
        let point := 0x10000 + (value - 0xd800) * 0x400 + (second - 0xdc00)
        (joinParts? rest).map (Char.ofNat point :: ·)
      else none
    else if 0xdc00 ≤ value ∧ value < 0xe000 then none
    else (joinParts? (.unit second :: rest)).map (Char.ofNat value :: ·)
  | .unit value :: rest =>
    if 0xd800 ≤ value ∧ value < 0xe000 then none
    else (joinParts? rest).map (Char.ofNat value :: ·)

/-- Reads a string after its opening quote: its text, unless its escapes leave a character in half,
and the text after its closing quote. -/
def readString? (text : List Char) : Option (Option String × List Char) :=
  (readParts? text).map fun read ↦ ((joinParts? read.1).map String.ofList, read.2)

/-! ### Numerals -/

/-- Reads the digits before a point: a zero alone, or digits that begin with another one. -/
def readWhole? (text : List Char) : Option (List Char × List Char) :=
  match text with
  | '0' :: rest => some (['0'], rest)
  | c :: _ =>
    if c.isDigit then some (text.takeWhile Char.isDigit, text.dropWhile Char.isDigit) else none
  | [] => none

/-- Reads digits, of which there must be one. -/
def readDigits? (text : List Char) : Option (List Char × List Char) :=
  let digits := text.takeWhile Char.isDigit
  if digits = [] then none else some (digits, text.dropWhile Char.isDigit)

/-- Reads a point and the digits after it, if there is a point. -/
def readFraction? : List Char → Option (Option (List Char) × List Char)
  | '.' :: rest => (readDigits? rest).map fun read ↦ (some read.1, read.2)
  | text => some (none, text)

/-- Reads a sign, if there is one, and says whether it is a minus sign. -/
def readSign : List Char → Bool × List Char
  | '-' :: rest => (true, rest)
  | '+' :: rest => (false, rest)
  | text => (false, text)

/-- Reads a power of ten, if there is one. -/
def readPower? : List Char → Option (Option (Bool × List Char) × List Char)
  | [] => some (none, [])
  | c :: rest =>
    if c = 'e' ∨ c = 'E' then
      let (negative, digits) := readSign rest
      (readDigits? digits).map fun read ↦ (some (negative, read.1), read.2)
    else some (none, c :: rest)

/-- Reads a numeral without its sign. -/
def readUnsigned? (negative : Bool) (text : List Char) : Option (Numeral × List Char) := do
  let (whole, afterWhole) ← readWhole? text
  let (fraction, afterFraction) ← readFraction? afterWhole
  let (power, rest) ← readPower? afterFraction
  return (⟨negative, whole, fraction, power⟩, rest)

/-! ### Values -/

/-- Reads a word that stands for a value. -/
def readWord? (text : List Char) : Option (Json × List Char) :=
  match text with
  | 'n' :: 'u' :: 'l' :: 'l' :: rest => some (null, rest)
  | 't' :: 'r' :: 'u' :: 'e' :: rest => some (bool true, rest)
  | 'f' :: 'a' :: 'l' :: 's' :: 'e' :: rest => some (bool false, rest)
  | '-' :: rest => (readUnsigned? true rest).map fun read ↦ (number read.1, read.2)
  | text => (readUnsigned? false text).map fun read ↦ (number read.1, read.2)

mutual

/-- Reads a value after its blanks. -/
def readValue? : Nat → List Char → Option (Json × List Char)
  | 0, _ => none
  | bound + 1, text =>
    match skip text with
    | '"' :: rest => (readString? rest).map fun read ↦ (string read.1, read.2)
    | '[' :: rest =>
      match skip rest with
      | ']' :: after => some (array [], after)
      | first => (readItems? bound first).map fun read ↦ (array read.1, read.2)
    | '\x7b' :: rest =>
      match skip rest with
      | '\x7d' :: after => some (object [], after)
      | first => (readMembers? bound first).map fun read ↦ (object read.1, read.2)
    | word => readWord? word

/-- Reads the items of an array, of which there is one, and its closing bracket. -/
def readItems? : Nat → List Char → Option (List Json × List Char)
  | 0, _ => none
  | bound + 1, text => do
    let (item, afterItem) ← readValue? bound text
    match skip afterItem with
    | ',' :: rest =>
      let (later, after) ← readItems? bound rest
      return (item :: later, after)
    | ']' :: after => return ([item], after)
    | _ => none

/-- Reads the members of an object, of which there is one, and its closing bracket. -/
def readMembers? : Nat → List Char → Option (List (Option String × Json) × List Char)
  | 0, _ => none
  | bound + 1, text =>
    match skip text with
    | '"' :: rest => do
      let (name, afterName) ← readString? rest
      match skip afterName with
      | ':' :: valueText =>
        let (value, afterValue) ← readValue? bound valueText
        let member := (name, value)
        match skip afterValue with
        | ',' :: rest =>
          let (later, after) ← readMembers? bound rest
          return (member :: later, after)
        | '\x7d' :: after => return ([member], after)
        | _ => none
      | _ => none
    | _ => none

end

/-- Reads a text that is a value with blanks around it. -/
def read? (text : List Char) : Option Json := do
  let (value, after) ← readValue? (2 * text.length + 1) text
  if skip after = [] then some value else none

end Worksheet.Json
