import Worksheet.Json.Basic

/-!
# Writing JSON

The text of a JSON value, on one line without blanks or over several lines with an indentation of
two spaces. In strings, quotes, backslashes and controls are escaped, and nothing else is.
-/

set_option autoImplicit false
set_option relaxedAutoImplicit false

namespace Worksheet.Json

/-- A hexadecimal digit. -/
def hexDigit (value : Nat) : Char :=
  if value < 10 then Char.ofNat ('0'.toNat + value) else Char.ofNat ('a'.toNat + (value - 10))

/-- A character in a string. -/
def escaped (c : Char) : List Char :=
  match c with
  | '"' => ['\\', '"']
  | '\\' => ['\\', '\\']
  | '\x08' => ['\\', 'b']
  | '\x0c' => ['\\', 'f']
  | '\n' => ['\\', 'n']
  | '\r' => ['\\', 'r']
  | '\t' => ['\\', 't']
  | c =>
    if c.toNat < 0x20 then
      ['\\', 'u', '0', '0', hexDigit (c.toNat / 16), hexDigit (c.toNat % 16)]
    else [c]

/-- The text of a string. -/
def stringText (text : List Char) : List Char := '"' :: text.flatMap escaped ++ ['"']

/-- The text of a string that may not have whole characters. Such a string has no text of its own
and is written as an empty one. -/
def optionalText (text : Option String) : List Char := stringText ((text.map String.toList).getD [])

/-- The text of a numeral. A power of ten always has its sign. -/
def Numeral.text (numeral : Numeral) : List Char :=
  let sign := if numeral.negative then ['-'] else []
  let fraction :=
    match numeral.fraction with
    | some digits => '.' :: digits
    | none => []
  let power :=
    match numeral.power with
    | some (negative, digits) => 'e' :: (if negative then '-' else '+') :: digits
    | none => []
  sign ++ numeral.whole ++ fraction ++ power

/-- The texts of the parts of a value, with commas between them. -/
def commaSeparated (between : List Char) : List (List Char) → List Char
  | [] => []
  | [last] => last
  | first :: later => first ++ ',' :: between ++ commaSeparated between later

mutual

/-- The text of a value on one line. -/
def compact : Json → List Char
  | null => ['n', 'u', 'l', 'l']
  | bool true => ['t', 'r', 'u', 'e']
  | bool false => ['f', 'a', 'l', 's', 'e']
  | number numeral => numeral.text
  | string text => optionalText text
  | array items => '[' :: commaSeparated [] (compactItems items) ++ [']']
  | object members => '\x7b' :: commaSeparated [] (compactMembers members) ++ ['\x7d']

/-- The texts of the items of an array. -/
def compactItems : List Json → List (List Char)
  | [] => []
  | item :: later => compact item :: compactItems later

/-- The texts of the members of an object. -/
def compactMembers : List (Option String × Json) → List (List Char)
  | [] => []
  | (name, value) :: later =>
    (optionalText name ++ ':' :: compact value) :: compactMembers later

end

/-- The beginning of a line at a depth. -/
def newline (depth : Nat) : List Char := '\n' :: List.replicate (2 * depth) ' '

/-- Parts between brackets, each on a line of its own one step deeper than the closing bracket.
There are no lines between the brackets of nothing. -/
def bracketed (depth : Nat) (opening closing : Char) (parts : List (List Char)) : List Char :=
  if parts.isEmpty then [opening, closing]
  else
    opening :: newline (depth + 1) ++ commaSeparated (newline (depth + 1)) parts ++
      newline depth ++ [closing]

mutual

/-- The text of a value over several lines, at a depth. -/
def indented (depth : Nat) : Json → List Char
  | array items => bracketed depth '[' ']' (indentedItems (depth + 1) items)
  | object members => bracketed depth '\x7b' '\x7d' (indentedMembers (depth + 1) members)
  | value => compact value

/-- The texts of the items of an array, at a depth. -/
def indentedItems (depth : Nat) : List Json → List (List Char)
  | [] => []
  | item :: later => indented depth item :: indentedItems depth later

/-- The texts of the members of an object, at a depth. -/
def indentedMembers (depth : Nat) : List (Option String × Json) → List (List Char)
  | [] => []
  | (name, value) :: later =>
    (optionalText name ++ ':' :: ' ' :: indented depth value) :: indentedMembers depth later

end

end Worksheet.Json
