import Worksheet.Text.PrintTable

/-!
# Quoted strings

The form of a string in double quotes that can be told apart from every other string: quotes,
backslashes and the usual controls have short escapes, and characters that do not print by
themselves are given by their code points.
-/

set_option autoImplicit false
set_option relaxedAutoImplicit false

namespace Worksheet.Text

/-- Whether a character is a letter that stands for a missing part of a Hangul syllable, and so has
no printed form. -/
def isFiller (c : Char) : Bool :=
  c = '\u115f' ∨ c = '\u1160' ∨ c = '\u3164' ∨ c = '\uffa0'

/-- Whether a character is a half-width voicing mark. Although these have the property
Grapheme_Extend, they print with a width of their own. -/
def isHalfwidthMark (c : Char) : Bool := c = '\uff9e' ∨ c = '\uff9f'

/-- Whether a character prints onto the one before it. -/
def printsOntoOther (c : Char) : Bool :=
  inRanges c.toNat graphemeExtendRanges && !isHalfwidthMark c

/-- Whether a character prints by itself. -/
def isPrintable (c : Char) : Bool :=
  !printsOntoOther c && !isFiller c && !inRanges c.toNat unprintableRanges

/-- The code point of a character between braces. -/
def codePointEscape (c : Char) : List Char :=
  ['\\', 'u', '\x7b'] ++ Nat.toDigits 16 c.toNat ++ ['\x7d']

/-- A character as it stands between quotes. -/
def quotedChar (c : Char) : List Char :=
  match c with
  | '\x00' => ['\\', '0']
  | '\t' => ['\\', 't']
  | '\r' => ['\\', 'r']
  | '\n' => ['\\', 'n']
  | '\\' => ['\\', '\\']
  | '"' => ['\\', '"']
  | c => if isPrintable c then [c] else codePointEscape c

/-- A string in quotes. -/
def quoted (text : String) : String :=
  String.ofList ('"' :: text.toList.flatMap quotedChar ++ ['"'])

end Worksheet.Text
