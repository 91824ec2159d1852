import Worksheet.Number.Shortest
import Worksheet.Number.Numeral

/-!
# Values

The value of a cell: nothing, a number, a text, or the message of a failed formula. `ofInput` sorts
typed text into the first three, `text` is the form in which a value is shown, and `number?` is the
number that a value counts as where numbers are wanted.
-/

set_option autoImplicit false
set_option relaxedAutoImplicit false

namespace Worksheet

/-- The value of a cell. -/
inductive Value where
  /-- No value. -/
  | empty
  /-- A number. -/
  | number (number : Float)
  /-- A text. -/
  | text (text : String)
  /-- The failure of a formula, with its message. -/
  | error (message : String)
deriving DecidableEq

namespace Value

/-- What the text of an error begins with. -/
def errorMark : String := "#ERROR: "

/-- The form in which a value is shown. -/
def shown : Value → String
  | empty => ""
  | number n => formatNumber n
  | text t => t
  | error message => errorMark ++ message

/-- The number that a value counts as: a number itself, or the number that a text denotes. -/
def number? : Value → Option Float
  | number n => some n
  | text t => parseDecimal t
  | empty => none
  | error _ => none

/-- The nearest number to a whole number. -/
def ofInt (value : Int) : Value := number (Float.ofInt value)

/-- Whether there is no value. -/
def isEmpty : Value → Bool
  | empty => true
  | _ => false

/-- Whether a value is a failure. -/
def isError : Value → Bool
  | error _ => true
  | _ => false

/-- The message of a failure. -/
def errorMessage? : Value → Option String
  | error message => some message
  | _ => none

/-- Sorts typed text: blank text is no value, a numeral is its number, and other text stays as it
is, with its blanks. -/
def ofInput (input : String) : Value :=
  if Text.isAllBlank input.toList then empty
  else
    match parseDecimal input with
    | some n => number n
    | none => text input

end Value

end Worksheet
