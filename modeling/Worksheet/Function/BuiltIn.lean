import Worksheet.Text.Case
import Worksheet.Value

/-!
# Built-in functions

The rules of the built-in functions. The aggregates of numbers look only at the values that count as
numbers: empty values, errors and texts that are no numerals are left out. Of no numbers at all, the
sum is negative zero and every other aggregate is zero. The functions of texts work on the form in
which their one argument is shown, and on the empty text where it has no value.
-/

set_option autoImplicit false
set_option relaxedAutoImplicit false

namespace Worksheet

/-! ### Aggregates of numbers -/

namespace Aggregate

/-- The numbers among some values. -/
def numbers (values : List Value) : List Float := values.filterMap Value.number?

/-- The sum, added up from negative zero, to which adding any number gives that number. -/
def sum (values : List Value) : Value := .number ((numbers values).foldl (· + ·) (-0.0))

/-- The mean: the sum added up from zero, over the count. -/
def average (values : List Value) : Value :=
  match numbers values with
  | [] => .number 0.0
  | numbers => .number (numbers.foldl (· + ·) 0.0 / Float.ofNat numbers.length)

/-- The smaller of two numbers; a number that is not a number gives way to the other. -/
def smaller (one other : Float) : Float :=
  if one.isNaN then other else if other.isNaN then one else if other < one then other else one

/-- The larger of two numbers; a number that is not a number gives way to the other. -/
def larger (one other : Float) : Float :=
  if one.isNaN then other else if other.isNaN then one else if one < other then other else one

/-- The result of a choice among numbers from left to right, or zero if there are none. -/
def choose (choice : Float → Float → Float) (values : List Value) : Value :=
  match numbers values with
  | [] => .number 0.0
  | first :: later => .number (later.foldl choice first)

/-- The smallest number. -/
def minimum (values : List Value) : Value := choose smaller values

/-- The largest number. -/
def maximum (values : List Value) : Value := choose larger values

/-- The count of numbers. -/
def count (values : List Value) : Value := .number (Float.ofNat (numbers values).length)

end Aggregate

/-! ### Functions of texts -/

namespace TextFunction

/-- The form in which the first value is shown. -/
def firstText (values : List Value) : String := (values.head?.map Value.shown).getD ""

/-- The text without the blanks around it. -/
def trim (values : List Value) : Value := .text (Text.trimmed (firstText values))

/-- The text in upper case. -/
def upper (values : List Value) : Value := .text (Text.uppercase (firstText values))

/-- The text in lower case. -/
def lower (values : List Value) : Value := .text (Text.lowercase (firstText values))

end TextFunction

end Worksheet
