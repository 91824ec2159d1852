import Worksheet.Error

/-!
# Errors of formulas

The causes for which a formula has no value, and the wording of each. `Malformation` says what is
wrong with the text of a formula, and `SheetError.toFormulaError` is the formula error that an error
of a sheet counts as.
-/

set_option autoImplicit false
set_option relaxedAutoImplicit false

namespace Worksheet

/-- What is wrong with the text of a formula. -/
inductive Malformation where
  /-- The text does not begin with an equals sign. -/
  | noEqualsSign
  /-- Nothing follows the equals sign. -/
  | emptyFormula
  /-- Text follows the parenthesis that closes a call. -/
  | textAfterCall (rest : String)
  /-- A quote is not closed. -/
  | unterminatedString
  /-- Parentheses do not match. -/
  | unbalancedParentheses
  /-- A parenthesis stands in a text that is no call. -/
  | unexpectedParenthesis (term : String)
  /-- An argument is blank. -/
  | emptyArgument (list : String)
  /-- A range has a second colon. -/
  | unexpectedColon (list : String)
  /-- A sheet refused a part of the formula. -/
  | ofSheet (error : SheetError)
deriving DecidableEq, Repr

namespace Malformation

/-- The wording of a malformation. -/
def message : Malformation → String
  | noEqualsSign => "formula must start with '='"
  | emptyFormula => "empty formula"
  | textAfterCall rest => "unexpected text after ')': '" ++ rest ++ "'"
  | unterminatedString => "unterminated string"
  | unbalancedParentheses => "unbalanced parentheses"
  | unexpectedParenthesis term => "unexpected parenthesis in '" ++ term ++ "'"
  | emptyArgument list => "empty argument in '" ++ list ++ "'"
  | unexpectedColon list => "unexpected ':' in '" ++ list ++ "'"
  | ofSheet error => error.message

end Malformation

/-- How many arguments a function would have taken. -/
inductive ArgumentBound where
  /-- A fixed number. -/
  | exactly (count : Nat)
  /-- A number or more. -/
  | atLeast (count : Nat)
  /-- A number or fewer. -/
  | atMost (count : Nat)
deriving DecidableEq, Repr

namespace ArgumentBound

/-- The wording of a bound. -/
def message : ArgumentBound → String
  | exactly count => "exactly " ++ toString count
  | atLeast count => "at least " ++ toString count
  | atMost count => "at most " ++ toString count

end ArgumentBound

/-- Why a formula has no value. -/
inductive FormulaError where
  /-- A reference has the shape of an address but is none. -/
  | invalidAddress (text : String)
  /-- A range is the whole formula. -/
  | rangeNotAllowedHere
  /-- A called function is not registered. -/
  | unknownFunction (name : String)
  /-- A function is called with a wrong number of arguments. -/
  | argumentCountMismatch (function : String) (expected : ArgumentBound) (actual : Nat)
  /-- A reference leads back to a cell that is being evaluated. -/
  | circularReference
  /-- A chain of references is longer than the limit. -/
  | referenceDepthExceeded (limit : Nat)
  /-- The result of a function is not finite. -/
  | numericOverflow (function : String)
  /-- The text of the formula does not follow the grammar. -/
  | malformed (cause : Malformation)
deriving DecidableEq, Repr

namespace FormulaError

/-- The wording of an error, which a failed cell shows. -/
def message : FormulaError → String
  | invalidAddress text => "Invalid cell address: " ++ text
  | rangeNotAllowedHere => "Cell ranges can only be used within functions"
  | unknownFunction name => "Unknown function: " ++ name
  | argumentCountMismatch function expected actual =>
    function ++ " function requires " ++ expected.message ++ " argument(s), got " ++
      toString actual
  | circularReference => "Circular reference detected"
  | referenceDepthExceeded limit =>
    "Reference chain too deep (limit " ++ toString limit ++ ")"
  | numericOverflow function => "Numeric overflow in " ++ function
  | malformed cause => "Malformed formula: " ++ cause.message

end FormulaError

/-- The formula error that an error of a sheet counts as: faulty addresses and regions are invalid
addresses, and everything else is a malformation. -/
def SheetError.toFormulaError : SheetError → FormulaError
  | .invalidAddress detail => .invalidAddress detail
  | .invalidRegion text => .invalidAddress text
  | error => .malformed (.ofSheet error)

end Worksheet
