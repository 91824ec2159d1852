import Worksheet.Formula.Error
import Worksheet.Text.Quoted
import Worksheet.Value

/-!
# Function definitions

A function of formulas has a name, bounds on the number of its arguments, a way to its value, and
what is said of it in listings. `checkArity` tells whether a call has a possible number of
arguments.
-/

set_option autoImplicit false
set_option relaxedAutoImplicit false

namespace Worksheet

/-- The groups in which functions are listed. -/
inductive Category where
  /-- Functions of numbers. -/
  | math
  /-- Functions of texts. -/
  | text
deriving DecidableEq, Repr

namespace Category

/-- The heading of a group. -/
def heading : Category → String
  | math => "Mathematical Functions"
  | text => "Data Quality Functions"

/-- The name of a group in descriptions of functions. -/
def label : Category → String
  | math => "Math"
  | text => "Text"

/-- The place of a group in listings. -/
def rank : Category → Nat
  | math => 0
  | text => 1

end Category

/-- How a function comes to its value for the values of the arguments. -/
inductive Implementation where
  /-- By a rule, which has a value in each case and looks at nothing else. -/
  | rule (value : List Value → Value)
  /-- By an outside function, which may also fail and look at what formulas are evaluated on. Which
  function it is, is known by its number. -/
  | outside (number : Nat)

/-- A function of formulas. -/
structure FunctionDefinition where
  /-- The name, as it is shown. -/
  name : String
  /-- The smallest number of arguments. -/
  minimum : Nat
  /-- The largest number of arguments, if there is one. -/
  maximum : Option Nat
  /-- The way to the value for the values of the arguments. A range gives one value for each of its
  cells that is not empty. -/
  implementation : Implementation
  /-- The group in which the function is listed. -/
  category : Category
  /-- What the function does, in a line. -/
  description : String

namespace FunctionDefinition

/-- Refuses a number of arguments outside the bounds. -/
def checkArity (definition : FunctionDefinition) (actual : Nat) : Except FormulaError Unit :=
  let mismatch (expected : ArgumentBound) : Except FormulaError Unit :=
    .error (.argumentCountMismatch definition.name expected actual)
  match definition.maximum with
  | none => if actual < definition.minimum then mismatch (.atLeast definition.minimum) else .ok ()
  | some maximum =>
    if maximum = definition.minimum ∧ actual ≠ maximum then mismatch (.exactly maximum)
    else if actual < definition.minimum then mismatch (.atLeast definition.minimum)
    else if maximum < actual then mismatch (.atMost maximum)
    else .ok ()

/-- The possible numbers of arguments, as `1`, `1-2` or `0+`. -/
def arity (definition : FunctionDefinition) : String :=
  match definition.maximum with
  | none => toString definition.minimum ++ "+"
  | some maximum =>
    if maximum = definition.minimum then toString maximum
    else toString definition.minimum ++ "-" ++ toString maximum

/-- The name with the possible numbers of arguments. -/
def signature (definition : FunctionDefinition) : String :=
  definition.name ++ "(" ++ definition.arity ++ ")"

/-- A description of a definition by its fields, without the way to its value. -/
def summary (definition : FunctionDefinition) : String :=
  let maximum :=
    match definition.maximum with
    | none => "None"
    | some maximum => "Some(" ++ toString maximum ++ ")"
  "FunctionDef \x7b name: " ++ Text.quoted definition.name ++ ", min_args: " ++
    toString definition.minimum ++ ", max_args: " ++ maximum ++ ", category: " ++
    definition.category.label ++ " \x7d"

end FunctionDefinition

end Worksheet
