import Std.Data.ExtTreeMap
import Worksheet.Function.BuiltIn
import Worksheet.Function.Definition

/-!
# The function registry

The functions that formulas can call, by name. Names that agree in upper case are the same name, and
a later registration takes the place of an earlier one. `definitions` lists the functions by group
and, in a group, by name.
-/

set_option autoImplicit false
set_option relaxedAutoImplicit false

namespace Worksheet

/-- The registered functions, by their names in upper case. -/
structure Registry where
  /-- The functions by name. -/
  functions : Std.ExtTreeMap String FunctionDefinition

namespace Registry

/-- The registry without functions. -/
def empty : Registry := ⟨∅⟩

/-- Registers a function under its name. -/
def register (registry : Registry) (definition : FunctionDefinition) : Registry :=
  ⟨registry.functions.insert (Text.uppercase definition.name) definition⟩

/-- The function with a name, in any case. -/
def find? (registry : Registry) (name : String) : Option FunctionDefinition :=
  registry.functions[Text.uppercase name]?

/-- The number of functions. -/
def size (registry : Registry) : Nat := registry.functions.size

/-- Whether there are no functions. -/
def isEmpty (registry : Registry) : Bool := registry.functions.isEmpty

/-- Whether a function comes before another in listings, or at the same place: by group, then by
name. -/
def listedBefore (one other : FunctionDefinition) : Bool :=
  (compareLex (compareOn fun definition : FunctionDefinition ↦ definition.category.rank)
    (compareOn FunctionDefinition.name) one other).isLE

/-- The functions by group and name. -/
def definitions (registry : Registry) : List FunctionDefinition :=
  registry.functions.values.mergeSort listedBefore

/-- The functions of numbers. -/
def mathFunctions : List FunctionDefinition :=
  [⟨"SUM", 0, none, .rule Aggregate.sum, .math, "Adds all numeric values"⟩,
    ⟨"AVERAGE", 0, none, .rule Aggregate.average, .math, "Mean of all numeric values"⟩,
    ⟨"MAX", 0, none, .rule Aggregate.maximum, .math, "Largest numeric value"⟩,
    ⟨"MIN", 0, none, .rule Aggregate.minimum, .math, "Smallest numeric value"⟩,
    ⟨"COUNT", 0, none, .rule Aggregate.count, .math, "Counts the values that are numbers"⟩]

/-- The functions of texts. -/
def textFunctions : List FunctionDefinition :=
  [⟨"TRIM", 1, some 1, .rule TextFunction.trim, .text, "Removes leading and trailing whitespace"⟩,
    ⟨"UPPER", 1, some 1, .rule TextFunction.upper, .text, "Converts text to uppercase"⟩,
    ⟨"LOWER", 1, some 1, .rule TextFunction.lower, .text, "Converts text to lowercase"⟩]

/-- The registry of the built-in functions. -/
def builtIn : Registry := (mathFunctions ++ textFunctions).foldl register empty

end Registry

end Worksheet
