import Worksheet.Formula.Shape
import Worksheet.Region
import Worksheet.Value

/-!
# Expressions

The tree of a formula. `Expression.read` classifies an argument and then the arguments inside of it,
and `Formula.read` reads a whole formula. A fault in an argument does not make the formula
unreadable: it stays in the tree as an `invalid` leaf, which counts only when evaluation comes to
it.
-/

set_option autoImplicit false
set_option relaxedAutoImplicit false

namespace Worksheet

/-- An argument of a call. -/
inductive Expression where
  /-- A call of a function. -/
  | call (name : String) (arguments : List Expression)
  /-- The cells of a region. -/
  | range (region : Region)
  /-- A single cell. -/
  | reference (address : Address)
  /-- A text. -/
  | literal (text : String)
  /-- An argument that cannot be read, and why. -/
  | invalid (cause : FormulaError)

/-- A formula, or the text of a cell that has none. -/
inductive Formula where
  /-- A value that depends on no cell. -/
  | constant (value : Value)
  /-- A single cell. -/
  | reference (address : Address)
  /-- A call of a function. -/
  | call (name : String) (arguments : List Expression)

namespace Formula

/-- Reads the text of a reference. Every fault of it is an invalid address with that text. -/
def readAddress (text : String) : Except FormulaError Address :=
  match Address.ofA1? text.toList with
  | .ok address => .ok address
  | .error _ => .error (.invalidAddress text)

/-- Reads the two ends of a range, the first one first. -/
def readRegion (first last : String) : Except FormulaError Region := do
  let one ← readAddress first
  let other ← readAddress last
  return Region.ofCorners one other

end Formula

namespace Expression

/-- What was read, or else the fault as a leaf. -/
def ofRead {α : Type} (leaf : α → Expression) : Except FormulaError α → Expression
  | .ok part => leaf part
  | .error cause => invalid cause

/-- The tree of a shape whose arguments are read by a given rule. -/
def ofShape (readArgument : String → Expression) :
    Except FormulaError Formula.ArgumentShape → Expression
  | .error cause => invalid cause
  | .ok (.call name arguments) => call name (arguments.map readArgument)
  | .ok (.range first last) => ofRead range (Formula.readRegion first last)
  | .ok (.reference text) => ofRead reference (Formula.readAddress text)
  | .ok (.literal text) => literal text

/-- Reads an argument and the arguments inside of it, down to a depth of nesting. -/
def readTo : Nat → String → Expression
  | 0, argument => literal argument
  | depth + 1, argument => ofShape (readTo depth) (Formula.classify argument)

/-- Reads an argument and the arguments inside of it. An argument inside a call is shorter than the
call, so the nesting is no deeper than the argument is long. -/
def read (argument : String) : Expression := readTo argument.length argument

/-- Only the arguments of a call are read by the given rule. -/
theorem ofShape_congr {one other : String → Expression}
    {outcome : Except FormulaError Formula.ArgumentShape}
    (agree : ∀ name arguments, outcome = .ok (.call name arguments) →
      ∀ argument ∈ arguments, one argument = other argument) :
    ofShape one outcome = ofShape other outcome := by
  match outcome, agree with
  | .error _, _ => rfl
  | .ok (.call name arguments), agree =>
    simp only [ofShape, List.map_congr_left (agree name arguments rfl)]
  | .ok (.range _ _), _ => rfl
  | .ok (.reference _), _ => rfl
  | .ok (.literal _), _ => rfl

/-- Depths that are at least the length of an argument read the same. -/
theorem readTo_eq_readTo (depth : Nat) :
    ∀ (other : Nat) (argument : String), argument.length ≤ depth → argument.length ≤ other →
      readTo depth argument = readTo other argument := by
  have blank (argument : String) (bound : argument.length ≤ 0) : argument = "" := by
    simpa [String.length_eq_zero_iff] using bound
  induction depth with
  | zero =>
    intro other argument bound _
    rw [blank argument bound]
    cases other <;> rfl
  | succ depth ih =>
    intro other argument bound otherBound
    cases other with
    | zero => rw [blank argument otherBound]; rfl
    | succ other =>
      refine ofShape_congr fun name arguments shape inner found ↦ ?_
      have shorter := Formula.length_lt_of_mem_classify shape found
      exact ih other inner (by omega) (by omega)

/-- An argument is read by its shape, with the arguments inside of it read in the same way. -/
theorem read_eq (argument : String) :
    read argument = ofShape read (Formula.classify argument) := by
  rw [read, readTo_eq_readTo argument.length (argument.length + 1) argument (Nat.le_refl _)
    (Nat.le_succ _)]
  refine ofShape_congr fun name arguments shape inner found ↦ ?_
  have shorter := Formula.length_lt_of_mem_classify shape found
  exact readTo_eq_readTo argument.length inner.length inner (by omega) (Nat.le_refl _)

end Expression

namespace Formula

/-- Reads a term: a text in quotes, a reference, a number or any other text. -/
def readTerm (term : String) : Except FormulaError Formula :=
  match unquote? term.toList with
  | some inner => .ok (constant (.text (String.ofList inner)))
  | none => do
    match ← classify term with
    | .reference text => return reference (← readAddress text)
    | .literal text =>
      match parseDecimal text with
      | some number => return constant (.number number)
      | none => return constant (.text text)
    | .range _ _ => throw .rangeNotAllowedHere
    | .call name arguments => return call name (arguments.map Expression.read)

/-- Reads the text of a cell. Text that does not begin with an equals sign is a text value. -/
def read (text : String) : Except FormulaError Formula :=
  if text.toList.head? ≠ some '=' then .ok (constant (.text text))
  else do
    match ← parse text with
    | .call name arguments => return call name (arguments.map Expression.read)
    | .term term => readTerm term

/-- The text of a formula after its equals sign, without the blanks around it. -/
def body (formula : String) : String :=
  match formula.toList with
  | '=' :: rest => String.ofList (Text.trim rest)
  | chars => String.ofList (Text.trim chars)

end Formula

end Worksheet
