import Std.Data.ExtTreeSet
import Worksheet.Formula.Expression
import Worksheet.Function.Registry
import Worksheet.Sheet

/-!
# Evaluation

The value of a formula on a sheet. A reference to a formula cell is followed: the formula of that
cell is evaluated on the spot, while the cell is in progress. A reference back to a cell in progress
is circular, and a chain of followed cells has a limit. The cells in progress are the state of an
evaluation, which leaves them as it found them. What the outside functions among the registered ones
do is taken as given (`OutsideFunctions`).

The recursion has two parts. Within one formula it is on the tree of the formula, by `values`. From
one formula to the next it is in `follow`, on a number of steps that the limit never lets run out.
-/

set_option autoImplicit false
set_option relaxedAutoImplicit false

namespace Worksheet

/-- The cells whose formulas are being evaluated. -/
abbrev Visiting := Std.ExtTreeSet Address

/-- A computation that may fail for a cause, with the cells in progress as its state. -/
abbrev Evaluation := ExceptT FormulaError (StateM Visiting)

namespace Evaluation

variable {α : Type}

/-- What an evaluation gives when some cells are in progress, and the cells that are in progress
afterwards. -/
def outcome (evaluation : Evaluation α) (visiting : Visiting) :
    Except FormulaError α × Visiting := evaluation.run.run visiting

/-- Fails or goes on as an outcome does. -/
def ofOutcome : Except FormulaError α → Evaluation α
  | .ok value => pure value
  | .error cause => throw cause

/-- Carries out an evaluation while one more cell is in progress. The cell is taken out again
whether the evaluation fails or not. -/
def during (address : Address) (evaluation : Evaluation α) : Evaluation α := do
  modify fun visiting ↦ visiting.insert address
  let outcome ← ExceptT.lift evaluation.run
  modify fun visiting ↦ visiting.erase address
  ofOutcome outcome

end Evaluation

/-- The outside functions, by number. Such a function may look at the sheet and at the registered
functions as well as at the values of its arguments, and has a value or fails. -/
abbrev OutsideFunctions := Nat → List Value → Sheet → Registry → Except FormulaError Value

/-- Outside functions that look at nothing but the values of their arguments. -/
def OutsideFunctions.ofValues (result : Nat → List Value → Except FormulaError Value) :
    OutsideFunctions := fun number values _ _ ↦ result number values

/-- What formulas are evaluated on: a sheet that references are read from, and the functions that
can be called. -/
structure Context where
  /-- The sheet that references are read from. -/
  sheet : Sheet
  /-- The functions that can be called. -/
  registry : Registry
  /-- The outside functions among them. -/
  outside : OutsideFunctions

namespace Context

/-- A sheet with the built-in functions. None of them is an outside function. -/
def builtIn (sheet : Sheet) : Context := ⟨sheet, .builtIn, .ofValues fun _ _ ↦ .ok .empty⟩

/-- The length to which a chain of followed cells may grow. -/
def depthLimit : Nat := 256

/-- The cells of a region that can have a value or be circular, in row-major order: all of its cells
if there are no more of them than cells stored or in progress, and else those of its cells that are
stored or in progress. All others are empty. The stored cells and those in progress may be listed in
any order. -/
def candidatesAmong (stored : List Cell) (inProgress : List Address) (region : Region) :
    List Address :=
  if region.cellCount ≤ stored.length + inProgress.length then region.addresses
  else
    let inside := (stored.map Cell.address ++ inProgress).filter region.contains
    (inside.mergeSort Address.le).eraseReps

/-- The cells of a region that can have a value or be circular when some cells are in progress. -/
def candidates (context : Context) (region : Region) (visiting : Visiting) : List Address :=
  candidatesAmong context.sheet.storedCells visiting.toList region

section Rules

variable (context : Context) (followed : String → Evaluation Value)

/-- The value of the cell at an address, given how the formulas of other cells are evaluated. A
formula that consists of its own address alone is not followed, and has its stored value. -/
def resolveWith (address : Address) : Evaluation Value := do
  let visiting ← get
  if visiting.contains address then throw .circularReference
  match context.sheet.cell? address with
  | none => return .empty
  | some cell =>
    match cell.formula with
    | none => return cell.computed
    | some formula =>
      if Formula.body formula = address.toA1 then return cell.computed
      else if depthLimit < visiting.size then throw (.referenceDepthExceeded depthLimit)
      else Evaluation.during address (followed formula)

/-- The values of the cells of a region that are not empty, in row-major order. -/
def expandWith (region : Region) : Evaluation (List Value) := do
  let visiting ← get
  let values ← (context.candidates region visiting).mapM (context.resolveWith followed)
  return values.filter fun value ↦ !value.isEmpty

/-- What a function comes to for the values of its arguments. -/
def result (definition : FunctionDefinition) (values : List Value) : Except FormulaError Value :=
  match definition.implementation with
  | .rule value => .ok (value values)
  | .outside number => context.outside number values context.sheet context.registry

/-- The result of a function as the value of a call. A number must be finite. -/
def checkResult (definition : FunctionDefinition) : Value → Except FormulaError Value
  | .number number =>
    if number.isFinite then .ok (.number number)
    else .error (.numericOverflow definition.name)
  | value => .ok value

/-- The value of a call, given the values of its arguments. The name and the number of arguments are
looked at before any argument is evaluated. -/
def callWith (name : String) (count : Nat) (arguments : Evaluation (List Value)) :
    Evaluation Value := do
  match context.registry.find? name with
  | none => throw (.unknownFunction name)
  | some definition =>
    Evaluation.ofOutcome (definition.checkArity count)
    let values ← arguments
    let result ← Evaluation.ofOutcome (context.result definition values)
    Evaluation.ofOutcome (checkResult definition result)

mutual

/-- The values of an argument: several for a range, and one for anything else. -/
def values : Expression → Evaluation (List Value)
  | .call name arguments => do
    return [← context.callWith name arguments.length (argumentValues arguments)]
  | .range region => context.expandWith followed region
  | .reference address => do return [← context.resolveWith followed address]
  | .literal text => return [.text text]
  | .invalid cause => throw cause

/-- The values of some arguments, evaluated from left to right. -/
def argumentValues : List Expression → Evaluation (List Value)
  | [] => return []
  | argument :: later => do
    let first ← values argument
    let rest ← argumentValues later
    return first ++ rest

end

/-- The value of a formula. -/
def formulaValue : Formula → Evaluation Value
  | .constant value => return value
  | .reference address => context.resolveWith followed address
  | .call name arguments =>
    context.callWith name arguments.length (context.argumentValues followed arguments)

/-- The value of a formula text, given how the formulas of other cells are evaluated. -/
def evaluateWith (text : String) : Evaluation Value := do
  let formula ← Evaluation.ofOutcome (Formula.read text)
  context.formulaValue followed formula

end Rules

/-- The value of the formula of a followed cell, from which a number of further steps to followed
cells may be taken. -/
def follow (context : Context) : Nat → String → Evaluation Value
  | 0, _ => throw (.referenceDepthExceeded depthLimit)
  | steps + 1, text => context.evaluateWith (context.follow steps) text

/-- A number of steps that no chain of followed cells takes. Each step has one cell more in
progress, and none is taken with more cells in progress than the limit. -/
def stepBound : Nat := depthLimit + 1

/-- The value of a formula text. -/
def evaluate (context : Context) (text : String) : Evaluation Value :=
  context.evaluateWith (context.follow stepBound) text

/-- The value of the cell at an address. -/
def resolve (context : Context) (address : Address) : Evaluation Value :=
  context.resolveWith (context.follow stepBound) address

/-- The values of the cells of a region that are not empty. -/
def expand (context : Context) (region : Region) : Evaluation (List Value) :=
  context.expandWith (context.follow stepBound) region

/-- The value of the cell that a text names. -/
def resolveText (context : Context) (text : String) : Evaluation Value := do
  context.resolve (← Evaluation.ofOutcome (Formula.readAddress text))

/-- The values of the cells that are not empty between two corners given by their texts. -/
def expandTexts (context : Context) (first last : String) : Evaluation (List Value) := do
  context.expand (← Evaluation.ofOutcome (Formula.readRegion first last))

/-- The value of a formula text as the content of a cell, which is in progress meanwhile. -/
def evaluateCell? (context : Context) (target : Address) (text : String) :
    Except FormulaError Value :=
  ((context.evaluate text).outcome (Std.ExtTreeSet.ofList [target])).1

/-- The value of a formula text as the content of a cell, where a failure is an error value. -/
def evaluateCell (context : Context) (target : Address) (text : String) : Value :=
  match context.evaluateCell? target text with
  | .ok value => value
  | .error cause => .error cause.message

end Context

end Worksheet
