import Worksheet.Proofs.Evaluation.References

/-!
# Calls and the texts of their arguments

A call has a name and the texts of its arguments, which are resolved one after the other. Each of
them finds the same cells in progress, as the ones before it leave these as they were, so what a
call comes to depends only on what its arguments come to on their own (`yields_callText`). What the
text of an argument comes to is said by its shape (`argumentText_eq`).
-/

set_option autoImplicit false
set_option relaxedAutoImplicit false

namespace Worksheet.Context

/-- The value of a call of a function with the texts of some arguments. -/
def callText (context : Context) (name : String) (arguments : List String) : Evaluation Value :=
  context.formulaValue (context.follow stepBound) (.call name (arguments.map Expression.read))

/-- The values of the text of an argument. -/
def argumentText (context : Context) (argument : String) : Evaluation (List Value) :=
  context.values (context.follow stepBound) (Expression.read argument)

variable {context : Context} {visiting : Visiting}

/-! ### Where calls stand -/

/-- A formula that is a call has the value of the call. -/
theorem evaluate_eq_callText {text name : String} {arguments : List String}
    (begins : text.toList.head? = some '=')
    (shape : Formula.parse text = .ok (.call name arguments)) :
    context.evaluate text = context.callText name arguments := by
  have read : Formula.read text = .ok (.call name (arguments.map Expression.read)) := by
    rw [Formula.read, if_neg (not_not_intro begins), shape]
    rfl
  rw [evaluate, evaluateWith, read, Evaluation.ofOutcome, pure_bind, callText]

/-- The text of an argument has its values by its shape: a call its value, a range the values of its
cells, a reference the value of its cell, and a literal its text. A fault in the shape or in an
address is the failure. -/
theorem argumentText_eq (context : Context) (argument : String) :
    context.argumentText argument =
      match Formula.classify argument with
      | .error cause => throw cause
      | .ok (.call name arguments) => do return [← context.callText name arguments]
      | .ok (.range first last) => context.expandTexts first last
      | .ok (.reference text) => do return [← context.resolveText text]
      | .ok (.literal text) => return [.text text] := by
  rw [argumentText, Expression.read_eq]
  match Formula.classify argument with
  | .error cause => rw [Expression.ofShape, values]
  | .ok (.call name arguments) => rw [Expression.ofShape, values]; rfl
  | .ok (.range first last) =>
    simp only [Expression.ofShape, expandTexts]
    cases Formula.readRegion first last with
    | error cause => rw [Expression.ofRead, values]; rfl
    | ok region => rw [Expression.ofRead, values, Evaluation.ofOutcome, pure_bind, expand]
  | .ok (.reference text) =>
    simp only [Expression.ofShape, resolveText]
    cases Formula.readAddress text with
    | error cause => rw [Expression.ofRead, values]; rfl
    | ok address =>
      rw [Expression.ofRead, values, Evaluation.ofOutcome, pure_bind, resolve]
  | .ok (.literal text) => rw [Expression.ofShape, values]

/-! ### What a call comes to -/

/-- The values that the text of an argument has, or its failure, while some cells are in
progress. -/
def argumentResult (context : Context) (visiting : Visiting) (argument : String) :
    Except FormulaError (List Value) :=
  ((context.argumentText argument).outcome visiting).1

theorem yields_argumentText_meaning (context : Context) (visiting : Visiting) (argument : String) :
    (context.argumentText argument).Yields visiting ((Expression.read argument).meaning
      context.functions (lookup context.functions context.sheet.content visiting)) :=
  yields_values (context.yields_resolve visiting) _

/-- A call comes to what its name, the number of its arguments and the results of these come to. Its
arguments are resolved from left to right, with the same cells in progress for each. -/
theorem yields_callText (context : Context) (visiting : Visiting) (name : String)
    (arguments : List String) :
    (context.callText name arguments).Yields visiting
      (context.functions.callMeaning name arguments.length do
        return (← arguments.mapM (context.argumentResult visiting)).flatten) := by
  have each : context.argumentResult visiting = fun argument ↦ (Expression.read argument).meaning
      context.functions (lookup context.functions context.sheet.content visiting) :=
    funext fun argument ↦ congrArg Prod.fst (context.yields_argumentText_meaning visiting argument)
  have resolved := yields_argumentValues (context.yields_resolve visiting)
    (arguments.map Expression.read)
  rw [Expression.meanings_eq, List.mapM_map] at resolved
  rw [each, callText, formulaValue, List.length_map]
  exact yields_callWith resolved name arguments.length

end Worksheet.Context
