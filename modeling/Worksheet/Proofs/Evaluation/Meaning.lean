import Worksheet.Proofs.Evaluation.Candidates
import Worksheet.Proofs.Evaluation.Outcome
import Worksheet.Proofs.Sheet.Cells

/-!
# The meaning of formulas

An account of evaluation without state and without a bound on its steps. All that an evaluation sees
of a sheet is, for each cell, a value or a formula to follow (`Sheet.content`), and all that it sees
of the functions is which name finds which of them and what they come to (`Functions`). A formula
has a meaning once single cells can be looked up (`Formula.meaning`), where a range is walked
through as a whole. Looking up a cell is a recursion on the number of cells that may still be
followed (`Context.lookup`).

The evaluator agrees with this account (`yields_resolve`, `yields_expand`, `yields_evaluate`,
`evaluateCell?_eq`): it gives the same values and failures, leaves the cells in progress as they
were and never runs out of steps.
-/

set_option autoImplicit false
set_option relaxedAutoImplicit false

namespace Worksheet

/-! ### Contents -/

/-- What a reference to a cell comes upon. -/
inductive Content where
  /-- A value as it stands. -/
  | value (value : Value)
  /-- A formula that is followed. -/
  | formula (text : String)

namespace Content

/-- Whether a formula is followed. -/
def isFormula : Content → Bool
  | value _ => false
  | formula _ => true

end Content

namespace Sheet

/-- The formula of a cell that references to it follow. A formula that consists of its own address
alone is not followed. -/
def followed? (sheet : Sheet) (address : Address) : Option String :=
  (sheet.formula? address).filter fun formula ↦ Formula.body formula ≠ address.toA1

/-- What a reference to a cell of a sheet comes upon: the formula to follow or, where there is none,
the value that is seen at the address. -/
def content (sheet : Sheet) (address : Address) : Content :=
  match sheet.followed? address with
  | some formula => .formula formula
  | none => .value (sheet.valueAt address)

theorem content_of_unstored {sheet : Sheet} {address : Address}
    (unstored : sheet.cell? address = none) : sheet.content address = .value .empty := by
  rw [content, followed?, formula?, valueAt, unstored]
  rfl

theorem content_of_followed {sheet : Sheet} {place : Address} {formula : String}
    (found : sheet.formula? place = some formula) (followed : Formula.body formula ≠ place.toA1) :
    sheet.content place = .formula formula := by
  rw [content, followed?, found, Option.filter_some_pos (by simpa using followed)]

theorem content_eq_of_cell? {one other : Sheet} {address : Address}
    (stored : one.cell? address = other.cell? address) :
    one.content address = other.content address := by
  rw [content, content, followed?, followed?, formula?, formula?, valueAt, valueAt, stored]

end Sheet

/-! ### Functions -/

/-- The functions that formulas can call, with what they come to on some sheet. -/
structure Functions where
  /-- The functions by name. -/
  registry : Registry
  /-- What a function comes to for the values of its arguments. -/
  result : FunctionDefinition → List Value → Except FormulaError Value

/-- The functions that formulas can call, as they are carried out on the sheet. -/
def Context.functions (context : Context) : Functions := ⟨context.registry, context.result⟩

theorem Context.registry_functions (context : Context) :
    context.functions.registry = context.registry := rfl

/-- What a function comes to as the value of a call. -/
def Functions.checked (functions : Functions) (definition : FunctionDefinition)
    (values : List Value) : Except FormulaError Value := do
  let result ← functions.result definition values
  Context.checkResult definition result

/-- Functions that look at nothing but values are the same on all sheets. -/
theorem Context.functions_ofValues (one other : Sheet) (registry : Registry)
    (outside : Nat → List Value → Except FormulaError Value) :
    functions ⟨one, registry, .ofValues outside⟩ = functions ⟨other, registry, .ofValues outside⟩ :=
  rfl

/-! ### Meanings -/

/-- A way to look up single cells. -/
abbrev Lookup := Address → Except FormulaError Value

/-- The values of the cells of a region that are not empty, looked up one after the other in
row-major order. -/
def Region.meaning (look : Lookup) (region : Region) : Except FormulaError (List Value) := do
  let values ← region.addresses.mapM look
  return values.filter fun value ↦ !value.isEmpty

section

variable (functions : Functions) (look : Lookup)

/-- The value of a call with a number of arguments that have some values or fail. -/
def Functions.callMeaning (name : String) (count : Nat)
    (arguments : Except FormulaError (List Value)) : Except FormulaError Value :=
  match functions.registry.find? name with
  | none => .error (.unknownFunction name)
  | some definition => do
    definition.checkArity count
    let values ← arguments
    functions.checked definition values

mutual

/-- The values of an argument. -/
def Expression.meaning : Expression → Except FormulaError (List Value)
  | .call name arguments => do
    return [← functions.callMeaning name arguments.length (Expression.meanings arguments)]
  | .range region => region.meaning look
  | .reference address => do return [← look address]
  | .literal text => return [.text text]
  | .invalid cause => throw cause

/-- The values of some arguments, from left to right. -/
def Expression.meanings : List Expression → Except FormulaError (List Value)
  | [] => return []
  | argument :: later => do
    let first ← argument.meaning
    let rest ← Expression.meanings later
    return first ++ rest

end

/-- The value of a formula. -/
def Formula.meaning : Formula → Except FormulaError Value
  | .constant value => return value
  | .reference address => look address
  | .call name arguments =>
    functions.callMeaning name arguments.length (Expression.meanings functions look arguments)

/-- The value of a formula text. -/
def Formula.textMeaning (text : String) : Except FormulaError Value := do
  let formula ← Formula.read text
  formula.meaning functions look

end

namespace Context

/-- The value of the cell at an address when some cells are in progress. -/
def lookup (functions : Functions) (content : Address → Content) (visiting : Visiting)
    (address : Address) : Except FormulaError Value :=
  if address ∈ visiting then .error .circularReference
  else
    match content address with
    | .value value => .ok value
    | .formula text =>
      if depthLimit < visiting.size then .error (.referenceDepthExceeded depthLimit)
      else
        Formula.textMeaning functions
          (fun next ↦ lookup functions content (visiting.insert address) next) text
termination_by depthLimit + 1 - visiting.size
decreasing_by
  rename_i absent within
  rw [Visiting.size_insert absent]
  omega

/-! ### One formula -/

section

variable {context : Context} {followed : String → Evaluation Value} {visiting : Visiting}
  {look : Lookup}

/-- A cell that is neither stored nor in progress is empty. -/
theorem yields_resolveWith_empty {address : Address} (absent : address ∉ visiting)
    (unstored : context.sheet.cell? address = none) :
    (context.resolveWith followed address).Yields visiting (.ok .empty) := by
  refine Evaluation.Yields.get_bind ?_
  rw [if_neg fun member ↦ absent (Std.ExtTreeSet.contains_iff_mem.mp member), unstored]
  exact Evaluation.yields_pure Value.empty visiting

/-- Leaving out members without a value does not change the values of a list, nor its first
failure. -/
theorem filter_mapM_eq (kept : Address → Bool) (list : List Address)
    (empty : ∀ address ∈ list, kept address = false → look address = .ok .empty) :
    (do let values ← list.mapM look; return values.filter fun value ↦ !value.isEmpty) =
      (do
        let values ← (list.filter kept).mapM look
        return values.filter fun value ↦ !value.isEmpty : Except FormulaError (List Value)) := by
  induction list with
  | nil => rfl
  | cons head tail ih =>
    rw [List.forall_mem_cons] at empty
    have later := ih empty.2
    cases keep : kept head with
    | false =>
      rw [List.filter_cons_of_neg (by simp [keep]), ← later, List.mapM_cons, empty.1 keep]
      cases tail.mapM look <;> rfl
    | true =>
      rw [List.filter_cons_of_pos keep, List.mapM_cons, List.mapM_cons]
      cases look head with
      | error cause => rfl
      | ok value =>
        cases first : tail.mapM look <;> cases second : (tail.filter kept).mapM look <;>
          simp_all [pure, bind, Except.pure, Except.bind, List.filter_cons]

/-- A walk through a region may keep to its candidates if cells that are neither stored nor in
progress are empty. -/
theorem meaning_eq_candidates
    (empty : ∀ address ∉ visiting, context.sheet.cell? address = none →
      look address = .ok .empty) (region : Region) :
    region.meaning look = do
      let values ← (context.candidates region visiting).mapM look
      return values.filter fun value ↦ !value.isEmpty := by
  rw [candidates, candidatesAmong_eq, Region.meaning]
  split
  · rfl
  · refine filter_mapM_eq _ _ fun address _ left ↦ ?_
    rw [decide_eq_false_iff_not, List.mem_append, not_or, Std.ExtTreeSet.mem_toList,
      Sheet.mem_map_address_storedCells, Option.not_isSome_iff_eq_none] at left
    exact empty address left.2 left.1

/-- Visiting the candidates of a region gives the values that a walk through all of it gives. -/
theorem yields_expandWith
    (agree : ∀ address, (context.resolveWith followed address).Yields visiting (look address))
    (region : Region) :
    (context.expandWith followed region).Yields visiting (region.meaning look) := by
  rw [meaning_eq_candidates fun address absent unstored ↦
    (agree address).unique (yields_resolveWith_empty absent unstored)]
  refine Evaluation.Yields.get_bind ?_
  refine (Evaluation.yields_mapM fun address _ ↦ agree address).bind fun values ↦ ?_
  exact Evaluation.yields_pure _ visiting

theorem yields_callWith {arguments : Evaluation (List Value)}
    {results : Except FormulaError (List Value)} (agree : arguments.Yields visiting results)
    (name : String) (count : Nat) :
    (context.callWith name count arguments).Yields visiting
      (context.functions.callMeaning name count results) := by
  rw [callWith, Functions.callMeaning, registry_functions]
  cases context.registry.find? name with
  | none => exact Evaluation.yields_throw _ visiting
  | some definition =>
    refine (Evaluation.yields_ofOutcome _ visiting).bind fun _ ↦ ?_
    refine agree.bind fun values ↦ ?_
    refine (Evaluation.yields_ofOutcome _ visiting).bind fun result ↦ ?_
    exact Evaluation.yields_ofOutcome _ visiting

mutual

theorem yields_values
    (agree : ∀ address, (context.resolveWith followed address).Yields visiting (look address)) :
    ∀ expression : Expression, (context.values followed expression).Yields visiting
      (expression.meaning context.functions look)
  | .call name arguments => by
    rw [values, Expression.meaning]
    refine (yields_callWith (yields_argumentValues agree arguments) name _).bind fun value ↦ ?_
    exact Evaluation.yields_pure [value] visiting
  | .range region => by
    rw [values, Expression.meaning]
    exact yields_expandWith agree region
  | .reference address => by
    rw [values, Expression.meaning]
    exact (agree address).bind fun value ↦ Evaluation.yields_pure [value] visiting
  | .literal text => by
    rw [values, Expression.meaning]
    exact Evaluation.yields_pure _ visiting
  | .invalid cause => by
    rw [values, Expression.meaning]
    exact Evaluation.yields_throw cause visiting

theorem yields_argumentValues
    (agree : ∀ address, (context.resolveWith followed address).Yields visiting (look address)) :
    ∀ arguments : List Expression, (context.argumentValues followed arguments).Yields visiting
      (Expression.meanings context.functions look arguments)
  | [] => by
    rw [argumentValues, Expression.meanings]
    exact Evaluation.yields_pure [] visiting
  | argument :: later => by
    rw [argumentValues, Expression.meanings]
    refine (yields_values agree argument).bind fun first ↦ ?_
    refine (yields_argumentValues agree later).bind fun rest ↦ ?_
    exact Evaluation.yields_pure (first ++ rest) visiting

end

theorem yields_evaluateWith
    (agree : ∀ address, (context.resolveWith followed address).Yields visiting (look address))
    (text : String) :
    (context.evaluateWith followed text).Yields visiting
      (Formula.textMeaning context.functions look text) := by
  refine (Evaluation.yields_ofOutcome _ visiting).bind fun formula ↦ ?_
  cases formula with
  | constant value => exact Evaluation.yields_pure value visiting
  | reference address => exact agree address
  | call name arguments => exact yields_callWith (yields_argumentValues agree arguments) name _

end

/-! ### From one formula to the next -/

variable {context : Context}

/-- The cell at an address has its value if formulas have theirs while it is in progress. -/
theorem yields_resolveWith {followed : String → Evaluation Value} {visiting : Visiting}
    {address : Address}
    (inner : address ∉ visiting → visiting.size ≤ depthLimit → ∀ text,
      (followed text).Yields (visiting.insert address) (Formula.textMeaning context.functions
        (lookup context.functions context.sheet.content (visiting.insert address)) text)) :
    (context.resolveWith followed address).Yields visiting
      (lookup context.functions context.sheet.content visiting address) := by
  refine Evaluation.Yields.get_bind ?_
  rw [lookup]
  by_cases member : address ∈ visiting
  · rw [if_pos (Std.ExtTreeSet.contains_iff_mem.mpr member), if_pos member]
    exact Evaluation.yields_throw _ visiting
  · rw [if_neg fun contained ↦ member (Std.ExtTreeSet.contains_iff_mem.mp contained),
      if_neg member, Sheet.content, Sheet.followed?, Sheet.formula?, Sheet.valueAt]
    cases context.sheet.cell? address with
    | none => exact Evaluation.yields_pure _ visiting
    | some cell =>
      cases written : cell.formula with
      | none =>
        simp only [written, Option.bind_some, Option.filter_none]
        exact Evaluation.yields_pure _ visiting
      | some formula =>
        simp only [written, Option.bind_some]
        by_cases own : Formula.body formula = address.toA1
        · rw [if_pos own, Option.filter_some_neg (by simpa using own)]
          exact Evaluation.yields_pure _ visiting
        · rw [if_neg own, Option.filter_some_pos (by simpa using own)]
          by_cases deep : depthLimit < visiting.size
          · simp only [if_pos deep]
            exact Evaluation.yields_throw _ visiting
          · simp only [if_neg deep]
            exact (inner member (Nat.le_of_not_lt deep) formula).during member

/-- The steps never run out: as many are left as cells may still be followed. -/
theorem yields_resolveWith_follow (steps : Nat) :
    ∀ visiting : Visiting, depthLimit < visiting.size + steps → ∀ address,
      (context.resolveWith (context.follow steps) address).Yields visiting
        (lookup context.functions context.sheet.content visiting address) := by
  induction steps with
  | zero =>
    intro visiting enough address
    exact yields_resolveWith fun _ within ↦ absurd enough (Nat.not_lt.mpr within)
  | succ steps ih =>
    intro visiting enough address
    refine yields_resolveWith fun absent _ text ↦ yields_evaluateWith (ih _ ?_) text
    rw [Visiting.size_insert absent]
    omega

theorem depthLimit_lt_add_stepBound (visiting : Visiting) :
    depthLimit < visiting.size + stepBound := by
  unfold stepBound
  omega

/-- Resolving a cell looks it up. -/
theorem yields_resolve (context : Context) (visiting : Visiting) (address : Address) :
    (context.resolve address).Yields visiting
      (lookup context.functions context.sheet.content visiting address) :=
  yields_resolveWith_follow stepBound visiting (depthLimit_lt_add_stepBound visiting) address

/-- Expanding a region walks through all of it. -/
theorem yields_expand (context : Context) (visiting : Visiting) (region : Region) :
    (context.expand region).Yields visiting
      (region.meaning (lookup context.functions context.sheet.content visiting)) :=
  yields_expandWith (context.yields_resolve visiting) region

/-- Evaluating a formula text gives its meaning. -/
theorem yields_evaluate (context : Context) (visiting : Visiting) (text : String) :
    (context.evaluate text).Yields visiting (Formula.textMeaning context.functions
      (lookup context.functions context.sheet.content visiting) text) :=
  yields_evaluateWith (context.yields_resolve visiting) text

/-- Resolving the text of a cell looks up the cell that it names. -/
theorem yields_resolveText (context : Context) (visiting : Visiting) (text : String) :
    (context.resolveText text).Yields visiting (Formula.readAddress text >>=
      lookup context.functions context.sheet.content visiting) :=
  (Evaluation.yields_ofOutcome _ visiting).bind (context.yields_resolve visiting)

/-- Expanding the texts of two corners walks through the region between them. -/
theorem yields_expandTexts (context : Context) (visiting : Visiting) (first last : String) :
    (context.expandTexts first last).Yields visiting (Formula.readRegion first last >>=
      Region.meaning (lookup context.functions context.sheet.content visiting)) :=
  (Evaluation.yields_ofOutcome _ visiting).bind (context.yields_expand visiting)

/-- The value of a formula text as the content of a cell is its meaning while the cell is in
progress. -/
theorem evaluateCell?_eq (context : Context) (target : Address) (text : String) :
    context.evaluateCell? target text = Formula.textMeaning context.functions
      (lookup context.functions context.sheet.content (Std.ExtTreeSet.ofList [target])) text := by
  have whole := context.yields_evaluate (Std.ExtTreeSet.ofList [target]) text
  exact congrArg Prod.fst whole

end Context

end Worksheet
