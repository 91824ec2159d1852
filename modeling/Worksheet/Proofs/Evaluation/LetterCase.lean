import Worksheet.Proofs.Evaluation.CallFailures
import Worksheet.Proofs.Formula.LetterCase
import Worksheet.Proofs.Function.Registrations

/-!
# Letter case in evaluation

A function is found by its name in upper case, and an argument that differs from another in the case
of called names only comes to the same (`Context.agree_argumentResult`). So formulas that differ in
this way have the same value on every sheet, or fail for causes of the same kind
(`Context.evaluateAlike_of_recasedFormula`). With what registrations do to a registry, this makes it
a map from names in any case to functions (`Registry.case_insensitive_map`).
-/

set_option autoImplicit false
set_option relaxedAutoImplicit false

namespace Worksheet

open Formula FormulaError

namespace Agree

variable {α β : Type}

/-- An outcome agrees with itself. -/
theorem refl (result : Except FormulaError α) : Agree SameKind Eq result result := by
  cases result with
  | error cause => exact .error rfl
  | ok value => exact .ok rfl

/-- After outcomes with the same value, outcomes agree if they do for that value. -/
theorem bind_same {one other : Except FormulaError α} {f g : α → Except FormulaError β}
    (agree : Agree SameKind Eq one other) (each : ∀ value, Agree SameKind Eq (f value) (g value)) :
    Agree SameKind Eq (one >>= f) (other >>= g) := by
  refine agree.bind fun value _ same ↦ ?_
  subst same
  exact each value

/-- Along two lists whose members have outcomes that agree, the results agree. -/
theorem mapM {look : α → Except FormulaError β} {list others : List α}
    (each : List.Forall₂ (fun member other ↦ Agree SameKind Eq (look member) (look other))
      list others) :
    Agree SameKind Eq (list.mapM look) (others.mapM look) := by
  induction each with
  | nil => exact refl _
  | cons first _ ih =>
    rw [List.mapM_cons, List.mapM_cons]
    exact first.bind_same fun value ↦ ih.bind_same fun values ↦ refl _

end Agree

/-! ### Calls -/

/-- Calls of names that are the same up to case agree if their arguments do. -/
theorem Functions.agree_callMeaning (functions : Functions) {name otherName : String} (count : Nat)
    {arguments others : Except FormulaError (List Value)} (names : SameSpelling name otherName)
    (same : Agree SameKind Eq arguments others) :
    Agree SameKind Eq (functions.callMeaning name count arguments)
      (functions.callMeaning otherName count others) := by
  have found : functions.registry.find? name = functions.registry.find? otherName := by
    rw [Registry.find?, Registry.find?, Text.uppercase_eq names]
  unfold callMeaning
  rw [found]
  cases functions.registry.find? otherName with
  | none => exact .error rfl
  | some definition =>
    refine (Agree.refl (definition.checkArity count)).bind_same fun _ ↦ ?_
    exact same.bind_same fun values ↦ .refl _

namespace Context

variable (context : Context) (visiting : Visiting)

/-- What the text of an argument comes to that is a call. -/
theorem argumentResult_of_call {argument name : String} {arguments : List String}
    (shape : classify argument = .ok (.call name arguments)) :
    context.argumentResult visiting argument = (do
      return [← context.functions.callMeaning name arguments.length do
        return (← arguments.mapM (context.argumentResult visiting)).flatten]) := by
  rw [argumentResult, argumentText_eq, shape]
  have called := context.yields_callText visiting name arguments
  exact congrArg Prod.fst (called.bind fun value ↦ Evaluation.yields_pure [value] visiting)

theorem argumentResult_of_fault {argument : String} {cause : FormulaError}
    (fault : classify argument = .error cause) :
    context.argumentResult visiting argument = .error cause := by
  rw [argumentResult, argumentText_eq, fault]
  rfl

/-- Calls whose names are the same up to case agree if their arguments do one by one. -/
theorem agree_callMeaning {name otherName : String} {arguments others : List String}
    (names : SameSpelling name otherName)
    (inside : List.Forall₂ (fun argument other ↦ Agree SameKind Eq
      (context.argumentResult visiting argument) (context.argumentResult visiting other))
        arguments others) :
    Agree SameKind Eq
      (context.functions.callMeaning name arguments.length do
        return (← arguments.mapM (context.argumentResult visiting)).flatten)
      (context.functions.callMeaning otherName others.length do
        return (← others.mapM (context.argumentResult visiting)).flatten) := by
  rw [inside.length_eq]
  refine context.functions.agree_callMeaning others.length names ?_
  exact (Agree.mapM inside).bind_same fun values ↦ .refl _

/-- Arguments that differ in the case of called names only come to the same. -/
theorem agree_argumentResult {one other : String} (recased : Recased one other) :
    Agree SameKind Eq (context.argumentResult visiting one)
      (context.argumentResult visiting other) := by
  refine recased.induction (fun one other ↦ Agree SameKind Eq
    (context.argumentResult visiting one) (context.argumentResult visiting other))
      ?same ?call ?unreadable
  case same => exact fun text ↦ .refl _
  case call =>
    intro one other name otherName arguments others letters shape otherShape inside
    obtain ⟨_, _, again, names, _⟩ := exists_classify_eq_call letters shape
    cases otherShape.symm.trans again
    rw [argumentResult_of_call context visiting shape,
      argumentResult_of_call context visiting otherShape]
    exact (context.agree_callMeaning visiting names inside).bind_same fun value ↦ .refl _
  case unreadable =>
    intro one other cause letters fault
    obtain ⟨otherCause, otherFault, same⟩ := exists_classify_eq_error letters fault
    rw [argumentResult_of_fault context visiting fault,
      argumentResult_of_fault context visiting otherFault]
    exact .error same

/-! ### Formulas -/

/-- A formula that cannot be parsed fails. -/
theorem yields_evaluate_of_fault {text : String} {cause : FormulaError}
    (fault : parse ("=" ++ text) = .error cause) :
    (context.evaluate ("=" ++ text)).Yields visiting (.error cause) := by
  have read : Formula.read ("=" ++ text) = .error cause := by
    rw [Formula.read, if_neg (not_not_intro (head?_equals text)), fault]
    rfl
  rw [evaluate, evaluateWith, read]
  exact Evaluation.yields_throw cause visiting

/-- Two evaluations on the same sheet, with the same cells in progress, leave these as they were and
give the same value, or fail for causes of the same kind. -/
def EvaluateAlike (one other : String) : Prop :=
  ∃ result otherResult, (context.evaluate one).Yields visiting result ∧
    (context.evaluate other).Yields visiting otherResult ∧ Agree SameKind Eq result otherResult

theorem evaluateAlike_of_fault {one other : String} {cause : FormulaError}
    (letters : SameSpelling one other) (fault : parse ("=" ++ one) = .error cause) :
    context.EvaluateAlike visiting ("=" ++ one) ("=" ++ other) := by
  have agree := agree_parse_equals letters
  rw [fault] at agree
  generalize parsed : parse ("=" ++ other) = outcome at agree
  cases agree with
  | @error _ otherCause same =>
    exact ⟨_, _, context.yields_evaluate_of_fault visiting fault,
      context.yields_evaluate_of_fault visiting parsed, .error same⟩

theorem evaluateAlike_of_recased {one other : String} (recased : Recased one other) :
    context.EvaluateAlike visiting ("=" ++ one) ("=" ++ other) := by
  cases recased with
  | same =>
    have whole := context.yields_evaluate visiting ("=" ++ one)
    exact ⟨_, _, whole, whole, .refl _⟩
  | @call _ _ name otherName arguments others letters shape otherShape inside =>
    obtain ⟨_, _, again, names, _⟩ := exists_classify_eq_call letters shape
    cases otherShape.symm.trans again
    have agree := inside.imp fun _ _ ↦ context.agree_argumentResult visiting
    refine ⟨_, _, ?_, ?_, context.agree_callMeaning visiting names agree⟩
    · rw [evaluate_eq_callText (head?_equals _) (parse_equals_of_call shape)]
      exact context.yields_callText visiting name arguments
    · rw [evaluate_eq_callText (head?_equals _) (parse_equals_of_call otherShape)]
      exact context.yields_callText visiting otherName others
  | unreadable letters fault =>
    exact context.evaluateAlike_of_fault visiting letters (parse_equals_of_fault fault)

/-- Formulas that differ in the case of called names only have the same value, or fail for causes of
the same kind. -/
theorem evaluateAlike_of_recasedFormula {one other : String} (recased : RecasedFormula one other) :
    context.EvaluateAlike visiting one other := by
  cases recased with
  | body recased => exact context.evaluateAlike_of_recased visiting recased
  | unreadable letters fault => exact context.evaluateAlike_of_fault visiting letters fault

end Context

namespace Registry

/-- A registry is a map from names in any case to functions, whichever registry it begins with and
whatever is registered then. A name finds the function that was registered last among those whose
names are the same in upper case, and none if there is none. There are as many functions as
different names in upper case. The listing has every function that can be found once, in order of
groups and names without ties, whatever the order in which the functions are taken from the map.
Formulas that differ in the case of called names only, at any depth of nesting, have the same value
on every sheet and with any cells in progress, or fail for causes of the same kind. The functions
may be any: outside functions among them may fail and look at the sheet and the registry. -/
theorem case_insensitive_map (start : Start) (calls : List FunctionDefinition) :
    let registered := start.definitions ++ calls
    let registry := calls.foldl register start.registry
    (∀ name, registry.find? name = (registered.filter fun definition ↦
        Text.uppercase definition.name = Text.uppercase name).getLast?) ∧
      registry.size =
        (registered.map fun definition ↦ Text.uppercase definition.name).toFinset.card ∧
      (∀ definition, definition ∈ registry.definitions ↔
        ∃ name, registry.find? name = some definition) ∧
      registry.definitions.Nodup ∧ registry.definitions.Pairwise Before ∧
      (∀ listing : List FunctionDefinition, listing.Perm registry.functions.values →
        listing.mergeSort listedBefore = registry.definitions) ∧
      ∀ sheet outside visiting one other, RecasedFormula one other →
        Context.EvaluateAlike ⟨sheet, registry, outside⟩ visiting one other := by
  intro registered registry
  have built : registry = ofList registered := foldl_register_start start calls
  have keyed : Keyed registry := built ▸ keyed_ofList registered
  have ordered := pairwise_mergeSort keyed (List.Perm.refl _)
  refine ⟨fun name ↦ ?_, ?_, fun definition ↦ mem_definitions keyed, ?_, ordered,
    fun listing same ↦ ?_, fun sheet outside visiting one other recased ↦ ?_⟩
  · rw [built]
    exact find?_ofList registered name
  · rw [built]
    exact size_ofList registered
  · refine ordered.imp fun {one other} before same ↦ ?_
    subst same
    exact before.asymm before
  · exact mergeSort_eq_definitions keyed same
  · exact Context.evaluateAlike_of_recasedFormula ⟨sheet, registry, outside⟩ visiting recased

/-- A call inside of a call, with an outside function in place of the one that first had its name:
it looks at the first cell of the sheet and at the number of functions, and fails where there is
neither. -/
theorem case_insensitive_map_nested_call :
    let registry := register .builtIn ⟨"Sum", 0, none, .outside 7, .text, "Looks around"⟩
    let outside : OutsideFunctions := fun number values sheet registry ↦
      if sheet.valueAt ⟨0, 0⟩ = .empty then .error (.numericOverflow "Sum")
      else .ok (.number (Float.ofNat (number + values.length + registry.size)))
    RecasedFormula "=SUM(trim(\"a\"), 1)" "=sum(TRIM(\"a\"), 1)" ∧
      Context.EvaluateAlike ⟨Sheet.new, registry, outside⟩ ∅ "=SUM(trim(\"a\"), 1)"
        "=sum(TRIM(\"a\"), 1)" := by
  intro registry outside
  have inner : Recased "trim(\"a\")" "TRIM(\"a\")" :=
    .call (by decide) rfl rfl (.cons (.same "\"a\"") .nil)
  have outer : Recased "SUM(trim(\"a\"), 1)" "sum(TRIM(\"a\"), 1)" :=
    .call (by decide) rfl rfl (.cons inner (.cons (.same "1") .nil))
  have whole : RecasedFormula "=SUM(trim(\"a\"), 1)" "=sum(TRIM(\"a\"), 1)" := .body outer
  obtain ⟨_, _, _, _, _, _, law⟩ := case_insensitive_map .builtIn
    [⟨"Sum", 0, none, .outside 7, .text, "Looks around"⟩]
  exact ⟨whole, law Sheet.new outside ∅ _ _ whole⟩

end Registry

end Worksheet
