import Worksheet.Proofs.Evaluation.Calls

/-!
# Why calls fail

A call looks first at its name, then at the number of its arguments, then at the arguments from left
to right, and at last at what the function comes to. The first of these that is faulty is the
failure, and nothing behind it is looked at (`Context.callText_failures`).
-/

set_option autoImplicit false
set_option relaxedAutoImplicit false

namespace Worksheet

/-! ### The order of failures -/

/-- Along a list, the first failure is the result. -/
theorem mapM_eq_error_of_first {ε α β : Type} {look : α → Except ε β} {before : List α}
    {failing : α} {cause : ε} (sound : ∀ member ∈ before, ∃ value, look member = .ok value)
    (failed : look failing = .error cause) (after : List α) :
    (before ++ failing :: after).mapM look = .error cause := by
  induction before with
  | nil =>
    rw [List.nil_append, List.mapM_cons, failed]
    rfl
  | cons first before ih =>
    obtain ⟨⟨value, found⟩, sound⟩ := List.forall_mem_cons.mp sound
    rw [List.cons_append, List.mapM_cons, found, ih sound]
    rfl

namespace Functions

variable {functions : Functions} {name : String} {count : Nat}
  {arguments : Except FormulaError (List Value)}

theorem callMeaning_of_unknown (unknown : functions.registry.find? name = none) :
    functions.callMeaning name count arguments = .error (.unknownFunction name) := by
  rw [callMeaning, unknown]

variable {definition : FunctionDefinition}
  (known : functions.registry.find? name = some definition)

include known

theorem callMeaning_of_refused (refused : ¬ definition.Accepts count) :
    functions.callMeaning name count arguments =
      .error (.argumentCountMismatch definition.name (definition.expected count) count) := by
  rw [callMeaning, known]
  simp only [FunctionDefinition.checkArity_of_not_accepts refused]
  rfl

theorem callMeaning_of_accepted (accepted : definition.Accepts count) :
    functions.callMeaning name count arguments = arguments >>= functions.checked definition := by
  rw [callMeaning, known]
  simp only [FunctionDefinition.checkArity_of_accepts accepted]
  rfl

end Functions

namespace Context

/-- What a call with the texts of some arguments comes to, in the order in which it is found out. -/
structure FailsInOrder (registry : Registry) (name : String) (arguments : List String) : Prop where
  /-- A name that is not registered is the failure, on any sheet and with any cells in progress. -/
  unknown : registry.find? name = none → ∀ sheet outside visiting,
    (callText ⟨sheet, registry, outside⟩ name arguments).Yields visiting
      (.error (.unknownFunction name))
  /-- Else, a number of arguments that is not accepted is the failure, whatever their texts are, on
  any sheet and with any cells in progress. -/
  refused : ∀ definition, registry.find? name = some definition →
    ¬ definition.Accepts arguments.length →
      ∀ sheet outside visiting others, others.length = arguments.length →
        (callText ⟨sheet, registry, outside⟩ name others).Yields visiting
          (.error (.argumentCountMismatch definition.name (definition.expected arguments.length)
            arguments.length))
  /-- Else, the failure of the first argument that fails is the failure, whatever the texts of the
  arguments behind it are. -/
  first_failing : ∀ definition, registry.find? name = some definition →
    definition.Accepts arguments.length →
      ∀ sheet outside visiting before failing after cause, arguments = before ++ failing :: after →
        (∀ argument ∈ before, ∃ values,
          (argumentText ⟨sheet, registry, outside⟩ argument).Yields visiting (.ok values)) →
        (argumentText ⟨sheet, registry, outside⟩ failing).Yields visiting (.error cause) →
          ∀ others, others.length = after.length →
            (callText ⟨sheet, registry, outside⟩ name (before ++ failing :: others)).Yields visiting
              (.error cause)
  /-- Else, only the function can fail or its result be faulty. -/
  all_sound : ∀ definition, registry.find? name = some definition →
    definition.Accepts arguments.length →
      ∀ sheet outside visiting resolved,
        arguments.mapM (argumentResult ⟨sheet, registry, outside⟩ visiting) = .ok resolved →
          (callText ⟨sheet, registry, outside⟩ name arguments).Yields visiting do
            let result ← Context.result ⟨sheet, registry, outside⟩ definition resolved.flatten
            checkResult definition result

theorem failsInOrder (registry : Registry) (name : String) (arguments : List String) :
    FailsInOrder registry name arguments := by
  constructor
  case unknown =>
    intro unknown sheet outside visiting
    have called := yields_callText ⟨sheet, registry, outside⟩ visiting name arguments
    rwa [Functions.callMeaning_of_unknown unknown] at called
  case refused =>
    intro definition known refused sheet outside visiting others length
    have called := yields_callText ⟨sheet, registry, outside⟩ visiting name others
    rwa [length, Functions.callMeaning_of_refused known refused] at called
  case first_failing =>
    intro definition known accepted sheet outside visiting before failing after cause parted sound
      failed others length
    let context : Context := ⟨sheet, registry, outside⟩
    have same : (before ++ failing :: others).length = arguments.length := by
      rw [parted, List.length_append, List.length_append, List.length_cons, List.length_cons,
        length]
    have called := context.yields_callText visiting name (before ++ failing :: others)
    have walked : (before ++ failing :: others).mapM (context.argumentResult visiting) =
        .error cause := by
      have first : context.argumentResult visiting failing = .error cause :=
        congrArg Prod.fst failed
      refine mapM_eq_error_of_first (fun argument member ↦ ?_) first others
      obtain ⟨values, resolved⟩ := sound argument member
      exact ⟨values, congrArg Prod.fst resolved⟩
    rw [same, Functions.callMeaning_of_accepted known accepted, walked] at called
    exact called
  case all_sound =>
    intro definition known accepted sheet outside visiting resolved walked
    have called := yields_callText ⟨sheet, registry, outside⟩ visiting name arguments
    rw [Functions.callMeaning_of_accepted known accepted, walked] at called
    exact called

/-- The failures of a call have a fixed order, and nothing behind the first of them is looked at:
the name, the number of arguments, the arguments from left to right, the function. This holds of
calls that are whole formulas and of those that are arguments, and the bounds on the number of
arguments are both kept, also when the largest number is below the smallest. -/
theorem callText_failures (registry : Registry) (name : String) (arguments : List String) :
    FailsInOrder registry name arguments ∧
      (∀ (context : Context) text, text.toList.head? = some '=' →
        Formula.parse text = .ok (.call name arguments) →
          context.evaluate text = context.callText name arguments) ∧
      (∀ (context : Context) argument, Formula.classify argument = .ok (.call name arguments) →
        context.argumentText argument = do return [← context.callText name arguments]) ∧
      (∀ (context : Context) visiting argument cause,
        Formula.classify argument = .error cause →
          (context.argumentText argument).Yields visiting (.error cause)) ∧
      ∀ (definition : FunctionDefinition) count,
        definition.checkArity count = .ok () ↔
          definition.minimum ≤ count ∧ ∀ maximum ∈ definition.maximum, count ≤ maximum := by
  refine ⟨failsInOrder registry name arguments, fun _ _ ↦ evaluate_eq_callText,
    fun context argument shape ↦ ?_, fun context visiting argument cause fault ↦ ?_,
    fun definition count ↦ definition.checkArity_eq_ok_iff count⟩
  · rw [argumentText_eq, shape]
  · rw [argumentText_eq, fault]
    exact Evaluation.yields_throw cause visiting

/-- The second of three arguments calls an unknown function, in front of one without an end. -/
theorem callText_failures_in_second_argument :
    ((builtIn Sheet.new).callText "SUM" ["1", "NOPE(2)", "UPPER(A1"]).Yields ∅
      (.error (.unknownFunction "NOPE")) := by
  have first : ((builtIn Sheet.new).argumentText "1").Yields ∅ (.ok [.text "1"]) := by
    rw [argumentText_eq, show Formula.classify "1" = .ok (.literal "1") from rfl]
    exact Evaluation.yields_pure _ _
  have second : ((builtIn Sheet.new).argumentText "NOPE(2)").Yields ∅
      (.error (.unknownFunction "NOPE")) := by
    rw [argumentText_eq, show Formula.classify "NOPE(2)" = .ok (.call "NOPE" ["2"]) from rfl]
    have inner := (failsInOrder .builtIn "NOPE" ["2"]).unknown rfl Sheet.new (builtIn .new).outside ∅
    exact inner.bind fun value ↦ Evaluation.yields_pure [value] ∅
  have order := (callText_failures .builtIn "SUM" ["1", "NOPE(2)", "3"]).1
  refine order.first_failing _ rfl ⟨by decide, by decide⟩ Sheet.new _ ∅ ["1"] "NOPE(2)" ["3"] _ rfl
    (fun argument member ↦ ⟨[.text "1"], ?_⟩) second ["UPPER(A1"] rfl
  rw [List.mem_singleton.mp member]
  exact first

end Context

end Worksheet
