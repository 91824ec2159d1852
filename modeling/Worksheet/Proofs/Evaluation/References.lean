import Worksheet.Proofs.Evaluation.Meaning
import Worksheet.Proofs.Formula.Faults
import Worksheet.Proofs.Function.Arity

/-!
# The cells that a formula names

A formula names cells by references and ranges, at any nesting of calls. Its meaning depends on
nothing else: it is the same for two ways to look up cells that agree on the named ones
(`textMeaning_congr`). All named cells have values when the formula has one (`exists_value_of_ok`).
A failure that lies in references comes from a named cell (`exists_named_of_error`), unless a
function fails for such a cause by itself (`Functions.SparesReferences`).
-/

set_option autoImplicit false
set_option relaxedAutoImplicit false

namespace Worksheet

/-! ### Named cells -/

/-- A cell that an argument names, as a reference or in a range, at any nesting of calls. -/
inductive Expression.Names : Expression → Address → Prop
  | reference (address : Address) : Names (.reference address) address
  | range {region : Region} {address : Address} (inside : region.contains address) :
      Names (.range region) address
  | call {name : String} {arguments : List Expression} {argument : Expression} {address : Address}
      (member : argument ∈ arguments) (named : Names argument address) :
      Names (.call name arguments) address

/-- A cell that a formula names. -/
inductive Formula.Names : Formula → Address → Prop
  | reference (address : Address) : Names (.reference address) address
  | call {name : String} {arguments : List Expression} {argument : Expression} {address : Address}
      (member : argument ∈ arguments) (named : argument.Names address) :
      Names (.call name arguments) address

/-- A cell that a formula text names. A text that cannot be read names none. -/
def Formula.TextNames (text : String) (address : Address) : Prop :=
  ∃ formula, Formula.read text = .ok formula ∧ formula.Names address

/-! ### Steps along a list -/

section

variable {ε α β : Type} {look other : α → Except ε β} {list : List α}

theorem ok_bind (value : α) (next : α → Except ε β) : (.ok value >>= next) = next value := rfl

theorem ok_of_toOption {outcome : Except ε α} {value : α}
    (given : outcome.toOption = some value) : outcome = .ok value := by
  cases outcome <;> cases given
  rfl

theorem ok_of_bind {first : Except ε α} {next : α → Except ε β} {result : β}
    (found : first >>= next = .ok result) :
    ∃ value, first = .ok value ∧ next value = .ok result := by
  cases first with
  | error cause => cases found
  | ok value => exact ⟨value, rfl, found⟩

theorem mapM_congr_of_mem (agree : ∀ member ∈ list, look member = other member) :
    list.mapM look = list.mapM other := by
  induction list with
  | nil => rfl
  | cons head tail ih =>
    rw [List.forall_mem_cons] at agree
    rw [List.mapM_cons, List.mapM_cons, agree.1, ih agree.2]

theorem ok_of_mapM {results : List β} (found : list.mapM look = .ok results) :
    ∀ member ∈ list, ∃ result, look member = .ok result := by
  induction list generalizing results with
  | nil => exact List.forall_mem_nil _
  | cons head tail ih =>
    rw [List.mapM_cons] at found
    obtain ⟨first, headFound, rest⟩ := ok_of_bind found
    obtain ⟨later, tailFound, _⟩ := ok_of_bind rest
    exact List.forall_mem_cons.mpr ⟨⟨first, headFound⟩, ih tailFound⟩

theorem error_of_mapM {cause : ε} (failed : list.mapM look = .error cause) :
    ∃ member ∈ list, look member = .error cause := by
  induction list with
  | nil => cases failed
  | cons head tail ih =>
    rw [List.mapM_cons] at failed
    rcases Formula.error_of_bind failed with first | ⟨_, _, rest⟩
    · exact ⟨head, List.mem_cons_self, first⟩
    rcases Formula.error_of_bind rest with later | ⟨_, _, whole⟩
    · obtain ⟨member, inside, found⟩ := ih later
      exact ⟨member, List.mem_cons_of_mem head inside, found⟩
    · cases whole

end

/-! ### Regions and calls -/

/-- No function that can be called fails for a cause that lies in references. -/
def Functions.SparesReferences (functions : Functions) : Prop :=
  ∀ name definition, functions.registry.find? name = some definition → ∀ values cause,
    functions.result definition values = .error cause → ¬ cause.OfReferences

theorem Context.sparesReferences_builtIn (sheet : Sheet) :
    (builtIn sheet).functions.SparesReferences := by
  intro name definition _ values cause failed
  simp only [functions, result] at failed
  split at failed <;> cases failed

section

variable {functions : Functions} {look other : Lookup}

theorem Region.meaning_congr {region : Region}
    (agree : ∀ address, region.contains address → look address = other address) :
    region.meaning look = region.meaning other := by
  have walk : region.addresses.mapM look = region.addresses.mapM other :=
    mapM_congr_of_mem fun address member ↦ agree address (Region.mem_addresses.mp member)
  rw [Region.meaning, Region.meaning, walk]

theorem Region.exists_value_of_ok {region : Region} {values : List Value}
    (found : region.meaning look = .ok values) {address : Address}
    (inside : region.contains address) : ∃ value, look address = .ok value := by
  obtain ⟨_, walked, _⟩ := ok_of_bind found
  exact ok_of_mapM walked address (Region.mem_addresses.mpr inside)

theorem Region.exists_address_of_error {region : Region} {cause : FormulaError}
    (failed : region.meaning look = .error cause) :
    ∃ address, region.contains address ∧ look address = .error cause := by
  rcases Formula.error_of_bind failed with walked | ⟨_, _, kept⟩
  · obtain ⟨address, member, found⟩ := error_of_mapM walked
    exact ⟨address, Region.mem_addresses.mp member, found⟩
  · cases kept

theorem ok_of_callMeaning {name : String} {count : Nat}
    {arguments : Except FormulaError (List Value)} {value : Value}
    (found : functions.callMeaning name count arguments = .ok value) :
    ∃ values, arguments = .ok values := by
  unfold Functions.callMeaning at found
  split at found
  · cases found
  · obtain ⟨_, _, rest⟩ := ok_of_bind found
    obtain ⟨values, given, _⟩ := ok_of_bind rest
    exact ⟨values, given⟩

theorem not_ofReferences_of_checkArity {definition : FunctionDefinition} {actual : Nat}
    {cause : FormulaError} (failed : definition.checkArity actual = .error cause) :
    ¬ cause.OfReferences := by
  by_cases accepted : definition.Accepts actual
  · rw [FunctionDefinition.checkArity_of_accepts accepted] at failed
    cases failed
  · rw [FunctionDefinition.checkArity_of_not_accepts accepted] at failed
    cases failed
    exact id

theorem not_ofReferences_of_checkResult {definition : FunctionDefinition} {value : Value}
    {cause : FormulaError} (failed : Context.checkResult definition value = .error cause) :
    ¬ cause.OfReferences := by
  unfold Context.checkResult at failed
  split at failed
  · split at failed
    · cases failed
    · cases failed
      exact id
  · cases failed

/-- A failure of a call that lies in references is one of its arguments. -/
theorem error_of_callMeaning (spares : functions.SparesReferences) {name : String} {count : Nat}
    {arguments : Except FormulaError (List Value)} {cause : FormulaError}
    (failed : functions.callMeaning name count arguments = .error cause)
    (found : cause.OfReferences) : arguments = .error cause := by
  unfold Functions.callMeaning at failed
  split at failed
  · cases failed
    exact absurd found id
  · next definition known =>
    rcases Formula.error_of_bind failed with arity | ⟨_, _, rest⟩
    · exact absurd found (not_ofReferences_of_checkArity arity)
    rcases Formula.error_of_bind rest with given | ⟨values, _, checked⟩
    · exact given
    rcases Formula.error_of_bind checked with result | ⟨_, _, overflow⟩
    · exact absurd found (spares name definition known values cause result)
    · exact absurd found (not_ofReferences_of_checkResult overflow)

/-! ### Arguments -/

namespace Expression

/-- Induction on the tree of an argument, where a property of a call may be shown from that of each
of its arguments. -/
@[induction_eliminator]
theorem induction {property : Expression → Prop}
    (call : ∀ name arguments, (∀ argument ∈ arguments, property argument) →
      property (.call name arguments))
    (range : ∀ region, property (.range region))
    (reference : ∀ address, property (.reference address))
    (literal : ∀ text, property (.literal text))
    (invalid : ∀ cause, property (.invalid cause)) (expression : Expression) :
    property expression :=
  @Expression.rec property (fun arguments ↦ ∀ argument ∈ arguments, property argument)
    call range reference literal invalid (List.forall_mem_nil _)
    (fun _ _ first later ↦ List.forall_mem_cons.mpr ⟨first, later⟩) expression

theorem meanings_eq (arguments : List Expression) :
    meanings functions look arguments = do
      return (← arguments.mapM (meaning functions look)).flatten := by
  induction arguments with
  | nil => rfl
  | cons argument later ih =>
    rw [meanings, ih, List.mapM_cons]
    cases argument.meaning functions look with
    | error cause => rfl
    | ok first => cases later.mapM (meaning functions look) <;> rfl

theorem meaning_congr (expression : Expression) :
    (∀ address, expression.Names address → look address = other address) →
      expression.meaning functions look = expression.meaning functions other := by
  induction expression with
  | call name arguments ih =>
    intro agree
    have each :
        arguments.mapM (meaning functions look) = arguments.mapM (meaning functions other) :=
      mapM_congr_of_mem fun argument member ↦
        ih argument member fun address named ↦ agree address (.call member named)
    rw [meaning, meaning, meanings_eq, meanings_eq, each]
  | range region =>
    intro agree
    rw [meaning, meaning]
    exact Region.meaning_congr fun address inside ↦ agree address (.range inside)
  | reference address =>
    intro agree
    rw [meaning, meaning, agree address (.reference address)]
  | literal text => intro _; rw [meaning, meaning]
  | invalid cause => intro _; rw [meaning, meaning]

theorem meanings_congr {arguments : List Expression}
    (agree : ∀ argument ∈ arguments, ∀ address, argument.Names address →
      look address = other address) :
    meanings functions look arguments = meanings functions other arguments := by
  have each : arguments.mapM (meaning functions look) = arguments.mapM (meaning functions other) :=
    mapM_congr_of_mem fun argument member ↦ argument.meaning_congr (agree argument member)
  rw [meanings_eq, meanings_eq, each]

theorem exists_value_of_ok (expression : Expression) :
    ∀ {values : List Value} {address : Address}, expression.meaning functions look = .ok values →
      expression.Names address → ∃ value, look address = .ok value := by
  induction expression with
  | call name arguments ih =>
    intro values address found named
    cases named with
    | call member named =>
      rw [meaning] at found
      obtain ⟨_, called, _⟩ := ok_of_bind found
      obtain ⟨_, given⟩ := ok_of_callMeaning called
      rw [meanings_eq] at given
      obtain ⟨_, each, _⟩ := ok_of_bind given
      obtain ⟨_, argumentFound⟩ := ok_of_mapM each _ member
      exact ih _ member argumentFound named
  | range region =>
    intro values address found named
    cases named with
    | range inside =>
      rw [meaning] at found
      exact Region.exists_value_of_ok found inside
  | reference address =>
    intro values address found named
    cases named
    rw [meaning] at found
    obtain ⟨value, looked, _⟩ := ok_of_bind found
    exact ⟨value, looked⟩
  | literal text => intro values address _ named; cases named
  | invalid cause => intro values address _ named; cases named

theorem exists_named_of_error (spares : functions.SparesReferences) (expression : Expression) :
    ∀ {cause : FormulaError}, expression.meaning functions look = .error cause →
      cause.OfReferences → expression.WellFaulted →
        ∃ address, expression.Names address ∧ look address = .error cause := by
  induction expression with
  | call name arguments ih =>
    intro cause failed found wellFaulted
    cases wellFaulted with
    | call inside =>
      rw [meaning] at failed
      rcases Formula.error_of_bind failed with called | ⟨_, _, whole⟩
      · have given := error_of_callMeaning spares called found
        rw [meanings_eq] at given
        rcases Formula.error_of_bind given with each | ⟨_, _, flat⟩
        · obtain ⟨argument, member, argumentFailed⟩ := error_of_mapM each
          obtain ⟨address, named, looked⟩ :=
            ih argument member argumentFailed found (inside argument member)
          exact ⟨address, .call member named, looked⟩
        · cases flat
      · cases whole
  | range region =>
    intro cause failed _ _
    rw [meaning] at failed
    obtain ⟨address, inside, looked⟩ := Region.exists_address_of_error failed
    exact ⟨address, .range inside, looked⟩
  | reference address =>
    intro cause failed _ _
    rw [meaning] at failed
    rcases Formula.error_of_bind failed with looked | ⟨_, _, whole⟩
    · exact ⟨address, .reference address, looked⟩
    · cases whole
  | literal text =>
    intro cause failed _ _
    rw [meaning] at failed
    cases failed
  | invalid other =>
    intro cause failed found wellFaulted
    rw [meaning] at failed
    cases failed
    cases wellFaulted with
    | invalid ofText => exact absurd ofText found.not_ofText

end Expression

/-! ### Formula texts -/

namespace Formula

/-- The meaning of a formula text depends only on the cells that it names. -/
theorem textMeaning_congr {text : String}
    (agree : ∀ address, TextNames text address → look address = other address) :
    textMeaning functions look text = textMeaning functions other text := by
  unfold textMeaning
  cases found : read text with
  | error cause => rfl
  | ok formula =>
    cases formula with
    | constant value => rfl
    | reference address => exact agree address ⟨_, found, .reference address⟩
    | call name arguments =>
      have given : Expression.meanings functions look arguments =
          Expression.meanings functions other arguments :=
        Expression.meanings_congr fun argument member address named ↦
          agree address ⟨_, found, .call member named⟩
      show functions.callMeaning name _ _ = functions.callMeaning name _ _
      rw [given]

/-- All cells that a formula text names have values when the text has one. -/
theorem exists_value_of_ok {text : String} {value : Value} {address : Address}
    (found : textMeaning functions look text = .ok value) (named : TextNames text address) :
    ∃ value, look address = .ok value := by
  obtain ⟨formula, read, named⟩ := named
  unfold textMeaning at found
  rw [read] at found
  cases named with
  | reference => exact ⟨value, found⟩
  | call member named =>
    obtain ⟨_, given⟩ := ok_of_callMeaning found
    rw [Expression.meanings_eq] at given
    obtain ⟨_, each, _⟩ := ok_of_bind given
    obtain ⟨_, argumentFound⟩ := ok_of_mapM each _ member
    exact Expression.exists_value_of_ok _ argumentFound named

/-- A failure of a formula text that lies in references is that of a cell that it names. -/
theorem exists_named_of_error (spares : functions.SparesReferences) {text : String}
    {cause : FormulaError} (failed : textMeaning functions look text = .error cause)
    (found : cause.OfReferences) :
    ∃ address, TextNames text address ∧ look address = .error cause := by
  rcases error_of_bind failed with unread | ⟨formula, read, meant⟩
  · exact absurd (ofText_of_read unread) found.not_ofText
  · have wellFaulted := wellFaulted_read read
    cases formula with
    | constant value => cases meant
    | reference address => exact ⟨address, ⟨_, read, .reference address⟩, meant⟩
    | call name arguments =>
      have given := error_of_callMeaning spares meant found
      rw [Expression.meanings_eq] at given
      rcases error_of_bind given with each | ⟨_, _, flat⟩
      · obtain ⟨argument, member, argumentFailed⟩ := error_of_mapM each
        obtain ⟨address, named, looked⟩ := Expression.exists_named_of_error spares argument
          argumentFailed found (wellFaulted argument member)
        exact ⟨address, ⟨_, read, .call member named⟩, looked⟩
      · cases flat

end Formula

end

end Worksheet
