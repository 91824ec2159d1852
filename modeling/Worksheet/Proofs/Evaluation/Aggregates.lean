import Worksheet.Proofs.Evaluation.CallFailures
import Worksheet.Proofs.Evaluation.ReferencePath

/-!
# Arguments of aggregates

An aggregate sees of its values only the numbers among them, and takes any number of arguments. So
an argument that has values but no numbers may stand anywhere among the others or be left out: the
call has the same value or fails for the same cause. Such arguments are texts that are no numerals,
references to cells without a number and ranges of such cells, and calls with such a text as their
value (`Context.Numberless.silent`). A count is that of the values that count as numbers. The main
statement is `Context.callText_aggregate`.
-/

set_option autoImplicit false
set_option relaxedAutoImplicit false

namespace Worksheet

/-! ### Aggregates -/

/-- A function of any number of arguments with a rule that sees only the numbers among the
values. -/
structure FunctionDefinition.IsAggregate (definition : FunctionDefinition)
    (rule : List Value → Value) : Prop where
  /-- No argument is needed. -/
  minimum : definition.minimum = 0
  /-- There is no largest number of arguments. -/
  maximum : definition.maximum = none
  /-- The function goes by the rule. -/
  implementation : definition.implementation = .rule rule
  /-- Values with the same numbers have the same result. -/
  rule_congr : ∀ {one other : List Value}, Aggregate.numbers one = Aggregate.numbers other →
    rule one = rule other

theorem FunctionDefinition.IsAggregate.accepts {definition : FunctionDefinition}
    {rule : List Value → Value} (aggregate : definition.IsAggregate rule) (count : Nat) :
    definition.Accepts count := by
  rw [Accepts, aggregate.minimum, aggregate.maximum]
  exact ⟨Nat.zero_le count, fun _ bound ↦ absurd bound (Option.not_mem_none _)⟩

namespace Aggregate

variable {one other : List Value}

theorem sum_congr (same : numbers one = numbers other) : sum one = sum other := by
  rw [sum, same, sum]

theorem average_congr (same : numbers one = numbers other) : average one = average other := by
  rw [average, same, average]

theorem choose_congr (choice : Float → Float → Float) (same : numbers one = numbers other) :
    choose choice one = choose choice other := by
  rw [choose, same, choose]

theorem count_congr (same : numbers one = numbers other) : count one = count other := by
  rw [count, same, count]

/-- Values that are no numbers may be left out. -/
theorem numbers_insert {silent : List Value} (none : ∀ value ∈ silent, value.number? = none)
    (before after : List Value) : numbers (before ++ (silent ++ after)) =
      numbers (before ++ after) := by
  have dropped : silent.filterMap Value.number? = [] := List.filterMap_eq_nil_iff.mpr none
  rw [numbers, List.filterMap_append, List.filterMap_append, dropped, List.nil_append,
    ← List.filterMap_append, numbers]

theorem count_eq_countP (values : List Value) :
    count values = .number (Float.ofNat (values.countP fun value ↦ value.number?.isSome)) := by
  rw [count, numbers, List.length_filterMap_eq_countP]

end Aggregate

namespace Registry

/-- Every function of numbers is an aggregate, and the one that counts goes by the count. -/
theorem exists_isAggregate_of_mem {definition : FunctionDefinition}
    (member : definition ∈ mathFunctions) :
    ∃ rule, definition.IsAggregate rule ∧
      (definition.name = "COUNT" → rule = Aggregate.count) := by
  simp only [mathFunctions, List.mem_cons, List.not_mem_nil, or_false] at member
  rcases member with rfl | rfl | rfl | rfl | rfl
  case inr.inr.inr.inr => exact ⟨_, ⟨rfl, rfl, rfl, Aggregate.count_congr⟩, fun _ ↦ rfl⟩
  -- None of the others has the name of the count.
  all_goals refine ⟨_, ⟨rfl, rfl, rfl, ?_⟩, fun named ↦ absurd named (by decide)⟩
  · exact Aggregate.sum_congr
  · exact Aggregate.average_congr
  · exact Aggregate.choose_congr Aggregate.larger
  · exact Aggregate.choose_congr Aggregate.smaller

/-- Every function of numbers is found under its name, in any case. -/
theorem find?_builtIn_of_mem {definition : FunctionDefinition}
    (member : definition ∈ mathFunctions) {name : String}
    (named : Text.uppercase name = definition.name) : builtIn.find? name = some definition := by
  rw [find?, named]
  simp only [mathFunctions, List.mem_cons, List.not_mem_nil, or_false] at member
  rcases member with rfl | rfl | rfl | rfl | rfl <;> rfl

end Registry

/-- The names of the aggregates, in upper case. -/
def aggregateNames : List String := ["SUM", "AVERAGE", "MIN", "MAX", "COUNT"]

theorem Registry.exists_aggregate {name : String}
    (aggregate : Text.uppercase name ∈ aggregateNames) :
    ∃ definition ∈ mathFunctions, Text.uppercase name = definition.name := by
  have listed : aggregateNames ⊆ mathFunctions.map FunctionDefinition.name := by decide
  obtain ⟨definition, member, named⟩ := List.mem_map.mp (listed aggregate)
  exact ⟨definition, member, named.symm⟩

namespace Context

/-! ### Silent arguments -/

/-- An argument that has values when some cells are in progress, none of which counts as a
number. -/
def Silent (context : Context) (visiting : Visiting) (argument : String) : Prop :=
  ∃ values, (context.argumentText argument).Yields visiting (.ok values) ∧
    ∀ value ∈ values, value.number? = none

/-- A cell that is not in progress and has no formula, and whose value does not count as a number:
it is empty, an error, or a text that is no numeral. -/
structure NumberlessCell (context : Context) (visiting : Visiting) (address : Address) : Prop where
  /-- The cell is not in progress. -/
  absent : address ∉ visiting
  /-- There is no formula. -/
  plain : context.sheet.formula? address = none
  /-- The value does not count as a number. -/
  silent : (context.sheet.valueAt address).number? = none

/-- Arguments that have no numbers, by their shapes. -/
inductive Numberless (context : Context) (visiting : Visiting) (argument : String) : Prop
  /-- A text that is no numeral. -/
  | literal {text : String} (shape : Formula.classify argument = .ok (.literal text))
      (word : parseDecimal text = none)
  /-- A reference to a cell without a number. -/
  | reference {text : String} {address : Address}
      (shape : Formula.classify argument = .ok (.reference text))
      (read : Formula.readAddress text = .ok address)
      (cell : context.NumberlessCell visiting address)
  /-- A range of cells without numbers. -/
  | range {first last : String} {region : Region}
      (shape : Formula.classify argument = .ok (.range first last))
      (read : Formula.readRegion first last = .ok region)
      (cells : ∀ address, region.contains address → context.NumberlessCell visiting address)
  /-- A call whose value is a text that is no numeral. -/
  | call {name text : String} {arguments : List String}
      (shape : Formula.classify argument = .ok (.call name arguments))
      (value : (context.callText name arguments).Yields visiting (.ok (.text text)))
      (word : parseDecimal text = none)

variable {context : Context} {visiting : Visiting}

theorem NumberlessCell.lookup_eq {address : Address}
    (cell : context.NumberlessCell visiting address) :
    lookup context.functions context.sheet.content visiting address =
      .ok (context.sheet.valueAt address) := by
  refine lookup_of_value cell.absent ?_
  rw [Sheet.content, Sheet.followed?, cell.plain]
  rfl

/-- The values of a region of cells without numbers are no numbers. -/
theorem exists_meaning_of_numberless {region : Region}
    (cells : ∀ address, region.contains address → context.NumberlessCell visiting address) :
    ∃ values, region.meaning (lookup context.functions context.sheet.content visiting) =
      .ok values ∧ ∀ value ∈ values, value.number? = none := by
  have walked : region.addresses.mapM (lookup context.functions context.sheet.content visiting) =
      .ok (region.addresses.map context.sheet.valueAt) := by
    rw [mapM_congr_of_mem fun address member ↦
      (cells address (Region.mem_addresses.mp member)).lookup_eq]
    exact List.mapM_pure
  rw [Region.meaning, walked]
  refine ⟨_, rfl, fun value member ↦ ?_⟩
  obtain ⟨address, inside, rfl⟩ := List.mem_map.mp (List.mem_filter.mp member).1
  exact (cells address (Region.mem_addresses.mp inside)).silent

theorem Numberless.silent {argument : String} (numberless : context.Numberless visiting argument) :
    context.Silent visiting argument := by
  cases numberless with
  | literal shape word =>
    rw [Silent, argumentText_eq, shape]
    exact ⟨_, Evaluation.yields_pure _ visiting, List.forall_mem_singleton.mpr word⟩
  | @reference text address shape read cell =>
    have resolved := context.yields_resolveText visiting text
    rw [read, ok_bind, cell.lookup_eq] at resolved
    rw [Silent, argumentText_eq, shape]
    refine ⟨_, resolved.bind fun value ↦ Evaluation.yields_pure [value] visiting, ?_⟩
    exact List.forall_mem_singleton.mpr cell.silent
  | @range first last region shape read cells =>
    obtain ⟨values, walked, silent⟩ := exists_meaning_of_numberless cells
    have expanded := context.yields_expandTexts visiting first last
    rw [read, ok_bind, walked] at expanded
    rw [Silent, argumentText_eq, shape]
    exact ⟨values, expanded, silent⟩
  | call shape value word =>
    rw [Silent, argumentText_eq, shape]
    refine ⟨_, value.bind fun value ↦ Evaluation.yields_pure [value] visiting, ?_⟩
    exact List.forall_mem_singleton.mpr word

/-! ### Calls of aggregates -/

theorem eq_of_checkResult {definition : FunctionDefinition} {result value : Value}
    (passed : checkResult definition result = .ok value) : value = result := by
  unfold checkResult at passed
  split at passed
  · split at passed
    · exact (Except.ok.inj passed).symm
    · cases passed
  · exact (Except.ok.inj passed).symm

/-- What follows a walk along a list is the same without a member of the list that does not fail, if
it is the same without the result of that member. -/
theorem mapM_bind_insert {ε α β γ : Type} {look : α → Except ε β} {next : List β → Except ε γ}
    {member : α} {result : β} (found : look member = .ok result)
    (same : ∀ first later, next (first ++ result :: later) = next (first ++ later))
    (before after : List α) :
    (before ++ member :: after).mapM look >>= next = (before ++ after).mapM look >>= next := by
  rw [List.mapM_append, List.mapM_append, List.mapM_cons, found]
  cases before.mapM look with
  | error cause => rfl
  | ok first =>
    cases after.mapM look with
    | error cause => rfl
    | ok later => exact same first later

section

variable {definition : FunctionDefinition} {rule : List Value → Value} {name : String}
  (known : context.functions.registry.find? name = some definition)
  (aggregate : definition.IsAggregate rule)

include known aggregate

theorem yields_callText_of_isAggregate (visiting : Visiting) (arguments : List String) :
    (context.callText name arguments).Yields visiting
      (arguments.mapM (context.argumentResult visiting) >>= fun resolved ↦
        checkResult definition (rule resolved.flatten)) := by
  have called := context.yields_callText visiting name arguments
  have checked : context.functions.checked definition = fun values ↦
      checkResult definition (rule values) := by
    funext values
    simp only [Functions.checked, functions, result, aggregate.implementation]
    rfl
  rw [Functions.callMeaning_of_accepted known (aggregate.accepts _), checked, bind_assoc] at called
  exact called

/-- A silent argument of an aggregate may be left out. -/
theorem outcome_callText_insert {argument : String} (silent : context.Silent visiting argument)
    (before after : List String) :
    (context.callText name (before ++ argument :: after)).outcome visiting =
      (context.callText name (before ++ after)).outcome visiting := by
  obtain ⟨values, resolved, none⟩ := silent
  have found : context.argumentResult visiting argument = .ok values := congrArg Prod.fst resolved
  have whole := yields_callText_of_isAggregate known aggregate visiting
    (before ++ argument :: after)
  have without := yields_callText_of_isAggregate known aggregate visiting (before ++ after)
  rw [mapM_bind_insert found fun first later ↦ ?same] at whole
  case same =>
    rw [List.flatten_append, List.flatten_cons, List.flatten_append,
      aggregate.rule_congr (Aggregate.numbers_insert none first.flatten later.flatten)]
  exact whole.trans without.symm

/-- A count that has a value is that of the values that count as numbers. -/
theorem eq_of_yields_count (counts : rule = Aggregate.count) {arguments : List String}
    {value : Value} (counted : (context.callText name arguments).Yields visiting (.ok value)) :
    ∃ resolved, arguments.mapM (context.argumentResult visiting) = .ok resolved ∧
      value = .number (Float.ofNat
        (resolved.flatten.countP fun value ↦ value.number?.isSome)) := by
  have called := yields_callText_of_isAggregate known aggregate visiting arguments
  obtain ⟨resolved, walked, passed⟩ := ok_of_bind (called.unique counted)
  refine ⟨resolved, walked, ?_⟩
  rw [eq_of_checkResult passed, counts, Aggregate.count_eq_countP]

end

/-- Arguments without numbers do not affect aggregates, on any sheet and with any cells in progress:
an argument that has values, none of which counts as a number, can be inserted anywhere among the
arguments of a call, which has the same value as before or fails for the same cause. Texts that are
no numerals, references to empty cells, texts and errors, ranges of these and calls with such a text
as their value are such arguments. A count that has a value is the count of the values that count as
numbers among those of all arguments. -/
theorem callText_aggregate (sheet : Sheet) (visiting : Visiting) {name : String}
    (aggregate : Text.uppercase name ∈ aggregateNames) :
    (∀ argument, (builtIn sheet).Silent visiting argument → ∀ before after,
      ((builtIn sheet).callText name (before ++ argument :: after)).outcome visiting =
        ((builtIn sheet).callText name (before ++ after)).outcome visiting) ∧
      (∀ argument, (builtIn sheet).Numberless visiting argument →
        (builtIn sheet).Silent visiting argument) ∧
      (Text.uppercase name = "COUNT" → ∀ arguments value,
        ((builtIn sheet).callText name arguments).Yields visiting (.ok value) →
          ∃ resolved, arguments.mapM ((builtIn sheet).argumentResult visiting) = .ok resolved ∧
            value = .number (Float.ofNat
              (resolved.flatten.countP fun value ↦ value.number?.isSome))) := by
  obtain ⟨definition, member, named⟩ := Registry.exists_aggregate aggregate
  have known : (builtIn sheet).functions.registry.find? name = some definition :=
    Registry.find?_builtIn_of_mem member named
  obtain ⟨rule, isAggregate, counts⟩ := Registry.exists_isAggregate_of_mem member
  refine ⟨fun argument silent before after ↦ ?_, fun argument numberless ↦ numberless.silent,
    fun count arguments value counted ↦ ?_⟩
  · exact outcome_callText_insert known isAggregate silent before after
  · exact eq_of_yields_count known isAggregate (counts (named.symm.trans count)) counted

/-- A sum without the reference to a text between its two numerals. -/
theorem callText_aggregate_across_text :
    let sheet := Sheet.new.setValueAt ⟨0, 0⟩ (.text "n/a")
    let visiting : Visiting := Std.ExtTreeSet.ofList [Address.mk 0 1]
    Text.uppercase "sum" ∈ aggregateNames ∧
      ((builtIn sheet).callText "sum" ["4", "A1", "2"]).outcome visiting =
        ((builtIn sheet).callText "sum" ["4", "2"]).outcome visiting := by
  intro sheet visiting
  have aggregate : Text.uppercase "sum" ∈ aggregateNames := by decide +kernel
  have cell : (builtIn sheet).NumberlessCell visiting ⟨0, 0⟩ :=
    ⟨by decide, by decide +kernel, by decide +kernel⟩
  have argument : (builtIn sheet).Numberless visiting "A1" := .reference rfl rfl cell
  obtain ⟨insert, silent, _⟩ := callText_aggregate sheet visiting aggregate
  exact ⟨aggregate, insert "A1" (silent "A1" argument) ["4"] ["2"]⟩

example : (builtIn (Sheet.new.setValueAt ⟨0, 0⟩ (.text "n/a"))).evaluateCell ⟨0, 1⟩
    "=Count(4, A1:A9, UPPER(x), 2)" = .number 2 := by
  decide +kernel

end Context

end Worksheet
