import Worksheet.Proofs.Evaluation.ReferencePath

/-!
# Evaluation comes to an end

The evaluator reads a formula into a tree before it evaluates anything, and it takes no more steps
from one formula to the next than the limit on chains needs. `Context.directText` is evaluation
without either precaution: texts are read when their turn comes, and references are followed
wherever they lead. It may take a number of steps and is left unfinished when they run out, which is
no outcome. It also writes down which cells are in progress after each change.

With enough steps it always comes to an end, and with the outcome that the evaluator has
(`Context.directText_finishes`). Within one formula the texts get shorter, as an argument is shorter
than the call that it stands in. From one formula to the next, one more cell is in progress, and no
cell is followed when there are more than the limit.
-/

set_option autoImplicit false
set_option relaxedAutoImplicit false

namespace Worksheet

/-! ### Computations that may be left unfinished -/

/-- The cells in progress, and how they came to be. -/
structure Progress where
  /-- The cells in progress. -/
  visiting : Visiting
  /-- The cells in progress after each of the changes so far, from the first to the last. -/
  history : List Visiting

/-- The progress after a change of the cells in progress. -/
def Progress.turn (change : Visiting → Visiting) (progress : Progress) : Progress where
  visiting := change progress.visiting
  history := progress.history ++ [change progress.visiting]

/-- A computation that may fail for a cause or be left unfinished, with the cells in progress as its
state. -/
abbrev Attempt := ExceptT FormulaError (StateT Progress Option)

namespace Attempt

variable {α : Type}

/-- A computation for which no steps are left. -/
def unfinished : Attempt α := fun _ ↦ none

/-- What a computation comes to from some progress, unless it is left unfinished. -/
def outcome? (computation : Attempt α) (progress : Progress) :
    Option (Except FormulaError α × Progress) := computation.run.run progress

end Attempt

namespace Context

open Attempt

variable (context : Context)

mutual

/-- The value of a formula text. -/
def directText : Nat → String → Attempt Value
  | 0, _ => unfinished
  | steps + 1, text => do
    if text.toList.head? ≠ some '=' then return .text text
    match ← MonadExcept.ofExcept (Formula.parse text) with
    | .call name arguments => directCall steps name arguments
    | .term term => directTerm steps term

/-- The value of a formula text that has not the form of a call. -/
def directTerm : Nat → String → Attempt Value
  | 0, _ => unfinished
  | steps + 1, term => do
    match Formula.unquote? term.toList with
    | some inner => return .text (String.ofList inner)
    | none =>
      match ← MonadExcept.ofExcept (Formula.classify term) with
      | .reference text => directCell steps (← MonadExcept.ofExcept (Formula.readAddress text))
      | .literal text =>
        match parseDecimal text with
        | some number => return .number number
        | none => return .text text
      | .range _ _ => throw .rangeNotAllowedHere
      | .call name arguments => directCall steps name arguments

/-- The value of a call of a function with the texts of some arguments. -/
def directCall : Nat → String → List String → Attempt Value
  | 0, _, _ => unfinished
  | steps + 1, name, arguments => do
    match context.registry.find? name with
    | none => throw (.unknownFunction name)
    | some definition =>
      MonadExcept.ofExcept (definition.checkArity arguments.length)
      let values ← arguments.mapM (directArgument steps)
      let result ← MonadExcept.ofExcept (context.result definition values.flatten)
      MonadExcept.ofExcept (checkResult definition result)

/-- The values of the text of an argument. -/
def directArgument : Nat → String → Attempt (List Value)
  | 0, _ => unfinished
  | steps + 1, argument => do
    match ← MonadExcept.ofExcept (Formula.classify argument) with
    | .call name arguments => return [← directCall steps name arguments]
    | .range first last =>
      directRegion steps (← MonadExcept.ofExcept (Formula.readRegion first last))
    | .reference text =>
      return [← directCell steps (← MonadExcept.ofExcept (Formula.readAddress text))]
    | .literal text => return [.text text]

/-- The values of the cells of a region that are not empty. -/
def directRegion : Nat → Region → Attempt (List Value)
  | 0, _ => unfinished
  | steps + 1, region => do
    let progress ← get
    let values ← (context.candidates region progress.visiting).mapM (directCell steps)
    return values.filter fun value ↦ !value.isEmpty

/-- The value of a cell. A cell that is followed is in progress until its formula has a value or has
failed. -/
def directCell : Nat → Address → StateT Progress Option (Except FormulaError Value)
  | 0, _ => unfinished
  | steps + 1, address => do
    let progress ← get
    if progress.visiting.contains address then return .error .circularReference
    match context.sheet.cell? address with
    | none => return .ok .empty
    | some cell =>
      match cell.formula with
      | none => return .ok cell.computed
      | some formula =>
        if Formula.body formula = address.toA1 then return .ok cell.computed
        else if depthLimit < progress.visiting.size then
          return .error (.referenceDepthExceeded depthLimit)
        else
          modify (Progress.turn fun visiting ↦ visiting.insert address)
          let outcome ← (directText steps formula).run
          modify (Progress.turn fun visiting ↦ visiting.erase address)
          return outcome

end

end Context

/-! ### Computations that come to an end -/

/-- A history that stays within the limit: no more cells are ever in progress than one more than the
limit, and nothing changes when there are more than the limit to begin with. -/
structure Visiting.Within (visiting : Visiting) (history : List Visiting) : Prop where
  /-- No more cells are in progress than one more than the limit. -/
  size_le : ∀ occurring ∈ history, occurring.size ≤ Context.depthLimit + 1
  /-- With too many cells in progress, none is added. -/
  eq_nil : Context.depthLimit < visiting.size → history = []

namespace Visiting

theorem within_nil (visiting : Visiting) : visiting.Within [] :=
  ⟨List.forall_mem_nil _, fun _ ↦ rfl⟩

theorem Within.append {visiting : Visiting} {one other : List Visiting}
    (first : visiting.Within one) (second : visiting.Within other) :
    visiting.Within (one ++ other) := by
  refine ⟨List.forall_mem_append.mpr ⟨first.size_le, second.size_le⟩, fun deep ↦ ?_⟩
  rw [first.eq_nil deep, second.eq_nil deep]
  rfl

/-- A cell may be added and taken out again when there are not too many before. -/
theorem Within.around {visiting : Visiting} {address : Address} {history : List Visiting}
    (absent : address ∉ visiting) (shallow : visiting.size ≤ Context.depthLimit)
    (inner : Within (visiting.insert address) history) :
    visiting.Within (visiting.insert address :: history ++ [visiting]) := by
  have size := size_insert absent
  refine ⟨fun occurring member ↦ ?_, fun deep ↦ absurd deep (Nat.not_lt.mpr shallow)⟩
  rcases List.mem_append.mp member with started | ended
  · rcases List.mem_cons.mp started with rfl | later
    · omega
    · exact inner.size_le occurring later
  · rw [List.mem_singleton.mp ended]
    omega

end Visiting

namespace Attempt

variable {α β : Type} {visiting : Visiting}

/-- With some cells in progress and enough steps, a computation comes to an end with a result. It
leaves these cells in progress, and its history stays within the limit. -/
def Finishes (computation : Nat → Attempt α) (visiting : Visiting)
    (result : Except FormulaError α) : Prop :=
  ∃ enough history, visiting.Within history ∧ ∀ steps ≥ enough, ∀ past,
    (computation steps).outcome? ⟨visiting, past⟩ = some (result, ⟨visiting, past ++ history⟩)

/-- A computation that needs one step and changes nothing comes to an end. -/
theorem finishes_of_outcome? {computation : Nat → Attempt α} {result : Except FormulaError α}
    (ended : ∀ steps past, (computation (steps + 1)).outcome? ⟨visiting, past⟩ =
      some (result, ⟨visiting, past⟩)) : Finishes computation visiting result := by
  refine ⟨1, [], visiting.within_nil, fun steps more past ↦ ?_⟩
  obtain ⟨fewer, rfl⟩ := Nat.exists_eq_add_of_le' more
  rw [List.append_nil]
  exact ended fewer past

theorem finishes_pure (value : α) (visiting : Visiting) :
    Finishes (fun _ ↦ pure value) visiting (.ok value) := finishes_of_outcome? fun _ _ ↦ rfl

theorem finishes_throw (cause : FormulaError) (visiting : Visiting) :
    Finishes (fun _ ↦ (throw cause : Attempt α)) visiting (.error cause) :=
  finishes_of_outcome? fun _ _ ↦ rfl

theorem finishes_ofExcept (result : Except FormulaError α) (visiting : Visiting) :
    Finishes (fun _ ↦ MonadExcept.ofExcept result) visiting result := by
  cases result with
  | ok value => exact finishes_pure value visiting
  | error cause => exact finishes_throw cause visiting

theorem outcome?_bind (computation : Attempt α) (next : α → Attempt β) (progress : Progress) :
    (computation >>= next).outcome? progress =
      match computation.outcome? progress with
      | some (.ok value, later) => (next value).outcome? later
      | some (.error cause, later) => some (.error cause, later)
      | none => none := by
  have unfolded : (computation >>= next).outcome? progress =
      (computation.outcome? progress).bind fun ended ↦
        ExceptT.bindCont next ended.1 ended.2 := rfl
  rw [unfolded]
  match computation.outcome? progress with
  | some (.ok _, _) => rfl
  | some (.error _, _) => rfl
  | none => rfl

theorem Finishes.unique {computation : Nat → Attempt α} {one other : Except FormulaError α}
    (first : Finishes computation visiting one) (second : Finishes computation visiting other) :
    one = other := by
  obtain ⟨enough, _, _, ended⟩ := first
  obtain ⟨enoughAgain, _, _, again⟩ := second
  have same := (ended (max enough enoughAgain) (Nat.le_max_left _ _) []).symm.trans
    (again (max enough enoughAgain) (Nat.le_max_right _ _) [])
  exact congrArg Prod.fst (Option.some.inj same)

/-- A computation that goes on as another with one step less comes to an end as that one does. -/
theorem Finishes.step {computation rest : Nat → Attempt α} {result : Except FormulaError α}
    (next : ∀ steps, computation (steps + 1) = rest steps)
    (finishes : Finishes rest visiting result) : Finishes computation visiting result := by
  obtain ⟨enough, history, within, ended⟩ := finishes
  refine ⟨enough + 1, history, within, fun steps more past ↦ ?_⟩
  obtain ⟨fewer, rfl⟩ := Nat.exists_eq_add_of_le' more
  rw [← Nat.add_assoc, next]
  exact ended (fewer + enough) (Nat.le_add_left _ _) past

/-- A computation followed by another comes to the results of the two in turn. -/
theorem Finishes.bind {computation : Nat → Attempt α} {next : Nat → α → Attempt β}
    {result : Except FormulaError α} {results : α → Except FormulaError β}
    (first : Finishes computation visiting result)
    (second : ∀ value, Finishes (fun steps ↦ next steps value) visiting (results value)) :
    Finishes (fun steps ↦ computation steps >>= next steps) visiting (result >>= results) := by
  obtain ⟨enough, history, within, ended⟩ := first
  cases result with
  | ok value =>
    obtain ⟨enoughLater, later, laterWithin, laterEnded⟩ := second value
    refine ⟨max enough enoughLater, history ++ later, within.append laterWithin,
      fun steps more past ↦ ?_⟩
    rw [outcome?_bind, ended steps (Nat.le_trans (Nat.le_max_left _ _) more), ← List.append_assoc]
    exact laterEnded steps (Nat.le_trans (Nat.le_max_right _ _) more) (past ++ history)
  | error cause =>
    refine ⟨enough, history, within, fun steps more past ↦ ?_⟩
    rw [outcome?_bind, ended steps more]
    rfl

/-- Reading the cells in progress gives them to the rest. -/
theorem Finishes.get_bind {next : Nat → Progress → Attempt β} {rest : Nat → Attempt β}
    {result : Except FormulaError β} (finishes : Finishes rest visiting result)
    (same : ∀ steps past, next steps ⟨visiting, past⟩ = rest steps) :
    Finishes (fun steps ↦ get >>= next steps) visiting result := by
  obtain ⟨enough, history, within, ended⟩ := finishes
  refine ⟨enough, history, within, fun steps more past ↦ ?_⟩
  rw [← ended steps more past, ← same steps past]
  rfl

/-- Along a list, the results are those of its members, up to the first failure. -/
theorem finishes_mapM {step : Nat → α → Attempt β} {look : α → Except FormulaError β}
    {list : List α}
    (each : ∀ member ∈ list, Finishes (fun steps ↦ step steps member) visiting (look member)) :
    Finishes (fun steps ↦ list.mapM (step steps)) visiting (list.mapM look) := by
  induction list with
  | nil => exact finishes_pure [] visiting
  | cons head tail ih =>
    rw [List.forall_mem_cons] at each
    simp only [List.mapM_cons]
    refine each.1.bind fun value ↦ ?_
    exact (ih each.2).bind fun values ↦ finishes_pure (value :: values) visiting

end Attempt

/-! ### One formula -/

/-- What was read has its own meaning, and a fault in reading is the failure. -/
theorem Expression.meaning_ofRead {α : Type} (functions : Functions) (look : Lookup)
    (leaf : α → Expression) (part : Except FormulaError α) :
    (ofRead leaf part).meaning functions look =
      part >>= fun found ↦ (leaf found).meaning functions look := by
  cases part with
  | ok found => rfl
  | error cause => rw [ofRead, meaning]; rfl

namespace Context

open Attempt

section

variable {context : Context} {visiting : Visiting} {look : Lookup}

/-- What the value of a cell comes to. -/
theorem outcome?_directCell (context : Context) (steps : Nat) (address : Address)
    (progress : Progress) :
    Attempt.outcome? (context.directCell (steps + 1) address) progress =
      if progress.visiting.contains address then some (.error .circularReference, progress)
      else
        match context.sheet.content address with
        | .value value => some (.ok value, progress)
        | .formula text =>
          if depthLimit < progress.visiting.size then
            some (.error (.referenceDepthExceeded depthLimit), progress)
          else
            ((context.directText steps text).outcome? (progress.turn (·.insert address))).map
              fun ended ↦ (ended.1, ended.2.turn (·.erase address)) := by
  rw [directCell, Sheet.content, Sheet.followed?, Sheet.formula?, Sheet.valueAt]
  by_cases member : progress.visiting.contains address
  · rw [if_pos member]
    show StateT.run (if progress.visiting.contains address then _ else _) progress = _
    rw [if_pos member]
    rfl
  rw [if_neg member]
  show StateT.run (if progress.visiting.contains address then _ else _) progress = _
  rw [if_neg member]
  cases context.sheet.cell? address with
  | none => rfl
  | some cell =>
    cases written : cell.formula with
    | none =>
      simp only [written, Option.bind_some, Option.filter_none]
      rfl
    | some formula =>
      simp only [written, Option.bind_some]
      by_cases own : Formula.body formula = address.toA1
      · rw [if_pos own, Option.filter_some_neg (by simpa using own)]
        rfl
      · rw [if_neg own, Option.filter_some_pos (by simpa using own)]
        by_cases deep : depthLimit < progress.visiting.size
        · simp only [if_pos deep]
          rfl
        · simp only [if_neg deep]
          show ((context.directText steps formula).outcome? _).bind _ = _
          cases (context.directText steps formula).outcome? _ <;> rfl

/-- A cell that is neither stored nor in progress is empty. -/
theorem finishes_directCell_of_unstored {address : Address} (absent : address ∉ visiting)
    (unstored : context.sheet.cell? address = none) :
    Finishes (context.directCell · address) visiting (.ok .empty) := by
  refine finishes_of_outcome? fun steps past ↦ ?_
  rw [outcome?_directCell, if_neg fun contained ↦ absent (Std.ExtTreeSet.contains_iff_mem.mp
    contained), Sheet.content_of_unstored unstored]

/-- A call has its value if its arguments have theirs. -/
theorem finishes_directCall {name : String} {arguments : List String}
    (each : ∀ argument ∈ arguments, Finishes (context.directArgument · argument) visiting
      ((Expression.read argument).meaning context.functions look)) :
    Finishes (context.directCall · name arguments) visiting
      (Formula.meaning context.functions look (.call name (arguments.map Expression.read))) := by
  refine Finishes.step (fun steps ↦ by rw [directCall]) ?_
  rw [Formula.meaning, Functions.callMeaning, registry_functions, List.length_map,
    Expression.meanings_eq, List.mapM_map]
  cases context.registry.find? name with
  | none => exact finishes_throw _ visiting
  | some definition =>
    refine (finishes_ofExcept _ visiting).bind fun _ ↦ ?_
    simp only [bind_assoc, pure_bind]
    refine (finishes_mapM each).bind fun values ↦ ?_
    exact (finishes_ofExcept _ visiting).bind fun result ↦ finishes_ofExcept _ visiting

section

variable (agree : ∀ address, Finishes (context.directCell · address) visiting (look address))

include agree

/-- Visiting the candidates of a region gives the values that a walk through all of it gives. -/
theorem finishes_directRegion (region : Region) :
    Finishes (context.directRegion · region) visiting (region.meaning look) := by
  refine Finishes.step (fun steps ↦ by rw [directRegion]) ?_
  rw [meaning_eq_candidates fun address absent unstored ↦
    (agree address).unique (finishes_directCell_of_unstored absent unstored)]
  have walked : Finishes
      (fun steps ↦ (context.candidates region visiting).mapM (context.directCell steps)) visiting
      ((context.candidates region visiting).mapM look) :=
    finishes_mapM fun address _ ↦ agree address
  refine Finishes.get_bind (walked.bind fun values ↦ ?_) fun steps past ↦ rfl
  exact finishes_pure (values.filter fun value ↦ !value.isEmpty) visiting

/-- Arguments have their values. The texts inside an argument are shorter. -/
theorem finishes_directArgument (argument : String) :
    Finishes (context.directArgument · argument) visiting
      ((Expression.read argument).meaning context.functions look) := by
  refine Finishes.step (fun steps ↦ by rw [directArgument]) ?_
  rw [Expression.read_eq]
  match shape : Formula.classify argument with
  | .error cause =>
    rw [Expression.ofShape, Expression.meaning]
    exact finishes_throw cause visiting
  | .ok (.call name arguments) =>
    rw [Expression.ofShape, Expression.meaning]
    refine Finishes.bind (finishes_directCall fun inner member ↦ ?_) fun value ↦
      finishes_pure [value] visiting
    have shorter := Formula.length_lt_of_mem_classify shape member
    exact finishes_directArgument inner
  | .ok (.range first last) =>
    rw [Expression.ofShape, Expression.meaning_ofRead]
    show Finishes (fun steps ↦ MonadExcept.ofExcept (Formula.readRegion first last) >>=
      context.directRegion steps) visiting _
    refine (finishes_ofExcept _ visiting).bind fun region ↦ ?_
    rw [Expression.meaning]
    exact finishes_directRegion agree region
  | .ok (.reference text) =>
    rw [Expression.ofShape, Expression.meaning_ofRead]
    show Finishes (fun steps ↦ do
      let address ← MonadExcept.ofExcept (Formula.readAddress text)
      return [← context.directCell steps address]) visiting _
    refine (finishes_ofExcept _ visiting).bind fun address ↦ ?_
    rw [Expression.meaning]
    exact Finishes.bind (agree address) fun value ↦ finishes_pure [value] visiting
  | .ok (.literal text) =>
    rw [Expression.ofShape, Expression.meaning]
    exact finishes_pure [Value.text text] visiting
termination_by argument.length

/-- Terms have their values. -/
theorem finishes_directTerm (term : String) :
    Finishes (context.directTerm · term) visiting
      (Formula.readTerm term >>= Formula.meaning context.functions look) := by
  refine Finishes.step (fun steps ↦ by rw [directTerm]) ?_
  rw [Formula.readTerm]
  cases Formula.unquote? term.toList with
  | some inner => exact finishes_pure (Value.text (String.ofList inner)) visiting
  | none =>
    cases Formula.classify term with
    | error cause => exact finishes_throw cause visiting
    | ok shape =>
      cases shape with
      | call name arguments =>
        exact finishes_directCall fun argument _ ↦ finishes_directArgument agree argument
      | range first last => exact finishes_throw _ visiting
      | reference text =>
        simp only [ok_bind, bind_assoc, pure_bind]
        exact (finishes_ofExcept _ visiting).bind agree
      | literal text =>
        simp only [MonadExcept.ofExcept, pure_bind, ok_bind]
        cases parseDecimal text with
        | some number => exact finishes_pure (Value.number number) visiting
        | none => exact finishes_pure (Value.text text) visiting

/-- Formula texts have their values. -/
theorem finishes_directText (text : String) :
    Finishes (context.directText · text) visiting
      (Formula.textMeaning context.functions look text) := by
  refine Finishes.step (fun steps ↦ by rw [directText]) ?_
  rw [Formula.textMeaning, Formula.read]
  by_cases plain : text.toList.head? ≠ some '='
  · simp only [if_pos plain]
    exact finishes_pure (Value.text text) visiting
  simp only [if_neg plain]
  cases Formula.parse text with
  | error cause => exact finishes_throw cause visiting
  | ok shape =>
    cases shape with
    | call name arguments =>
      exact finishes_directCall fun argument _ ↦ finishes_directArgument agree argument
    | term term => exact finishes_directTerm agree term

end

end

/-! ### From one formula to the next -/

/-- Cells have their values, and are in progress only while their formulas are evaluated. -/
theorem finishes_directCell (context : Context) (visiting : Visiting) (address : Address) :
    Finishes (context.directCell · address) visiting
      (lookup context.functions context.sheet.content visiting address) := by
  by_cases member : address ∈ visiting
  · rw [lookup_of_mem member]
    refine finishes_of_outcome? fun steps past ↦ ?_
    rw [outcome?_directCell, if_pos (Std.ExtTreeSet.contains_iff_mem.mpr member)]
  have uncontained : ¬ visiting.contains address :=
    fun contained ↦ member (Std.ExtTreeSet.contains_iff_mem.mp contained)
  match found : context.sheet.content address with
  | .value value =>
    rw [lookup_of_value member found]
    refine finishes_of_outcome? fun steps past ↦ ?_
    rw [outcome?_directCell, if_neg uncontained, found]
  | .formula text =>
    by_cases deep : depthLimit < visiting.size
    · rw [lookup_of_deep member found deep]
      refine finishes_of_outcome? fun steps past ↦ ?_
      simp only [outcome?_directCell, if_neg uncontained, found, if_pos deep]
    · have shallow := Nat.not_lt.mp deep
      have size := Visiting.size_insert member
      rw [lookup_of_formula member found shallow]
      -- One more cell is in progress, so fewer are left to follow.
      obtain ⟨enough, history, within, ended⟩ :=
        finishes_directText (finishes_directCell context (visiting.insert address)) text
      refine ⟨enough + 1, _, within.around member shallow, fun steps more past ↦ ?_⟩
      obtain ⟨fewer, rfl⟩ := Nat.exists_eq_add_of_le' more
      have inner := ended (fewer + enough) (Nat.le_add_left _ _)
      simp only [← Nat.add_assoc, outcome?_directCell, if_neg uncontained, found, if_neg deep,
        Progress.turn, inner, Option.map_some, Visiting.erase_insert member]
      simp only [List.append_assoc, List.cons_append, List.nil_append]
termination_by depthLimit + 1 - visiting.size

/-- Evaluation comes to an end, whatever the formulas of the sheet refer to and whatever cells are
in progress at the start: with enough steps it has the outcome that the evaluator has. Never are
more cells in progress than at the start or, if that is more, one more than the limit of 256. With
more than the limit in progress at the start no cell is followed at all, and the cells in progress
do not change. -/
theorem directText_finishes (context : Context) (visiting : Visiting) (text : String) :
    ∃ enough history,
      (∀ steps ≥ enough, (context.directText steps text).outcome? ⟨visiting, []⟩ =
        some (((context.evaluate text).outcome visiting).1, ⟨visiting, history⟩)) ∧
      (∀ occurring ∈ visiting :: history, occurring.size ≤ max visiting.size 257) ∧
      (256 < visiting.size → history = []) := by
  obtain ⟨enough, history, within, ended⟩ :=
    finishes_directText (context.finishes_directCell visiting) text
  refine ⟨enough, history, fun steps more ↦ ?_, fun occurring member ↦ ?_, within.eq_nil⟩
  · rw [context.yields_evaluate visiting text]
    exact ended steps more []
  · rcases List.mem_cons.mp member with rfl | later
    · exact Nat.le_max_left _ _
    · exact Nat.le_trans (within.size_le occurring later) (Nat.le_max_right _ _)

-- Two cells that refer to each other are both in progress when the circle closes.
example :
    let sheet := (Sheet.new.put (Cell.ofFormula ⟨0, 0⟩ "=B1" .empty)).put
      (Cell.ofFormula ⟨0, 1⟩ "=A1" .empty)
    (((builtIn sheet).directText 10 "=A1").outcome? ⟨∅, []⟩).map
        (fun ended ↦ ended.2.history.map fun visiting ↦ visiting.toList) =
      some [[⟨0, 0⟩], [⟨0, 0⟩, ⟨0, 1⟩], [⟨0, 0⟩], []] := by
  decide +kernel

end Context

end Worksheet
