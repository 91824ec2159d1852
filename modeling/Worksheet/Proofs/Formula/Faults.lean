import Worksheet.Formula.Expression

/-!
# Faults of formula texts

Whatever is wrong with the text of a formula is a malformation, a reference that is no address or a
range in a place where none may stand. This holds of a text as a whole (`ofText_of_read`) and of the
faults that stay in the tree of a formula until they are evaluated (`wellFaulted_read`). So a
circular reference or a chain that is too long is never found in a text.
-/

set_option autoImplicit false
set_option relaxedAutoImplicit false

namespace Worksheet

namespace FormulaError

/-- A cause that lies in the text of a formula. -/
def OfText : FormulaError → Prop
  | invalidAddress _ | rangeNotAllowedHere | malformed _ => True
  | _ => False

/-- A cause that lies in the references between cells: a circle, or a chain that is too long. -/
def OfReferences : FormulaError → Prop
  | circularReference | referenceDepthExceeded _ => True
  | _ => False

theorem OfReferences.not_ofText {cause : FormulaError} (found : cause.OfReferences) :
    ¬ cause.OfText := by
  cases cause <;> simp_all [OfReferences, OfText]

end FormulaError

namespace Formula

/-! ### Shapes -/

/-- An error of a computation in two steps is an error of one of them. -/
theorem error_of_bind {ε α β : Type} {first : Except ε α} {next : α → Except ε β} {cause : ε}
    (failed : first >>= next = .error cause) :
    first = .error cause ∨ ∃ value, first = .ok value ∧ next value = .error cause := by
  cases first with
  | error other =>
    cases failed
    exact Or.inl rfl
  | ok value => exact Or.inr ⟨value, rfl, failed⟩

theorem ofText_of_splitArguments {list : String} {cause : FormulaError}
    (failed : splitArguments list = .error cause) : cause.OfText := by
  unfold splitArguments at failed
  split at failed
  · cases failed
  split at failed
  · cases failed
    trivial
  split at failed
  · cases failed
    trivial
  · cases failed

theorem ofText_of_parseCall {text : String} {cause : FormulaError}
    (failed : parseCall text = .error cause) : cause.OfText := by
  unfold parseCall at failed
  simp only at failed
  split at failed
  · split at failed
    · cases failed
      trivial
    · rename_i inner _
      cases split : splitArguments (String.ofList inner) with
      | error other =>
        rw [split] at failed
        cases failed
        exact ofText_of_splitArguments split
      | ok arguments =>
        rw [split] at failed
        cases failed
    · cases failed
      trivial
  · cases failed

theorem ofText_of_classify {argument : String} {cause : FormulaError}
    (failed : classify argument = .error cause) : cause.OfText := by
  rcases error_of_bind failed with called | ⟨called, _, rest⟩
  · exact ofText_of_parseCall called
  · cases called <;> cases rest

theorem ofText_of_readAddress {text : String} {cause : FormulaError}
    (failed : readAddress text = .error cause) : cause.OfText := by
  unfold readAddress at failed
  split at failed
  · cases failed
  · cases failed
    trivial

theorem ofText_of_readRegion {first last : String} {cause : FormulaError}
    (failed : readRegion first last = .error cause) : cause.OfText := by
  rcases error_of_bind failed with one | ⟨_, _, rest⟩
  · exact ofText_of_readAddress one
  rcases error_of_bind rest with other | ⟨_, _, region⟩
  · exact ofText_of_readAddress other
  · cases region

end Formula

/-! ### Trees -/

namespace Expression

/-- Every fault that stays in a tree lies in its text. -/
inductive WellFaulted : Expression → Prop
  | call {name : String} {arguments : List Expression}
      (inside : ∀ argument ∈ arguments, WellFaulted argument) : WellFaulted (.call name arguments)
  | range (region : Region) : WellFaulted (.range region)
  | reference (address : Address) : WellFaulted (.reference address)
  | literal (text : String) : WellFaulted (.literal text)
  | invalid {cause : FormulaError} (found : cause.OfText) : WellFaulted (.invalid cause)

theorem wellFaulted_ofShape {readArgument : String → Expression} {argument : String}
    (inside : ∀ name arguments, Formula.classify argument = .ok (.call name arguments) →
      ∀ inner ∈ arguments, (readArgument inner).WellFaulted) :
    (ofShape readArgument (Formula.classify argument)).WellFaulted := by
  cases shape : Formula.classify argument with
  | error cause => exact .invalid (Formula.ofText_of_classify shape)
  | ok shape' =>
    cases shape' with
    | call name arguments =>
      refine .call fun inner member ↦ ?_
      obtain ⟨text, found, rfl⟩ := List.mem_map.mp member
      exact inside name arguments shape text found
    | range first last =>
      cases read : Formula.readRegion first last with
      | error cause =>
        rw [ofShape, read]
        exact .invalid (Formula.ofText_of_readRegion read)
      | ok region =>
        rw [ofShape, read]
        exact .range region
    | reference text =>
      cases read : Formula.readAddress text with
      | error cause =>
        rw [ofShape, read]
        exact .invalid (Formula.ofText_of_readAddress read)
      | ok address =>
        rw [ofShape, read]
        exact .reference address
    | literal text => exact .literal text

/-- The faults that stay in the tree of an argument lie in its text. -/
theorem wellFaulted_read (bound : Nat) :
    ∀ argument : String, argument.length ≤ bound → (read argument).WellFaulted := by
  induction bound with
  | zero =>
    intro argument short
    rw [read_eq]
    refine wellFaulted_ofShape fun name arguments shape inner member ↦ ?_
    have shorter := Formula.length_lt_of_mem_classify shape member
    omega
  | succ bound ih =>
    intro argument short
    rw [read_eq]
    refine wellFaulted_ofShape fun name arguments shape inner member ↦ ?_
    have shorter := Formula.length_lt_of_mem_classify shape member
    exact ih inner (by omega)

theorem wellFaulted_of_mem_map_read {arguments : List String} :
    ∀ argument ∈ arguments.map read, argument.WellFaulted := by
  intro argument member
  obtain ⟨text, _, rfl⟩ := List.mem_map.mp member
  exact wellFaulted_read text.length text (Nat.le_refl _)

end Expression

namespace Formula

/-- Every fault that stays in the tree of a formula lies in its text. -/
def WellFaulted : Formula → Prop
  | call _ arguments => ∀ argument ∈ arguments, argument.WellFaulted
  | _ => True

theorem ofText_of_checkTerm {term : String} {cause : FormulaError}
    (failed : checkTerm term = .error cause) : cause.OfText := by
  unfold checkTerm at failed
  simp only at failed
  split at failed
  · cases failed
    trivial
  split at failed
  · cases failed
    trivial
  split at failed
  · cases failed
    trivial
  · cases failed

theorem ofText_of_parse {formula : String} {cause : FormulaError}
    (failed : parse formula = .error cause) : cause.OfText := by
  unfold parse at failed
  split at failed
  · cases failed
    trivial
  split at failed
  · cases failed
    trivial
  rcases error_of_bind failed with called | ⟨called, _, rest⟩
  · exact ofText_of_parseCall called
  · cases called with
    | some call => cases rest
    | none =>
      rcases error_of_bind rest with checked | ⟨_, _, term⟩
      · exact ofText_of_checkTerm checked
      · cases term

theorem ofText_of_readTerm {term : String} {cause : FormulaError}
    (failed : readTerm term = .error cause) : cause.OfText := by
  unfold readTerm at failed
  split at failed
  · cases failed
  rcases error_of_bind failed with shape | ⟨shape, _, rest⟩
  · exact ofText_of_classify shape
  · cases shape with
    | call name arguments => cases rest
    | range first last => cases rest; trivial
    | reference text =>
      rcases error_of_bind rest with read | ⟨_, _, address⟩
      · exact ofText_of_readAddress read
      · cases address
    | literal text =>
      simp only at rest
      split at rest <;> cases rest

/-- What keeps a text from being read lies in the text. -/
theorem ofText_of_read {text : String} {cause : FormulaError}
    (failed : read text = .error cause) : cause.OfText := by
  unfold read at failed
  split at failed
  · cases failed
  rcases error_of_bind failed with shape | ⟨shape, _, rest⟩
  · exact ofText_of_parse shape
  · cases shape with
    | call name arguments => cases rest
    | term term => exact ofText_of_readTerm rest

theorem wellFaulted_readTerm {term : String} {formula : Formula}
    (found : readTerm term = .ok formula) : formula.WellFaulted := by
  unfold readTerm at found
  split at found
  · cases found
    trivial
  cases shape : classify term with
  | error cause => rw [shape] at found; cases found
  | ok shape' =>
    rw [shape] at found
    cases shape' with
    | call name arguments =>
      cases found
      exact Expression.wellFaulted_of_mem_map_read
    | range first last => cases found
    | reference text =>
      cases read : readAddress text with
      | error cause => simp only [bind, Except.bind, read] at found; cases found
      | ok address => simp only [bind, Except.bind, read] at found; cases found; trivial
    | literal text =>
      simp only [bind, Except.bind] at found
      split at found <;> cases found <;> trivial

/-- The faults that stay in the tree of a formula lie in its text. -/
theorem wellFaulted_read {text : String} {formula : Formula}
    (found : read text = .ok formula) : formula.WellFaulted := by
  unfold read at found
  split at found
  · cases found
    trivial
  cases shape : parse text with
  | error cause => rw [shape] at found; cases found
  | ok shape' =>
    rw [shape] at found
    cases shape' with
    | call name arguments =>
      cases found
      exact Expression.wellFaulted_of_mem_map_read
    | term term => exact wellFaulted_readTerm found

end Formula

end Worksheet
