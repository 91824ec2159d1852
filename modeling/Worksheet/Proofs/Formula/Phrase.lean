import Worksheet.Formula.Expression

/-!
# Phrases

A phrase is a part of a formula as it may be written: a tree of calls, ranges, references and texts
together with the blanks around its parts. `Phrase.text` writes it. A phrase has the shape that
reading finds at its root, in which the arguments of a call are texts without the blanks around them
(`Phrase.shape`), and the tree that reading finds in the end, in which nothing is left of the blanks
(`Phrase.expression`).
-/

set_option autoImplicit false
set_option relaxedAutoImplicit false

namespace Worksheet

/-! ### Characters and quotes -/

namespace Formula

/-- Whether a character opens, closes or parts the phrases of a formula: a quote, a parenthesis, a
comma or a colon. -/
def isDelimiter (c : Char) : Bool := c = '"' || c = '(' || c = ')' || c = ',' || c = ':'

/-- A text with each of its quotes written twice. -/
def double : List Char → List Char
  | [] => []
  | c :: rest => if c = '"' then '"' :: '"' :: double rest else c :: double rest

/-- A text in quotes, with its own quotes written twice. -/
def quote (text : List Char) : List Char := '"' :: (double text ++ ['"'])

end Formula

/-! ### Parts -/

/-- Any number of blank characters. -/
structure Blanks where
  /-- The characters. -/
  chars : List Char
  /-- All of them are blank. -/
  isBlank : ∀ c ∈ chars, Text.isBlank c

/-- The name of a function that is called. -/
structure CallName where
  /-- The characters. -/
  chars : List Char
  /-- There is at least one. -/
  ne_nil : chars ≠ []
  /-- All of them are ASCII letters or underscores. -/
  isAlpha_or_eq : ∀ c ∈ chars, c.isAlpha ∨ c = '_'

/-- The text of a call of a function, with the given text between the parentheses. -/
def CallName.call (name : CallName) (inner : List Char) : List Char :=
  name.chars ++ '(' :: (inner ++ [')'])

/-- A text that stands for itself without quotes around it. -/
structure PlainText where
  /-- The characters. -/
  chars : List Char
  /-- There is at least one. -/
  ne_nil : chars ≠ []
  /-- There are no blanks at its ends. -/
  trim_eq : Text.trim chars = chars
  /-- No character has a meaning of its own in a formula. -/
  isDelimiter : ∀ c ∈ chars, Formula.isDelimiter c = false
  /-- It is not of the form of a reference, letters from `A` to `Z` and then digits. -/
  ne_reference : ∀ letters digits, letters ≠ [] → digits ≠ [] →
    (∀ c ∈ letters, Column.isLetter c) → (∀ c ∈ digits, c.isDigit) → chars ≠ letters ++ digits

/-- A part of a formula as it may be written. -/
inductive Phrase where
  /-- A call, with blanks after the opening parenthesis. -/
  | call (name : CallName) (opening : Blanks) (arguments : List Phrase)
  /-- The range between two opposite corners, with blanks before and after its colon. -/
  | range (one other : Address) (before after : Blanks)
  /-- A single cell. -/
  | reference (address : Address)
  /-- Any text, in quotes. -/
  | quoted (text : List Char)
  /-- A text that stands for itself. -/
  | plain (text : PlainText)
  /-- A phrase with blanks around it. -/
  | spaced (before : Blanks) (inner : Phrase) (after : Blanks)

namespace Phrase

/-- Induction on a phrase, where a property of a call may be shown from that of each of its
arguments. -/
@[induction_eliminator]
theorem induction {property : Phrase → Prop}
    (call : ∀ name opening arguments, (∀ argument ∈ arguments, property argument) →
      property (.call name opening arguments))
    (range : ∀ one other before after, property (.range one other before after))
    (reference : ∀ address, property (.reference address))
    (quoted : ∀ text, property (.quoted text))
    (plain : ∀ text, property (.plain text))
    (spaced : ∀ before inner after, property inner → property (.spaced before inner after))
    (phrase : Phrase) : property phrase :=
  @Phrase.rec property (fun arguments ↦ ∀ argument ∈ arguments, property argument)
    call range reference quoted plain spaced (List.forall_mem_nil _)
    (fun _ _ first later ↦ List.forall_mem_cons.mpr ⟨first, later⟩) phrase

/-! ### Texts -/

mutual

/-- The text of a phrase. -/
def text : Phrase → List Char
  | call name opening arguments =>
    name.call (opening.chars ++ [','].intercalate (texts arguments))
  | range one other before after => one.a1 ++ before.chars ++ ':' :: (after.chars ++ other.a1)
  | reference address => address.a1
  | quoted text => Formula.quote text
  | plain text => text.chars
  | spaced before inner after => before.chars ++ inner.text ++ after.chars

/-- The texts of some phrases. -/
def texts : List Phrase → List (List Char)
  | [] => []
  | phrase :: later => phrase.text :: texts later

end

theorem texts_eq (phrases : List Phrase) : texts phrases = phrases.map text := by
  induction phrases with
  | nil => rfl
  | cons phrase later ih => rw [texts, ih, List.map_cons]

/-- The text of a phrase as a string. -/
def source (phrase : Phrase) : String := String.ofList phrase.text

/-- A phrase as the whole of a formula. -/
def formula (phrase : Phrase) : String := String.ofList ('=' :: phrase.text)

/-! ### Shapes and trees -/

/-- The shape of a phrase: what stands at its root, with the arguments of a call left as texts. -/
def shape : Phrase → Formula.ArgumentShape
  | call name _ arguments =>
    .call (String.ofList name.chars) (arguments.map fun argument ↦ Text.trimmed argument.source)
  | range one other _ _ => .range one.toA1 other.toA1
  | reference address => .reference address.toA1
  | quoted text => .literal (String.ofList text)
  | plain text => .literal (String.ofList text.chars)
  | spaced _ inner _ => inner.shape

mutual

/-- The tree of a phrase. -/
def expression : Phrase → Expression
  | call name _ arguments => .call (String.ofList name.chars) (expressions arguments)
  | range one other _ _ => .range (Region.ofCorners one other)
  | reference address => .reference address
  | quoted text => .literal (String.ofList text)
  | plain text => .literal (String.ofList text.chars)
  | spaced _ inner _ => inner.expression

/-- The trees of some phrases. -/
def expressions : List Phrase → List Expression
  | [] => []
  | phrase :: later => phrase.expression :: expressions later

end

theorem expressions_eq (phrases : List Phrase) : expressions phrases = phrases.map expression := by
  induction phrases with
  | nil => rfl
  | cons phrase later ih => rw [expressions, ih, List.map_cons]

end Phrase

end Worksheet
