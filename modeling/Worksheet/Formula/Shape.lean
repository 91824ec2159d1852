import Worksheet.Address.Text
import Worksheet.Formula.Scan

/-!
# Shapes of formulas and arguments

The outermost shape of a formula is a call or a term, and that of an argument is a call, a range, a
reference or a literal. `parse` and `classify` find the shape and leave what is inside as text, so
that a fault there comes up only when the text is read in its turn.
-/

set_option autoImplicit false
set_option relaxedAutoImplicit false

namespace Worksheet.Formula

/-- The shape of a whole formula. -/
inductive Shape where
  /-- A function name with arguments in parentheses. -/
  | call (name : String) (arguments : List String)
  /-- Anything else. -/
  | term (text : String)
deriving DecidableEq, Repr

/-- The shape of an argument. -/
inductive ArgumentShape where
  /-- A function name with arguments in parentheses. -/
  | call (name : String) (arguments : List String)
  /-- Two texts with a colon between them. -/
  | range (first last : String)
  /-- Letters and digits in the manner of an address. -/
  | reference (text : String)
  /-- Any other text, without the quotes around it. -/
  | literal (text : String)
deriving DecidableEq, Repr

/-- Whether a character may stand in a function name. -/
def isNameChar (c : Char) : Bool := c.isAlpha || c = '_'

/-- Reads a text as a call, if it begins with a name and an opening parenthesis. The parenthesis
that closes the call must then be the last character. -/
def parseCall (text : String) : Except FormulaError (Option (String × List String)) :=
  let chars := text.toList
  let name := chars.takeWhile isNameChar
  match name, chars.dropWhile isNameChar with
  | _ :: _, '(' :: body =>
    match splitAtClosing 0 false body with
    | .error cause => .error (.malformed cause)
    | .ok (inner, []) =>
      (splitArguments (String.ofList inner)).map fun arguments ↦
        some (String.ofList name, arguments)
    | .ok (_, after) => .error (.malformed (.textAfterCall (String.ofList after)))
  | _, _ => .ok none

/-- The arguments of a call are shorter than the call. -/
theorem length_lt_of_mem_parseCall {text name argument : String} {arguments : List String}
    (called : parseCall text = .ok (some (name, arguments))) (found : argument ∈ arguments) :
    argument.length < text.length := by
  unfold parseCall at called
  simp only at called
  split at called
  · rename_i c rest body named after
    split at called
    · simp at called
    · rename_i inner closed
      obtain ⟨split, parted, whole⟩ := exists_of_map_eq_ok called
      simp only [Option.some.injEq, Prod.mk.injEq] at whole
      rw [← whole.2] at found
      have short := length_le_of_mem_splitArguments parted found
      have closing := length_of_splitAtClosing _ _ _ _ _ closed
      have dropped := (List.dropWhile_sublist (p := isNameChar) (l := text.toList)).length_le
      rw [after] at dropped
      simp only [List.length_cons, String.length_toList, String.length_ofList] at *
      omega
    · simp at called
  · simp at called

/-- Refuses what a term may not hold: parentheses and colons outside of quotes, and a quote that is
not closed. -/
def checkTerm (term : String) : Except FormulaError Unit :=
  let unquoted := unquotedChars term.toList
  if unquoted.any fun c ↦ c = '(' || c = ')' then
    .error (.malformed (.unexpectedParenthesis term))
  else if !quotesPaired term.toList then .error (.malformed .unterminatedString)
  else if unquoted.contains ':' then .error .rangeNotAllowedHere
  else .ok ()

/-- The text after the equals sign that a formula begins with, without the blanks around either. -/
def body? (formula : String) : Option String :=
  match Text.trim formula.toList with
  | '=' :: body => some (String.ofList (Text.trim body))
  | _ => none

/-- The shape of a formula. -/
def parse (formula : String) : Except FormulaError Shape :=
  match body? formula with
  | none => .error (.malformed .noEqualsSign)
  | some body =>
    if body = "" then .error (.malformed .emptyFormula)
    else do
      match ← parseCall body with
      | some (name, arguments) => return .call name arguments
      | none =>
        checkTerm body
        return .term body

/-- Whether a text has the shape of a reference: capital letters, then digits. Not every text of
this shape is an address. -/
def isReference (text : String) : Bool :=
  let letters := text.toList.takeWhile Column.isLetter
  let digits := text.toList.dropWhile Column.isLetter
  letters ≠ [] && digits ≠ [] && digits.all Char.isDigit

/-- The shape of a text that is not a call. -/
def classifyPlain (text : String) : ArgumentShape :=
  match unquote? text.toList with
  | some inner => .literal (String.ofList inner)
  | none =>
    match Address.splitAtColon? text.toList with
    | some (first, last) =>
      .range (String.ofList (Text.trim first)) (String.ofList (Text.trim last))
    | none => if isReference text then .reference text else .literal text

/-- The shape of an argument, without the blanks around it. -/
def classify (argument : String) : Except FormulaError ArgumentShape := do
  let text := Text.trimmed argument
  match ← parseCall text with
  | some (name, arguments) => return .call name arguments
  | none => return classifyPlain text

/-- The arguments of an argument that is a call are shorter than it. -/
theorem length_lt_of_mem_classify {text name argument : String} {arguments : List String}
    (shape : classify text = .ok (.call name arguments)) (found : argument ∈ arguments) :
    argument.length < text.length := by
  simp only [classify, bind, Except.bind] at shape
  split at shape
  · simp at shape
  · rename_i outcome called
    split at shape
    · simp only [pure, Except.pure, Except.ok.injEq, ArgumentShape.call.injEq] at shape
      obtain ⟨rfl, rfl⟩ := shape
      have short := length_lt_of_mem_parseCall called found
      have trimmed := Text.length_trim_le text.toList
      simp only [Text.trimmed, String.length_ofList, String.length_toList] at short trimmed
      omega
    · simp only [pure, Except.pure, Except.ok.injEq, classifyPlain] at shape
      split at shape
      · simp at shape
      · split at shape
        · simp at shape
        · split at shape <;> simp at shape

end Worksheet.Formula
