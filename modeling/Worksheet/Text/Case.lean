import Worksheet.Text.CaseTable

/-!
# Upper and lower case

The full case mappings of texts, independent of any language: a character may become several, as
`ß` becomes `SS`, and a capital sigma at the end of a word becomes a final one.
-/

set_option autoImplicit false
set_option relaxedAutoImplicit false

namespace Worksheet.Text

/-- The characters that a character maps to, by the mappings to several characters or else by those
to one. -/
def mapCase (expansions : List (Nat × List Nat)) (runs : List CaseRun) (c : Char) : List Char :=
  match caseImage? c.toNat runs with
  | some image => [Char.ofNat image]
  | none =>
    match expansions.lookup c.toNat with
    | some images => images.map Char.ofNat
    | none => [c]

/-- The uppercase characters of a character. -/
def uppercaseOf (c : Char) : List Char := mapCase uppercaseExpansions uppercaseRuns c

/-- The lowercase characters of a character, wherever it stands. -/
def lowercaseOf (c : Char) : List Char := mapCase lowercaseExpansions lowercaseRuns c

/-- Whether a character has the property Cased. -/
def isCased (c : Char) : Bool := inRanges c.toNat casedRanges

/-- Whether a character has the property Case_Ignorable. -/
def isCaseIgnorable (c : Char) : Bool := inRanges c.toNat caseIgnorableRanges

/-- Whether a text, after the characters that have no bearing on case, goes on with a cased one. -/
def beginsCased (text : List Char) : Bool := (text.dropWhile isCaseIgnorable).head?.any isCased

/-- The lowercase form of a text, after characters that are given last first. A capital sigma after
a cased character and not before one ends a word, and becomes a final sigma. -/
def lowercaseAfter (before : List Char) : List Char → List Char
  | [] => []
  | c :: after =>
    let image :=
      if c = 'Σ' then
        if beginsCased before && !beginsCased after then ['ς'] else ['σ']
      else lowercaseOf c
    image ++ lowercaseAfter (c :: before) after

/-- The uppercase form of a string. -/
def uppercase (text : String) : String := String.ofList (text.toList.flatMap uppercaseOf)

/-- The lowercase form of a string. -/
def lowercase (text : String) : String := String.ofList (lowercaseAfter [] text.toList)

end Worksheet.Text
