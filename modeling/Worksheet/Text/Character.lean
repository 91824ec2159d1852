/-!
# Characters

The characters with the Unicode property White_Space, and their removal from both ends of a text.

Other properties of characters are tables of ranges of code points, and case mappings are tables of
runs of code points that move by one distance. Both kinds of table are sorted by first code point,
so a search ends at the first entry that begins past the character.
-/

set_option autoImplicit false
set_option relaxedAutoImplicit false

namespace Worksheet.Text

/-! ### Blank characters -/

/-- Whether a character has the property White_Space. -/
def isBlank (c : Char) : Bool :=
  ('\t' ≤ c ∧ c ≤ '\r') ∨ c = ' ' ∨ c = '\u0085' ∨ c = '\u00a0' ∨ c = '\u1680' ∨
    ('\u2000' ≤ c ∧ c ≤ '\u200a') ∨ c = '\u2028' ∨ c = '\u2029' ∨ c = '\u202f' ∨
    c = '\u205f' ∨ c = '\u3000'

/-- Removes the blank characters at both ends. -/
def trim (text : List Char) : List Char :=
  ((text.dropWhile isBlank).reverse.dropWhile isBlank).reverse

/-- Removes the blank characters at both ends of a string. -/
def trimmed (text : String) : String := String.ofList (trim text.toList)

/-- Trimming never makes a text longer. -/
theorem length_trim_le (text : List Char) : (trim text).length ≤ text.length := by
  have front := (List.dropWhile_sublist (p := isBlank) (l := text)).length_le
  have back := (List.dropWhile_sublist (p := isBlank)
    (l := (text.dropWhile isBlank).reverse)).length_le
  simp only [List.length_reverse] at back
  simp only [trim, List.length_reverse]
  omega

/-- Whether a text has only blank characters. -/
def isAllBlank (text : List Char) : Bool := text.all isBlank

/-! ### Tables -/

/-- Whether a code point lies in a sorted table of ranges, which include both their ends. -/
def inRanges (point : Nat) : List (Nat × Nat) → Bool
  | [] => false
  | (first, last) :: later =>
    if point < first then false else if point ≤ last then true else inRanges point later

/-- Every code point from `first` to `last` at a distance of `step` that maps to the one at the
distance `shift` from it. -/
structure CaseRun where
  /-- The first code point. -/
  first : Nat
  /-- The last code point. -/
  last : Nat
  /-- The distance between one code point of the run and the next. -/
  step : Nat
  /-- The distance from a code point to its image. -/
  shift : Int
deriving DecidableEq, Repr

/-- The image of a code point under a sorted table of runs. -/
def caseImage? (point : Nat) : List CaseRun → Option Nat
  | [] => none
  | run :: later =>
    if point < run.first then none
    else if point ≤ run.last ∧ (point - run.first) % run.step = 0 then
      some ((point : Int) + run.shift).toNat
    else caseImage? point later

end Worksheet.Text
