import Mathlib
import Worksheet.Proofs.Number.Encodings
import Worksheet.Proofs.Number.NumeralGrammar
import Worksheet.Proofs.Number.Rounding

/-!
# Which texts denote numbers

A text denotes a number exactly if it is a numeral between blanks whose nearest magnitude is finite
(`parseDecimal_eq_some_iff`). The same texts come through a pattern with a larger class of digits, a
reader that also knows infinity and what is no number (`GeneralReading`), and a last test that the
reading is finite (`parseDecimal_eq_some_iff_general`). This and what is rejected describe the
accepted texts (`parseDecimal_accepts_numerals`).
-/

set_option autoImplicit false
set_option relaxedAutoImplicit false

namespace Worksheet

open Binary64

/-! ### Finite readings -/

theorem Numeral.toFloat?_eq_some_iff {numeral : Numeral} {number : Float} :
    numeral.toFloat? = some number ↔ ∃ code, code < infinity ∧
      IsNearest numeral.decimal.value code ∧ number = ofCode numeral.negative code := by
  simp only [toFloat?, Option.map_eq_some_iff, Decimal.finiteCode?_eq_some_iff, and_assoc,
    @eq_comm _ number]

/-- A text denotes a number exactly if it is a numeral between blanks and the nearest magnitude is
finite. -/
theorem parseDecimal_eq_some_iff {text : String} {number : Float} :
    parseDecimal text = some number ↔
      ∃ numeral : Numeral, numeral.Spells Char.isDigit (Text.trim text.toList) ∧
        ∃ code, code < infinity ∧ IsNearest numeral.decimal.value code ∧
          number = ofCode numeral.negative code := by
  simp only [parseDecimal, Option.bind_eq_some_iff, Numeral.read_eq_some_iff,
    Numeral.toFloat?_eq_some_iff]

/-- A numeral that is nearest to no finite magnitude denotes nothing. -/
theorem parseDecimal_eq_none_of_infinity_le {text : String} {numeral : Numeral} {code : ℕ}
    (spells : numeral.Spells Char.isDigit (Text.trim text.toList))
    (nearest : IsNearest numeral.decimal.value code) (large : infinity ≤ code) :
    parseDecimal text = none := by
  rw [Option.eq_none_iff_forall_ne_some]
  intro number found
  obtain ⟨other, spellsOther, finite, below, nearestOther, -⟩ := parseDecimal_eq_some_iff.mp found
  have same : other = numeral := Option.some.inj
    ((Numeral.read_eq_some_iff.mpr spellsOther).symm.trans (Numeral.read_eq_some_iff.mpr spells))
  rw [same] at nearestOther
  exact absurd below (nearest.unique nearestOther ▸ Nat.not_lt.mpr large)

/-! ### A general reader -/

/-- The readings of a reader that also knows infinity and what is no number. A numeral is read as
the nearest magnitude with its sign, and as infinity if that magnitude is too large; words are read
in upper and lower case. -/
inductive GeneralReading : List Char → Float → Prop where
  /-- A numeral. -/
  | numeral {numeral : Numeral} {text : List Char} {code : ℕ}
      (spells : numeral.Spells Char.isDigit text)
      (nearest : IsNearest numeral.decimal.value code) :
      GeneralReading text (ofCode numeral.negative (min code infinity))
  /-- A word for infinity, perhaps with a sign. -/
  | infinite {negative : Bool} {sign word : List Char} (signed : SpellsSign negative sign)
      (named : word.map Char.toLower ∈ ["inf".toList, "infinity".toList]) :
      GeneralReading (sign ++ word) (ofCode negative infinity)
  /-- The word for what is no number, perhaps with a sign. -/
  | nan {negative : Bool} {sign word : List Char} {number : Float}
      (signed : SpellsSign negative sign) (named : word.map Char.toLower = "nan".toList)
      (isNaN : number.isNaN) : GeneralReading (sign ++ word) number

theorem not_isFinite_infinity (negative : Bool) : ¬ (ofCode negative infinity).isFinite := by
  rw [isFinite_iff, code_ofCode le_rfl]
  exact Nat.lt_irrefl infinity

/-- A finite reading is that of a numeral whose nearest magnitude is finite. -/
theorem GeneralReading.finite {text : List Char} {number : Float}
    (reading : GeneralReading text number) (finite : number.isFinite) :
    ∃ numeral : Numeral, numeral.Spells Char.isDigit text ∧
      ∃ code, code < infinity ∧ IsNearest numeral.decimal.value code ∧
        number = ofCode numeral.negative code := by
  cases reading with
  | @numeral numeral _ code spells nearest =>
    rcases Nat.lt_or_ge code infinity with below | beyond
    · exact ⟨numeral, spells, code, below, nearest, by rw [min_eq_left below.le]⟩
    · rw [min_eq_right beyond] at finite
      exact absurd finite (not_isFinite_infinity _)
  | infinite => exact absurd finite (not_isFinite_infinity _)
  | nan _ _ isNaN =>
    have below := isFinite_iff.mp finite
    have beyond := isNaN_iff.mp isNaN
    exact absurd below beyond.not_gt

/-- A text is a numeral for a class of digits. -/
def IsNumeralText (digit : Char → Bool) (text : List Char) : Prop :=
  ∃ numeral : Numeral, numeral.Spells digit text

/-- A text denotes a number exactly if it comes through a pattern with the digits of ASCII and
perhaps more digits, and the general reader reads it as that number, which is finite. -/
theorem parseDecimal_eq_some_iff_general {digit : Char → Bool} (ascii : ∀ c, c.isDigit → digit c)
    {text : String} {number : Float} :
    parseDecimal text = some number ↔ IsNumeralText digit (Text.trim text.toList) ∧
      GeneralReading (Text.trim text.toList) number ∧ number.isFinite := by
  constructor
  · intro found
    have finite := isFinite_of_parseDecimal found
    obtain ⟨numeral, spells, code, below, nearest, rfl⟩ := parseDecimal_eq_some_iff.mp found
    have reading := GeneralReading.numeral spells nearest
    rw [min_eq_left below.le] at reading
    exact ⟨⟨numeral, spells.mono ascii⟩, reading, finite⟩
  · rintro ⟨_, reading, finite⟩
    exact parseDecimal_eq_some_iff.mpr (reading.finite finite)

/-! ### Rejected texts -/

/-- A text with another character between its blanks than the ASCII digits and the marks of
numerals denotes nothing. -/
theorem parseDecimal_eq_none_of_mem {text : String} {c : Char}
    (member : c ∈ Text.trim text.toList) (noDigit : c.isDigit = false) (noMark : c ∉ numeralMarks) :
    parseDecimal text = none := by
  rw [Option.eq_none_iff_forall_ne_some]
  intro number found
  obtain ⟨numeral, spells, -⟩ := parseDecimal_eq_some_iff.mp found
  rcases spells.digit_or_mark member with digit | mark
  · exact absurd digit (by rw [noDigit]; exact Bool.false_ne_true)
  · exact noMark mark

theorem parseDecimal_eq_none_of_trim_eq_nil {text : String} (blank : Text.trim text.toList = []) :
    parseDecimal text = none := by
  rw [Option.eq_none_iff_forall_ne_some]
  intro number found
  obtain ⟨numeral, spells, -⟩ := parseDecimal_eq_some_iff.mp found
  exact spells.ne_nil blank

/-! ### The accepted texts -/

/-- The accepted texts are the numerals of ASCII digits between blanks whose nearest number is
finite, also when the digits of the pattern are more than those of ASCII. A numeral that is too
large denotes nothing, and neither does a text without a numeral or with any other character. -/
theorem parseDecimal_accepts_numerals {digit : Char → Bool} (ascii : ∀ c, c.isDigit → digit c)
    (text : String) :
    (∀ number, parseDecimal text = some number ↔
      IsNumeralText Char.isDigit (Text.trim text.toList) ∧
        GeneralReading (Text.trim text.toList) number ∧ number.isFinite) ∧
    (∀ number, parseDecimal text = some number ↔
      IsNumeralText digit (Text.trim text.toList) ∧
        GeneralReading (Text.trim text.toList) number ∧ number.isFinite) ∧
    (∀ numeral : Numeral, numeral.Spells Char.isDigit (Text.trim text.toList) →
      ∃ code, IsNearest numeral.decimal.value code ∧
        if code < infinity then
          ∃ number, parseDecimal text = some number ∧ isNegative number = numeral.negative ∧
            exactValue? number = some (signed numeral.negative (magnitude code))
        else parseDecimal text = none) ∧
    (∀ c ∈ Text.trim text.toList, c.isDigit = false → c ∉ numeralMarks →
      parseDecimal text = none) ∧
    (Text.trim text.toList = [] → parseDecimal text = none) := by
  refine ⟨fun number ↦ parseDecimal_eq_some_iff_general fun c digit ↦ digit,
    fun number ↦ parseDecimal_eq_some_iff_general ascii, fun numeral spells ↦ ?_,
    fun c member ↦ parseDecimal_eq_none_of_mem member, parseDecimal_eq_none_of_trim_eq_nil⟩
  have nearest := numeral.decimal.isNearest_nearestCode
  refine ⟨_, nearest, ?_⟩
  split
  · next below =>
    exact ⟨_, parseDecimal_eq_some_iff.mpr ⟨numeral, spells, _, below, nearest, rfl⟩,
      isNegative_ofCode below.le _, exactValue?_ofCode below _⟩
  · next beyond =>
    exact parseDecimal_eq_none_of_infinity_le spells nearest (Nat.le_of_not_lt beyond)

/-- The digits of ASCII and the Arabic-Indic digits. -/
def isAsciiOrArabicDigit (c : Char) : Bool := c.isDigit || ('\u0660' ≤ c && c ≤ '\u0669')

/-- The Arabic-Indic digit three comes through the pattern and denotes nothing. -/
theorem parseDecimal_arabic_three :
    IsNumeralText isAsciiOrArabicDigit (Text.trim "\u0663".toList) ∧
      parseDecimal "\u0663" = none := by
  have ascii : ∀ c : Char, c.isDigit → isAsciiOrArabicDigit c :=
    fun c digit ↦ Bool.or_eq_true_iff.mpr (Or.inl digit)
  have trimmed : Text.trim "\u0663".toList = ['\u0663'] := by decide
  refine ⟨⟨⟨false, ['\u0663'], [], 0⟩, ?_⟩, ?_⟩
  · rw [trimmed]
    have digits : IsDigits isAsciiOrArabicDigit ['\u0663'] := by
      refine ⟨List.cons_ne_nil _ _, fun c member ↦ ?_⟩
      rw [List.mem_singleton.mp member]
      decide
    exact ⟨[], ['\u0663'], [], rfl, .unsigned, .whole digits, .none⟩
  · obtain ⟨-, -, -, rejected, -⟩ := parseDecimal_accepts_numerals ascii "\u0663"
    exact rejected '\u0663' (by rw [trimmed]; exact List.mem_singleton_self _) (by decide)
      (by decide)

end Worksheet
