import Worksheet.Number.Numeral
import Worksheet.Proofs.Json.Scalars

/-!
# The grammar of numerals

A numeral is a sign that may be left out, digits with a point that may be left out and with digits
on at least one side of it, and a power of ten that may be left out (`Numeral.Spells`). Reading a
text gives a numeral exactly if the text spells that numeral with ASCII digits
(`Numeral.read_eq_some_iff`). The grammar leaves open which characters are digits, so it also says
what a pattern with a larger class of digits matches.
-/

set_option autoImplicit false
set_option relaxedAutoImplicit false

namespace Worksheet

/-! ### The grammar -/

/-- A text spells a sign: a plus or minus sign, or nothing. -/
inductive SpellsSign : Bool → List Char → Prop where
  /-- No sign. -/
  | unsigned : SpellsSign false []
  /-- A plus sign. -/
  | plus : SpellsSign false ['+']
  /-- A minus sign. -/
  | minus : SpellsSign true ['-']

section Grammar

variable (digit : Char → Bool)

/-- A text has one digit or more and nothing else. -/
def IsDigits (text : List Char) : Prop := text ≠ [] ∧ ∀ c ∈ text, digit c

/-- A text spells the digits before and after a point. -/
inductive SpellsPlaces : List Char → List Char → List Char → Prop where
  /-- Digits without a point. -/
  | whole {whole : List Char} (digits : IsDigits digit whole) : SpellsPlaces whole [] whole
  /-- Digits and a point, perhaps with digits after it. -/
  | point {whole fraction : List Char} (digits : IsDigits digit whole)
      (more : ∀ c ∈ fraction, digit c) : SpellsPlaces whole fraction (whole ++ '.' :: fraction)
  /-- A point and the digits after it. -/
  | fraction {fraction : List Char} (digits : IsDigits digit fraction) :
      SpellsPlaces [] fraction ('.' :: fraction)

/-- A text spells a power of ten: a mark, a sign and digits, or nothing. -/
inductive SpellsPower : Int → List Char → Prop where
  /-- No power of ten. -/
  | none : SpellsPower 0 []
  /-- A power of ten. -/
  | written {mark : Char} {negative : Bool} {sign digits : List Char}
      (marked : mark = 'e' ∨ mark = 'E') (signed : SpellsSign negative sign)
      (all : IsDigits digit digits) :
      SpellsPower (if negative then -(digitsValue digits : Int) else digitsValue digits)
        (mark :: (sign ++ digits))

/-- A text spells a numeral, for a class of digits. Digits outside of ASCII give the numeral no
value of their own. -/
structure Numeral.Spells (numeral : Numeral) (text : List Char) : Prop where
  /-- The text is a sign, the digits and a power of ten. -/
  parts : ∃ sign places power, text = sign ++ (places ++ power) ∧
    SpellsSign numeral.negative sign ∧ SpellsPlaces digit numeral.whole numeral.fraction places ∧
      SpellsPower digit numeral.power power

end Grammar

/-! ### Larger classes of digits -/

section Monotone

variable {digit larger : Char → Bool} (within : ∀ c, digit c → larger c)

include within

theorem IsDigits.mono {text : List Char} (digits : IsDigits digit text) : IsDigits larger text :=
  ⟨digits.1, fun c member ↦ within c (digits.2 c member)⟩

theorem SpellsPlaces.mono {whole fraction places : List Char}
    (placed : SpellsPlaces digit whole fraction places) :
    SpellsPlaces larger whole fraction places := by
  cases placed with
  | whole digits => exact .whole (digits.mono within)
  | point digits more => exact .point (digits.mono within) fun c member ↦ within c (more c member)
  | fraction digits => exact .fraction (digits.mono within)

theorem SpellsPower.mono {power : Int} {text : List Char} (powered : SpellsPower digit power text) :
    SpellsPower larger power text := by
  cases powered with
  | none => exact .none
  | written marked signed all => exact .written marked signed (all.mono within)

/-- What is spelled with some digits is spelled with more of them. -/
theorem Numeral.Spells.mono {numeral : Numeral} {text : List Char}
    (spells : numeral.Spells digit text) : numeral.Spells larger text := by
  obtain ⟨sign, places, power, whole, signed, placed, powered⟩ := spells.parts
  exact ⟨sign, places, power, whole, signed, placed.mono within, powered.mono within⟩

end Monotone

/-! ### Characters of numerals -/

/-- The characters of a numeral apart from its digits. -/
def numeralMarks : List Char := ['+', '-', '.', 'e', 'E']

theorem SpellsSign.mem_numeralMarks {negative : Bool} {sign : List Char} {c : Char}
    (signed : SpellsSign negative sign) (member : c ∈ sign) : c ∈ numeralMarks := by
  cases signed with
  | unsigned => cases member
  | plus => exact List.mem_singleton.mp member ▸ by decide
  | minus => exact List.mem_singleton.mp member ▸ by decide

section Characters

variable {digit : Char → Bool} {c : Char}

theorem SpellsPlaces.digit_or_mark {whole fraction places : List Char}
    (placed : SpellsPlaces digit whole fraction places) (member : c ∈ places) :
    digit c ∨ c ∈ numeralMarks := by
  have point : '.' ∈ numeralMarks := by decide
  cases placed with
  | whole digits => exact Or.inl (digits.2 c member)
  | point digits more =>
    rw [List.mem_append, List.mem_cons] at member
    rcases member with before | rfl | after
    · exact Or.inl (digits.2 c before)
    · exact Or.inr point
    · exact Or.inl (more c after)
  | fraction digits =>
    rcases List.mem_cons.mp member with rfl | after
    · exact Or.inr point
    · exact Or.inl (digits.2 c after)

theorem SpellsPlaces.ne_nil {whole fraction places : List Char}
    (placed : SpellsPlaces digit whole fraction places) : places ≠ [] := by
  cases placed with
  | whole digits => exact digits.1
  | point digits _ => exact List.append_ne_nil_of_left_ne_nil digits.1 _
  | fraction _ => exact List.cons_ne_nil _ _

theorem SpellsPower.digit_or_mark {power : Int} {text : List Char}
    (powered : SpellsPower digit power text) (member : c ∈ text) : digit c ∨ c ∈ numeralMarks := by
  cases powered with
  | none => cases member
  | written marked signed all =>
    rw [List.mem_cons, List.mem_append] at member
    rcases member with rfl | inSign | inDigits
    · refine Or.inr ?_
      rcases marked with rfl | rfl
      · decide
      · decide
    · exact Or.inr (signed.mem_numeralMarks inSign)
    · exact Or.inl (all.2 c inDigits)

variable {numeral : Numeral} {text : List Char}

/-- A numeral has digits and the marks of numerals only. -/
theorem Numeral.Spells.digit_or_mark (spells : numeral.Spells digit text) (member : c ∈ text) :
    digit c ∨ c ∈ numeralMarks := by
  obtain ⟨sign, places, power, rfl, signed, placed, powered⟩ := spells.parts
  rw [List.mem_append, List.mem_append] at member
  rcases member with inSign | inPlaces | inPower
  · exact Or.inr (signed.mem_numeralMarks inSign)
  · exact placed.digit_or_mark inPlaces
  · exact powered.digit_or_mark inPower

theorem Numeral.Spells.ne_nil (spells : numeral.Spells digit text) : text ≠ [] := by
  obtain ⟨sign, places, power, rfl, -, placed, -⟩ := spells.parts
  exact List.append_ne_nil_of_right_ne_nil _
    (List.append_ne_nil_of_left_ne_nil placed.ne_nil _)

end Characters

/-! ### Reading -/

namespace Numeral

variable {text rest : List Char}

/-- A sign is taken off a text that goes on without one. -/
theorem takeSign_append {negative : Bool} {sign : List Char} (signed : SpellsSign negative sign)
    (after : ∀ c ∈ rest.head?, c ≠ '+' ∧ c ≠ '-') : takeSign (sign ++ rest) = (negative, rest) := by
  cases signed with
  | plus => rfl
  | minus => rfl
  | unsigned =>
    rw [List.nil_append]
    unfold takeSign
    split
    · exact absurd rfl (after '-' rfl).2
    · exact absurd rfl (after '+' rfl).1
    · rfl

theorem exists_sign (text : List Char) :
    ∃ sign, SpellsSign (takeSign text).1 sign ∧ text = sign ++ (takeSign text).2 := by
  unfold takeSign
  split
  · exact ⟨['-'], .minus, rfl⟩
  · exact ⟨['+'], .plus, rfl⟩
  · exact ⟨[], .unsigned, rfl⟩

theorem ne_sign_of_isDigit {c : Char} (digit : c.isDigit) : c ≠ '+' ∧ c ≠ '-' := by
  constructor
  · rintro rfl
    exact absurd digit (by decide)
  · rintro rfl
    exact absurd digit (by decide)

/-- A power of ten is read exactly from the texts that spell it. -/
theorem readPower_eq_some_iff {power : Int} :
    readPower text = some power ↔ SpellsPower Char.isDigit power text := by
  constructor
  · intro found
    cases text with
    | nil =>
      cases found
      exact .none
    | cons mark rest =>
      obtain ⟨sign, signed, whole⟩ := exists_sign rest
      simp only [readPower, Option.ite_none_right_eq_some, Option.some.injEq,
        List.all_eq_true] at found
      obtain ⟨marked, digits, rfl⟩ := found
      have spelled := SpellsPower.written marked signed digits
      rwa [← whole] at spelled
  · intro spelled
    cases spelled with
    | none => rfl
    | @written mark negative sign digits marked signed all =>
      have taken : takeSign (sign ++ digits) = (negative, digits) :=
        takeSign_append signed fun c first ↦
          ne_sign_of_isDigit (all.2 c (List.mem_of_mem_head? first))
      rw [readPower, if_pos marked, taken]
      exact if_pos ⟨all.1, List.all_eq_true.mpr all.2⟩

/-- A power of ten cannot be taken for more digits or for a point. -/
theorem head?_of_spellsPower {power : Int} (spelled : SpellsPower Char.isDigit power rest) :
    ∀ c ∈ rest.head?, c.isDigit = false ∧ c ≠ '.' := by
  intro c first
  cases spelled with
  | none => cases first
  | written marked _ _ =>
    cases first
    rcases marked with rfl | rfl
    · decide
    · decide

/-- The digits of a numeral begin it with a digit or a point. -/
theorem head?_of_spellsPlaces {whole fraction places : List Char}
    (placed : SpellsPlaces Char.isDigit whole fraction places) :
    ∀ c ∈ (places ++ rest).head?, c ≠ '+' ∧ c ≠ '-' := by
  have leading {digits : List Char} (all : IsDigits Char.isDigit digits) (later : List Char) :
      ∀ c ∈ (digits ++ later).head?, c ≠ '+' ∧ c ≠ '-' := by
    intro c first
    rw [List.head?_append, Option.or_of_isSome (List.isSome_head?.mpr all.1)] at first
    exact ne_sign_of_isDigit (all.2 c (List.mem_of_mem_head? first))
  cases placed with
  | whole digits => exact leading digits rest
  | point digits more =>
    rw [List.append_assoc]
    exact leading digits _
  | fraction digits =>
    rintro _ ⟨⟩
    decide

/-- The digits of a numeral are taken apart at the point. -/
theorem takePlaces_append {whole fraction places : List Char}
    (placed : SpellsPlaces Char.isDigit whole fraction places)
    (after : ∀ c ∈ rest.head?, c.isDigit = false ∧ c ≠ '.') :
    (places ++ rest).takeWhile Char.isDigit = whole ∧
      takeFraction ((places ++ rest).dropWhile Char.isDigit) = (fraction, rest) ∧
        ¬ (whole = [] ∧ fraction = []) := by
  have noDigit : Json.NoDigit rest := fun c first ↦ (after c first).1
  have pointNoDigit (later : List Char) : Json.NoDigit ('.' :: later) := by
    rintro _ ⟨⟩
    rfl
  cases placed with
  | whole digits =>
    obtain ⟨taken, left⟩ := Json.takeWhile_isDigit_append digits.2 noDigit
    refine ⟨taken, ?_, fun empty ↦ digits.1 empty.1⟩
    rw [left]
    unfold takeFraction
    split
    · exact absurd rfl (after '.' rfl).2
    · rfl
  | @point whole fraction digits more =>
    obtain ⟨taken, left⟩ := Json.takeWhile_isDigit_append digits.2 (pointNoDigit (fraction ++ rest))
    obtain ⟨takenAfter, leftAfter⟩ := Json.takeWhile_isDigit_append more noDigit
    rw [List.append_assoc, List.cons_append]
    refine ⟨taken, ?_, fun empty ↦ digits.1 empty.1⟩
    rw [left, takeFraction, takenAfter, leftAfter]
  | fraction digits =>
    obtain ⟨takenAfter, leftAfter⟩ := Json.takeWhile_isDigit_append digits.2 noDigit
    refine ⟨rfl, ?_, fun empty ↦ digits.1 empty.2⟩
    show takeFraction ('.' :: (fraction ++ rest)) = _
    rw [takeFraction, takenAfter, leftAfter]

/-- Where digits are taken apart at a point, they are spelled. -/
theorem exists_places (text : List Char)
    (filled : ¬ (text.takeWhile Char.isDigit = [] ∧
      (takeFraction (text.dropWhile Char.isDigit)).1 = [])) :
    ∃ places, SpellsPlaces Char.isDigit (text.takeWhile Char.isDigit)
        (takeFraction (text.dropWhile Char.isDigit)).1 places ∧
      text = places ++ (takeFraction (text.dropWhile Char.isDigit)).2 := by
  have split := (List.takeWhile_append_dropWhile (p := Char.isDigit) (l := text)).symm
  have digits (text : List Char) : ∀ c ∈ text.takeWhile Char.isDigit, c.isDigit :=
    fun c member ↦ List.all_eq_true.mp List.all_takeWhile c member
  have front := digits text
  generalize text.takeWhile Char.isDigit = whole at *
  generalize text.dropWhile Char.isDigit = rest at *
  unfold takeFraction at *
  split at *
  · next rest =>
    have after := (List.takeWhile_append_dropWhile (p := Char.isDigit) (l := rest)).symm
    by_cases empty : whole = []
    · subst empty
      refine ⟨_, .fraction ⟨fun none ↦ filled ⟨rfl, none⟩, digits rest⟩, ?_⟩
      rw [List.cons_append, ← after]
      exact split
    · refine ⟨_, .point ⟨empty, front⟩ (digits rest), ?_⟩
      rw [List.append_assoc, List.cons_append, ← after]
      exact split
  · exact ⟨whole, .whole ⟨fun empty ↦ filled ⟨empty, rfl⟩, front⟩, split⟩

/-- A numeral is read exactly from the texts that spell it. -/
theorem read_eq_some_iff {numeral : Numeral} :
    read text = some numeral ↔ numeral.Spells Char.isDigit text := by
  constructor
  · intro found
    obtain ⟨sign, signed, whole⟩ := exists_sign text
    simp only [read, Option.ite_none_left_eq_some, Option.map_eq_some_iff] at found
    obtain ⟨filled, power, readPower, rfl⟩ := found
    obtain ⟨places, placed, split⟩ := exists_places _ filled
    exact ⟨sign, places, _, by rw [← split, ← whole], signed, placed,
      readPower_eq_some_iff.mp readPower⟩
  · intro spells
    obtain ⟨sign, places, power, rfl, signed, placed, powered⟩ := spells.parts
    obtain ⟨whole, fraction, filled⟩ := takePlaces_append placed (head?_of_spellsPower powered)
    unfold read
    rw [takeSign_append signed (head?_of_spellsPlaces placed)]
    simp only [whole, fraction, if_neg filled, readPower_eq_some_iff.mpr powered, Option.map_some]

end Numeral

end Worksheet
