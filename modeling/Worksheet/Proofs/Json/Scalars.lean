import Worksheet.Json.Reader
import Worksheet.Json.Writer
import Mathlib.Data.List.TakeWhile

/-!
# Reading back strings and numerals

The two kinds of JSON text without inner values. Every character of a string is escaped as one part
that stands for it (`exists_part_escaped`), so the text of a string is read as that string
(`readString?_escaped`). The text of a numeral whose digits are in order (`Numeral.Proper`) is read
as that numeral, as long as what follows cannot be taken for more of it
(`readUnsigned?_unsignedText`).
-/

set_option autoImplicit false
set_option relaxedAutoImplicit false

namespace Worksheet.Json

/-! ### Strings -/

/-- A unit below the surrogates is a character of its own, whatever follows. -/
theorem joinParts?_unit {value : Nat} (below : value < 0xd800) (later : List StringPart) :
    joinParts? (.unit value :: later) = (joinParts? later).map (Char.ofNat value :: ·) := by
  have noHigh : ¬ (0xd800 ≤ value ∧ value < 0xdc00) := by omega
  have noLow : ¬ (0xdc00 ≤ value ∧ value < 0xe000) := by omega
  have noHalf : ¬ (0xd800 ≤ value ∧ value < 0xe000) := by omega
  match later with
  | [] => simp only [joinParts?, if_neg noHalf]
  | .char c :: rest => simp only [joinParts?, if_neg noHalf]
  | .unit second :: rest =>
    rw [joinParts?]
    simp only [if_neg noHigh, if_neg noLow]

/-- The last two digits of the escape of a control. -/
theorem unit?_hexDigit (value : Nat) (control : value < 0x20) :
    unit? '0' '0' (hexDigit (value / 16)) (hexDigit (value % 16)) = some value := by
  revert value
  decide

theorem readParts?_plain {c : Char} (unquoted : c ≠ '"') (unescaped : c ≠ '\\')
    (visible : ¬ c.toNat < 0x20) (rest : List Char) :
    readParts? (c :: rest) = (readParts? rest).map fun read ↦ (.char c :: read.1, read.2) := by
  rw [readParts?, if_neg (not_or.mpr ⟨unescaped, visible⟩)]
  · exact unquoted
  · exact fun _ _ _ _ _ escape _ ↦ unescaped escape
  · exact fun _ _ escape _ ↦ unescaped escape

/-- A character is escaped as one part, which stands for the character. -/
theorem exists_part_escaped (c : Char) :
    ∃ part, (∀ rest, readParts? (escaped c ++ rest) =
        (readParts? rest).map fun read ↦ (part :: read.1, read.2)) ∧
      ∀ later, joinParts? (part :: later) = (joinParts? later).map (c :: ·) := by
  unfold escaped
  split
  case h_8 unquoted unescaped _ _ _ _ _ =>
    split
    · rename_i control
      refine ⟨.unit c.toNat, fun rest ↦ ?_, fun later ↦ ?_⟩
      · show (unit? '0' '0' (hexDigit (c.toNat / 16)) (hexDigit (c.toNat % 16))).bind _ = _
        rw [unit?_hexDigit c.toNat control]
        rfl
      · rw [joinParts?_unit (by omega), Char.ofNat_toNat]
    · rename_i visible
      exact ⟨.char c, readParts?_plain unquoted unescaped visible, fun _ ↦ rfl⟩
  all_goals exact ⟨.char _, fun _ ↦ rfl, fun _ ↦ rfl⟩

/-- The text of a string is read as that string. -/
theorem readString?_escaped (text rest : List Char) :
    readString? (text.flatMap escaped ++ '"' :: rest) = some (some (String.ofList text), rest) := by
  have parts : ∃ parts, readParts? (text.flatMap escaped ++ '"' :: rest) = some (parts, rest) ∧
      joinParts? parts = some text := by
    induction text with
    | nil => exact ⟨[], rfl, rfl⟩
    | cons c later ih =>
      obtain ⟨parts, read, joined⟩ := ih
      obtain ⟨part, readOne, joinOne⟩ := exists_part_escaped c
      refine ⟨part :: parts, ?_, ?_⟩
      · rw [List.flatMap_cons, List.append_assoc, readOne, read]
        rfl
      · rw [joinOne, joined]
        rfl
  obtain ⟨parts, read, joined⟩ := parts
  rw [readString?, read]
  show some ((joinParts? parts).map String.ofList, rest) = _
  rw [joined]
  rfl

/-! ### Numerals -/

/-- One digit or more. -/
def Digits (text : List Char) : Prop := text ≠ [] ∧ ∀ c ∈ text, c.isDigit

/-- Digits of which the first is a zero only when it is alone. -/
def WholeDigits (text : List Char) : Prop := text = ['0'] ∨ Digits text ∧ text.head? ≠ some '0'

/-- A numeral that can be read: no leading zero comes before other digits, and there are digits
after a point and in a power of ten. -/
structure Numeral.Proper (numeral : Numeral) : Prop where
  whole : WholeDigits numeral.whole
  fraction : ∀ digits ∈ numeral.fraction, Digits digits
  power : ∀ written ∈ numeral.power, Digits written.2

/-- The text of the point of a numeral and the digits after it. -/
def fractionText : Option (List Char) → List Char
  | some digits => '.' :: digits
  | none => []

/-- The text of the power of ten of a numeral. -/
def powerText : Option (Bool × List Char) → List Char
  | some (negative, digits) => 'e' :: (if negative then '-' else '+') :: digits
  | none => []

/-- The text of a numeral without its sign. -/
def Numeral.unsignedText (numeral : Numeral) : List Char :=
  numeral.whole ++ (fractionText numeral.fraction ++ powerText numeral.power)

theorem Numeral.text_eq (numeral : Numeral) :
    numeral.text = (if numeral.negative then ['-'] else []) ++ numeral.unsignedText := by
  rw [unsignedText, ← List.append_assoc, ← List.append_assoc]
  rfl

/-- Whether a text does not begin with a digit. -/
def NoDigit (rest : List Char) : Prop := ∀ c ∈ rest.head?, c.isDigit = false

/-- Whether a numeral before a text is not continued by it. -/
def EndsNumeral (rest : List Char) : Prop :=
  ∀ c ∈ rest.head?, c.isDigit = false ∧ c ≠ '.' ∧ c ≠ 'e' ∧ c ≠ 'E'

variable {digits rest : List Char}

theorem EndsNumeral.noDigit (ended : EndsNumeral rest) : NoDigit rest :=
  fun c first ↦ (ended c first).1

theorem EndsNumeral.powerText (ended : EndsNumeral rest) (power : Option (Bool × List Char)) :
    ∀ c ∈ (powerText power ++ rest).head?, c.isDigit = false ∧ c ≠ '.' := by
  intro c first
  match power with
  | some _ =>
    cases first
    decide
  | none => exact ⟨(ended c first).1, (ended c first).2.1⟩

theorem NoDigit.fractionText (ended : NoDigit rest) (fraction : Option (List Char)) :
    NoDigit (fractionText fraction ++ rest) := by
  intro c first
  match fraction with
  | some _ =>
    cases first
    decide
  | none => exact ended c first

/-- Digits are taken up to the first character that is no digit. -/
theorem takeWhile_isDigit_append (all : ∀ c ∈ digits, c.isDigit) (ended : NoDigit rest) :
    (digits ++ rest).takeWhile Char.isDigit = digits ∧
      (digits ++ rest).dropWhile Char.isDigit = rest := by
  rw [List.takeWhile_append_of_pos all, List.dropWhile_append_of_pos all]
  match rest with
  | [] => simp
  | c :: _ =>
    have first : c.isDigit = false := ended c rfl
    simp [first]

theorem readDigits?_append (filled : Digits digits) (ended : NoDigit rest) :
    readDigits? (digits ++ rest) = some (digits, rest) := by
  obtain ⟨taken, left⟩ := takeWhile_isDigit_append filled.2 ended
  rw [readDigits?, taken, left, if_neg filled.1]

theorem readWhole?_append (whole : WholeDigits digits) (ended : NoDigit rest) :
    readWhole? (digits ++ rest) = some (digits, rest) := by
  rcases whole with rfl | ⟨⟨filled, all⟩, noZero⟩
  · rfl
  · obtain ⟨taken, left⟩ := takeWhile_isDigit_append all ended
    match digits with
    | c :: later =>
      have digit : c.isDigit := all c List.mem_cons_self
      have leading : c ≠ '0' := fun zero ↦ noZero (congrArg some zero)
      rw [List.cons_append, readWhole?, if_pos digit, ← List.cons_append, taken, left]
      exact leading

theorem readFraction?_append {fraction : Option (List Char)}
    (proper : ∀ digits ∈ fraction, Digits digits)
    (ended : ∀ c ∈ rest.head?, c.isDigit = false ∧ c ≠ '.') :
    readFraction? (fractionText fraction ++ rest) = some (fraction, rest) := by
  match fraction with
  | some digits =>
    have noDigit : NoDigit rest := fun c first ↦ (ended c first).1
    show (readDigits? (digits ++ rest)).map _ = _
    rw [readDigits?_append (proper digits rfl) noDigit]
    rfl
  | none =>
    show readFraction? rest = some (.none, rest)
    rw [readFraction?]
    rintro _ rfl
    exact (ended '.' rfl).2 rfl

theorem readPower?_append {power : Option (Bool × List Char)}
    (proper : ∀ written ∈ power, Digits written.2) (ended : EndsNumeral rest) :
    readPower? (powerText power ++ rest) = some (power, rest) := by
  match power with
  | some (negative, digits) =>
    have sign : readSign ((if negative then '-' else '+') :: digits ++ rest) =
        (negative, digits ++ rest) := by
      cases negative <;> rfl
    show readPower? ('e' :: ((if negative then '-' else '+') :: digits ++ rest)) = _
    rw [readPower?, if_pos (Or.inl rfl), sign]
    simp only [readDigits?_append (proper (negative, digits) rfl) ended.noDigit]
    rfl
  | none =>
    match rest with
    | [] => rfl
    | c :: later =>
      obtain ⟨-, -, lower, upper⟩ := ended c rfl
      exact if_neg (not_or.mpr ⟨lower, upper⟩)

/-- A numeral without its sign is read back. -/
theorem Numeral.Proper.readUnsigned? {numeral : Numeral} (proper : numeral.Proper)
    (ended : EndsNumeral rest) :
    readUnsigned? numeral.negative (numeral.unsignedText ++ rest) = some (numeral, rest) := by
  have afterFraction := ended.powerText numeral.power
  have afterWhole : NoDigit (fractionText numeral.fraction ++ (powerText numeral.power ++ rest)) :=
    NoDigit.fractionText (fun c first ↦ (afterFraction c first).1) numeral.fraction
  rw [Numeral.unsignedText, List.append_assoc, List.append_assoc, Json.readUnsigned?,
    readWhole?_append proper.whole afterWhole]
  show (readFraction? _).bind _ = _
  rw [readFraction?_append proper.fraction afterFraction]
  show (readPower? _).bind _ = _
  rw [readPower?_append proper.power ended]
  rfl

end Worksheet.Json
