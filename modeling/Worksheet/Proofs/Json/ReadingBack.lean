import Worksheet.Proofs.Json.Scalars
import Mathlib.Data.List.DropRight
import Mathlib.Data.List.Forall2

/-!
# Reading JSON back

A value without halves of characters, whose numerals are in order (`Proper`), is read back from its
text, on one line (`Proper.reads_compact`) or over several (`Proper.reads_indented`). The texts of
the parts of an array or an object are read one after the other, whatever blanks stand around them
(`Brackets.reads`), so that both layouts are read for the same reason. What is proved of a text is
that it is read as its value wherever a value can stand (`Reads`): with any bound of twice its
length or more, and in front of any text that ends a value.
-/

set_option autoImplicit false
set_option relaxedAutoImplicit false

namespace Worksheet.Json

/-! ### Blanks -/

theorem skip_append {blanks : List Char} (blank : ∀ c ∈ blanks, isBlank c) (text : List Char) :
    skip (blanks ++ text) = skip text :=
  List.dropWhile_append_of_pos blank

theorem skip_cons {c : Char} (visible : isBlank c = false) (rest : List Char) :
    skip (c :: rest) = c :: rest :=
  List.dropWhile_cons_of_neg (by rw [visible]; decide)

@[simp]
theorem skip_skip (text : List Char) : skip (skip text) = skip text :=
  List.dropWhile_idempotent isBlank text

@[simp]
theorem readValue?_skip (bound : Nat) (text : List Char) :
    readValue? bound (skip text) = readValue? bound text := by
  match bound with
  | 0 => rfl
  | bound + 1 => simp only [readValue?, skip_skip]

/-! ### Texts that are read wherever they stand -/

/-- Whether a text ends a value in front of it. -/
def Closed (rest : List Char) : Prop :=
  ∀ c ∈ rest.head?, isBlank c ∨ c = ',' ∨ c = ']' ∨ c = '\x7d'

theorem closed_cons {c : Char} (rest : List Char)
    (closes : isBlank c ∨ c = ',' ∨ c = ']' ∨ c = '\x7d') : Closed (c :: rest) := by
  rintro _ ⟨⟩
  exact closes

theorem closed_blank_append {blanks : List Char} (blank : ∀ c ∈ blanks, isBlank c)
    {rest : List Char} (closed : Closed rest) : Closed (blanks ++ rest) := by
  match blanks with
  | [] => exact closed
  | c :: later => exact closed_cons (later ++ rest) (Or.inl (blank c List.mem_cons_self))

theorem Closed.endsNumeral {rest : List Char} (closed : Closed rest) : EndsNumeral rest := by
  intro c first
  have closes := closed c first
  simp only [isBlank, Bool.or_eq_true, decide_eq_true_eq] at closes
  rcases closes with (((rfl | rfl) | rfl) | rfl) | rfl | rfl | rfl <;> decide

/-- Whether a text is read as a value wherever a value can stand. -/
def Reads (text : List Char) (value : Json) : Prop :=
  ∀ bound rest, 2 * text.length ≤ bound → Closed rest →
    readValue? bound (text ++ rest) = some (value, rest)

theorem Reads.blank_append {blanks text : List Char} {value : Json}
    (blank : ∀ c ∈ blanks, isBlank c) (reads : Reads text value) :
    Reads (blanks ++ text) value := by
  intro bound rest enough closed
  rw [List.length_append] at enough
  rw [List.append_assoc, ← readValue?_skip, skip_append blank, readValue?_skip]
  exact reads bound rest (by omega) closed

/-- A whole text is read when it is read wherever it stands. -/
theorem Reads.read? {text blanks : List Char} {value : Json} (reads : Reads text value)
    (blank : ∀ c ∈ blanks, isBlank c) : read? (text ++ blanks) = some value := by
  have closed : Closed blanks := fun c first ↦ Or.inl (blank c (List.mem_of_mem_head? first))
  have enough : 2 * text.length ≤ 2 * (text ++ blanks).length + 1 := by
    rw [List.length_append]
    omega
  have left : skip blanks = [] := List.dropWhile_eq_nil_iff.mpr blank
  rw [Json.read?, reads _ blanks enough closed]
  exact if_pos left

/-- The bound of a text that has a character is not zero. -/
theorem exists_bound {text : List Char} {bound : Nat} (enough : 2 * text.length ≤ bound)
    (filled : text ≠ []) : ∃ less, bound = less + 1 ∧ 2 * text.length ≤ less + 1 := by
  have positive := List.length_pos_of_ne_nil filled
  exact ⟨bound - 1, by omega, by omega⟩

/-! ### Strings, numerals and words -/

theorem reads_stringText (text : List Char) :
    Reads (stringText text) (.string (some (String.ofList text))) := by
  intro bound rest enough closed
  obtain ⟨bound, rfl, -⟩ := exists_bound enough (List.cons_ne_nil _ _)
  have opened : stringText text ++ rest = '"' :: (text.flatMap escaped ++ '"' :: rest) := by
    simp [stringText]
  rw [opened, readValue?, skip_cons rfl]
  show (readString? _).map _ = _
  rw [readString?_escaped]
  rfl

theorem readValue?_word {first : Char} (visible : isBlank first = false)
    (plain : first ≠ '"' ∧ first ≠ '[' ∧ first ≠ '\x7b') (bound : Nat) (rest : List Char) :
    readValue? (bound + 1) (first :: rest) = readWord? (first :: rest) := by
  obtain ⟨quote, bracket, brace⟩ := plain
  rw [readValue?, skip_cons visible]
  split
  · next same => exact absurd (List.cons.inj same).1 quote
  · next same => exact absurd (List.cons.inj same).1 bracket
  · next same => exact absurd (List.cons.inj same).1 brace
  · rfl

theorem readWord?_digit {first : Char} (digit : first.isDigit) (rest : List Char) :
    readWord? (first :: rest) =
      (readUnsigned? false (first :: rest)).map fun read ↦ (number read.1, read.2) := by
  unfold readWord?
  split
  case h_5 => rfl
  all_goals
    next same =>
      rw [(List.cons.inj same).1] at digit
      exact absurd digit (by decide)

theorem isBlank_eq_false_of_isDigit {c : Char} (digit : c.isDigit) : isBlank c = false := by
  rw [Bool.eq_false_iff]
  simp only [isBlank, Bool.or_eq_true, decide_eq_true_eq, ne_eq]
  rintro (((rfl | rfl) | rfl) | rfl) <;> exact absurd digit (by decide)

/-- A numeral without its sign begins with a digit. -/
theorem Numeral.Proper.exists_digit {numeral : Numeral} (proper : numeral.Proper) :
    ∃ first later, numeral.unsignedText = first :: later ∧ first.isDigit := by
  have begins : ∃ first later, numeral.whole = first :: later ∧ first.isDigit := by
    rcases proper.whole with zero | ⟨⟨filled, all⟩, -⟩
    · exact ⟨'0', [], zero, rfl⟩
    · obtain ⟨first, later, whole⟩ := List.exists_cons_of_ne_nil filled
      exact ⟨first, later, whole, all first (whole ▸ List.mem_cons_self)⟩
  obtain ⟨first, later, whole, digit⟩ := begins
  exact ⟨first, later ++ (fractionText numeral.fraction ++ powerText numeral.power),
    by rw [unsignedText, whole, List.cons_append], digit⟩

theorem Numeral.Proper.reads {numeral : Numeral} (proper : numeral.Proper) :
    Reads numeral.text (.number numeral) := by
  intro bound rest enough closed
  obtain ⟨first, later, begins, digit⟩ := proper.exists_digit
  have read := proper.readUnsigned? closed.endsNumeral
  rw [Numeral.text_eq] at enough ⊢
  rw [begins] at enough read ⊢
  match negative : numeral.negative with
  | true =>
    rw [negative] at read enough
    obtain ⟨bound, rfl, -⟩ := exists_bound enough (List.cons_ne_nil _ _)
    show readValue? (bound + 1) ('-' :: (first :: later ++ rest)) = _
    rw [readValue?_word rfl (by decide)]
    show (Json.readUnsigned? true (first :: later ++ rest)).map _ = _
    rw [read]
    rfl
  | false =>
    rw [negative] at read enough
    obtain ⟨bound, rfl, -⟩ := exists_bound enough (List.cons_ne_nil _ _)
    have plain : first ≠ '"' ∧ first ≠ '[' ∧ first ≠ '\x7b' := by
      refine ⟨?_, ?_, ?_⟩ <;> rintro rfl <;> exact absurd digit (by decide)
    show readValue? (bound + 1) (first :: (later ++ rest)) = _
    rw [readValue?_word (isBlank_eq_false_of_isDigit digit) plain, readWord?_digit digit,
      ← List.cons_append, read]
    rfl

theorem reads_null : Reads null.compact null := by
  intro bound rest enough closed
  obtain ⟨bound, rfl, -⟩ := exists_bound enough (List.cons_ne_nil _ _)
  exact readValue?_word rfl (by decide) bound _

theorem reads_bool (truth : Bool) : Reads (bool truth).compact (bool truth) := by
  intro bound rest enough closed
  cases truth
  all_goals
    obtain ⟨bound, rfl, -⟩ := exists_bound enough (List.cons_ne_nil _ _)
    exact readValue?_word rfl (by decide) bound _

/-! ### Items and members -/

theorem readItems?_skip (bound : Nat) (text : List Char) :
    readItems? bound (skip text) = readItems? bound text := by
  match bound with
  | 0 => rfl
  | bound + 1 => rw [readItems?, readItems?, readValue?_skip]

theorem readMembers?_skip (bound : Nat) (text : List Char) :
    readMembers? bound (skip text) = readMembers? bound text := by
  match bound with
  | 0 => rfl
  | bound + 1 => rw [readMembers?, readMembers?, skip_skip]

/-- Whether a text is that of a member whose value is read wherever it stands. -/
def ReadsMember (text : List Char) (member : Option String × Json) : Prop :=
  ∃ name valueText, text = stringText name ++ ':' :: valueText ∧
    member.1 = some (String.ofList name) ∧ Reads valueText member.2

/-- The items of an array, when the text of the first is read. -/
theorem Reads.readItems? {text : List Char} {item : Json} (reads : Reads text item) {bound : Nat}
    {rest : List Char} (enough : 2 * text.length ≤ bound) (closed : Closed rest) :
    readItems? (bound + 1) (text ++ rest) =
      match skip rest with
      | ',' :: rest => (Json.readItems? bound rest).map fun read ↦ (item :: read.1, read.2)
      | ']' :: after => some ([item], after)
      | _ => none := by
  rw [Json.readItems?, reads bound rest enough closed]
  simp only [Option.map_eq_bind]
  rfl

/-- The members of an object, when the text of the first is read. -/
theorem ReadsMember.readMembers? {text : List Char} {member : Option String × Json}
    (reads : ReadsMember text member) {bound : Nat} {rest : List Char}
    (enough : 2 * text.length ≤ bound) (closed : Closed rest) :
    readMembers? (bound + 1) (text ++ rest) =
      match skip rest with
      | ',' :: rest => (Json.readMembers? bound rest).map fun read ↦ (member :: read.1, read.2)
      | '\x7d' :: after => some ([member], after)
      | _ => none := by
  obtain ⟨name, value⟩ := member
  obtain ⟨chars, valueText, rfl, rfl, reads⟩ := reads
  have opened : stringText chars ++ ':' :: valueText ++ rest =
      '"' :: (chars.flatMap escaped ++ '"' :: (':' :: (valueText ++ rest))) := by
    simp [stringText]
  have enoughValue : 2 * valueText.length ≤ bound := by
    simp only [List.length_append, List.length_cons] at enough
    omega
  rw [opened, Json.readMembers?, skip_cons rfl]
  simp only [readString?_escaped, Option.bind_eq_bind, Option.bind_some]
  rw [skip_cons rfl]
  simp only [reads bound rest enoughValue closed, Option.bind_some, Option.map_eq_bind]
  rfl

/-- A closing bracket begins no item. -/
theorem readItems?_closing {text rest : List Char} (closing : skip text = ']' :: rest)
    (bound : Nat) : readItems? bound text = none := by
  match bound with
  | 0 => rfl
  | 1 => rfl
  | bound + 2 =>
    rw [readItems?, readValue?, closing]
    rfl

/-- A closing bracket begins no member. -/
theorem readMembers?_closing {text rest : List Char} (closing : skip text = '\x7d' :: rest)
    (bound : Nat) : readMembers? bound text = none := by
  match bound with
  | 0 => rfl
  | bound + 1 =>
    rw [readMembers?, closing]
    rfl

/-! ### Brackets -/

/-- How a pair of brackets and the parts between them are read. -/
structure Brackets {Part : Type} (opening closing : Char) (ofParts : List Part → Json)
    (ReadsPart : List Char → Part → Prop)
    (readAll? : Nat → List Char → Option (List Part × List Char)) : Prop where
  visible : isBlank closing = false
  skips : ∀ bound text, readAll? bound (skip text) = readAll? bound text
  comma : ∀ {text part bound}, ReadsPart text part → 2 * text.length ≤ bound → ∀ rest,
    readAll? (bound + 1) (text ++ ',' :: rest) =
      (readAll? bound rest).map fun read ↦ (part :: read.1, read.2)
  close : ∀ {text part bound blanks}, ReadsPart text part → 2 * text.length ≤ bound →
    (∀ c ∈ blanks, isBlank c) → ∀ rest,
      readAll? (bound + 1) (text ++ (blanks ++ closing :: rest)) = some ([part], rest)
  filled : ∀ {bound text parts rest}, readAll? bound text = some (parts, rest) →
    readValue? (bound + 1) (opening :: text) = some (ofParts parts, rest)
  empty : ∀ {bound text rest}, skip text = closing :: rest →
    readValue? (bound + 1) (opening :: text) = some (ofParts [], rest)

theorem brackets_array : Brackets '[' ']' array Reads readItems? where
  visible := rfl
  skips := readItems?_skip
  comma reads enough rest := reads.readItems? enough (closed_cons rest (by decide))
  close := by
    intro text item bound blanks reads enough blank rest
    have closed := closed_blank_append blank (closed_cons rest (Or.inr (Or.inr (Or.inl rfl))))
    rw [reads.readItems? enough closed, skip_append blank]
    rfl
  filled := by
    intro bound text items rest read
    rw [readValue?, skip_cons rfl]
    simp only
    split
    · next closing =>
      rw [readItems?_closing closing] at read
      cases read
    · rw [readItems?_skip, read]
      rfl
  empty := by
    intro bound text rest closing
    rw [readValue?, skip_cons rfl]
    simp only [closing]

theorem brackets_object : Brackets '\x7b' '\x7d' object ReadsMember readMembers? where
  visible := rfl
  skips := readMembers?_skip
  comma reads enough rest := reads.readMembers? enough (closed_cons rest (by decide))
  close := by
    intro text member bound blanks reads enough blank rest
    have closed := closed_blank_append blank (closed_cons rest (Or.inr (Or.inr (Or.inr rfl))))
    rw [reads.readMembers? enough closed, skip_append blank]
    rfl
  filled := by
    intro bound text members rest read
    rw [readValue?, skip_cons rfl]
    simp only
    split
    · next closing =>
      rw [readMembers?_closing closing] at read
      cases read
    · rw [readMembers?_skip, read]
      rfl
  empty := by
    intro bound text rest closing
    rw [readValue?, skip_cons rfl]
    simp only [closing]

namespace Brackets

variable {Part : Type} {opening closing : Char} {ofParts : List Part → Json}
  {ReadsPart : List Char → Part → Prop}
  {readAll? : Nat → List Char → Option (List Part × List Char)}
  {before between after : List Char} {texts : List (List Char)} {parts : List Part}

/-- Parts with commas and blanks between them are read one after the other. -/
theorem readAll?_commaSeparated (brackets : Brackets opening closing ofParts ReadsPart readAll?)
    (blankBetween : ∀ c ∈ between, isBlank c) (blankAfter : ∀ c ∈ after, isBlank c)
    (each : List.Forall₂ ReadsPart texts parts) (filled : texts ≠ []) {bound : Nat}
    (enough : 2 * (commaSeparated between texts).length < bound) (rest : List Char) :
    readAll? bound (commaSeparated between texts ++ (after ++ closing :: rest)) =
      some (parts, rest) := by
  induction each generalizing bound with
  | nil => exact absurd rfl filled
  | @cons text part texts parts reads later ih =>
    obtain ⟨bound, rfl⟩ : ∃ less, bound = less + 1 := ⟨bound - 1, by omega⟩
    cases later with
    | nil => exact brackets.close reads (Nat.le_of_lt_succ enough) blankAfter rest
    | @cons second _ texts _ _ _ =>
      have taken : commaSeparated between (text :: second :: texts) =
          text ++ ',' :: (between ++ commaSeparated between (second :: texts)) := by
        simp [commaSeparated]
      rw [taken, List.length_append, List.length_cons, List.length_append] at enough
      rw [taken, List.append_assoc, List.cons_append, brackets.comma reads (by omega),
        List.append_assoc, ← brackets.skips, skip_append blankBetween, brackets.skips,
        ih (List.cons_ne_nil _ _) (by omega)]
      rfl

/-- Parts in brackets are read, whatever blanks stand around them. -/
theorem reads (brackets : Brackets opening closing ofParts ReadsPart readAll?)
    (blankBefore : ∀ c ∈ before, isBlank c) (blankBetween : ∀ c ∈ between, isBlank c)
    (blankAfter : ∀ c ∈ after, isBlank c) (each : List.Forall₂ ReadsPart texts parts) :
    Reads (opening :: before ++ commaSeparated between texts ++ after ++ [closing])
      (ofParts parts) := by
  intro bound rest enough _
  obtain ⟨bound, rfl, enough⟩ := exists_bound enough (List.cons_ne_nil _ _)
  have opened : opening :: before ++ commaSeparated between texts ++ after ++ [closing] ++ rest =
      opening :: (before ++ (commaSeparated between texts ++ (after ++ closing :: rest))) := by
    simp
  rw [opened]
  match each with
  | .nil =>
    refine brackets.empty ?_
    rw [commaSeparated, skip_append blankBefore, List.nil_append, skip_append blankAfter,
      skip_cons brackets.visible]
  | .cons first later =>
    refine brackets.filled ?_
    rw [← brackets.skips, skip_append blankBefore, brackets.skips]
    refine brackets.readAll?_commaSeparated blankBetween blankAfter (.cons first later)
      (List.cons_ne_nil _ _) ?_ rest
    simp only [List.length_append, List.length_cons] at enough
    omega

end Brackets

/-! ### Whole values -/

/-- A value that has a text of its own: strings and names have whole characters, and numerals have
their digits in order. -/
inductive Proper : Json → Prop where
  | null : Proper null
  | bool (truth : Bool) : Proper (bool truth)
  | number {numeral : Numeral} (proper : numeral.Proper) : Proper (number numeral)
  | string (text : String) : Proper (ofString text)
  | array {items : List Json} (each : ∀ item ∈ items, Proper item) : Proper (array items)
  | object {members : List (String × Json)} (each : ∀ member ∈ members, Proper member.2) :
      Proper (ofMembers members)

theorem reads_optionalText (text : String) : Reads (optionalText (some text)) (ofString text) := by
  have reads := reads_stringText text.toList
  rwa [String.ofList_toList] at reads

theorem compactItems_eq_map (items : List Json) : compactItems items = items.map compact := by
  induction items with
  | nil => rfl
  | cons item later ih => rw [compactItems, ih, List.map_cons]

theorem compactMembers_eq_map (members : List (Option String × Json)) :
    compactMembers members =
      members.map fun member ↦ optionalText member.1 ++ ':' :: compact member.2 := by
  induction members with
  | nil => rfl
  | cons member later ih => rw [compactMembers, ih, List.map_cons]

theorem indentedItems_eq_map (depth : Nat) (items : List Json) :
    indentedItems depth items = items.map (indented depth) := by
  induction items with
  | nil => rfl
  | cons item later ih => rw [indentedItems, ih, List.map_cons]

theorem indentedMembers_eq_map (depth : Nat) (members : List (Option String × Json)) :
    indentedMembers depth members =
      members.map fun member ↦ optionalText member.1 ++ ':' :: ' ' :: indented depth member.2 := by
  induction members with
  | nil => rfl
  | cons member later ih => rw [indentedMembers, ih, List.map_cons]

theorem forall₂_reads (write : Json → List Char) {items : List Json}
    (each : ∀ item ∈ items, Reads (write item) item) :
    List.Forall₂ Reads (items.map write) items :=
  List.forall₂_map_left_iff.mpr (List.forall₂_same.mpr each)

theorem forall₂_readsMember (write : Json → List Char) {members : List (String × Json)}
    (each : ∀ member ∈ members, Reads (write member.2) member.2) :
    List.Forall₂ ReadsMember
      ((members.map fun member ↦ (some member.1, member.2)).map fun member ↦
        optionalText member.1 ++ ':' :: write member.2)
      (members.map fun member ↦ (some member.1, member.2)) := by
  refine List.forall₂_map_left_iff.mpr (List.forall₂_same.mpr fun member inside ↦ ?_)
  obtain ⟨⟨name, value⟩, listed, rfl⟩ := List.mem_map.mp inside
  exact ⟨name.toList, write value, rfl, by rw [String.ofList_toList], each (name, value) listed⟩

theorem isBlank_of_mem_nil : ∀ c ∈ ([] : List Char), isBlank c := fun _ member ↦ nomatch member

theorem isBlank_of_mem_newline (depth : Nat) : ∀ c ∈ newline depth, isBlank c := by
  intro c member
  rcases List.mem_cons.mp member with rfl | space
  · rfl
  · rw [(List.mem_replicate.mp space).2]
    rfl

/-- Parts on lines of their own are parts with commas and blanks between them. -/
theorem exists_blanks_bracketed (depth : Nat) (opening closing : Char) (parts : List (List Char)) :
    ∃ before between after, ((∀ c ∈ before, isBlank c) ∧ (∀ c ∈ between, isBlank c) ∧
        ∀ c ∈ after, isBlank c) ∧
      bracketed depth opening closing parts =
        opening :: before ++ commaSeparated between parts ++ after ++ [closing] := by
  match parts with
  | [] =>
    exact ⟨[], [], [], ⟨isBlank_of_mem_nil, isBlank_of_mem_nil, isBlank_of_mem_nil⟩, rfl⟩
  | _ :: _ =>
    have inner := isBlank_of_mem_newline (depth + 1)
    exact ⟨_, _, _, ⟨inner, inner, isBlank_of_mem_newline depth⟩, rfl⟩

/-- A value is read back from its text on one line. -/
theorem Proper.reads_compact {value : Json} (proper : Proper value) :
    Reads value.compact value := by
  induction proper with
  | null => exact reads_null
  | bool truth => exact reads_bool truth
  | number proper => exact proper.reads
  | string text => exact reads_optionalText text
  | @array items _ ih =>
    rw [compact, compactItems_eq_map]
    have reads := brackets_array.reads isBlank_of_mem_nil isBlank_of_mem_nil isBlank_of_mem_nil
      (forall₂_reads compact ih)
    simpa using reads
  | @object members _ ih =>
    rw [ofMembers, compact, compactMembers_eq_map]
    have reads := brackets_object.reads isBlank_of_mem_nil isBlank_of_mem_nil isBlank_of_mem_nil
      (forall₂_readsMember compact ih)
    simpa using reads

/-- A value is read back from its text over several lines. -/
theorem Proper.reads_indented {value : Json} (proper : Proper value) (depth : Nat) :
    Reads (value.indented depth) value := by
  induction proper generalizing depth with
  | null => exact reads_null
  | bool truth => exact reads_bool truth
  | number proper => exact proper.reads
  | string text => exact reads_optionalText text
  | @array items _ ih =>
    rw [indented, indentedItems_eq_map]
    obtain ⟨before, between, after, ⟨blankBefore, blankBetween, blankAfter⟩, layout⟩ :=
      exists_blanks_bracketed depth '[' ']' (items.map (indented (depth + 1)))
    rw [layout]
    exact brackets_array.reads blankBefore blankBetween blankAfter
      (forall₂_reads (indented (depth + 1)) fun item member ↦ ih item member (depth + 1))
  | @object members _ ih =>
    rw [ofMembers, indented, indentedMembers_eq_map]
    obtain ⟨before, between, after, ⟨blankBefore, blankBetween, blankAfter⟩, layout⟩ :=
      exists_blanks_bracketed depth '\x7b' '\x7d' _
    rw [layout]
    have blank : ∀ c ∈ [' '], isBlank c := List.forall_mem_singleton.mpr rfl
    have each : ∀ member ∈ members, Reads (' ' :: indented (depth + 1) member.2) member.2 :=
      fun member inside ↦ (ih member inside (depth + 1)).blank_append blank
    exact brackets_object.reads blankBefore blankBetween blankAfter
      (forall₂_readsMember (fun value ↦ ' ' :: indented (depth + 1) value) each)

/-- A value on one line is read as that value. -/
theorem Proper.read?_compact {value : Json} (proper : Proper value) :
    read? value.compact = some value := by
  have read := proper.reads_compact.read? isBlank_of_mem_nil
  rwa [List.append_nil] at read

/-- A value over several lines, the last of which is ended, is read as that value. -/
theorem Proper.read?_indented {value : Json} (proper : Proper value) :
    read? (value.indented 0 ++ ['\n']) = some value :=
  (proper.reads_indented 0).read? (List.forall_mem_singleton.mpr rfl)

end Worksheet.Json
