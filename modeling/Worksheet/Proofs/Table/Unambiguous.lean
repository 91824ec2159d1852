import Mathlib
import Worksheet.Table

/-!
# Tables can be told apart by their texts

A field is written as it is or in quotes (`WrittenField`). Either form is read back, whatever
follows behind the delimiter or the line end that comes next (`WrittenField.readField`). So the line
of a row determines its fields (`rowText_append_inj`) and the text of a table its rows (`text_inj`),
as long as the delimiter is neither a quote nor a line end. Two sheets with the same table text
therefore show the same values on the same rows and columns (`Sheet.tableText_unambiguous`). With a
quote or a line end between the fields, different tables have the same text
(`Sheet.tableText_ambiguous`).
-/

set_option autoImplicit false
set_option relaxedAutoImplicit false

namespace Worksheet

namespace Table

/-! ### Fields -/

/-- What is written for a field. Any field can be put in quotes, and one that does not need them can
stand as it is. -/
inductive WrittenField (delimiter : Char) (field : List Char) : List Char → Prop where
  /-- The field in quotes. -/
  | quoted : WrittenField delimiter field ('"' :: (doubleQuotes field ++ ['"']))
  /-- The field itself. -/
  | plain (clear : needsQuotes delimiter field = false) : WrittenField delimiter field field

/-- Reads a field in quotes up to its closing quote, which no further quote follows. -/
def readQuoted : List Char → List Char × List Char
  | [] => ([], [])
  | '"' :: '"' :: rest => ('"' :: (readQuoted rest).1, (readQuoted rest).2)
  | '"' :: rest => ([], rest)
  | c :: rest => (c :: (readQuoted rest).1, (readQuoted rest).2)

/-- Reads a field, in quotes or up to the next delimiter or line end. -/
def readField (delimiter : Char) : List Char → List Char × List Char
  | '"' :: rest => readQuoted rest
  | text => (text.takeWhile fun c ↦ c ≠ delimiter && c ≠ '\n',
      text.dropWhile fun c ↦ c ≠ delimiter && c ≠ '\n')

/-- Whether a text begins with the delimiter or a line end, one of which follows every field. -/
def EndsField (delimiter : Char) (text : List Char) : Prop :=
  ∃ c rest, text = c :: rest ∧ (c = delimiter ∨ c = '\n')

variable {delimiter : Char} {field chars rest : List Char}

theorem writtenField_fieldText (delimiter : Char) (field : List Char) :
    WrittenField delimiter field (fieldText delimiter field) := by
  unfold fieldText
  split
  · exact .quoted
  · next clear => exact .plain (Bool.eq_false_iff.mpr clear)

theorem readQuoted_doubleQuotes (closed : rest.head? ≠ some '"') :
    readQuoted (doubleQuotes field ++ '"' :: rest) = (field, rest) := by
  induction field with
  | nil =>
    match rest with
    | [] => rfl
    | c :: later =>
      have other : c ≠ '"' := fun quote ↦ closed (congrArg some quote)
      show readQuoted ('"' :: c :: later) = _
      simp [readQuoted, other]
  | cons c field ih =>
    have first : doubleQuotes (c :: field) ++ '"' :: rest =
        (if c = '"' then ['"', '"'] else [c]) ++ (doubleQuotes field ++ '"' :: rest) := by
      rw [doubleQuotes, List.flatMap_cons, List.append_assoc]
      rfl
    rw [first]
    split
    · next quote =>
      rw [quote, List.cons_append, List.cons_append, List.nil_append, readQuoted, ih]
    · next other =>
      rw [List.cons_append, List.nil_append]
      simp [readQuoted, other, ih]

theorem EndsField.head?_ne (noQuote : delimiter ≠ '"') (ends : EndsField delimiter rest) :
    rest.head? ≠ some '"' := by
  obtain ⟨c, later, rfl, either⟩ := ends
  rw [List.head?_cons, Ne, Option.some.injEq]
  rintro rfl
  rcases either with same | lineEnd
  · exact noQuote same.symm
  · cases lineEnd

theorem readField_of_head?_ne (other : chars.head? ≠ some '"') :
    readField delimiter chars =
      (chars.takeWhile fun c ↦ c ≠ delimiter && c ≠ '\n',
        chars.dropWhile fun c ↦ c ≠ delimiter && c ≠ '\n') := by
  match chars with
  | [] => rfl
  | c :: later =>
    have different : c ≠ '"' := fun quote ↦ other (congrArg some quote)
    simp [readField, different]

/-- A written field is read back, together with what comes after it. -/
theorem WrittenField.readField (noQuote : delimiter ≠ '"')
    (written : WrittenField delimiter field chars) (ends : EndsField delimiter rest) :
    readField delimiter (chars ++ rest) = (field, rest) := by
  have closed := ends.head?_ne noQuote
  cases written with
  | quoted =>
    rw [List.cons_append, List.append_assoc, List.singleton_append]
    exact readQuoted_doubleQuotes closed
  | plain clear =>
    have ordinary : ∀ c ∈ field, c ≠ delimiter ∧ c ≠ '"' ∧ c ≠ '\n' ∧ c ≠ '\r' := by
      simpa [needsQuotes, not_or, and_assoc] using clear
    obtain ⟨c, later, rfl, either⟩ := ends
    have passes : ∀ d ∈ field, (d ≠ delimiter && d ≠ '\n') = true := fun d member ↦ by
      simp [ordinary d member]
    have stops : (c ≠ delimiter && c ≠ '\n') = false := by
      rcases either with rfl | rfl <;> simp
    rw [readField_of_head?_ne, List.takeWhile_append_of_pos passes,
      List.dropWhile_append_of_pos passes, List.takeWhile_cons, List.dropWhile_cons, stops]
    · simp
    · match field with
      | [] => exact closed
      | d :: _ => exact fun quote ↦ (ordinary d List.mem_cons_self).2.1 (Option.some.inj quote)

/-! ### Rows -/

section Rows

variable {form otherForm : List Char → List Char} {one other : List (List Char)}
  {restOne restOther : List Char}

/-- What follows the first field of a row: a delimiter and the other fields, or the line end. -/
def afterFirst (delimiter : Char) (later : List (List Char)) (rest : List Char) : List Char :=
  match later with
  | [] => '\n' :: rest
  | _ => delimiter :: (joinFields delimiter later ++ '\n' :: rest)

theorem endsField_afterFirst (delimiter : Char) (later : List (List Char)) (rest : List Char) :
    EndsField delimiter (afterFirst delimiter later rest) := by
  cases later with
  | nil => exact ⟨_, _, rfl, Or.inr rfl⟩
  | cons field later => exact ⟨_, _, rfl, Or.inl rfl⟩

theorem joinFields_cons_append (field : List Char) (later : List (List Char)) (rest : List Char) :
    joinFields delimiter (field :: later) ++ '\n' :: rest =
      field ++ afterFirst delimiter later rest := by
  cases later with
  | nil => rfl
  | cons next later =>
    show (field ++ delimiter :: joinFields delimiter (next :: later)) ++ '\n' :: rest = _
    rw [List.append_assoc]
    rfl

/-- The fields of a row can be told from its line, in whatever form each of them is written. -/
theorem joinFields_append_inj (noQuote : delimiter ≠ '"') (noLineEnd : delimiter ≠ '\n')
    (written : ∀ field, WrittenField delimiter field (form field))
    (otherWritten : ∀ field, WrittenField delimiter field (otherForm field))
    (filled : one ≠ []) (otherFilled : other ≠ [])
    (same : joinFields delimiter (one.map form) ++ '\n' :: restOne =
      joinFields delimiter (other.map otherForm) ++ '\n' :: restOther) :
    one = other ∧ restOne = restOther := by
  induction one generalizing other with
  | nil => exact absurd rfl filled
  | cons field later ih =>
    obtain ⟨otherField, otherLater, rfl⟩ := List.exists_cons_of_ne_nil otherFilled
    rw [List.map_cons, List.map_cons, joinFields_cons_append, joinFields_cons_append] at same
    have read := (written field).readField noQuote (endsField_afterFirst _ (later.map form) restOne)
    rw [same, (otherWritten otherField).readField noQuote (endsField_afterFirst _ _ _),
      Prod.mk.injEq] at read
    obtain ⟨rfl, after⟩ := read
    match later, otherLater with
    | [], [] => exact ⟨rfl, (List.cons.inj after).2.symm⟩
    | [], _ :: _ => exact absurd (List.cons.inj after).1 noLineEnd
    | _ :: _, [] => exact absurd (List.cons.inj after).1.symm noLineEnd
    | _ :: _, _ :: _ =>
      obtain ⟨fields, rests⟩ := ih (List.cons_ne_nil _ _) (List.cons_ne_nil _ _)
        (List.cons.inj after).2.symm
      exact ⟨congrArg (otherField :: ·) fields, rests⟩

end Rows

/-- The line of a row has each field in one of its forms. -/
theorem exists_rowText_eq (delimiter : Char) (row : List String) :
    ∃ form : List Char → List Char, (∀ field, WrittenField delimiter field (form field)) ∧
      rowText delimiter row =
        joinFields delimiter ((row.map String.toList).map form) ++ ['\n'] := by
  unfold rowText
  split
  · exact ⟨fun field ↦ '"' :: (doubleQuotes field ++ ['"']), fun _ ↦ .quoted, rfl⟩
  · exact ⟨fieldText delimiter, writtenField_fieldText delimiter, by rw [List.map_map]; rfl⟩

theorem rowText_append_inj (noQuote : delimiter ≠ '"') (noLineEnd : delimiter ≠ '\n')
    {one other : List String} {restOne restOther : List Char} (filled : one ≠ [])
    (otherFilled : other ≠ [])
    (same : rowText delimiter one ++ restOne = rowText delimiter other ++ restOther) :
    one = other ∧ restOne = restOther := by
  obtain ⟨form, written, line⟩ := exists_rowText_eq delimiter one
  obtain ⟨otherForm, otherWritten, otherLine⟩ := exists_rowText_eq delimiter other
  rw [line, otherLine, List.append_assoc, List.append_assoc] at same
  obtain ⟨fields, rests⟩ := joinFields_append_inj noQuote noLineEnd written otherWritten
    (mt List.map_eq_nil_iff.mp filled) (mt List.map_eq_nil_iff.mp otherFilled) same
  exact ⟨(List.map_inj_right fun _ _ ↦ String.toList_inj.mp).mp fields, rests⟩

/-! ### Tables -/

theorem rowText_ne_nil (delimiter : Char) (row : List String) : rowText delimiter row ≠ [] := by
  obtain ⟨_, -, line⟩ := exists_rowText_eq delimiter row
  rw [line]
  exact List.append_ne_nil_of_right_ne_nil _ (List.cons_ne_nil _ _)

/-- The text of a table determines its rows, if each of them has a field. -/
theorem text_inj (noQuote : delimiter ≠ '"') (noLineEnd : delimiter ≠ '\n')
    {one other : List (List String)} (filled : [] ∉ one) (otherFilled : [] ∉ other)
    (same : text delimiter one = text delimiter other) : one = other := by
  have lines : one.flatMap (rowText delimiter) = other.flatMap (rowText delimiter) := by
    simpa only [text, String.toList_ofList] using congrArg String.toList same
  clear same
  induction one generalizing other with
  | nil =>
    cases other with
    | nil => rfl
    | cons row later =>
      rw [List.flatMap_nil, List.flatMap_cons] at lines
      exact absurd lines.symm (List.append_ne_nil_of_left_ne_nil (rowText_ne_nil delimiter row) _)
  | cons row later ih =>
    cases other with
    | nil =>
      rw [List.flatMap_nil, List.flatMap_cons] at lines
      exact absurd lines (List.append_ne_nil_of_left_ne_nil (rowText_ne_nil delimiter row) _)
    | cons otherRow otherLater =>
      rw [List.mem_cons, not_or] at filled otherFilled
      rw [List.flatMap_cons, List.flatMap_cons] at lines
      obtain ⟨rfl, rest⟩ := rowText_append_inj noQuote noLineEnd (Ne.symm filled.1)
        (Ne.symm otherFilled.1) lines
      rw [ih filled.2 otherFilled.2 rest]

end Table

/-! ### Sheets -/

namespace Sheet

variable {sheet other : Sheet} {last otherLast : Address}

theorem shownRows_ne_nil (sheet : Sheet) (last : Address) : sheet.shownRows last ≠ [] :=
  fun none ↦ absurd (congrArg List.length none) (by simp [shownRows])

theorem nil_notMem_shownRows (sheet : Sheet) (last : Address) : [] ∉ sheet.shownRows last := by
  intro member
  obtain ⟨row, -, none⟩ := List.mem_map.mp member
  exact absurd (congrArg List.length none) (by simp)

/-- The place of a cell in the table. -/
theorem getElem?_shownRows {address : Address} (above : address.row ≤ last.row)
    (left : address.column ≤ last.column) :
    (sheet.shownRows last)[address.row.toNat]?.bind (·[address.column.toNat]?) =
      some (sheet.valueAt address).shown := by
  have row : address.row.toNat < last.row.toNat + 1 :=
    Nat.lt_succ_of_le (UInt32.le_iff_toNat_le.mp above)
  have column : address.column.toNat < last.column.toNat + 1 :=
    Nat.lt_succ_of_le (UInt32.le_iff_toNat_le.mp left)
  simp [shownRows, row, column]

/-- Two tables are the same only if they end at the same cell and show the same values up to it. -/
theorem shownRows_inj (same : sheet.shownRows last = other.shownRows otherLast) :
    last = otherLast ∧ ∀ address : Address, address.row ≤ last.row →
      address.column ≤ last.column →
        (sheet.valueAt address).shown = (other.valueAt address).shown := by
  have rows : last.row = otherLast.row := by
    have count := congrArg List.length same
    simp only [shownRows, List.length_map, List.length_range] at count
    exact UInt32.toNat_inj.mp (Nat.succ.inj count)
  have columns : last.column = otherLast.column := by
    have count := congrArg (fun rows ↦ rows[0]?.map List.length) same
    simp [shownRows] at count
    exact UInt32.toNat_inj.mp count
  have ends : last = otherLast := by
    cases last
    cases otherLast
    exact congr (congrArg Address.mk rows) columns
  subst ends
  refine ⟨rfl, fun address above left ↦ ?_⟩
  have place : (sheet.shownRows last)[address.row.toNat]?.bind (·[address.column.toNat]?) =
      some (sheet.valueAt address).shown := getElem?_shownRows above left
  rw [same, getElem?_shownRows above left] at place
  exact (Option.some.inj place).symm

/-- The last cell of the table of a sheet, at the bottom right of the used region. -/
def tableEnd? (sheet : Sheet) : Option Address := sheet.usedRegion?.map Region.last

theorem rows_of_tableText? {delimiter : Char} {text : String}
    (written : sheet.tableText? delimiter = .ok text) :
    ∃ rows, text = Table.text delimiter rows ∧
      (rows = [] ∧ sheet.tableEnd? = none ∨
        ∃ last, rows = sheet.shownRows last ∧ sheet.tableEnd? = some last) := by
  unfold tableText? at written
  split at written
  · cases written
  unfold table? at written
  unfold tableEnd?
  split at written
  · next none =>
    cases written
    exact ⟨[], rfl, Or.inl ⟨rfl, by rw [none]; rfl⟩⟩
  · next used found =>
    split at written
    · cases written
    · cases written
      exact ⟨_, rfl, Or.inr ⟨used.last, rfl, by rw [found]; rfl⟩⟩

/-- Two sheets with the same bytes for a table end at the same cell and show the same values on all
cells up to it, unless the delimiter is a quote or a line end. -/
theorem tableText_unambiguous {delimiter : Char} (noQuote : delimiter ≠ '"')
    (noLineEnd : delimiter ≠ '\n') {text otherText : String}
    (written : sheet.tableText? delimiter = .ok text)
    (otherWritten : other.tableText? delimiter = .ok otherText)
    (same : text.toUTF8 = otherText.toUTF8) :
    sheet.tableEnd? = other.tableEnd? ∧
      ∀ last, sheet.tableEnd? = some last → ∀ address : Address, address.row ≤ last.row →
        address.column ≤ last.column →
          (sheet.valueAt address).shown = (other.valueAt address).shown := by
  obtain ⟨rows, rfl, either⟩ := rows_of_tableText? written
  obtain ⟨otherRows, rfl, otherEither⟩ := rows_of_tableText? otherWritten
  have equal : rows = otherRows := by
    refine Table.text_inj noQuote noLineEnd ?_ ?_ (String.toByteArray_inj.mp same)
    · rcases either with ⟨rfl, -⟩ | ⟨last, rfl, -⟩
      · exact List.not_mem_nil
      · exact sheet.nil_notMem_shownRows last
    · rcases otherEither with ⟨rfl, -⟩ | ⟨last, rfl, -⟩
      · exact List.not_mem_nil
      · exact other.nil_notMem_shownRows last
  subst equal
  rcases either with ⟨rfl, ends⟩ | ⟨last, rfl, ends⟩
  · rcases otherEither with ⟨-, otherEnds⟩ | ⟨otherLast, rows, -⟩
    · rw [ends, otherEnds]
      exact ⟨rfl, nofun⟩
    · exact absurd rows.symm (other.shownRows_ne_nil otherLast)
  · rcases otherEither with ⟨rows, -⟩ | ⟨otherLast, rows, otherEnds⟩
    · exact absurd rows (sheet.shownRows_ne_nil last)
    · obtain ⟨rfl, shown⟩ := shownRows_inj rows
      rw [ends, otherEnds]
      refine ⟨rfl, ?_⟩
      rintro _ ⟨⟩
      exact shown

/-- A new sheet with texts in some cells. -/
def ofTexts (entries : List (Address × String)) : Sheet :=
  entries.foldl (fun sheet entry ↦ sheet.put (.ofValue entry.1 (.text entry.2))) new

/-- A field with a semicolon, quotes and a line end, beside and above empty ones, with semicolons
between the fields. -/
theorem tableText_unambiguous_semicolons :
    let sheet := ofTexts [(⟨0, 0⟩, "a;\"b\"\n"), (⟨1, 1⟩, "")]
    let other := ofTexts [(⟨1, 1⟩, ""), (⟨0, 0⟩, "a;\"b\"\n"), (⟨1, 0⟩, "")]
    sheet.tableText? ';' = .ok "\"a;\"\"b\"\"\n\";\n;\n" ∧
      other.tableText? ';' = .ok "\"a;\"\"b\"\"\n\";\n;\n" ∧ sheet.tableEnd? = other.tableEnd? := by
  intro sheet other
  have written : sheet.tableText? ';' = .ok "\"a;\"\"b\"\"\n\";\n;\n" := by decide +kernel
  have otherWritten : other.tableText? ';' = .ok "\"a;\"\"b\"\"\n\";\n;\n" := by decide +kernel
  obtain ⟨ends, -⟩ := tableText_unambiguous (by decide) (by decide) written otherWritten rfl
  exact ⟨written, otherWritten, ends⟩

/-- With a quote between the fields, a row of five fields has the line of a single one, and with a
line end between them two columns have the lines of two rows. -/
theorem tableText_ambiguous :
    ((ofTexts [(⟨0, 0⟩, "a\"b")]).tableText? '"' = .ok "\"a\"\"b\"\n" ∧
      (ofTexts [(⟨0, 1⟩, "a"), (⟨0, 3⟩, "b"), (⟨0, 4⟩, "")]).tableText? '"' =
        .ok "\"a\"\"b\"\n" ∧
      (ofTexts [(⟨0, 0⟩, "a\"b")]).tableEnd? ≠
        (ofTexts [(⟨0, 1⟩, "a"), (⟨0, 3⟩, "b"), (⟨0, 4⟩, "")]).tableEnd?) ∧
    (ofTexts [(⟨0, 0⟩, "a"), (⟨0, 1⟩, "b")]).tableText? '\n' = .ok "a\nb\n" ∧
      (ofTexts [(⟨0, 0⟩, "a"), (⟨1, 0⟩, "b")]).tableText? '\n' = .ok "a\nb\n" ∧
      (ofTexts [(⟨0, 0⟩, "a"), (⟨0, 1⟩, "b")]).tableEnd? ≠
        (ofTexts [(⟨0, 0⟩, "a"), (⟨1, 0⟩, "b")]).tableEnd? := by
  decide +kernel

end Sheet

end Worksheet
