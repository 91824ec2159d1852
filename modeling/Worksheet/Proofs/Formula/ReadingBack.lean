import Worksheet.Proofs.Evaluation.Outcome
import Worksheet.Proofs.Formula.Nesting
import Worksheet.Proofs.Formula.SingleReference

/-!
# Reading phrases back

The text of a phrase is read as that phrase. It is nested and is one piece of a list, so the search
for the parenthesis that closes a call and the scan of its arguments find exactly the parts that
were written (`parseCall_call`, `splitArguments_texts`). So every part has the shape that it was
written with (`classify_source`), a formula that is a call is taken apart into its name and the
texts of its arguments (`parse_call`), and in the end the tree of the phrase is read
(`read_source`). -/

set_option autoImplicit false
set_option relaxedAutoImplicit false

namespace Worksheet

/-! ### Delimiters -/

namespace Formula

theorem isDelimiter_iff {c : Char} :
    isDelimiter c ↔ c = '"' ∨ c = '(' ∨ c = ')' ∨ c = ',' ∨ c = ':' := by
  simp [isDelimiter, or_assoc]

theorem isDelimiter_eq_false_of_isBlank {c : Char} (blank : Text.isBlank c) :
    isDelimiter c = false := by
  rw [Bool.eq_false_iff, Ne, isDelimiter_iff]
  rintro (rfl | rfl | rfl | rfl | rfl) <;> exact absurd blank (by decide)

theorem isNameChar_iff {c : Char} :
    isNameChar c ↔
      65 ≤ c.toNat ∧ c.toNat ≤ 90 ∨ 97 ≤ c.toNat ∧ c.toNat ≤ 122 ∨ c.toNat = 95 := by
  have alpha : c.isAlpha = (c.isUpper || c.isLower) := rfl
  have upper : c.isUpper ↔ 65 ≤ c.toNat ∧ c.toNat ≤ 90 := decide_eq_true_iff
  have lower : c.isLower ↔ 97 ≤ c.toNat ∧ c.toNat ≤ 122 := by
    show (decide (97 ≤ c.toNat) && decide (c.toNat ≤ 122)) = true ↔ _
    rw [Bool.and_eq_true, decide_eq_true_iff, decide_eq_true_iff]
  have underscore : c = '_' ↔ c.toNat = 95 := by
    rw [Char.ext_iff, ← UInt32.toNat_inj]
    rfl
  rw [isNameChar, Bool.or_eq_true, alpha, Bool.or_eq_true, upper, lower, decide_eq_true_iff,
    underscore, or_assoc]

theorem isDelimiter_eq_false_of_isNameChar {c : Char} (name : isNameChar c) :
    isDelimiter c = false := by
  rw [Bool.eq_false_iff, Ne, isDelimiter_iff]
  rintro (rfl | rfl | rfl | rfl | rfl) <;> exact absurd name (by decide)

theorem not_mem_of_isDelimiter {text : List Char} {delimiter : Char}
    (plain : ∀ c ∈ text, isDelimiter c = false) (held : isDelimiter delimiter) :
    delimiter ∉ text :=
  fun member ↦ Bool.false_ne_true ((plain delimiter member).symm.trans held)

end Formula

theorem Address.isDelimiter_eq_false_of_mem_a1 {address : Address} {c : Char}
    (member : c ∈ address.a1) : Formula.isDelimiter c = false := by
  rw [Bool.eq_false_iff, Ne, Formula.isDelimiter_iff]
  rintro (rfl | rfl | rfl | rfl | rfl) <;> exact ne_of_mem_a1 member (by decide) rfl

theorem Blanks.isDelimiter_eq_false (blanks : Blanks) :
    ∀ c ∈ blanks.chars, Formula.isDelimiter c = false :=
  fun c member ↦ Formula.isDelimiter_eq_false_of_isBlank (blanks.isBlank c member)

/-! ### Quotes -/

namespace Formula

theorem undouble_double (text : List Char) : undouble (double text) = text := by
  induction text with
  | nil => rfl
  | cons c rest ih =>
    by_cases closing : c = '"'
    · rw [double, if_pos closing, undouble, ih, closing]
    · rw [double, if_neg closing, undouble.eq_2 _ _ fun _ same ↦ absurd same closing, ih]

/-- A text in quotes stands for that text. -/
theorem unquote?_quote (text : List Char) : unquote? (quote text) = some text := by
  have last : (double text ++ ['"']).getLast? = some '"' := List.getLast?_concat
  rw [quote, unquote?, if_pos last, List.dropLast_concat, undouble_double]

/-- Nothing of a text in quotes is outside of them. -/
theorem unquotedChars_quote (text : List Char) : unquotedChars (quote text) = [] := by
  have inside : unquotedFrom true (double text ++ ['"']) = [] := by
    induction text with
    | nil => rfl
    | cons c rest ih =>
      by_cases closing : c = '"'
      · simpa [double, unquotedFrom, closing] using ih
      · simpa [double, unquotedFrom, closing] using ih
  exact inside

theorem quotesPaired_quote (text : List Char) : quotesPaired (quote text) := by
  have doubled : (double text).count '"' = 2 * text.count '"' := by
    induction text with
    | nil => rfl
    | cons c rest ih =>
      by_cases closing : c = '"'
      · simp only [double, closing, if_true, List.count_cons_self, ih]
        omega
      · simp [double, closing, ih]
  simp only [quotesPaired, quote, List.count_cons_self, List.count_append, doubled,
    List.count_nil, decide_eq_true_eq]
  omega

theorem trim_quote (text : List Char) : Text.trim (quote text) = quote text := by
  have shown : ∀ c ∈ ['"'], Text.isBlank c = false := List.forall_mem_singleton.mpr rfl
  exact Text.trim_between (List.cons_ne_nil _ _) (List.cons_ne_nil _ _) shown shown

theorem parseCall_quote (text : List Char) : parseCall (String.ofList (quote text)) = .ok none :=
  parseCall_eq_none (Or.inr rfl)

theorem checkTerm_quote (text : List Char) : checkTerm (String.ofList (quote text)) = .ok () := by
  rw [checkTerm, String.toList_ofList, unquotedChars_quote, quotesPaired_quote]
  rfl

end Formula

/-! ### The texts of phrases -/

namespace CallName

variable (name : CallName)

theorem isNameChar : ∀ c ∈ name.chars, Formula.isNameChar c := by
  intro c member
  simpa [Formula.isNameChar] using name.isAlpha_or_eq c member

theorem isDelimiter_eq_false : ∀ c ∈ name.chars, Formula.isDelimiter c = false :=
  fun c member ↦ Formula.isDelimiter_eq_false_of_isNameChar (name.isNameChar c member)

theorem isBlank_eq_false {c : Char} (member : c ∈ name.chars) : Text.isBlank c = false := by
  have bounds := Formula.isNameChar_iff.mp (name.isNameChar c member)
  exact Text.isBlank_eq_false (by omega) (by omega)

theorem nested_call {inner : List Char} (nested : Formula.Nested true inner) :
    Formula.Nested false (name.call inner) :=
  (Formula.Nested.of_no_delimiters name.isDelimiter_eq_false).append (.group nested .nil)

theorem trim_call (inner : List Char) : Text.trim (name.call inner) = name.call inner := by
  have ends : name.call inner = name.chars ++ ('(' :: inner) ++ [')'] := by simp [call]
  rw [ends]
  exact Text.trim_between name.ne_nil (List.cons_ne_nil _ _) (fun _ ↦ name.isBlank_eq_false)
    (List.forall_mem_singleton.mpr rfl)

end CallName

namespace Formula

theorem nested_intercalate {pieces : List (List Char)}
    (nested : ∀ piece ∈ pieces, Nested true piece) :
    Nested true ([','].intercalate pieces) := by
  have comma : Nested true [','] := .char (by decide) (fun _ ↦ rfl) .nil
  induction pieces with
  | nil => exact .nil
  | cons first later ih =>
    rw [List.forall_mem_cons] at nested
    cases later with
    | nil =>
      rw [List.intercalate_singleton]
      exact nested.1
    | cons second later =>
      rw [List.intercalate_cons_cons]
      exact (nested.1.append comma).append (ih nested.2)

end Formula

namespace Phrase

open Formula Formula.ArgumentScan

theorem isDelimiter_eq_false_of_first (one : Address) (before : Blanks) :
    ∀ c ∈ one.a1 ++ before.chars, isDelimiter c = false :=
  List.forall_mem_append.mpr
    ⟨fun _ ↦ Address.isDelimiter_eq_false_of_mem_a1, before.isDelimiter_eq_false⟩

theorem isDelimiter_eq_false_of_last (after : Blanks) (other : Address) :
    ∀ c ∈ after.chars ++ other.a1, isDelimiter c = false :=
  List.forall_mem_append.mpr
    ⟨after.isDelimiter_eq_false, fun _ ↦ Address.isDelimiter_eq_false_of_mem_a1⟩

theorem nested_list (opening : Blanks) {arguments : List Phrase}
    (nested : ∀ argument ∈ arguments, Nested true argument.text) :
    Nested true (opening.chars ++ [','].intercalate (texts arguments)) := by
  refine (Nested.of_no_delimiters opening.isDelimiter_eq_false).append ?_
  rw [texts_eq]
  exact nested_intercalate (List.forall_mem_map.mpr nested)

/-- The text of a phrase is nested, and it is one piece of a list of arguments. -/
theorem nested_and_inOnePiece (phrase : Phrase) :
    Nested true phrase.text ∧ InOnePiece phrase.text := by
  have both {text : List Char} (nested : Nested false text) : Nested true text ∧ InOnePiece text :=
    ⟨nested.of_no_separators, nested.passes_of_no_separators.inOnePiece⟩
  have plain {text : List Char} (plain : ∀ c ∈ text, isDelimiter c = false) :
      Nested true text ∧ InOnePiece text := both (.of_no_delimiters plain)
  induction phrase with
  | call name opening arguments ih =>
    exact both (name.nested_call (nested_list opening fun argument member ↦ (ih argument member).1))
  | range one other before after =>
    have front := isDelimiter_eq_false_of_first one before
    have back := isDelimiter_eq_false_of_last after other
    exact ⟨(Nested.of_no_delimiters front).append
        (.char (by decide) (fun _ ↦ rfl) (.of_no_delimiters back)),
      (passes_of_no_delimiters front).inOnePiece_append
        (inOnePiece_colon.append_of_no_delimiters back)⟩
  | reference address => exact plain fun _ ↦ Address.isDelimiter_eq_false_of_mem_a1
  | quoted text => exact both (.quote text)
  | plain text => exact plain text.isDelimiter
  | spaced before inner after ih =>
    have front := before.isDelimiter_eq_false
    have back := after.isDelimiter_eq_false
    exact ⟨((Nested.of_no_delimiters front).append ih.1).append (.of_no_delimiters back),
      ((passes_of_no_delimiters front).inOnePiece_append ih.2).append_of_no_delimiters back⟩

theorem trim_range (one other : Address) (before after : Blanks) :
    Text.trim (range one other before after).text = (range one other before after).text := by
  have ends : (range one other before after).text =
      one.a1 ++ (before.chars ++ ':' :: after.chars) ++ other.a1 := by
    simp [text]
  rw [ends]
  exact Text.trim_between one.a1_ne_nil other.a1_ne_nil
    (fun _ ↦ Address.isBlank_eq_false_of_mem_a1) (fun _ ↦ Address.isBlank_eq_false_of_mem_a1)

/-- Something is left of the text of a phrase without the blanks around it. -/
theorem trim_text_ne_nil (phrase : Phrase) : Text.trim phrase.text ≠ [] := by
  induction phrase with
  | call name opening arguments =>
    rw [text, name.trim_call]
    simp [CallName.call]
  | range one other before after =>
    rw [trim_range]
    simp [text]
  | reference address =>
    rw [text, address.trim_a1]
    exact address.a1_ne_nil
  | quoted text =>
    rw [Phrase.text, trim_quote]
    simp [quote]
  | plain text =>
    rw [Phrase.text, text.trim_eq]
    exact text.ne_nil
  | spaced before inner after ih =>
    rw [text, Text.trim_append_blank after.isBlank, Text.trim_blank_append before.isBlank]
    exact ih

end Phrase

/-! ### Lists of arguments -/

namespace Formula

theorem isAllBlank_eq_false {text : List Char} (shown : Text.trim text ≠ []) :
    Text.isAllBlank text = false := by
  rw [Bool.eq_false_iff]
  intro blank
  have gone : Text.trim ([] ++ text) = Text.trim [] :=
    Text.trim_append_blank (List.all_eq_true.mp blank)
  exact shown gone

/-- A list of arguments is taken apart into the texts between its commas, without the blanks around
them. -/
theorem splitArguments_intercalate {first : List Char} {later : List (List Char)}
    (whole : ∀ piece ∈ first :: later, ArgumentScan.InOnePiece piece)
    (shown : ∀ piece ∈ first :: later, Text.trim piece ≠ []) :
    splitArguments (String.ofList ([','].intercalate (first :: later))) =
      .ok ((first :: later).map fun piece ↦ String.ofList (Text.trim piece)) := by
  have parted := pieces_intercalate whole
  have some : Text.isAllBlank ([','].intercalate (first :: later)) = false := by
    have front := isAllBlank_eq_false (shown first List.mem_cons_self)
    cases later with
    | nil => rwa [List.intercalate_singleton]
    | cons second later =>
      unfold Text.isAllBlank at front ⊢
      simp [List.intercalate_cons_cons, front]
  have none : (first :: later).any Text.isAllBlank = false := by
    rw [List.any_eq_false]
    exact fun piece member ↦ by simp [isAllBlank_eq_false (shown piece member)]
  unfold splitArguments
  simp only [String.toList_ofList, some, parted, none]
  rfl

/-- A call is taken apart into its name and the list between its parentheses. -/
theorem parseCall_call (name : CallName) {inner : List Char} (nested : Nested true inner) :
    parseCall (String.ofList (name.call inner)) =
      (splitArguments (String.ofList inner)).map fun arguments ↦
        some (String.ofList name.chars, arguments) := by
  obtain ⟨c, rest, chars⟩ := List.exists_cons_of_ne_nil name.ne_nil
  have named : (name.call inner).takeWhile isNameChar = c :: rest := by
    rw [CallName.call, List.takeWhile_append_of_pos name.isNameChar, ← chars]
    exact List.append_nil _
  have opened : (name.call inner).dropWhile isNameChar = '(' :: (inner ++ [')']) := by
    rw [CallName.call, List.dropWhile_append_of_pos name.isNameChar]
    rfl
  have closed : splitAtClosing 0 false (inner ++ [')']) = .ok (inner, []) := by
    rw [nested.splitAtClosing_append]
    exact congrArg (fun whole ↦ Except.ok (whole, [])) (List.append_nil inner)
  unfold parseCall
  simp only [String.toList_ofList, named, opened, closed, chars]

end Formula

namespace Phrase

open Formula

/-- The arguments of a call are found as they were written, without the blanks around them. -/
theorem splitArguments_texts (opening : Blanks) (arguments : List Phrase) :
    splitArguments (String.ofList (opening.chars ++ [','].intercalate (texts arguments))) =
      .ok (arguments.map fun argument ↦ Text.trimmed argument.source) := by
  rw [texts_eq]
  cases arguments with
  | nil =>
    have blank : Text.isAllBlank opening.chars = true := List.all_eq_true.mpr opening.isBlank
    simp [splitArguments, blank]
  | cons first later =>
    have front : opening.chars ++ [','].intercalate ((first :: later).map text) =
        [','].intercalate ((opening.chars ++ first.text) :: later.map text) := by
      cases later <;> simp [List.intercalate_cons_cons]
    have piece (argument : Phrase) := argument.nested_and_inOnePiece.2
    have passes := ArgumentScan.passes_of_no_delimiters opening.isDelimiter_eq_false
    have trimmed : Text.trim (opening.chars ++ first.text) = Text.trim first.text :=
      Text.trim_blank_append opening.isBlank
    rw [front, splitArguments_intercalate]
    · simp [trimmed, Text.trimmed, source]
    · simp only [List.forall_mem_cons, List.forall_mem_map]
      exact ⟨passes.inOnePiece_append (piece first), fun argument _ ↦ piece argument⟩
    · simp only [List.forall_mem_cons, List.forall_mem_map, trimmed]
      exact ⟨first.trim_text_ne_nil, fun argument _ ↦ argument.trim_text_ne_nil⟩

theorem trimmed_source (phrase : Phrase) :
    Text.trimmed phrase.source = String.ofList (Text.trim phrase.text) := by
  rw [Text.trimmed, source, String.toList_ofList]

/-- A call is read as its name and its arguments. -/
theorem parseCall_trimmed_source (name : CallName) (opening : Blanks) (arguments : List Phrase) :
    parseCall (Text.trimmed (call name opening arguments).source) =
      .ok (some (String.ofList name.chars, arguments.map fun argument ↦
        Text.trimmed argument.source)) := by
  have nested : Nested true (opening.chars ++ [','].intercalate (texts arguments)) :=
    nested_list opening fun argument _ ↦ argument.nested_and_inOnePiece.1
  rw [trimmed_source, text, name.trim_call, parseCall_call name nested, splitArguments_texts]
  rfl

end Phrase

/-! ### Shapes -/

namespace Formula

/-- A text that is no call has the shape of a text without its outer blanks. -/
theorem classify_of_parseCall {text : List Char}
    (called : parseCall (String.ofList (Text.trim text)) = .ok none) :
    classify (String.ofList text) = .ok (classifyPlain (String.ofList (Text.trim text))) := by
  rw [classify, Text.trimmed, String.toList_ofList, called]
  rfl

/-- Blanks around a text do not change its shape. -/
theorem classify_congr {one other : List Char} (same : Text.trim one = Text.trim other) :
    classify (String.ofList one) = classify (String.ofList other) := by
  simp only [classify, Text.trimmed, String.toList_ofList, same]

end Formula

namespace PlainText

open Formula

variable (text : PlainText)

theorem isReference_eq_false : isReference (String.ofList text.chars) = false := by
  rw [Bool.eq_false_iff]
  intro reference
  simp only [isReference, String.toList_ofList, Bool.and_eq_true, decide_eq_true_eq] at reference
  obtain ⟨⟨letters, digits⟩, allDigits⟩ := reference
  exact text.ne_reference _ _ letters digits
    (fun c member ↦ List.all_eq_true.mp List.all_takeWhile c member)
    (List.all_eq_true.mp allDigits) List.takeWhile_append_dropWhile.symm

theorem classify : Formula.classify (String.ofList text.chars) =
    .ok (.literal (String.ofList text.chars)) := by
  have away {delimiter : Char} (held : Formula.isDelimiter delimiter) : delimiter ∉ text.chars :=
    not_mem_of_isDelimiter text.isDelimiter held
  have called : parseCall (String.ofList text.chars) = .ok none :=
    parseCall_eq_none (Or.inl (away rfl))
  rw [classify_of_parseCall (by rwa [text.trim_eq]), text.trim_eq, classifyPlain,
    String.toList_ofList, unquote?_eq_none (away rfl), Address.splitAtColon?_eq_none (away rfl)]
  simp only [text.isReference_eq_false]
  rfl

end PlainText

namespace Phrase

open Formula

theorem classify_quote (text : List Char) :
    classify (String.ofList (quote text)) = .ok (.literal (String.ofList text)) := by
  rw [classify_of_parseCall (by rw [trim_quote, parseCall_quote]), trim_quote, classifyPlain,
    String.toList_ofList, unquote?_quote]

theorem classify_range (one other : Address) (before after : Blanks) :
    classify (range one other before after).source = .ok (.range one.toA1 other.toA1) := by
  have front := isDelimiter_eq_false_of_first one before
  have back := isDelimiter_eq_false_of_last after other
  have away {delimiter : Char} (held : isDelimiter delimiter) (different : delimiter ≠ ':') :
      delimiter ∉ (range one other before after).text := by
    rw [text, List.mem_append, List.mem_cons]
    rintro (early | same | late)
    · exact not_mem_of_isDelimiter front held early
    · exact different same
    · exact not_mem_of_isDelimiter back held late
  have called : parseCall (range one other before after).source = .ok none :=
    parseCall_eq_none (Or.inl (away rfl (by decide)))
  have parted : Address.splitAtColon? (range one other before after).text =
      some (one.a1 ++ before.chars, after.chars ++ other.a1) :=
    Address.splitAtColon?_append (not_mem_of_isDelimiter front rfl)
  rw [source, classify_of_parseCall (by rwa [trim_range]), trim_range, classifyPlain,
    String.toList_ofList, unquote?_eq_none (away rfl (by decide)), parted]
  simp only [Text.trim_append_blank before.isBlank, Text.trim_blank_append after.isBlank,
    Address.trim_a1]
  rfl

/-- Reading finds the shape of a phrase. -/
theorem classify_source (phrase : Phrase) : classify phrase.source = .ok phrase.shape := by
  induction phrase with
  | call name opening arguments =>
    rw [classify, parseCall_trimmed_source]
    rfl
  | range one other before after => exact classify_range one other before after
  | reference address => exact classify_toA1 address
  | quoted text => exact classify_quote text
  | plain text => exact text.classify
  | spaced before inner after ih =>
    rw [shape, ← ih]
    refine classify_congr ?_
    rw [text, Text.trim_append_blank after.isBlank, Text.trim_blank_append before.isBlank]

theorem classify_trimmed_source (phrase : Phrase) :
    classify (Text.trimmed phrase.source) = .ok phrase.shape := by
  rw [← classify_source, trimmed_source]
  exact classify_congr (Text.trim_trim phrase.text)

/-! ### Trees -/

theorem map_read {arguments : List Phrase}
    (each : ∀ argument ∈ arguments,
      Expression.read (Text.trimmed argument.source) = argument.expression) :
    (arguments.map fun argument ↦ Text.trimmed argument.source).map Expression.read =
      arguments.map expression := by
  rw [List.map_map]
  refine List.map_congr_left fun argument member ↦ ?_
  rw [Function.comp_apply, each argument member]

/-- Reading finds the tree of a phrase. -/
theorem read_source (phrase : Phrase) : Expression.read phrase.source = phrase.expression := by
  rw [Expression.read_eq, classify_source]
  induction phrase with
  | call name opening arguments ih =>
    have each : ∀ argument ∈ arguments,
        Expression.read (Text.trimmed argument.source) = argument.expression := by
      intro argument member
      rw [Expression.read_eq, classify_trimmed_source]
      exact ih argument member
    rw [shape, Expression.ofShape, map_read each, expression, expressions_eq]
  | range one other before after =>
    rw [shape, Expression.ofShape, readRegion, readAddress_toA1, readAddress_toA1]
    rfl
  | reference address =>
    rw [shape, Expression.ofShape, readAddress_toA1]
    rfl
  | quoted text => rfl
  | plain text => rfl
  | spaced before inner after ih => exact ih

theorem read_trimmed_source (phrase : Phrase) :
    Expression.read (Text.trimmed phrase.source) = phrase.expression := by
  rw [Expression.read_eq, classify_trimmed_source, ← classify_source, ← Expression.read_eq,
    read_source]

/-! ### Formulas -/

/-- A formula is a call or a term as its text is. -/
theorem parse_formula (phrase : Phrase) :
    parse phrase.formula = do
      match ← parseCall (Text.trimmed phrase.source) with
      | some (name, arguments) => return .call name arguments
      | none =>
        checkTerm (Text.trimmed phrase.source)
        return .term (Text.trimmed phrase.source) := by
  have filled : String.ofList (Text.trim phrase.text) ≠ "" :=
    fun empty ↦ phrase.trim_text_ne_nil (String.ofList_injective empty)
  rw [parse, formula, body?_cons, trimmed_source]
  exact if_neg filled

theorem parse_call (name : CallName) (opening : Blanks) (arguments : List Phrase) :
    parse (call name opening arguments).formula =
      .ok (.call (String.ofList name.chars)
        (arguments.map fun argument ↦ Text.trimmed argument.source)) := by
  rw [parse_formula, parseCall_trimmed_source]
  rfl

theorem parse_quoted (text : List Char) :
    parse (quoted text).formula = .ok (.term (String.ofList (quote text))) := by
  rw [parse_formula, trimmed_source, Phrase.text, trim_quote, parseCall_quote]
  show (do
    checkTerm (String.ofList (quote text))
    return Shape.term (String.ofList (quote text))) = _
  rw [checkTerm_quote]
  rfl

theorem head?_formula (phrase : Phrase) : phrase.formula.toList.head? = some '=' := by
  rw [formula, String.toList_ofList]
  rfl

/-- A formula that is a call is read as the call of the trees of its arguments. -/
theorem read_call (name : CallName) (opening : Blanks) (arguments : List Phrase) :
    Formula.read (call name opening arguments).formula =
      .ok (.call (String.ofList name.chars) (arguments.map expression)) := by
  have trees := map_read fun argument (_ : argument ∈ arguments) ↦ argument.read_trimmed_source
  rw [Formula.read, if_neg (not_not_intro (head?_formula _)), parse_call, ← trees]
  rfl

/-- A formula that is a text in quotes is read as that text. -/
theorem read_quoted (text : List Char) :
    Formula.read (quoted text).formula = .ok (.constant (.text (String.ofList text))) := by
  rw [Formula.read, if_neg (not_not_intro (head?_formula _)), parse_quoted]
  show readTerm (String.ofList (quote text)) = _
  rw [readTerm, String.toList_ofList, unquote?_quote]

theorem yields_quoted (context : Context) (visiting : Visiting) (text : List Char) :
    (context.evaluate (quoted text).formula).Yields visiting
      (.ok (.text (String.ofList text))) := by
  rw [Context.evaluate, Context.evaluateWith, read_quoted]
  rfl

/-- Reading undoes writing. A formula that is written as a call is taken apart into the name of the
call and the texts of its arguments, without the blanks around them. The text of a phrase has the
shape of the phrase, with the blanks around it or without them, so that this goes on in each
argument down to the leaves. In the end the trees of the arguments are read. A formula that is
written as a text in quotes has that text for a value. -/
theorem reading_undoes_writing :
    (∀ name opening arguments, parse (call name opening arguments).formula =
      .ok (.call (String.ofList name.chars)
        (arguments.map fun argument ↦ Text.trimmed argument.source))) ∧
    (∀ phrase : Phrase, classify phrase.source = .ok phrase.shape ∧
      classify (Text.trimmed phrase.source) = .ok phrase.shape) ∧
    (∀ name opening arguments, Formula.read (call name opening arguments).formula =
      .ok (.call (String.ofList name.chars) (arguments.map expression))) ∧
    ∀ (context : Context) (visiting : Visiting) (text : List Char),
      (context.evaluate (quoted text).formula).Yields visiting
        (.ok (.text (String.ofList text))) :=
  ⟨parse_call, fun phrase ↦ ⟨phrase.classify_source, phrase.classify_trimmed_source⟩, read_call,
    yields_quoted⟩

/-- A text that stands for itself, with a character that is neither a letter nor a digit. -/
def notAvailable : PlainText where
  chars := ['n', '/', 'a']
  ne_nil := by decide
  trim_eq := by decide
  isDelimiter := by simp [isDelimiter]
  ne_reference := by
    intro letters digits _ _ areLetters areDigits same
    have member : '/' ∈ letters ++ digits := same ▸ by decide
    rcases List.mem_append.mp member with letter | digit
    · exact absurd (areLetters '/' letter) (by decide)
    · exact absurd (areDigits '/' digit) (by decide)

/-- A call inside of a call, with blanks around it and a text in quotes that has a comma, a quote
and a parenthesis in it, before a range from its last corner to its first and a text that stands for
itself. -/
theorem reading_undoes_writing_nested_call :
    let blank : Blanks := ⟨[' '], List.forall_mem_singleton.mpr rfl⟩
    let noBlank : Blanks := ⟨[], List.forall_mem_nil _⟩
    let sum : CallName := ⟨['s', 'u', 'm'], by decide, by simp⟩
    let trim : CallName := ⟨['_', 'T'], by decide, by simp⟩
    let arguments := [spaced blank (call trim noBlank [quoted ['a', ',', '"', '(']]) blank,
      range ⟨2, 2⟩ ⟨0, 0⟩ noBlank blank, plain notAvailable]
    let formula := "=sum(  _T(\"a,\"\"(\") ,C3: A1,n/a)"
    (call sum blank arguments).formula = formula ∧
      parse formula = .ok (.call "sum" ["_T(\"a,\"\"(\")", "C3: A1", "n/a"]) ∧
      classify "_T(\"a,\"\"(\")" = .ok (.call "_T" ["\"a,\"\"(\""]) ∧
      Formula.read formula = .ok (.call "sum" [.call "_T" [.literal "a,\"("],
        .range (Region.ofCorners ⟨2, 2⟩ ⟨0, 0⟩), .literal "n/a"]) := by
  intro blank noBlank sum trim arguments formula
  obtain ⟨parsed, classified, read, _⟩ := reading_undoes_writing
  have written : (call sum blank arguments).formula = formula ∧
      arguments.map (fun argument ↦ Text.trimmed argument.source) =
        ["_T(\"a,\"\"(\")", "C3: A1", "n/a"] ∧
      (call trim noBlank [quoted ['a', ',', '"', '(']]).source = "_T(\"a,\"\"(\")" ∧
      [quoted ['a', ',', '"', '(']].map (fun argument ↦ Text.trimmed argument.source) =
        ["\"a,\"\"(\""] := by
    decide +kernel
  obtain ⟨whole, texts, inner, text⟩ := written
  refine ⟨whole, ?_, ?_, ?_⟩
  · have shape := parsed sum blank arguments
    rwa [whole, texts] at shape
  · have shape := (classified (call trim noBlank [quoted ['a', ',', '"', '(']])).1
    rwa [inner, Phrase.shape, text] at shape
  · have tree := read sum blank arguments
    rwa [whole] at tree

end Phrase

end Worksheet
