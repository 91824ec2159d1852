import Worksheet.Proofs.Address.KeyText
import Worksheet.Proofs.Evaluation.Meaning
import Worksheet.Proofs.Formula.Grammar
import Worksheet.Proofs.Text.Trimming

/-!
# Colons in quotes

Parsing looks for colons outside of quotes only, and so a term may hold a colon in quotes. The shape
of an argument or a term is found later and by any colon, unless the whole text is in quotes. The
two disagree just on the texts in which all colons are in quotes but something else is outside of
them (`HasInnerColon`): these are taken for ranges, and as terms they fail where they were accepted
(`range_of_inner_colon`). All other texts without a colon outside of quotes are no ranges, and no
term is ever taken for a call.
-/

set_option autoImplicit false
set_option relaxedAutoImplicit false

namespace Worksheet.Formula

variable {text : List Char} {c : Char}

/-- A text has a colon, but only in quotes, and is not in quotes as a whole. -/
structure HasInnerColon (text : List Char) : Prop where
  /-- There is a colon. -/
  mem : ':' ∈ text
  /-- No colon is outside of quotes. -/
  not_outside : ¬ Outside ':' text
  /-- The text does not begin and end with a quote. -/
  not_quoted : ∀ inner, text ≠ '"' :: (inner ++ ['"'])

/-! ### Quotes and blanks around a text -/

theorem unquote?_eq_none_iff :
    unquote? text = none ↔ ∀ inner, text ≠ '"' :: (inner ++ ['"']) := by
  unfold unquote?
  split
  · rename_i inner
    split
    · rename_i last
      obtain ⟨front, whole⟩ := List.getLast?_eq_some_iff.mp last
      simp only [reduceCtorEq, false_iff]
      exact fun plain ↦ plain front (by rw [whole])
    · rename_i last
      simp only [true_iff]
      intro front whole
      rw [(List.cons.inj whole).2, List.getLast?_concat] at last
      exact last rfl
  · rename_i other
    simp only [true_iff]
    exact fun inner ↦ other _

theorem mem_of_mem_unquotedFrom {quoted : Bool} (member : c ∈ unquotedFrom quoted text) :
    c ∈ text := by
  obtain ⟨_, front, back, rfl, _⟩ := exists_of_mem_unquotedFrom member
  exact List.mem_append_right _ List.mem_cons_self

/-- Blanks around a text make no difference to the colons outside of quotes. -/
theorem outside_colon_trim : Outside ':' (Text.trim text) ↔ Outside ':' text := by
  obtain ⟨front, back, blankFront, blankBack, whole⟩ := Text.exists_blanks_around_trim text
  have away (blanks : List Char) (blank : ∀ c ∈ blanks, Text.isBlank c) : ':' ∉ blanks := by
    intro member
    exact absurd (blank _ member) (by decide)
  have plain : '"' ∉ front := fun member ↦ absurd (blankFront _ member) (by decide)
  have outside : quotedAfter false front = false := by
    rw [quotedAfter_false, quotesPaired, List.count_eq_zero.mpr plain]
    rfl
  have parts : unquotedChars text = unquotedFrom false front ++ (unquotedChars (Text.trim text) ++
      unquotedFrom (quotedAfter false (Text.trim text)) back) :=
    calc unquotedChars text = unquotedFrom false (front ++ (Text.trim text ++ back)) := by
          rw [← List.append_assoc, ← whole, unquotedChars]
      _ = _ := by rw [unquotedFrom_append, outside, unquotedFrom_append, unquotedChars]
  rw [outside_iff_mem (by decide), outside_iff_mem (by decide), parts, List.mem_append,
    List.mem_append]
  constructor
  · exact fun member ↦ Or.inr (Or.inl member)
  · rintro (member | member | member)
    · exact absurd (mem_of_mem_unquotedFrom member) (away front blankFront)
    · exact member
    · exact absurd (mem_of_mem_unquotedFrom member) (away back blankBack)

/-! ### Shapes -/

/-- Of the texts that are no calls, those with a colon are ranges, unless they are in quotes as a
whole. -/
theorem classifyPlain_eq_range_iff {text : String} :
    (∃ first last, classifyPlain text = .range first last) ↔
      ':' ∈ text.toList ∧ ∀ inner, text.toList ≠ '"' :: (inner ++ ['"']) := by
  rw [← unquote?_eq_none_iff, classifyPlain]
  cases unquote? text.toList with
  | some inner => simp
  | none =>
    simp only [and_true]
    by_cases member : ':' ∈ text.toList
    · obtain ⟨front, back, whole, plain⟩ := List.eq_append_cons_of_mem member
      simp [whole, Address.splitAtColon?_append plain]
    · rw [Address.splitAtColon?_eq_none member]
      simp only [member, iff_false, not_exists]
      intro first last same
      split at same <;> cases same

theorem classifyPlain_ne_call {text name : String} {arguments : List String} :
    classifyPlain text ≠ .call name arguments := by
  intro same
  unfold classifyPlain at same
  split at same
  · cases same
  split at same
  · cases same
  split at same <;> cases same

theorem classify_of_not_opensCall {argument : String}
    (other : ∀ name rest, ¬ OpensCall (Text.trim argument.toList) name rest) :
    classify argument = .ok (classifyPlain (Text.trimmed argument)) := by
  have called : parseCall (Text.trimmed argument) = .ok none :=
    parseCall_of_not_opensCall (by rwa [Text.trimmed, String.toList_ofList])
  rw [classify, called]
  rfl

theorem classify_eq_range_iff {argument : String} :
    (∃ first last, classify argument = .ok (.range first last)) ↔
      (∀ name rest, ¬ OpensCall (Text.trim argument.toList) name rest) ∧
        ':' ∈ Text.trim argument.toList ∧
          ∀ inner, Text.trim argument.toList ≠ '"' :: (inner ++ ['"']) := by
  have plain := @classifyPlain_eq_range_iff (Text.trimmed argument)
  rw [Text.trimmed, String.toList_ofList] at plain
  rw [← plain]
  by_cases other : ∀ name rest, ¬ OpensCall (Text.trim argument.toList) name rest
  · rw [classify_of_not_opensCall other, Text.trimmed]
    simp only [Except.ok.injEq]
    exact ⟨fun range ↦ ⟨other, range⟩, And.right⟩
  · refine ⟨fun range ↦ absurd ?_ other, fun both ↦ absurd both.1 other⟩
    obtain ⟨first, last, shape⟩ := range
    cases called : parseCall (Text.trimmed argument) with
    | error error =>
      simp only [classify, called, bind, Except.bind, reduceCtorEq] at shape
    | ok call =>
      cases call with
      | some call =>
        simp only [classify, called, bind, Except.bind, pure, Except.pure, Except.ok.injEq,
          reduceCtorEq] at shape
      | none =>
        have not_opens := parseCall_eq_none_iff.mp called
        rwa [Text.trimmed, String.toList_ofList] at not_opens

/-- A text is a range without a colon outside of quotes just when it does not begin as a call and,
the blanks around it left out, has its colons inside of quotes next to something outside of them. -/
theorem range_and_not_outside_iff {argument : String} :
    (∃ first last, classify argument = .ok (.range first last)) ∧ ¬ Outside ':' argument.toList ↔
      (∀ name rest, ¬ OpensCall (Text.trim argument.toList) name rest) ∧
        HasInnerColon (Text.trim argument.toList) := by
  rw [classify_eq_range_iff, ← outside_colon_trim]
  constructor
  · rintro ⟨⟨not_opens, mem, not_quoted⟩, not_outside⟩
    exact ⟨not_opens, mem, not_outside, not_quoted⟩
  · rintro ⟨not_opens, mem, not_outside, not_quoted⟩
    exact ⟨⟨not_opens, mem, not_quoted⟩, not_outside⟩

/-! ### Terms -/

section

variable {formula term : String} (parsed : parse formula = .ok (.term term))

include parsed

/-- The shape of a term is found in the term itself, and is that of no call. -/
theorem classify_of_parse_eq_term : classify term = .ok (classifyPlain term) := by
  obtain ⟨⟨rest, _, trimmed⟩, isTerm, _⟩ := isTerm_of_parse_eq_term parsed
  have same : Text.trim term.toList = term.toList := by rw [trimmed, Text.trim_trim]
  have whole : Text.trimmed term = term := by rw [Text.trimmed, same, String.ofList_toList]
  rw [classify_of_not_opensCall (by rw [same]; exact isTerm.not_opens), whole]

theorem classify_ne_call (name : String) (arguments : List String) :
    classify term ≠ .ok (.call name arguments) := by
  rw [classify_of_parse_eq_term parsed]
  exact fun same ↦ classifyPlain_ne_call (Except.ok.inj same)

theorem classifyPlain_eq_range_iff_of_parse_eq_term :
    (∃ first last, classifyPlain term = .range first last) ↔ HasInnerColon term.toList := by
  rw [classifyPlain_eq_range_iff]
  have colon := (isTerm_of_parse_eq_term parsed).2.2
  exact ⟨fun ⟨mem, not_quoted⟩ ↦ ⟨mem, colon, not_quoted⟩,
    fun inner ↦ ⟨inner.mem, inner.not_quoted⟩⟩

/-- What a term is read as: a constant, a reference, a text in the manner of a reference that is no
address, or a range just when it has an inner colon. -/
theorem readTerm_cases :
    ((∃ value, readTerm term = .ok (.constant value)) ∨
      (∃ address, readTerm term = .ok (.reference address)) ∨
        ∃ text, readTerm term = .error (.invalidAddress text)) ∧ ¬ HasInnerColon term.toList ∨
      readTerm term = .error .rangeNotAllowedHere ∧ HasInnerColon term.toList := by
  rw [← classifyPlain_eq_range_iff_of_parse_eq_term parsed, readTerm,
    classify_of_parse_eq_term parsed]
  cases unquoted : unquote? term.toList with
  | some inner =>
    refine Or.inl ⟨Or.inl ⟨_, rfl⟩, ?_⟩
    rintro ⟨first, last, range⟩
    rw [classifyPlain, unquoted] at range
    cases range
  | none =>
    cases shape : classifyPlain term with
    | call name arguments => exact absurd shape classifyPlain_ne_call
    | range first last => exact Or.inr ⟨rfl, first, last, rfl⟩
    | reference text =>
      refine Or.inl ⟨Or.inr ?_, by rintro ⟨_, _, range⟩; cases range⟩
      simp only [bind, Except.bind, readAddress]
      cases Address.ofA1? text.toList with
      | ok address => exact Or.inl ⟨address, rfl⟩
      | error fault => exact Or.inr ⟨text, rfl⟩
    | literal text =>
      refine Or.inl ⟨Or.inl ?_, by rintro ⟨_, _, range⟩; cases range⟩
      simp only [bind, Except.bind]
      cases parseDecimal text with
      | some number => exact ⟨_, rfl⟩
      | none => exact ⟨_, rfl⟩

/-- Evaluating a formula that is a term fails for a range just when the term has an inner colon or
refers to a cell that fails so. A formula with blanks before its equals sign is not evaluated. -/
theorem outcome_eq_rangeNotAllowedHere_iff (context : Context) (visiting : Visiting) :
    ((context.evaluate formula).outcome visiting).1 = .error .rangeNotAllowedHere ↔
      formula.toList.head? = some '=' ∧ (HasInnerColon term.toList ∨
        ∃ address, readTerm term = .ok (.reference address) ∧
          ((context.resolve address).outcome visiting).1 = .error .rangeNotAllowedHere) := by
  rw [context.yields_evaluate visiting formula, textMeaning, read]
  by_cases begins : formula.toList.head? = some '='
  · rw [if_neg (not_not_intro begins), parsed]
    show (readTerm term >>= _) = _ ↔ _
    rcases readTerm_cases parsed with ⟨⟨value, same⟩ | ⟨address, same⟩ | ⟨text, same⟩, plain⟩ |
      ⟨same, inner⟩
    · rw [same]
      simp [plain, Formula.meaning, bind, Except.bind, pure, Except.pure]
    · have looked : ((context.resolve address).outcome visiting).1 =
          Context.lookup context.functions context.sheet.content visiting address := by
        rw [context.yields_resolve visiting address]
      rw [same]
      simp [begins, plain, looked, Formula.meaning, bind, Except.bind]
    · rw [same]
      simp [plain, bind, Except.bind]
    · rw [same]
      simp [begins, inner, bind, Except.bind]
  · rw [if_pos begins]
    simp [begins, Formula.meaning, bind, Except.bind, pure, Except.pure]

end

/-- A colon in quotes is taken for that of a range in the texts with an inner colon and in no
others. As an argument, a text is a range without a colon outside of quotes just when, the blanks
around it left out, it has an inner colon and does not begin as a call. A term is never taken for a
call. It is read as a range just when it has an inner colon, and evaluating it fails for a range
just then or when it refers to a cell that fails so. -/
theorem range_of_inner_colon (context : Context) (visiting : Visiting) :
    (∀ argument, (∃ first last, classify argument = .ok (.range first last)) ∧
        ¬ Outside ':' argument.toList ↔
      (∀ name rest, ¬ OpensCall (Text.trim argument.toList) name rest) ∧
        HasInnerColon (Text.trim argument.toList)) ∧
    ∀ formula term, parse formula = .ok (.term term) →
      (∀ name arguments, classify term ≠ .ok (.call name arguments)) ∧
      (readTerm term = .error .rangeNotAllowedHere ↔ HasInnerColon term.toList) ∧
      (((context.evaluate formula).outcome visiting).1 = .error .rangeNotAllowedHere ↔
        formula.toList.head? = some '=' ∧ (HasInnerColon term.toList ∨
          ∃ address, readTerm term = .ok (.reference address) ∧
            ((context.resolve address).outcome visiting).1 = .error .rangeNotAllowedHere)) := by
  refine ⟨fun argument ↦ range_and_not_outside_iff, fun formula term parsed ↦
    ⟨classify_ne_call parsed, ?_, outcome_eq_rangeNotAllowedHere_iff parsed context visiting⟩⟩
  rcases readTerm_cases parsed with ⟨⟨_, same⟩ | ⟨_, same⟩ | ⟨_, same⟩, plain⟩ | ⟨same, inner⟩
  · simp [same, plain]
  · simp [same, plain]
  · simp [same, plain]
  · simp [same, inner]

/-- The colon of this text is in quotes, and yet the text is a range as an argument. As a term it is
accepted by parsing and then fails for a range. -/
theorem inner_colon_is_range :
    quotesPaired "x\"a:b\"".toList ∧ ¬ Outside ':' "x\"a:b\"".toList ∧
      classify "x\"a:b\"" = .ok (.range "x\"a" "b\"") ∧
      parse "=x\"a:b\"" = .ok (.term "x\"a:b\"") ∧
      (Context.builtIn Sheet.new).evaluateCell? ⟨0, 0⟩ "=x\"a:b\"" =
        .error .rangeNotAllowedHere := by
  refine ⟨by decide, ?_, rfl, rfl, rfl⟩
  rw [outside_iff_mem (by decide)]
  decide

end Worksheet.Formula
