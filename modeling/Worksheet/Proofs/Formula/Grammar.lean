import Worksheet.Formula.Shape
import Worksheet.Proofs.Formula.ArgumentList

/-!
# The grammar of formulas

A formula is an equals sign and a body. The body is a call when it begins with a name and an opening
parenthesis that is closed by its last character (`IsCall`), and a term when it begins in another
way, has its quotes paired and has no parenthesis outside of them (`IsTerm`). Parsing accepts
exactly the calls whose arguments can be split and the terms without a colon outside of quotes. A
term with such a colon is a range in a place where none may stand, and everything else is a
malformation (`parse_accepts`).

The search for the closing parenthesis finds the one that brings the level back to zero
(`splitAtClosing_eq_ok_iff`). Counted from zero before the opening parenthesis, its depth is never
below zero (`seekClosing?_eq`).
-/

set_option autoImplicit false
set_option relaxedAutoImplicit false

namespace Worksheet.Formula

variable {text front name rest inner : List Char}

/-! ### The closing parenthesis -/

/-- From a depth of open parentheses and inside or outside of quotes, a text leads up to the
parenthesis that closes the first of them: it ends outside of quotes at level zero, and the level is
nowhere below zero. -/
structure LeadsToClosing (depth : Nat) (quoted : Bool) (inner : List Char) : Prop where
  /-- The text ends outside of quotes. -/
  outside : quotedAfter quoted inner = false
  /-- Nowhere have more parentheses been closed than opened. -/
  never_below : ∀ start, start <+: inner → 0 ≤ depth + levelFrom quoted start
  /-- In the end as many have been closed as opened. -/
  level_eq : depth + levelFrom quoted inner = 0

theorem leadsToClosing_zero :
    LeadsToClosing 0 false inner ↔ quotesPaired inner ∧ Balanced inner := by
  constructor
  · intro leads
    have paired := leads.outside
    rw [quotedAfter_false, Bool.not_eq_false'] at paired
    exact ⟨paired, fun start begins ↦ by simpa [level] using leads.never_below start begins,
      by simpa [level] using leads.level_eq⟩
  · rintro ⟨paired, balanced⟩
    refine ⟨by rw [quotedAfter_false, paired]; rfl, fun start begins ↦ ?_, ?_⟩
    · simpa [level] using balanced.never_below start begins
    · simpa [level] using balanced.level_eq

theorem leadsToClosing_nil {depth : Nat} {quoted : Bool} :
    LeadsToClosing depth quoted [] ↔ quoted = false ∧ depth = 0 := by
  constructor
  · intro leads
    have level_eq := leads.level_eq
    rw [levelFrom_nil] at level_eq
    exact ⟨leads.outside, by omega⟩
  · rintro ⟨rfl, rfl⟩
    refine ⟨rfl, fun start begins ↦ ?_, rfl⟩
    rw [List.prefix_nil.mp begins]
    exact Int.le_refl 0

theorem leadsToClosing_cons {depth : Nat} {quoted : Bool} {c : Char} :
    LeadsToClosing depth quoted (c :: rest) ↔ ¬ (quoted = false ∧ c = ')' ∧ depth = 0) ∧
      LeadsToClosing (depthAfter depth quoted c) (if c = '"' then !quoted else quoted) rest := by
  constructor
  · intro leads
    have opened : ¬ (quoted = false ∧ c = ')' ∧ depth = 0) := by
      rintro ⟨rfl, rfl, rfl⟩
      have below := leads.never_below [')'] (List.prefix_cons_iff.mpr (.inr ⟨[], rfl, by simp⟩))
      rw [levelFrom_singleton] at below
      exact absurd below (by decide)
    have after := depthAfter_eq opened
    refine ⟨opened, leads.outside, fun start begins ↦ ?_, ?_⟩
    · have above := leads.never_below (c :: start) (List.prefix_cons_inj c |>.mpr begins)
      rw [levelFrom_cons] at above
      omega
    · have level_eq := leads.level_eq
      rw [levelFrom_cons] at level_eq
      omega
  · rintro ⟨opened, leads⟩
    have after := depthAfter_eq opened
    refine ⟨leads.outside, fun start begins ↦ ?_, ?_⟩
    · rcases List.prefix_cons_iff.mp begins with rfl | ⟨later, rfl, within⟩
      · rw [levelFrom_nil]
        omega
      · have above := leads.never_below later within
        rw [levelFrom_cons]
        omega
    · have level_eq := leads.level_eq
      rw [levelFrom_cons]
      omega

/-- The search finds the first parenthesis that is closed at level zero. -/
theorem splitAtClosing_eq_ok_iff {after : List Char} (text : List Char) :
    ∀ (depth : Nat) (quoted : Bool) (inner : List Char),
      splitAtClosing depth quoted text = .ok (inner, after) ↔
        text = inner ++ ')' :: after ∧ LeadsToClosing depth quoted inner := by
  induction text with
  | nil => intro depth quoted inner; cases quoted <;> simp [splitAtClosing]
  | cons c rest ih =>
    intro depth quoted inner
    rw [splitAtClosing]
    split
    · rename_i closing
      simp only [Bool.and_eq_true, Bool.not_eq_true', decide_eq_true_eq] at closing
      obtain ⟨⟨rfl, rfl⟩, rfl⟩ := closing
      constructor
      · intro found
        cases found
        exact ⟨rfl, leadsToClosing_nil.mpr ⟨rfl, rfl⟩⟩
      · rintro ⟨whole, leads⟩
        cases inner with
        | nil => cases whole; rfl
        | cons d inner =>
          obtain ⟨rfl, _⟩ := List.cons.inj whole
          exact absurd ⟨rfl, rfl, rfl⟩ (leadsToClosing_cons.mp leads).1
    · rename_i passed
      have opened : ¬ (quoted = false ∧ c = ')' ∧ depth = 0) := by simpa [and_assoc] using passed
      constructor
      · intro found
        obtain ⟨⟨inner, _⟩, deeper, whole⟩ := exists_of_map_eq_ok found
        cases whole
        obtain ⟨rfl, leads⟩ := (ih _ _ inner).mp deeper
        exact ⟨rfl, leadsToClosing_cons.mpr ⟨opened, leads⟩⟩
      · rintro ⟨whole, leads⟩
        cases inner with
        | nil =>
          obtain ⟨rfl, rfl⟩ := List.cons.inj whole
          obtain ⟨rfl, rfl⟩ := leadsToClosing_nil.mp leads
          exact absurd ⟨rfl, rfl, rfl⟩ opened
        | cons d inner =>
          obtain ⟨rfl, rest_eq⟩ := List.cons.inj whole
          have deeper := (ih _ _ inner).mpr ⟨rest_eq, (leadsToClosing_cons.mp leads).2⟩
          simp only [depthAfter] at deeper
          simp only [deeper, Except.map]

/-- The search for the parenthesis that closes the first one of a text, with a depth that counts
from zero before it. There is no result where the depth would go below zero. -/
def seekClosing? : Nat → Bool → List Char → Option (Except Malformation (List Char × List Char))
  | _, quoted, [] => some (.error (if quoted then .unterminatedString else .unbalancedParentheses))
  | depth, quoted, c :: rest =>
    let further (depth : Nat) (quoted : Bool) :=
      (seekClosing? depth quoted rest).map (Except.map fun split ↦ (c :: split.1, split.2))
    if c = '"' then further depth !quoted
    else if quoted then further depth quoted
    else if c = '(' then further (depth + 1) quoted
    else if c = ')' then
      if depth = 0 then none
      else if depth - 1 = 0 then some (.ok ([], rest))
      else further (depth - 1) quoted
    else further depth quoted

/-- With a parenthesis open the depth never goes below zero, and the search has the result of the
one that counts the parentheses opened since. -/
theorem seekClosing?_succ (text : List Char) : ∀ (depth : Nat) (quoted : Bool),
    seekClosing? (depth + 1) quoted text = some (splitAtClosing depth quoted text) := by
  induction text with
  | nil => intro depth quoted; rfl
  | cons c rest ih =>
    intro depth quoted
    rw [seekClosing?, splitAtClosing]
    by_cases quote : c = '"'
    · subst quote
      simp only [ih, Option.map_some, if_true, Char.reduceEq, decide_false, Bool.and_false,
        Bool.false_and, Bool.false_eq_true, if_false, ite_self]
    by_cases inside : quoted
    · simp only [ih, Option.map_some, quote, inside, if_true, if_false, Bool.not_true,
        Bool.false_and, Bool.false_eq_true]
    by_cases opening : c = '('
    · subst opening
      simp [ih, inside]
    by_cases closing : c = ')'
    · subst closing
      cases depth with
      | zero => simp [inside]
      | succ depth => simp [ih, inside]
    · simp [ih, quote, inside, opening, closing]

theorem seekClosing?_eq (body : List Char) : seekClosing? 0 false ('(' :: body) =
    some ((splitAtClosing 0 false body).map fun split ↦ ('(' :: split.1, split.2)) := by
  rw [seekClosing?]
  simp [seekClosing?_succ]

/-! ### Calls -/

/-- A text begins with a name and an opening parenthesis. -/
structure OpensCall (text name rest : List Char) : Prop where
  /-- The parenthesis follows the name. -/
  text_eq : text = name ++ '(' :: rest
  /-- The name has a character. -/
  ne_nil : name ≠ []
  /-- The characters of the name are ASCII letters and underscores. -/
  isAlpha_or_eq : ∀ c ∈ name, c.isAlpha ∨ c = '_'

/-- A text is a call: a name and an opening parenthesis that the last character closes. -/
structure IsCall (text name inner : List Char) : Prop where
  /-- The text has a name and begins and ends with the parentheses around the rest. -/
  opens : OpensCall text name (inner ++ [')'])
  /-- The last parenthesis is outside of quotes. -/
  paired : quotesPaired inner
  /-- The last parenthesis closes the first one, and no other does. -/
  balanced : Balanced inner

theorem isNameChar_iff_isAlpha_or_eq {c : Char} : isNameChar c ↔ c.isAlpha ∨ c = '_' := by
  rw [isNameChar, Bool.or_eq_true, decide_eq_true_eq]

theorem opensCall_iff : OpensCall text name rest ↔
    text.takeWhile isNameChar = name ∧ name ≠ [] ∧ text.dropWhile isNameChar = '(' :: rest := by
  constructor
  · rintro ⟨rfl, filled, named⟩
    have named : ∀ c ∈ name, isNameChar c := fun c member ↦
      isNameChar_iff_isAlpha_or_eq.mpr (named c member)
    refine ⟨?_, filled, ?_⟩
    · rw [List.takeWhile_append_of_pos named, List.takeWhile_cons_of_neg (by decide),
        List.append_nil]
    · rw [List.dropWhile_append_of_pos named, List.dropWhile_cons_of_neg (by decide)]
  · rintro ⟨taken, filled, dropped⟩
    refine ⟨by rw [← taken, ← dropped, List.takeWhile_append_dropWhile], filled, ?_⟩
    intro c member
    rw [← taken] at member
    exact isNameChar_iff_isAlpha_or_eq.mp (List.all_eq_true.mp List.all_takeWhile c member)

/-- A text that begins with a name and an opening parenthesis is read as a call, or not at all. -/
theorem parseCall_of_opensCall {text : String} (opens : OpensCall text.toList name rest) :
    parseCall text = match splitAtClosing 0 false rest with
      | .error cause => .error (.malformed cause)
      | .ok (inner, []) => (splitArguments (String.ofList inner)).map fun arguments ↦
          some (String.ofList name, arguments)
      | .ok (_, after) => .error (.malformed (.textAfterCall (String.ofList after))) := by
  obtain ⟨taken, filled, dropped⟩ := opensCall_iff.mp opens
  obtain ⟨c, letters, rfl⟩ := List.exists_cons_of_ne_nil filled
  cases closed : splitAtClosing 0 false rest with
  | error cause => simp only [parseCall, taken, dropped, closed]
  | ok split =>
    obtain ⟨inner, _ | ⟨d, after⟩⟩ := split
    · simp only [parseCall, taken, dropped, closed]
    · simp only [parseCall, taken, dropped, closed]

theorem parseCall_of_not_opensCall {text : String}
    (other : ∀ name rest, ¬ OpensCall text.toList name rest) : parseCall text = .ok none := by
  unfold parseCall
  simp only
  split
  · rename_i taken dropped
    exact absurd (opensCall_iff.mpr ⟨taken, List.cons_ne_nil _ _, dropped⟩) (other _ _)
  · rfl

theorem parseCall_eq_none_iff {text : String} :
    parseCall text = .ok none ↔ ∀ name rest, ¬ OpensCall text.toList name rest := by
  refine ⟨fun none name rest opens ↦ ?_, parseCall_of_not_opensCall⟩
  rw [parseCall_of_opensCall opens] at none
  split at none
  · cases none
  · obtain ⟨arguments, _, read⟩ := exists_of_map_eq_ok none
    cases read
  · cases none

/-- A text is read as a call just when its last character closes the parenthesis after its name and
what is between the two can be split. -/
theorem parseCall_eq_some_iff {text name : String} {arguments : List String} :
    parseCall text = .ok (some (name, arguments)) ↔ ∃ inner,
      IsCall text.toList name.toList inner ∧
        splitArguments (String.ofList inner) = .ok arguments := by
  constructor
  · intro called
    by_cases opened : ∃ letters rest, OpensCall text.toList letters rest
    · obtain ⟨letters, rest, opens⟩ := opened
      rw [parseCall_of_opensCall opens] at called
      split at called
      · cases called
      · rename_i inner closed
        obtain ⟨others, split, read⟩ := exists_of_map_eq_ok called
        cases read
        obtain ⟨rfl, leads⟩ := (splitAtClosing_eq_ok_iff rest 0 false inner).mp closed
        obtain ⟨paired, balanced⟩ := leadsToClosing_zero.mp leads
        exact ⟨inner, ⟨by rwa [String.toList_ofList], paired, balanced⟩, split⟩
      · cases called
    · have other : parseCall text = .ok none :=
        parseCall_of_not_opensCall fun letters rest opens ↦ opened ⟨letters, rest, opens⟩
      rw [other] at called
      cases called
  · rintro ⟨inner, ⟨opens, paired, balanced⟩, split⟩
    have closed : splitAtClosing 0 false (inner ++ [')']) = .ok (inner, []) :=
      (splitAtClosing_eq_ok_iff _ 0 false inner).mpr
        ⟨rfl, leadsToClosing_zero.mpr ⟨paired, balanced⟩⟩
    rw [parseCall_of_opensCall opens, closed]
    simp only [split, Except.map, String.ofList_toList]

theorem malformed_of_parseCall {text : String} {error : FormulaError}
    (failed : parseCall text = .error error) : ∃ cause, error = .malformed cause := by
  unfold parseCall at failed
  simp only at failed
  split at failed
  · split at failed
    · exact ⟨_, (Except.error.inj failed).symm⟩
    · rename_i inner _
      cases split : splitArguments (String.ofList inner) with
      | error other =>
        rw [split] at failed
        cases failed
        exact malformed_of_splitArguments split
      | ok arguments =>
        rw [split] at failed
        cases failed
    · exact ⟨_, (Except.error.inj failed).symm⟩
  · cases failed

/-! ### Terms -/

/-- A text is a term, perhaps a range: it does not begin as a call, its quotes are paired, and no
parenthesis is outside of them. -/
structure IsTerm (text : List Char) : Prop where
  /-- There is a character. -/
  ne_nil : text ≠ []
  /-- No name with an opening parenthesis begins the text. -/
  not_opens : ∀ name rest, ¬ OpensCall text name rest
  /-- Every quote is closed. -/
  paired : quotesPaired text
  /-- No parenthesis opens. -/
  not_opening : ¬ Outside '(' text
  /-- No parenthesis closes. -/
  not_closing : ¬ Outside ')' text

theorem outside_iff_mem {c : Char} (ne : c ≠ '"') : Outside c text ↔ c ∈ unquotedChars text := by
  rw [mem_unquotedChars]
  exact ⟨fun outside ↦ ⟨ne, outside⟩, And.right⟩

theorem any_parenthesis_iff : ((unquotedChars text).any fun c ↦ c = '(' || c = ')') = true ↔
    Outside '(' text ∨ Outside ')' text := by
  rw [outside_iff_mem (by decide), outside_iff_mem (by decide), List.any_eq_true]
  constructor
  · rintro ⟨c, member, parenthesis⟩
    rw [Bool.or_eq_true, decide_eq_true_eq, decide_eq_true_eq] at parenthesis
    rcases parenthesis with rfl | rfl
    · exact Or.inl member
    · exact Or.inr member
  · rintro (member | member)
    · exact ⟨_, member, rfl⟩
    · exact ⟨_, member, rfl⟩

theorem contains_colon_iff : (unquotedChars text).contains ':' = true ↔ Outside ':' text := by
  rw [outside_iff_mem (by decide), List.contains_iff_mem]

/-- What the check of a term comes to, when the text has no parenthesis outside of quotes and its
quotes are paired, depends on its colons; and when it has such a parenthesis or an open quote, it is
a malformation. -/
theorem checkTerm_cases (term : String) :
    (checkTerm term = .ok () ∧ quotesPaired term.toList ∧ ¬ Outside '(' term.toList ∧
        ¬ Outside ')' term.toList ∧ ¬ Outside ':' term.toList) ∨
      (checkTerm term = .error .rangeNotAllowedHere ∧ quotesPaired term.toList ∧
        ¬ Outside '(' term.toList ∧ ¬ Outside ')' term.toList ∧ Outside ':' term.toList) ∨
      (∃ cause, checkTerm term = .error (.malformed cause)) ∧
        ¬ (quotesPaired term.toList ∧ ¬ Outside '(' term.toList ∧ ¬ Outside ')' term.toList) := by
  have parenthesis := @any_parenthesis_iff term.toList
  have colon := @contains_colon_iff term.toList
  unfold checkTerm
  simp only
  split
  · rename_i found
    refine Or.inr (Or.inr ⟨⟨_, rfl⟩, fun clear ↦ ?_⟩)
    exact (parenthesis.mp found).elim clear.2.1 clear.2.2
  rename_i none
  have clear := not_or.mp (mt parenthesis.mpr none)
  split
  · rename_i unclosed
    rw [Bool.not_eq_true'] at unclosed
    refine Or.inr (Or.inr ⟨⟨_, rfl⟩, fun closed ↦ ?_⟩)
    rw [unclosed] at closed
    exact Bool.false_ne_true closed.1
  rename_i paired
  rw [Bool.not_eq_true', Bool.not_eq_false] at paired
  split
  · rename_i found
    exact Or.inr (Or.inl ⟨rfl, paired, clear.1, clear.2, colon.mp found⟩)
  · rename_i none
    exact Or.inl ⟨rfl, paired, clear.1, clear.2, mt colon.mpr none⟩

/-! ### Formulas -/

/-- The body of a formula: what follows its equals sign, without the blanks around the formula and
around the body. -/
def IsBody (formula : String) (body : List Char) : Prop :=
  ∃ rest, Text.trim formula.toList = '=' :: rest ∧ body = Text.trim rest

theorem body?_eq_some_iff {formula body : String} :
    body? formula = some body ↔ IsBody formula body.toList := by
  unfold body? IsBody
  split
  · rename_i rest trimmed
    rw [Option.some.injEq, ← String.toList_inj, String.toList_ofList, trimmed]
    constructor
    · intro same
      exact ⟨rest, rfl, same.symm⟩
    · rintro ⟨other, same, whole⟩
      rw [whole, (List.cons.inj same).2]
  · rename_i other
    refine ⟨fun none ↦ (nomatch none), fun ⟨rest, trimmed, _⟩ ↦ absurd trimmed (other rest)⟩

section

variable {formula : String} {body : List Char}

theorem parse_of_isBody (isBody : IsBody formula body) (filled : body ≠ []) :
    parse formula = (parseCall (String.ofList body) >>= fun
      | some (name, arguments) => .ok (.call name arguments)
      | none => (checkTerm (String.ofList body)).map fun _ ↦ .term (String.ofList body)) := by
  have found : body? formula = some (String.ofList body) := by
    rwa [body?_eq_some_iff, String.toList_ofList]
  have filled : String.ofList body ≠ "" := fun none ↦ filled (String.ofList_injective none)
  rw [parse, found]
  simp only [if_neg filled]
  rfl

theorem IsCall.ne_nil (call : IsCall body name inner) : body ≠ [] := by
  rw [call.opens.text_eq]
  exact List.append_ne_nil_of_right_ne_nil _ (List.cons_ne_nil _ _)

theorem parse_of_isCall {arguments : List String} (isBody : IsBody formula body)
    (call : IsCall body name inner) (split : splitArguments (String.ofList inner) = .ok arguments) :
    parse formula = .ok (.call (String.ofList name) arguments) := by
  have called : parseCall (String.ofList body) = .ok (some (String.ofList name, arguments)) :=
    parseCall_eq_some_iff.mpr
      ⟨inner, by rwa [String.toList_ofList, String.toList_ofList], split⟩
  rw [parse_of_isBody isBody call.ne_nil, called]
  rfl

theorem parse_of_isTerm (isBody : IsBody formula body) (term : IsTerm body) :
    parse formula = (checkTerm (String.ofList body)).map fun _ ↦ .term (String.ofList body) := by
  have called : parseCall (String.ofList body) = .ok none :=
    parseCall_of_not_opensCall fun name rest ↦ by
      rw [String.toList_ofList]
      exact term.not_opens name rest
  rw [parse_of_isBody isBody term.ne_nil, called]
  rfl

/-- A term with a colon outside of quotes is a range, and any other one is accepted. -/
theorem parse_of_isTerm_cases (isBody : IsBody formula body) (term : IsTerm body) :
    parse formula = .ok (.term (String.ofList body)) ∧ ¬ Outside ':' body ∨
      parse formula = .error .rangeNotAllowedHere ∧ Outside ':' body := by
  have checked := checkTerm_cases (String.ofList body)
  rw [String.toList_ofList] at checked
  rw [parse_of_isTerm isBody term]
  rcases checked with ⟨passed, _, _, _, colon⟩ | ⟨refused, _, _, _, colon⟩ | ⟨_, broken⟩
  · rw [passed]
    exact Or.inl ⟨rfl, colon⟩
  · rw [refused]
    exact Or.inr ⟨rfl, colon⟩
  · exact absurd ⟨term.paired, term.not_opening, term.not_closing⟩ broken

/-- What is neither a call nor a term is a malformation. -/
theorem parse_of_other
    (other : ∀ body, IsBody formula body → ¬ IsTerm body ∧ ∀ name inner arguments,
      IsCall body name inner → splitArguments (String.ofList inner) ≠ .ok arguments) :
    ∃ cause, parse formula = .error (.malformed cause) := by
  cases found : body? formula with
  | none =>
    rw [parse, found]
    exact ⟨_, rfl⟩
  | some body =>
    have isBody := body?_eq_some_iff.mp found
    obtain ⟨no_term, no_call⟩ := other body.toList isBody
    by_cases filled : body.toList = []
    · have empty : body = "" := String.toList_inj.mp filled
      rw [parse, found]
      simp only [if_pos empty]
      exact ⟨_, rfl⟩
    rw [parse_of_isBody isBody filled, String.ofList_toList]
    match called : parseCall body with
    | .error error =>
      obtain ⟨cause, rfl⟩ := malformed_of_parseCall called
      exact ⟨cause, rfl⟩
    | .ok (some (name, arguments)) =>
      obtain ⟨inner, call, split⟩ := parseCall_eq_some_iff.mp called
      exact absurd split (no_call _ inner arguments call)
    | .ok none =>
      have not_opens := parseCall_eq_none_iff.mp called
      rcases checkTerm_cases body with ⟨_, paired, opening, closing, _⟩ |
        ⟨_, paired, opening, closing, _⟩ | ⟨⟨cause, refused⟩, _⟩
      · exact absurd ⟨filled, not_opens, paired, opening, closing⟩ no_term
      · exact absurd ⟨filled, not_opens, paired, opening, closing⟩ no_term
      · refine ⟨cause, ?_⟩
        show (checkTerm body).map _ = _
        rw [refused]
        rfl

/-- Every way in which parsing comes out, with what the formula is then. -/
theorem parse_cases (formula : String) :
    (∃ body name inner arguments, parse formula = .ok (.call (String.ofList name) arguments) ∧
      IsBody formula body ∧ IsCall body name inner ∧
        splitArguments (String.ofList inner) = .ok arguments) ∨
    (∃ body, IsBody formula body ∧ IsTerm body ∧
      (parse formula = .ok (.term (String.ofList body)) ∧ ¬ Outside ':' body ∨
        parse formula = .error .rangeNotAllowedHere ∧ Outside ':' body)) ∨
    (∃ cause, parse formula = .error (.malformed cause)) ∧
      ∀ body, IsBody formula body → ¬ IsTerm body ∧ ∀ name inner arguments,
        IsCall body name inner → splitArguments (String.ofList inner) ≠ .ok arguments := by
  by_cases called : ∃ body name inner arguments, IsBody formula body ∧ IsCall body name inner ∧
      splitArguments (String.ofList inner) = .ok arguments
  · obtain ⟨body, name, inner, arguments, isBody, call, split⟩ := called
    exact Or.inl ⟨body, name, inner, arguments, parse_of_isCall isBody call split, isBody, call,
      split⟩
  by_cases term : ∃ body, IsBody formula body ∧ IsTerm body
  · obtain ⟨body, isBody, term⟩ := term
    exact Or.inr (Or.inl ⟨body, isBody, term, parse_of_isTerm_cases isBody term⟩)
  · have other : ∀ body, IsBody formula body → ¬ IsTerm body ∧ ∀ name inner arguments,
        IsCall body name inner → splitArguments (String.ofList inner) ≠ .ok arguments :=
      fun body isBody ↦ ⟨fun isTerm ↦ term ⟨body, isBody, isTerm⟩,
        fun name inner arguments call split ↦
          called ⟨body, name, inner, arguments, isBody, call, split⟩⟩
    exact Or.inr (Or.inr ⟨parse_of_other other, other⟩)

end

/-- A text that is parsed as a term is the body of its formula, and a term without a colon outside
of quotes. -/
theorem isTerm_of_parse_eq_term {formula term : String}
    (parsed : parse formula = .ok (.term term)) :
    IsBody formula term.toList ∧ IsTerm term.toList ∧ ¬ Outside ':' term.toList := by
  have cases := parse_cases formula
  rw [parsed] at cases
  rcases cases with ⟨_, _, _, _, same, _⟩ |
    ⟨body, isBody, isTerm, ⟨same, colon⟩ | ⟨same, _⟩⟩ | ⟨⟨_, same⟩, _⟩
  · cases same
  · cases same
    rw [String.toList_ofList]
    exact ⟨isBody, isTerm, colon⟩
  · cases same
  · cases same

/-- Parsing accepts exactly its grammar. A formula is a call just when its body is one and what is
between its parentheses can be split into the arguments. It is a term just when its body is one
without a colon outside of quotes, and a range in a place where none may stand just when its body is
a term with such a colon. Every other text, one without an equals sign too, is a malformation. The
search for the parenthesis that closes a call never has a depth below zero. -/
theorem parse_accepts (formula : String) :
    (∀ name arguments, parse formula = .ok (.call name arguments) ↔ ∃ body inner,
      IsBody formula body ∧ IsCall body name.toList inner ∧
        splitArguments (String.ofList inner) = .ok arguments) ∧
    (∀ term, parse formula = .ok (.term term) ↔
      IsBody formula term.toList ∧ IsTerm term.toList ∧ ¬ Outside ':' term.toList) ∧
    (parse formula = .error .rangeNotAllowedHere ↔ ∃ body,
      IsBody formula body ∧ IsTerm body ∧ Outside ':' body) ∧
    ((∃ cause, parse formula = .error (.malformed cause)) ↔ ∀ body, IsBody formula body →
      ¬ IsTerm body ∧ ∀ name inner arguments, IsCall body name inner →
        splitArguments (String.ofList inner) ≠ .ok arguments) ∧
    ∀ rest, seekClosing? 0 false ('(' :: rest) =
      some ((splitAtClosing 0 false rest).map fun split ↦ ('(' :: split.1, split.2)) := by
  have cases := parse_cases formula
  refine ⟨fun name arguments ↦ ⟨fun parsed ↦ ?_, ?_⟩, fun term ↦ ⟨isTerm_of_parse_eq_term, ?_⟩,
    ⟨fun parsed ↦ ?_, ?_⟩, ⟨fun parsed ↦ ?_, parse_of_other⟩, seekClosing?_eq⟩
  · rw [parsed] at cases
    rcases cases with ⟨body, letters, inner, others, same, isBody, call, split⟩ |
      ⟨_, _, _, ⟨same, _⟩ | ⟨same, _⟩⟩ | ⟨⟨_, same⟩, _⟩
    · cases same
      exact ⟨body, inner, isBody, by rwa [String.toList_ofList], split⟩
    all_goals cases same
  · rintro ⟨body, inner, isBody, call, split⟩
    rw [parse_of_isCall isBody call split, String.ofList_toList]
  · rintro ⟨isBody, isTerm, colon⟩
    rcases parse_of_isTerm_cases isBody isTerm with ⟨parsed, _⟩ | ⟨_, found⟩
    · rw [parsed, String.ofList_toList]
    · exact absurd found colon
  · rw [parsed] at cases
    rcases cases with ⟨_, _, _, _, same, _⟩ |
      ⟨body, isBody, isTerm, ⟨same, _⟩ | ⟨_, colon⟩⟩ | ⟨⟨_, same⟩, _⟩
    · cases same
    · cases same
    · exact ⟨body, isBody, isTerm, colon⟩
    · cases same
  · rintro ⟨body, isBody, isTerm, colon⟩
    rcases parse_of_isTerm_cases isBody isTerm with ⟨_, none⟩ | ⟨parsed, _⟩
    · exact absurd colon none
    · exact parsed
  · obtain ⟨cause, parsed⟩ := parsed
    rw [parsed] at cases
    rcases cases with ⟨_, _, _, _, same, _⟩ | ⟨_, _, _, ⟨same, _⟩ | ⟨same, _⟩⟩ | ⟨_, other⟩
    · cases same
    · cases same
    · cases same
    · exact other

end Worksheet.Formula
