import Worksheet.Proofs.Formula.Phrase

/-!
# Nested quotes and parentheses

A text is nested when every quote and every parenthesis in it is closed in it, and the parentheses
match (`Nested`). The search for the parenthesis that closes a call passes over such a text
(`Nested.splitAtClosing_append`), and so does the scan of a list of arguments, inside of parentheses
or where the text parts nothing (`Nested.passes`). A list is taken apart at its commas into texts
that are each scanned as a part of one argument (`pieces_intercalate`).
-/

set_option autoImplicit false
set_option relaxedAutoImplicit false

namespace Worksheet.Formula

/-- Every quote and every parenthesis of a text is closed in it. Outside of quotes and parentheses
there are commas and colons only where these are allowed as separators. -/
inductive Nested : Bool → List Char → Prop
  | nil {separators : Bool} : Nested separators []
  | char {separators : Bool} {c : Char} {rest : List Char}
      (other : c ≠ '"' ∧ c ≠ '(' ∧ c ≠ ')') (separated : c = ',' ∨ c = ':' → separators)
      (later : Nested separators rest) : Nested separators (c :: rest)
  | quoted {separators : Bool} {inner rest : List Char} (plain : ∀ c ∈ inner, c ≠ '"')
      (later : Nested separators rest) : Nested separators ('"' :: (inner ++ '"' :: rest))
  | group {separators : Bool} {inner rest : List Char} (nested : Nested true inner)
      (later : Nested separators rest) : Nested separators ('(' :: (inner ++ ')' :: rest))

namespace Nested

variable {separators : Bool} {one other text : List Char}

theorem append (first : Nested separators one) (second : Nested separators other) :
    Nested separators (one ++ other) := by
  induction first with
  | nil => exact second
  | char apart separated _ ih => exact .char apart separated (ih second)
  | quoted plain _ ih =>
    rw [List.cons_append, List.append_assoc, List.cons_append]
    exact .quoted plain (ih second)
  | group nested _ _ ih =>
    rw [List.cons_append, List.append_assoc, List.cons_append]
    exact .group nested (ih second)

theorem of_no_separators (nested : Nested false text) : Nested true text := by
  generalize held : false = separators at nested
  induction nested with
  | nil => exact .nil
  | char apart _ _ ih => exact .char apart (fun _ ↦ rfl) (ih held)
  | quoted plain _ ih => exact .quoted plain (ih held)
  | group nested _ _ ih => exact .group nested (ih held)

theorem of_no_delimiters (plain : ∀ c ∈ text, isDelimiter c = false) : Nested separators text := by
  induction text with
  | nil => exact .nil
  | cons c rest ih =>
    rw [List.forall_mem_cons] at plain
    have apart := plain.1
    simp only [isDelimiter, Bool.or_eq_false_iff, decide_eq_false_iff_not] at apart
    obtain ⟨⟨⟨⟨quote, opening⟩, closing⟩, comma⟩, colon⟩ := apart
    exact .char ⟨quote, opening, closing⟩ (fun separator ↦ (separator.elim comma colon).elim)
      (ih plain.2)

/-- A text in quotes is nested: between its doubled quotes, one stretch is closed and the next one
begins. -/
theorem quote (text : List Char) : Nested separators (quote text) := by
  have stretch (text : List Char) : ∀ front : List Char, (∀ c ∈ front, c ≠ '"') →
      Nested separators ('"' :: (front ++ (double text ++ ['"']))) := by
    induction text with
    | nil => exact fun front plain ↦ .quoted plain .nil
    | cons c rest ih =>
      intro front plain
      by_cases closing : c = '"'
      · rw [double, if_pos closing]
        exact .quoted plain (ih [] (by simp))
      · have regrouped : front ++ (double (c :: rest) ++ ['"']) =
            (front ++ [c]) ++ (double rest ++ ['"']) := by
          simp [double, closing]
        rw [regrouped]
        refine ih (front ++ [c]) fun d member ↦ ?_
        rcases List.mem_append.mp member with before | last
        · exact plain d before
        · rw [List.mem_singleton.mp last]
          exact closing
  exact stretch text [] (by simp)

end Nested

/-! ### The parenthesis that closes a call -/

section

variable {separators : Bool} {text : List Char}

/-- The result of a search that has passed over a text. -/
theorem map_append_map (first second : List Char)
    (found : Except Malformation (List Char × List Char)) :
    (found.map fun split ↦ (second ++ split.1, split.2)).map
        (fun split ↦ (first ++ split.1, split.2)) =
      found.map fun split ↦ (first ++ second ++ split.1, split.2) := by
  cases found <;> simp [Except.map]

theorem splitAtClosing_quoted (depth : Nat) {inner : List Char} (plain : ∀ c ∈ inner, c ≠ '"')
    (rest : List Char) :
    splitAtClosing depth true (inner ++ '"' :: rest) =
      (splitAtClosing depth false rest).map fun split ↦ (inner ++ '"' :: split.1, split.2) := by
  induction inner with
  | nil => simp [splitAtClosing]
  | cons c inner ih =>
    rw [List.forall_mem_cons] at plain
    rw [List.cons_append, splitAtClosing]
    simp only [Bool.not_true, Bool.false_and, Bool.false_eq_true, if_false, if_true, plain.1,
      ih plain.2]
    cases splitAtClosing depth false rest <;> rfl

/-- The search for a closing parenthesis passes over a nested text. -/
theorem Nested.splitAtClosing_append (nested : Nested separators text) :
    ∀ (depth : Nat) (rest : List Char), splitAtClosing depth false (text ++ rest) =
      (splitAtClosing depth false rest).map fun split ↦ (text ++ split.1, split.2) := by
  induction nested with
  | nil =>
    intro depth rest
    cases found : splitAtClosing depth false rest <;> simp [found, Except.map]
  | @char _ c later apart _ _ ih =>
    intro depth rest
    rw [List.cons_append, splitAtClosing]
    simp only [apart, Bool.not_false, Bool.true_and, decide_false, Bool.false_and,
      Bool.false_eq_true, if_false, ih]
    exact map_append_map [c] later _
  | @quoted _ inner later plain _ ih =>
    intro depth rest
    rw [List.cons_append, List.append_assoc, List.cons_append, splitAtClosing]
    simp only [Bool.not_false, Bool.true_and, Bool.false_eq_true, if_false, if_true, Char.reduceEq,
      decide_false, Bool.false_and, splitAtClosing_quoted depth plain, ih]
    cases splitAtClosing depth false rest <;> simp [Except.map]
  | @group _ inner later _ _ innerIh ih =>
    intro depth rest
    rw [List.cons_append, List.append_assoc, List.cons_append, splitAtClosing]
    simp only [Bool.not_false, Bool.true_and, Bool.false_eq_true, if_false, if_true, Char.reduceEq,
      decide_false, Bool.false_and, innerIh]
    rw [splitAtClosing]
    simp only [Bool.not_false, Bool.true_and, decide_true, Nat.add_one_ne_zero,
      decide_false, Bool.and_false, Bool.false_eq_true, if_false, if_true,
      Char.reduceEq, Nat.add_sub_cancel, ih]
    cases splitAtClosing depth false rest <;> simp [Except.map]

end

/-! ### The scan of a list -/

namespace ArgumentScan

/-- At a depth of parentheses, a scan outside of quotes takes in a text as a part of the argument
that is being read, and is outside of quotes at that depth afterwards. -/
def Passes (depth : Nat) (text : List Char) : Prop :=
  ∀ (list : String) (current : List Char) (earlier : List (List Char)),
    text.foldlM (step list) ⟨depth, false, false, current, earlier⟩ =
      .ok ⟨depth, false, false, text.reverse ++ current, earlier⟩

/-- Outside of parentheses, a scan takes in a text as a part of the argument that is being read,
perhaps with a colon. -/
def InOnePiece (text : List Char) : Prop :=
  ∀ (list : String) (current : List Char) (earlier : List (List Char)), ∃ afterColon,
    text.foldlM (step list) ⟨0, false, false, current, earlier⟩ =
      .ok ⟨0, false, afterColon, text.reverse ++ current, earlier⟩

variable {depth : Nat} {one other text : List Char}

theorem foldlM_append_of_ok {list : String} {scan next : ArgumentScan}
    (first : one.foldlM (step list) scan = .ok next) :
    (one ++ other).foldlM (step list) scan = other.foldlM (step list) next := by
  rw [List.foldlM_append, first]
  rfl

theorem foldlM_cons_of_ok {list : String} {scan next : ArgumentScan} {c : Char}
    (first : scan.step list c = .ok next) :
    (c :: text).foldlM (step list) scan = text.foldlM (step list) next := by
  rw [List.foldlM_cons, first]
  rfl

/-- In quotes, all characters up to the quote that closes them are taken in. -/
theorem foldlM_quoted (list : String) {inner : List Char} (plain : ∀ c ∈ inner, c ≠ '"')
    (rest current : List Char) (earlier : List (List Char)) :
    (inner ++ '"' :: rest).foldlM (step list) ⟨depth, true, false, current, earlier⟩ =
      rest.foldlM (step list)
        ⟨depth, false, false, '"' :: (inner.reverse ++ current), earlier⟩ := by
  induction inner generalizing current with
  | nil => exact foldlM_cons_of_ok rfl
  | cons c inner ih =>
    rw [List.forall_mem_cons] at plain
    have taken : step list ⟨depth, true, false, current, earlier⟩ c =
        .ok ⟨depth, true, false, c :: current, earlier⟩ := by
      simp [step, plain.1]
    rw [List.cons_append, foldlM_cons_of_ok taken, ih plain.2, List.reverse_cons,
      List.append_assoc, List.singleton_append]

end ArgumentScan

open ArgumentScan

/-- The scan of a list passes over a nested text inside of parentheses, and also outside of them
when the text has no separators of its own. -/
theorem Nested.passes {separators : Bool} {text : List Char} (nested : Nested separators text) :
    ∀ depth, (separators → depth ≠ 0) → Passes depth text := by
  induction nested with
  | nil => exact fun _ _ _ _ _ ↦ rfl
  | @char separators c later apart separated _ ih =>
    intro depth inside list current earlier
    have taken : step list ⟨depth, false, false, current, earlier⟩ c =
        .ok ⟨depth, false, false, c :: current, earlier⟩ := by
      have comma : ¬ (c = ',' ∧ depth = 0) := fun both ↦ inside (separated (Or.inl both.1)) both.2
      have colon : ¬ (c = ':' ∧ depth = 0) := fun both ↦ inside (separated (Or.inr both.1)) both.2
      simp [step, advance, apart, comma, colon]
    rw [foldlM_cons_of_ok taken, ih depth inside list, List.reverse_cons, List.append_assoc,
      List.singleton_append]
  | @quoted separators inner later plain _ ih =>
    intro depth inside list current earlier
    have opened : step list ⟨depth, false, false, current, earlier⟩ '"' =
        .ok ⟨depth, true, false, '"' :: current, earlier⟩ := rfl
    rw [foldlM_cons_of_ok opened, foldlM_quoted list plain, ih depth inside list]
    simp
  | @group separators inner later _ _ innerIh ih =>
    intro depth inside list current earlier
    have opened : step list ⟨depth, false, false, current, earlier⟩ '(' =
        .ok ⟨depth + 1, false, false, '(' :: current, earlier⟩ := rfl
    have closed (taken : List Char) : step list ⟨depth + 1, false, false, taken, earlier⟩ ')' =
        .ok ⟨depth, false, false, ')' :: taken, earlier⟩ := rfl
    rw [foldlM_cons_of_ok opened,
      foldlM_append_of_ok (innerIh (depth + 1) (fun _ ↦ Nat.succ_ne_zero depth) list _ _),
      foldlM_cons_of_ok (closed _), ih depth inside list]
    simp

theorem Nested.passes_of_no_separators {text : List Char} (nested : Nested false text) :
    Passes 0 text := nested.passes 0 fun separators ↦ absurd separators Bool.false_ne_true

namespace ArgumentScan

variable {one other text : List Char}

theorem passes_of_no_delimiters (plain : ∀ c ∈ text, isDelimiter c = false) : Passes 0 text :=
  Nested.passes_of_no_separators (.of_no_delimiters plain)

theorem Passes.inOnePiece_append (first : Passes 0 one) (second : InOnePiece other) :
    InOnePiece (one ++ other) := by
  intro list current earlier
  obtain ⟨afterColon, scanned⟩ := second list (one.reverse ++ current) earlier
  refine ⟨afterColon, ?_⟩
  rw [foldlM_append_of_ok (first list current earlier), scanned, List.reverse_append,
    List.append_assoc]

theorem Passes.inOnePiece (passes : Passes 0 text) : InOnePiece text :=
  fun list current earlier ↦ ⟨false, passes list current earlier⟩

/-- Characters without a meaning of their own are taken in whether a colon has come or not. -/
theorem exists_foldlM_of_no_delimiters (plain : ∀ c ∈ text, isDelimiter c = false) (list : String)
    (earlier : List (List Char)) : ∀ (afterColon : Bool) (current : List Char), ∃ still,
      text.foldlM (step list) ⟨0, false, afterColon, current, earlier⟩ =
        .ok ⟨0, false, still, text.reverse ++ current, earlier⟩ := by
  induction text with
  | nil => exact fun afterColon _ ↦ ⟨afterColon, rfl⟩
  | cons c rest ih =>
    intro afterColon current
    rw [List.forall_mem_cons] at plain
    have apart := plain.1
    simp only [isDelimiter, Bool.or_eq_false_iff, decide_eq_false_iff_not] at apart
    have taken : ∃ still, step list ⟨0, false, afterColon, current, earlier⟩ c =
        .ok ⟨0, false, still, c :: current, earlier⟩ := by
      by_cases closes : (afterColon && !isRangeChar c) = true
      · exact ⟨false, by simp [step, advance, closes, apart]⟩
      · exact ⟨afterColon, by simp [step, advance, closes, apart]⟩
    obtain ⟨next, taken⟩ := taken
    obtain ⟨still, scanned⟩ := ih plain.2 next (c :: current)
    refine ⟨still, ?_⟩
    rw [foldlM_cons_of_ok taken, scanned, List.reverse_cons, List.append_assoc,
      List.singleton_append]

theorem InOnePiece.append_of_no_delimiters (first : InOnePiece one)
    (plain : ∀ c ∈ other, isDelimiter c = false) : InOnePiece (one ++ other) := by
  intro list current earlier
  obtain ⟨afterColon, scanned⟩ := first list current earlier
  obtain ⟨still, rest⟩ :=
    exists_foldlM_of_no_delimiters plain list earlier afterColon (one.reverse ++ current)
  refine ⟨still, ?_⟩
  rw [foldlM_append_of_ok scanned, rest, List.reverse_append, List.append_assoc]

theorem inOnePiece_colon : InOnePiece [':'] := fun _ _ _ ↦ ⟨true, rfl⟩

/-- The pieces of a list are read one after the other, each up to the comma that follows it. -/
theorem finish_foldlM_intercalate (list : String) (later : List (List Char)) :
    ∀ (first : List Char) (earlier : List (List Char)),
      (∀ piece ∈ first :: later, InOnePiece piece) →
        (do
          let scan ← ([','].intercalate (first :: later)).foldlM (step list)
            ⟨0, false, false, [], earlier⟩
          scan.finish) = .ok (earlier.reverse ++ first :: later) := by
  induction later with
  | nil =>
    intro first earlier whole
    obtain ⟨afterColon, scanned⟩ := whole first List.mem_cons_self list [] earlier
    rw [List.intercalate_singleton, scanned]
    simp [bind, Except.bind, finish]
  | cons second later ih =>
    intro first earlier whole
    rw [List.forall_mem_cons] at whole
    obtain ⟨afterColon, scanned⟩ := whole.1 list [] earlier
    have comma (current : List Char) : step list ⟨0, false, afterColon, current, earlier⟩ ',' =
        .ok ⟨0, false, false, [], current.reverse :: earlier⟩ := by
      cases afterColon <;> rfl
    have rest := ih second (first :: earlier) whole.2
    rw [List.intercalate_cons_cons, List.append_assoc, foldlM_append_of_ok scanned,
      List.singleton_append, foldlM_cons_of_ok (comma _)]
    simpa using rest

end ArgumentScan

/-- A list is taken apart into the texts between its commas when each of them is scanned in one
piece. -/
theorem pieces_intercalate {first : List Char} {later : List (List Char)}
    (whole : ∀ piece ∈ first :: later, InOnePiece piece) :
    pieces ([','].intercalate (first :: later)) = .ok (first :: later) :=
  finish_foldlM_intercalate _ later first [] whole

end Worksheet.Formula
