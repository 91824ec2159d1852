import Worksheet.Formula.Scan

/-!
# Places outside of quotes and parentheses

A place in a text is outside of quotes when an even number of quotes comes before it, and its level
is the number of parentheses outside of quotes that have been opened before it, less those that have
been closed (`level`). A place is at the top when it is outside of quotes at level zero
(`TopLevel`). The parentheses of a text are balanced when the level is never below zero and is zero
at the end (`Balanced`).

What comes before a place determines all of this, so each notion has one lemma that says what a
further character does.
-/

set_option autoImplicit false
set_option relaxedAutoImplicit false

namespace Worksheet.Formula

/-! ### Quotes -/

/-- Whether a text that begins inside or outside of quotes ends inside of them. -/
def quotedAfter : Bool → List Char → Bool
  | quoted, [] => quoted
  | quoted, c :: rest => quotedAfter (if c = '"' then !quoted else quoted) rest

/-- A character stands outside of quotes in a text: an even number of quotes comes before it. -/
def Outside (c : Char) (text : List Char) : Prop :=
  ∃ front back, text = front ++ c :: back ∧ quotesPaired front

theorem quotedAfter_append (quoted : Bool) (one other : List Char) :
    quotedAfter quoted (one ++ other) = quotedAfter (quotedAfter quoted one) other := by
  induction one generalizing quoted with
  | nil => rfl
  | cons c rest ih => rw [List.cons_append, quotedAfter, ih, quotedAfter]

theorem quotesPaired_cons (c : Char) (text : List Char) :
    quotesPaired (c :: text) = if c = '"' then !quotesPaired text else quotesPaired text := by
  by_cases quote : c = '"'
  · rw [if_pos quote, quote]
    simp only [quotesPaired, List.count_cons_self]
    rw [← decide_not, decide_eq_decide]
    omega
  · rw [if_neg quote, quotesPaired, List.count_cons_of_ne quote, quotesPaired]

/-- A text ends where it began when its quotes are paired, and else on the other side. -/
theorem quotedAfter_eq (quoted : Bool) (text : List Char) :
    quotedAfter quoted text = if quotesPaired text then quoted else !quoted := by
  induction text generalizing quoted with
  | nil => rfl
  | cons c rest ih =>
    rw [quotedAfter, ih, quotesPaired_cons]
    by_cases quote : c = '"'
    · rw [if_pos quote, if_pos quote]
      cases quotesPaired rest <;> cases quoted <;> rfl
    · rw [if_neg quote, if_neg quote]

theorem quotedAfter_false (text : List Char) : quotedAfter false text = !quotesPaired text := by
  rw [quotedAfter_eq]
  cases quotesPaired text <;> rfl

theorem quotesPaired_concat (front : List Char) (c : Char) :
    quotesPaired (front ++ [c]) = if c = '"' then !quotesPaired front else quotesPaired front := by
  have whole := quotedAfter_append false front [c]
  rw [quotedAfter_false, quotedAfter_false, quotedAfter, quotedAfter] at whole
  rw [← Bool.not_not (quotesPaired (front ++ [c])), whole]
  split <;> simp

theorem unquotedFrom_append (quoted : Bool) (one other : List Char) :
    unquotedFrom quoted (one ++ other) =
      unquotedFrom quoted one ++ unquotedFrom (quotedAfter quoted one) other := by
  induction one generalizing quoted with
  | nil => rfl
  | cons c rest ih =>
    rw [List.cons_append, unquotedFrom, unquotedFrom, quotedAfter]
    by_cases quote : c = '"'
    · rw [if_pos quote, if_pos quote, if_pos quote, ih]
    · rw [if_neg quote, if_neg quote, if_neg quote]
      split
      · rw [ih]
      · rw [ih, List.cons_append]

theorem exists_of_mem_unquotedFrom {c : Char} {text : List Char} :
    ∀ {quoted : Bool}, c ∈ unquotedFrom quoted text →
      c ≠ '"' ∧ ∃ front back, text = front ++ c :: back ∧ quotedAfter quoted front = false := by
  induction text with
  | nil => intro quoted member; cases member
  | cons d rest ih =>
    intro quoted member
    -- The place found in the rest is a place of the whole text.
    have further {after : Bool} (next : after = if d = '"' then !quoted else quoted)
        (member : c ∈ unquotedFrom after rest) : c ≠ '"' ∧
          ∃ front back, d :: rest = front ++ c :: back ∧ quotedAfter quoted front = false := by
      obtain ⟨ne, front, back, whole, ends⟩ := ih member
      exact ⟨ne, d :: front, back, by rw [whole, List.cons_append], by
        rw [quotedAfter, ← next, ends]⟩
    rw [unquotedFrom] at member
    split at member
    · rename_i quote
      exact further (by rw [if_pos quote]) member
    · rename_i quote
      split at member
      · exact further (by rw [if_neg quote]) member
      · rename_i outside
        rcases List.mem_cons.mp member with rfl | later
        · exact ⟨quote, [], rest, rfl, eq_false_of_ne_true outside⟩
        · exact further (by rw [if_neg quote]) later

/-- The characters outside of quotes are those after an even number of quotes, the quotes
themselves apart. -/
theorem mem_unquotedChars {c : Char} {text : List Char} :
    c ∈ unquotedChars text ↔ c ≠ '"' ∧ Outside c text := by
  constructor
  · intro member
    obtain ⟨ne, front, back, whole, ends⟩ := exists_of_mem_unquotedFrom member
    rw [quotedAfter_false, Bool.not_eq_false'] at ends
    exact ⟨ne, front, back, whole, ends⟩
  · rintro ⟨ne, front, back, rfl, paired⟩
    have before : quotedAfter false front = false := by rw [quotedAfter_false, paired]; rfl
    rw [unquotedChars, unquotedFrom_append, before, unquotedFrom, if_neg ne,
      if_neg Bool.false_ne_true]
    exact List.mem_append_right _ List.mem_cons_self

/-! ### Parentheses -/

/-- What a character adds to the level, inside or outside of quotes. -/
def weight (quoted : Bool) (c : Char) : Int :=
  if quoted then 0 else if c = '(' then 1 else if c = ')' then -1 else 0

/-- The number of parentheses that a text opens outside of quotes, less the number of those that it
closes, when it begins inside or outside of quotes. -/
def levelFrom (quoted : Bool) (text : List Char) : Int :=
  (unquotedFrom quoted text).count '(' - (unquotedFrom quoted text).count ')'

/-- The number of parentheses that a text opens outside of quotes, less the number of those that it
closes. -/
def level (text : List Char) : Int := levelFrom false text

@[simp]
theorem levelFrom_nil (quoted : Bool) : levelFrom quoted [] = 0 := rfl

theorem levelFrom_append (quoted : Bool) (one other : List Char) :
    levelFrom quoted (one ++ other) =
      levelFrom quoted one + levelFrom (quotedAfter quoted one) other := by
  simp only [levelFrom, unquotedFrom_append, List.count_append]
  omega

theorem levelFrom_singleton (quoted : Bool) (c : Char) :
    levelFrom quoted [c] = weight quoted c := by
  by_cases quote : c = '"'
  · cases quoted <;> simp [levelFrom, unquotedFrom, weight, quote]
  · cases quoted
    · by_cases opening : c = '('
      · simp [levelFrom, unquotedFrom, weight, opening]
      · by_cases closing : c = ')' <;>
          simp [levelFrom, unquotedFrom, weight, quote, opening, closing]
    · simp [levelFrom, unquotedFrom, weight, quote]

theorem levelFrom_cons (quoted : Bool) (c : Char) (rest : List Char) :
    levelFrom quoted (c :: rest) =
      weight quoted c + levelFrom (if c = '"' then !quoted else quoted) rest := by
  rw [← levelFrom_singleton]
  exact levelFrom_append quoted [c] rest

theorem level_concat (front : List Char) (c : Char) :
    level (front ++ [c]) = level front + weight (!quotesPaired front) c := by
  rw [level, levelFrom_append, levelFrom_singleton, quotedAfter_false, level]

/-- The depth after a character, for a depth that counts the open parentheses. -/
def depthAfter (depth : Nat) (quoted : Bool) (c : Char) : Nat :=
  if quoted then depth else if c = '(' then depth + 1 else if c = ')' then depth - 1 else depth

theorem depthAfter_eq {depth : Nat} {quoted : Bool} {c : Char}
    (opened : ¬ (quoted = false ∧ c = ')' ∧ depth = 0)) :
    (depthAfter depth quoted c : Int) = depth + weight quoted c := by
  cases quoted with
  | true => simp [depthAfter, weight]
  | false =>
    simp only [true_and] at opened
    simp only [depthAfter, weight, Bool.false_eq_true, if_false]
    split
    · omega
    split
    · rename_i closing
      have positive : depth ≠ 0 := fun zero ↦ opened ⟨closing, zero⟩
      omega
    · omega

/-- The place after a text is outside of quotes and parentheses. -/
structure TopLevel (front : List Char) : Prop where
  /-- The place is outside of quotes. -/
  paired : quotesPaired front
  /-- The place is outside of parentheses. -/
  level_eq : level front = 0

/-- The parentheses of a text outside of quotes are closed in it, and never more of them than have
been opened. -/
structure Balanced (text : List Char) : Prop where
  /-- Nowhere have more been closed than opened. -/
  never_below : ∀ front, front <+: text → 0 ≤ level front
  /-- In the end as many have been closed as opened. -/
  level_eq : level text = 0

end Worksheet.Formula
