import Worksheet.Proofs.Formula.Levels

/-!
# Lists of arguments

A list of arguments is taken apart at its commas at the top, those outside of quotes and
parentheses (`Pieces`). Every text has exactly one such list of pieces, and the pieces with commas
between them are the text again.

The scan of a list knows of the text behind it what is said of it here without a scan
(`ArgumentScan.Describes`): the level, whether a quote is open, whether a range is open after a
colon, and the pieces. So the scan fails exactly where a parenthesis is closed that is not open or a
colon comes while a range is open, and splitting succeeds exactly on balanced lists without such
colons and without blank pieces (`splitArguments_eq_ok_iff`).
-/

set_option autoImplicit false
set_option relaxedAutoImplicit false

namespace Worksheet.Formula

open ArgumentScan

variable {front before piece text list : List Char} {parts : List (List Char)} {c : Char}

/-- A character at the end of a text is the one after a place, or the last one that comes after
it. -/
theorem concat_eq_append_cons {between : List Char} {d : Char} :
    front ++ [c] = before ++ d :: between ↔
      between = [] ∧ front = before ∧ c = d ∨
        ∃ inner, between = inner ++ [c] ∧ front = before ++ d :: inner := by
  constructor
  · intro whole
    rcases List.eq_nil_or_concat between with rfl | ⟨inner, last, rfl⟩
    · obtain ⟨same, final⟩ := List.append_inj' whole rfl
      exact Or.inl ⟨rfl, same, List.singleton_inj.mp final⟩
    · rw [List.concat_eq_append, ← List.cons_append, ← List.append_assoc] at whole
      obtain ⟨same, final⟩ := List.append_inj' whole rfl
      exact Or.inr ⟨inner, by rw [List.concat_eq_append, List.singleton_inj.mp final], same⟩
  · rintro (⟨rfl, rfl, rfl⟩ | ⟨inner, rfl, rfl⟩)
    · rfl
    · rw [List.append_assoc, List.cons_append]

/-! ### Colons -/

theorem ne_of_isRangeChar {other : Char} (range : isRangeChar c)
    (outside : isRangeChar other = false) : c ≠ other := by
  rintro rfl
  exact absurd range (by rw [outside]; exact Bool.false_ne_true)

/-- Since a colon at the top there have been only characters that may stand in a range. -/
def AfterColon (front : List Char) : Prop :=
  ∃ before between, front = before ++ ':' :: between ∧ TopLevel before ∧
    ∀ c ∈ between, isRangeChar c

/-- Between any two colons at the top is a character that may not stand in a range, which is an
ASCII letter, an ASCII digit or an ASCII blank. -/
def ColonsApart (list : List Char) : Prop :=
  ∀ before between after, list = before ++ ':' :: (between ++ ':' :: after) →
    TopLevel before → TopLevel (before ++ ':' :: between) → ∃ c ∈ between, isRangeChar c = false

theorem TopLevel.concat (top : TopLevel front) (quote : c ≠ '"') (opening : c ≠ '(')
    (closing : c ≠ ')') : TopLevel (front ++ [c]) := by
  refine ⟨by rw [quotesPaired_concat, if_neg quote]; exact top.paired, ?_⟩
  rw [level_concat, top.level_eq, top.paired, weight, Bool.not_true, if_neg Bool.false_ne_true,
    if_neg opening, if_neg closing]
  rfl

theorem AfterColon.topLevel (range : AfterColon front) : TopLevel front := by
  obtain ⟨before, between, rfl, top, inside⟩ := range
  have opened : TopLevel (before ++ [':']) := top.concat (by decide) (by decide) (by decide)
  rw [← List.singleton_append, ← List.append_assoc]
  generalize before ++ [':'] = start at opened
  induction between generalizing start with
  | nil => rwa [List.append_nil]
  | cons c rest ih =>
    rw [List.forall_mem_cons] at inside
    rw [← List.singleton_append, ← List.append_assoc]
    exact ih inside.2 _ (opened.concat (ne_of_isRangeChar inside.1 rfl)
      (ne_of_isRangeChar inside.1 rfl) (ne_of_isRangeChar inside.1 rfl))

theorem afterColon_concat : AfterColon (front ++ [c]) ↔
    c = ':' ∧ TopLevel front ∨ AfterColon front ∧ isRangeChar c := by
  constructor
  · rintro ⟨before, between, whole, top, inside⟩
    rcases concat_eq_append_cons.mp whole with ⟨_, rfl, colon⟩ | ⟨inner, rfl, rfl⟩
    · exact Or.inl ⟨colon, top⟩
    · rw [List.forall_mem_append, List.forall_mem_singleton] at inside
      exact Or.inr ⟨⟨before, inner, rfl, top, inside.1⟩, inside.2⟩
  · rintro (⟨rfl, top⟩ | ⟨⟨before, between, rfl, top, inside⟩, range⟩)
    · exact ⟨front, [], rfl, top, List.forall_mem_nil _⟩
    · refine ⟨before, between ++ [c], by rw [List.append_assoc, List.cons_append], top, ?_⟩
      rw [List.forall_mem_append, List.forall_mem_singleton]
      exact ⟨inside, range⟩

theorem colonsApart_concat :
    ColonsApart (front ++ [c]) ↔ ColonsApart front ∧ ¬ (c = ':' ∧ AfterColon front) := by
  constructor
  · intro apart
    constructor
    · rintro before between after rfl
      refine apart before between (after ++ [c]) ?_
      simp only [List.append_assoc, List.cons_append]
    · rintro ⟨rfl, before, between, rfl, top, inside⟩
      have range : AfterColon (before ++ ':' :: between) := ⟨before, between, rfl, top, inside⟩
      obtain ⟨c, member, outside⟩ := apart before between [] (by
        rw [List.append_assoc, List.cons_append]) top range.topLevel
      rw [inside c member] at outside
      cases outside
  · rintro ⟨apart, closed⟩ before between after whole top again
    rw [← List.cons_append, ← List.append_assoc] at whole
    rcases concat_eq_append_cons.mp whole with ⟨_, rfl, colon⟩ | ⟨inner, rfl, rfl⟩
    · refine Classical.byContradiction fun none ↦ closed ⟨colon, before, between, rfl, top, ?_⟩
      intro c member
      cases range : isRangeChar c with
      | true => rfl
      | false => exact (none ⟨c, member, range⟩).elim
    · exact apart before between inner (by rw [List.append_assoc, List.cons_append]) top again

/-- Nothing in a text is a fault, whatever may follow it. -/
structure Faultless (front : List Char) : Prop where
  /-- No parenthesis is closed that is not open. -/
  never_below : ∀ start, start <+: front → 0 ≤ level start
  /-- No range has a second colon. -/
  colonsApart : ColonsApart front

theorem faultless_nil : Faultless [] := by
  refine ⟨fun start begins ↦ ?_, fun before between after whole ↦ ?_⟩
  · rw [List.prefix_nil.mp begins]
    exact Int.le_refl 0
  · exact absurd whole.symm (List.append_ne_nil_of_right_ne_nil _ (List.cons_ne_nil _ _))

theorem level_concat_nonneg (above : 0 ≤ level front) :
    0 ≤ level (front ++ [c]) ↔ ¬ (c = ')' ∧ TopLevel front) := by
  rw [level_concat, weight]
  by_cases paired : quotesPaired front
  · have top : TopLevel front ↔ level front = 0 := ⟨TopLevel.level_eq, TopLevel.mk paired⟩
    rw [top, paired, Bool.not_true, if_neg Bool.false_ne_true]
    by_cases closing : c = ')'
    · simp only [closing, true_and, Char.reduceEq, if_false, if_true]
      omega
    · simp only [closing, false_and, not_false_eq_true, iff_true, if_false]
      split <;> omega
  · have inside : ¬ TopLevel front := fun top ↦ paired top.paired
    simp only [inside, and_false, not_false_eq_true, iff_true, eq_false_of_ne_true paired,
      Bool.not_false, if_true]
    omega

theorem faultless_concat : Faultless (front ++ [c]) ↔
    Faultless front ∧ ¬ (c = ')' ∧ TopLevel front) ∧ ¬ (c = ':' ∧ AfterColon front) := by
  constructor
  · intro faultless
    have above := faultless.never_below front (List.prefix_append front [c])
    have apart := colonsApart_concat.mp faultless.colonsApart
    exact ⟨⟨fun start begins ↦ faultless.never_below start
        (begins.trans (List.prefix_append front [c])), apart.1⟩,
      (level_concat_nonneg above).mp (faultless.never_below _ (List.prefix_refl _)), apart.2⟩
  · rintro ⟨faultless, closing, colon⟩
    refine ⟨fun start begins ↦ ?_, colonsApart_concat.mpr ⟨faultless.colonsApart, colon⟩⟩
    rcases List.prefix_concat_iff.mp begins with rfl | before
    · exact (level_concat_nonneg (faultless.never_below front (List.prefix_refl _))).mpr closing
    · exact faultless.never_below start before

/-- A fault in a text is one of every longer text. -/
theorem Faultless.of_append {back : List Char} (faultless : Faultless (front ++ back)) :
    Faultless front := by
  refine ⟨fun start begins ↦ faultless.never_below start
    (begins.trans (List.prefix_append front back)), fun before between after whole ↦ ?_⟩
  refine faultless.colonsApart before between (after ++ back) ?_
  rw [whole]
  simp only [List.append_assoc, List.cons_append]

/-! ### Pieces -/

/-- A text that follows another one is taken apart at its commas at the top: none of them is left
in a piece, and one is between each piece and the next. -/
inductive Pieces : List Char → List Char → List (List Char) → Prop
  | last {before piece : List Char}
      (whole : ∀ front back, piece = front ++ ',' :: back → ¬ TopLevel (before ++ front)) :
      Pieces before piece [piece]
  | comma {before piece rest : List Char} {parts : List (List Char)}
      (whole : ∀ front back, piece = front ++ ',' :: back → ¬ TopLevel (before ++ front))
      (top : TopLevel (before ++ piece)) (later : Pieces (before ++ piece ++ [',']) rest parts) :
      Pieces before (piece ++ ',' :: rest) (piece :: parts)

namespace Pieces

theorem nil : Pieces before [] [[]] := .last fun _ _ whole ↦
  absurd whole.symm (List.append_ne_nil_of_right_ne_nil _ (List.cons_ne_nil _ _))

theorem ne_nil (pieces : Pieces before text parts) : parts ≠ [] := by
  cases pieces <;> exact List.cons_ne_nil _ _

/-- The pieces with commas between them are the text again. -/
theorem intercalate_eq (pieces : Pieces before text parts) : [','].intercalate parts = text := by
  induction pieces with
  | last _ => exact List.intercalate_singleton
  | @comma before piece rest parts _ _ later ih =>
    obtain ⟨next, parts, rfl⟩ := List.exists_cons_of_ne_nil later.ne_nil
    rw [List.intercalate_cons_cons, ih, List.append_assoc, List.singleton_append]

/-- A character that is no comma at the top belongs to the last piece. -/
theorem concat {last : List Char} {earlier : List (List Char)}
    (pieces : Pieces before text (earlier ++ [last]))
    (inside : ¬ (c = ',' ∧ TopLevel (before ++ text))) :
    Pieces before (text ++ [c]) (earlier ++ [last ++ [c]]) := by
  generalize named : earlier ++ [last] = parts at pieces
  induction pieces generalizing earlier with
  | @last before piece whole =>
    cases earlier with
    | cons first rest => exact absurd (List.cons.inj named).2 (List.concat_ne_nil _ _)
    | nil =>
      obtain rfl := (List.cons.inj named).1
      refine .last fun front back parted ↦ ?_
      rcases concat_eq_append_cons.mp parted with ⟨_, rfl, comma⟩ | ⟨inner, rfl, rfl⟩
      · exact fun top ↦ inside ⟨comma, top⟩
      · exact whole front inner rfl
  | @comma before piece rest parts whole top later ih =>
    cases earlier with
    | nil => exact absurd (List.cons.inj named).2.symm later.ne_nil
    | cons first earlier =>
      obtain ⟨rfl, rfl⟩ := List.cons.inj named
      rw [List.append_assoc, List.cons_append]
      refine .comma whole top (ih ?_ rfl)
      rwa [List.append_assoc, List.append_assoc, List.singleton_append]

/-- A comma at the top ends the last piece, and the next one begins. -/
theorem concat_comma (pieces : Pieces before text parts) (top : TopLevel (before ++ text)) :
    Pieces before (text ++ [',']) (parts ++ [[]]) := by
  induction pieces with
  | @last before piece whole => exact .comma whole top .nil
  | @comma before piece rest parts whole between later ih =>
    rw [List.append_assoc, List.cons_append]
    refine .comma whole between (ih ?_)
    rwa [List.append_assoc, List.append_assoc, List.singleton_append]

/-- The first comma at the top ends the same piece, however a text is taken apart. -/
theorem first_eq {other rest later : List Char}
    (whole : ∀ front back, piece = front ++ ',' :: back → ¬ TopLevel (before ++ front))
    (otherWhole : ∀ front back, other = front ++ ',' :: back → ¬ TopLevel (before ++ front))
    (top : TopLevel (before ++ piece)) (otherTop : TopLevel (before ++ other))
    (same : piece ++ ',' :: rest = other ++ ',' :: later) : piece = other ∧ rest = later := by
  rcases List.append_eq_append_iff.mp same with ⟨back, rfl, parted⟩ | ⟨back, rfl, parted⟩
  · cases back with
    | nil => exact ⟨(List.append_nil _).symm, (List.cons.inj parted).2⟩
    | cons d back =>
      obtain ⟨rfl, _⟩ := List.cons.inj parted
      exact absurd top (otherWhole piece back rfl)
  · cases back with
    | nil => exact ⟨List.append_nil _, (List.cons.inj parted).2.symm⟩
    | cons d back =>
      obtain ⟨rfl, _⟩ := List.cons.inj parted
      exact absurd otherTop (whole other back rfl)

/-- A text is taken apart in one way only. -/
theorem unique {others : List (List Char)} (pieces : Pieces before text parts)
    (again : Pieces before text others) : parts = others := by
  induction pieces generalizing others with
  | @last before piece whole =>
    generalize named : piece = text at again
    cases again with
    | last _ => rfl
    | @comma _ first rest _ _ top _ => exact absurd top (whole first rest named)
  | @comma before piece rest parts whole top later ih =>
    generalize named : piece ++ ',' :: rest = text at again
    cases again with
    | last otherWhole => exact absurd top (otherWhole piece rest named.symm)
    | @comma _ other otherRest _ otherWhole otherTop otherLater =>
      obtain ⟨rfl, rfl⟩ := first_eq whole otherWhole top otherTop named
      rw [ih otherLater]

end Pieces

/-! ### The scan -/

namespace ArgumentScan

/-- What a scan knows is true of the text behind it. -/
structure Describes (front : List Char) (scan : ArgumentScan) : Prop where
  /-- The depth is the level. -/
  depth_eq : (scan.depth : Int) = level front
  /-- A quote is open when not all are paired. -/
  quoted_eq : scan.quoted = !quotesPaired front
  /-- A range is open after a colon. -/
  afterColon_iff : scan.afterColon ↔ AfterColon front
  /-- The arguments are the pieces. -/
  pieces : Pieces [] front ((scan.current.reverse :: scan.earlier).reverse)

theorem describes_start : Describes [] start := by
  refine ⟨rfl, rfl, ?_, .nil⟩
  refine ⟨fun never ↦ absurd never Bool.false_ne_true, fun ⟨before, between, whole, _⟩ ↦ ?_⟩
  exact absurd whole.symm (List.append_ne_nil_of_right_ne_nil _ (List.cons_ne_nil _ _))

variable {scan next : ArgumentScan}

theorem Describes.topLevel_iff (described : Describes front scan) :
    TopLevel front ↔ scan.quoted = false ∧ scan.depth = 0 := by
  have quoted := described.quoted_eq
  have depth := described.depth_eq
  constructor
  · intro top
    rw [top.paired] at quoted
    rw [top.level_eq] at depth
    exact ⟨quoted, by omega⟩
  · rintro ⟨outside, zero⟩
    rw [outside, Eq.comm, Bool.not_eq_false'] at quoted
    exact ⟨quoted, by omega⟩

/-- A scan takes in a character: it counts, and it belongs to the last piece or ends it. -/
theorem Describes.concat (described : Describes front scan)
    (depth : (next.depth : Int) = scan.depth + weight scan.quoted c)
    (quoted : next.quoted = if c = '"' then !scan.quoted else scan.quoted)
    (afterColon : next.afterColon ↔ AfterColon (front ++ [c]))
    (pieces : (c = ',' ∧ TopLevel front) ∧ next.current = [] ∧
        next.earlier = scan.current.reverse :: scan.earlier ∨
      ¬ (c = ',' ∧ TopLevel front) ∧ next.current = c :: scan.current ∧
        next.earlier = scan.earlier) :
    Describes (front ++ [c]) next := by
  refine ⟨?_, ?_, afterColon, ?_⟩
  · rw [depth, level_concat, described.depth_eq, described.quoted_eq]
  · rw [quoted, quotesPaired_concat, described.quoted_eq]
    split <;> rfl
  · have before := described.pieces
    rw [List.reverse_cons] at before ⊢
    rcases pieces with ⟨⟨rfl, top⟩, current, earlier⟩ | ⟨inside, current, earlier⟩
    · rw [current, earlier, List.reverse_cons]
      exact before.concat_comma top
    · rw [current, earlier, List.reverse_cons]
      exact before.concat inside

/-- The outcome of a scan is right for a text: it describes a text without a fault, or else the text
has one. -/
def Right (text : List Char) : Except Malformation ArgumentScan → Prop
  | .ok scan => Faultless text ∧ Describes text scan
  | .error _ => ¬ Faultless text

/-- What a character outside of quotes does: it closes more than is open, or it is counted and ends
the last piece or belongs to it. -/
theorem advance_eq (scan : ArgumentScan) (after : Bool) (c : Char) :
    scan.advance after c =
      if c = ')' ∧ scan.depth = 0 then .error .unbalancedParentheses
      else .ok {
        depth := depthAfter scan.depth false c
        quoted := if c = '"' then true else scan.quoted
        afterColon := after || (c = ':' && scan.depth = 0)
        current := if c = ',' ∧ scan.depth = 0 then [] else c :: scan.current
        earlier :=
          if c = ',' ∧ scan.depth = 0 then scan.current.reverse :: scan.earlier
          else scan.earlier } := by
  by_cases quote : c = '"'
  · simp [advance, depthAfter, quote]
  by_cases opening : c = '('
  · simp [advance, depthAfter, opening]
  by_cases closing : c = ')'
  · simp [advance, depthAfter, closing]
  by_cases comma : c = ',' ∧ scan.depth = 0
  · simp [advance, depthAfter, comma]
  by_cases colon : c = ':' ∧ scan.depth = 0
  · simp [advance, depthAfter, colon]
  · simp [advance, depthAfter, quote, opening, closing, comma, colon]

/-- Outside of quotes a character is taken in as what it means at its level. -/
theorem right_advance (faultless : Faultless front) (described : Describes front scan)
    (outside : scan.quoted = false) {after : Bool}
    (range : after ↔ AfterColon front ∧ isRangeChar c) (colon : ¬ (c = ':' ∧ AfterColon front)) :
    Right (front ++ [c]) (scan.advance after c) := by
  have top : TopLevel front ↔ scan.depth = 0 := by
    rw [described.topLevel_iff, outside, eq_self_iff_true, true_and]
  rw [advance_eq]
  by_cases fault : c = ')' ∧ scan.depth = 0
  · rw [if_pos fault]
    exact fun faultless ↦ (faultless_concat.mp faultless).2.1 ⟨fault.1, top.mpr fault.2⟩
  · have closed : ¬ (c = ')' ∧ TopLevel front) := by rwa [top]
    rw [if_neg fault]
    refine ⟨faultless_concat.mpr ⟨faultless, closed, colon⟩, described.concat ?_ ?_ ?_ ?_⟩
    · have counted : (depthAfter scan.depth false c : Int) = scan.depth + weight false c :=
        depthAfter_eq fun opened ↦ fault opened.2
      rw [outside]
      exact counted
    · rw [outside]
      rfl
    · simp only [Bool.or_eq_true, Bool.and_eq_true, decide_eq_true_eq, afterColon_concat, top,
        range]
      exact or_comm
    · by_cases comma : c = ',' ∧ scan.depth = 0
      · exact .inl ⟨⟨comma.1, top.mpr comma.2⟩, if_pos comma, if_pos comma⟩
      · exact .inr ⟨by rwa [top], if_neg comma, if_neg comma⟩

/-- A character of a list is taken in, unless it is a fault. -/
theorem right_step (faultless : Faultless front) (described : Describes front scan)
    (list : String) : Right (front ++ [c]) (scan.step list c) := by
  unfold step
  split
  · rename_i quoted
    have inside : ¬ TopLevel front := fun top ↦ by
      rw [(described.topLevel_iff.mp top).1] at quoted
      cases quoted
    have closed : ¬ AfterColon front := fun range ↦ inside range.topLevel
    have taken : Faultless (front ++ [c]) := faultless_concat.mpr
      ⟨faultless, fun fault ↦ inside fault.2, fun fault ↦ closed fault.2⟩
    refine ⟨taken, described.concat ?_ ?_ ?_ (.inr ⟨fun comma ↦ inside comma.2, rfl, rfl⟩)⟩
    · simp [weight, quoted]
    · simp [quoted]
    · simp [afterColon_concat, described.afterColon_iff, closed, inside]
  rename_i outside
  rw [Bool.not_eq_true] at outside
  split
  · rename_i leaving
    simp only [Bool.and_eq_true, Bool.not_eq_true'] at leaving
    split
    · rename_i colon
      exact fun faultless ↦ (faultless_concat.mp faultless).2.2
        ⟨colon, described.afterColon_iff.mp leaving.1⟩
    · rename_i colon
      exact right_advance faultless described outside (by simp [leaving.2])
        fun fault ↦ colon fault.1
  · rename_i staying
    have within : AfterColon front → isRangeChar c := fun range ↦ by
      cases range' : isRangeChar c with
      | true => rfl
      | false =>
        exact absurd (by rw [described.afterColon_iff.mpr range, range']; rfl) staying
    refine right_advance faultless described outside ?_ fun fault ↦ ?_
    · rw [described.afterColon_iff]
      exact ⟨fun range ↦ ⟨range, within range⟩, And.left⟩
    · exact ne_of_isRangeChar (within fault.2) rfl fault.1

/-- A scan describes the text behind it, or the text has a fault. -/
theorem right_foldlM (list : String) (text : List Char) :
    Right text (text.foldlM (step list) start) := by
  rw [← List.reverse_reverse text]
  induction text.reverse with
  | nil => exact ⟨faultless_nil, describes_start⟩
  | cons c rest ih =>
    rw [List.reverse_cons, List.foldlM_append]
    cases before : rest.reverse.foldlM (step list) start with
    | error cause =>
      rw [before] at ih
      exact fun faultless ↦ ih faultless.of_append
    | ok scan =>
      rw [before] at ih
      have last : [c].foldlM (step list) scan = scan.step list c := by
        rw [List.foldlM_cons]
        simp only [List.foldlM_nil, bind_pure]
      show Right _ ([c].foldlM (step list) scan)
      rw [last]
      exact right_step ih.1 ih.2 list

/-- The scan comes to an end with the pieces of a list that is balanced and has no colons too
close. -/
theorem finish_eq_ok_iff (described : Describes front scan) :
    scan.finish = .ok parts ↔
      (quotesPaired front ∧ level front = 0) ∧
        (scan.current.reverse :: scan.earlier).reverse = parts := by
  have top : quotesPaired front ∧ level front = 0 ↔ scan.quoted = false ∧ scan.depth = 0 :=
    ⟨fun both ↦ described.topLevel_iff.mp ⟨both.1, both.2⟩, fun both ↦
      ⟨(described.topLevel_iff.mpr both).paired, (described.topLevel_iff.mpr both).level_eq⟩⟩
  rw [top, finish]
  split
  · rename_i quoted
    simp [quoted]
  split
  · rename_i deep
    simp [deep]
  · rename_i outside zero
    simp [outside, Nat.eq_zero_of_not_pos fun positive ↦ zero (Nat.ne_of_gt positive)]

end ArgumentScan

theorem exists_pieces (before text : List Char) : ∃ parts, Pieces before text parts := by
  rw [← List.reverse_reverse text]
  induction text.reverse with
  | nil => exact ⟨_, .nil⟩
  | cons c rest ih =>
    rw [List.reverse_cons]
    obtain ⟨parts, pieces⟩ := ih
    by_cases comma : c = ',' ∧ TopLevel (before ++ rest.reverse)
    · obtain ⟨rfl, top⟩ := comma
      exact ⟨_, pieces.concat_comma top⟩
    · rcases List.eq_nil_or_concat parts with none | ⟨earlier, last, rfl⟩
      · exact absurd none pieces.ne_nil
      · rw [List.concat_eq_append] at pieces
        exact ⟨_, pieces.concat comma⟩

/-- A list has pieces for the scan just when its quotes are paired, its parentheses are balanced and
no two colons at the top are too close; and then they are its pieces. -/
theorem pieces_eq_ok_iff : pieces list = .ok parts ↔
    (quotesPaired list ∧ Balanced list ∧ ColonsApart list) ∧ Pieces [] list parts := by
  have right := right_foldlM (String.ofList list) list
  unfold pieces
  cases scanned : list.foldlM (step (String.ofList list)) start with
  | error cause =>
    rw [scanned] at right
    simp only [bind, Except.bind, reduceCtorEq, false_iff]
    rintro ⟨⟨_, balanced, apart⟩, _⟩
    exact right ⟨balanced.never_below, apart⟩
  | ok scan =>
    rw [scanned] at right
    obtain ⟨faultless, described⟩ := right
    show scan.finish = .ok parts ↔ _
    rw [finish_eq_ok_iff described]
    constructor
    · rintro ⟨⟨paired, level_eq⟩, rfl⟩
      exact ⟨⟨paired, ⟨faultless.never_below, level_eq⟩, faultless.colonsApart⟩, described.pieces⟩
    · rintro ⟨⟨paired, balanced, _⟩, taken⟩
      exact ⟨⟨paired, balanced.level_eq⟩, described.pieces.unique taken⟩

/-- A list that is not blank is split into its pieces just when it is balanced, has no colons too
close and has no blank piece. -/
theorem splitArguments_eq_ok_iff {list : String} {arguments : List String}
    (shown : Text.isAllBlank list.toList = false) (taken : Pieces [] list.toList parts) :
    splitArguments list = .ok arguments ↔
      quotesPaired list.toList ∧ Balanced list.toList ∧ ColonsApart list.toList ∧
        (∀ part ∈ parts, ¬ Text.isAllBlank part) ∧
        arguments = parts.map fun part ↦ String.ofList (Text.trim part) := by
  have found := @pieces_eq_ok_iff list.toList
  rw [splitArguments, if_neg (by rw [shown]; exact Bool.false_ne_true)]
  cases parted : pieces list.toList with
  | error cause =>
    simp only [reduceCtorEq, false_iff]
    rintro ⟨paired, balanced, apart, _⟩
    have accepted := found.mpr ⟨⟨paired, balanced, apart⟩, taken⟩
    rw [parted] at accepted
    cases accepted
  | ok others =>
    obtain ⟨⟨paired, balanced, apart⟩, again⟩ := found.mp parted
    obtain rfl := again.unique taken
    have filled : others.any Text.isAllBlank = false ↔ ∀ part ∈ others, ¬ Text.isAllBlank part :=
      List.any_eq_false
    rw [← filled]
    show (if others.any Text.isAllBlank then _ else _) = _ ↔ _
    cases others.any Text.isAllBlank with
    | true =>
      rw [if_pos rfl]
      exact ⟨fun accepted ↦ (nomatch accepted), fun all ↦ (nomatch all.2.2.2.1)⟩
    | false =>
      rw [if_neg Bool.false_ne_true, Except.ok.injEq]
      exact ⟨fun same ↦ ⟨paired, balanced, apart, rfl, same.symm⟩, fun all ↦ all.2.2.2.2.symm⟩

theorem malformed_of_splitArguments {list : String} {error : FormulaError}
    (failed : splitArguments list = .error error) : ∃ cause, error = .malformed cause := by
  unfold splitArguments at failed
  split at failed
  · cases failed
  split at failed
  · exact ⟨_, (Except.error.inj failed).symm⟩
  split at failed
  · exact ⟨_, (Except.error.inj failed).symm⟩
  · cases failed

/-- Splitting loses nothing and accepts exactly the balanced lists. Every text has one list of
pieces between its commas at the top, and these with commas between them are the text again. A blank
list has no arguments. Any other list is accepted just when its quotes are paired, its parentheses
are balanced, no two colons at the top have only ASCII letters, digits and blanks between them, and
no piece is blank. Then the arguments are the pieces in their order, without the blanks around
them. Every failure is a malformation. -/
theorem splitArguments_accepts (list : String) :
    (∃ parts, (∀ others, Pieces [] list.toList others ↔ others = parts) ∧
      [','].intercalate parts = list.toList ∧
      ∀ arguments, splitArguments list = .ok arguments ↔
        if Text.isAllBlank list.toList then arguments = []
        else quotesPaired list.toList ∧ Balanced list.toList ∧ ColonsApart list.toList ∧
          (∀ part ∈ parts, ¬ Text.isAllBlank part) ∧
          arguments = parts.map fun part ↦ String.ofList (Text.trim part)) ∧
    ∀ error, splitArguments list = .error error → ∃ cause, error = .malformed cause := by
  refine ⟨?_, fun error failed ↦ malformed_of_splitArguments failed⟩
  obtain ⟨parts, taken⟩ := exists_pieces [] list.toList
  refine ⟨parts, fun others ↦ ⟨fun again ↦ again.unique taken, fun same ↦ same ▸ taken⟩,
    taken.intercalate_eq, fun arguments ↦ ?_⟩
  by_cases blank : Text.isAllBlank list.toList
  · rw [if_pos blank, splitArguments, if_pos blank, Except.ok.injEq, eq_comm]
  · rw [if_neg blank]
    exact splitArguments_eq_ok_iff (eq_false_of_ne_true blank) taken

end Worksheet.Formula
