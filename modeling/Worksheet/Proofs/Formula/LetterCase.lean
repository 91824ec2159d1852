import Mathlib
import Worksheet.Formula.Expression
import Worksheet.Proofs.Formula.QuotedColon
import Worksheet.Proofs.Formula.SingleReference
import Worksheet.Proofs.Text.LetterCase

/-!
# Letter case in formulas

No letter has a meaning of its own to the scanners of formula text. So texts that are the same up to
the case of ASCII letters are taken apart side by side: both are calls with names and arguments that
are the same up to case, or both are no calls, or both are malformations (`agree_parseCall`).
Formulas that are the same up to case are both malformations or none is (`agree_parse_equals`). That
two readings go side by side in this way is said by `Agree`.

Two arguments differ in the case of called names only (`Recased`) when they are the same text or
when both are calls, with names that are the same up to case and with arguments that differ in the
case of called names only in their turn. In a text that is so faulty that nothing in it is called,
any letters may differ in case.
-/

set_option autoImplicit false
set_option relaxedAutoImplicit false

namespace Worksheet

open Text

/-! ### Outcomes side by side -/

/-- Two outcomes agree: both are failures in one relation, or both are results in another. -/
inductive Agree {ε δ α β : Type} (failures : ε → δ → Prop) (results : α → β → Prop) :
    Except ε α → Except δ β → Prop
  /-- Two failures. -/
  | error {cause : ε} {other : δ} (same : failures cause other) :
    Agree failures results (.error cause) (.error other)
  /-- Two results. -/
  | ok {value : α} {other : β} (same : results value other) :
    Agree failures results (.ok value) (.ok other)

namespace Agree

variable {ε δ α β γ ζ : Type} {failures : ε → δ → Prop} {results : α → β → Prop}
  {further : γ → ζ → Prop} {one : Except ε α} {other : Except δ β}

theorem map {f : α → γ} {g : β → ζ} (agree : Agree failures results one other)
    (each : ∀ value image, results value image → further (f value) (g image)) :
    Agree failures further (one.map f) (other.map g) := by
  cases agree with
  | error same => exact .error same
  | ok same => exact .ok (each _ _ same)

/-- Outcomes agree if their parts do, one after the other. -/
theorem bind {f : α → Except ε γ} {g : β → Except δ ζ} (agree : Agree failures results one other)
    (each : ∀ value image, results value image → Agree failures further (f value) (g image)) :
    Agree failures further (one >>= f) (other >>= g) := by
  cases agree with
  | error same => exact .error same
  | ok same => exact each _ _ same

/-- Scans of lists agree if they do at every step. -/
theorem foldlM {σ τ : Type} {members : α → β → Prop} {states : σ → τ → Prop}
    {f : σ → α → Except ε σ} {g : τ → β → Except δ τ} {list : List α} {others : List β}
    (same : List.Forall₂ members list others)
    (each : ∀ state image, states state image → ∀ member other, members member other →
      Agree failures states (f state member) (g image other)) :
    ∀ {state : σ} {image : τ}, states state image →
      Agree failures states (list.foldlM f state) (others.foldlM g image) := by
  induction same with
  | nil => exact fun alike ↦ .ok alike
  | cons first _ ih =>
    intro state image alike
    rw [List.foldlM_cons, List.foldlM_cons]
    exact (each _ _ alike _ _ first).bind fun _ _ next ↦ ih next

end Agree

namespace FormulaError

/-- Two errors are of the same kind, whatever names and texts they hold. -/
def SameKind (one other : FormulaError) : Prop := one.ctorIdx = other.ctorIdx

end FormulaError

namespace Formula

/-! ### Closing parentheses -/

/-- The search for the closing parenthesis goes side by side. -/
theorem agree_splitAtClosing {text other : List Char} (same : SameLetters text other) :
    ∀ (depth : Nat) (quoted : Bool), Agree Eq
      (fun split image ↦ SameLetters split.1 image.1 ∧ SameLetters split.2 image.2)
      (splitAtClosing depth quoted text) (splitAtClosing depth quoted other) := by
  induction same with
  | nil => exact fun _ _ ↦ .error rfl
  | @cons c d rest others letter same ih =>
    intro depth quoted
    have closing : c = ')' ↔ d = ')' := letter.eq_iff rfl
    have opening : c = '(' ↔ d = '(' := letter.eq_iff rfl
    have quote : c = '"' ↔ d = '"' := letter.eq_iff rfl
    rw [splitAtClosing, splitAtClosing]
    simp only [closing, opening, quote]
    split
    · exact .ok ⟨.nil, same⟩
    · exact (ih _ _).map fun _ _ split ↦ ⟨.cons letter split.1, split.2⟩

/-! ### Arguments -/

theorem caseless_isRangeChar : Caseless ArgumentScan.isRangeChar := by
  refine ⟨true, fun c letter ↦ ?_⟩
  simp [ArgumentScan.isRangeChar, Char.isAlphanum, letter]

theorem caseless_isNameChar : Caseless isNameChar := by
  refine ⟨true, fun c letter ↦ ?_⟩
  rw [isNameChar, letter, Bool.true_or]

namespace ArgumentScan

/-- Two scans know the same of texts that are the same up to case. -/
structure Alike (scan other : ArgumentScan) : Prop where
  /-- As many parentheses are open. -/
  depth_eq : scan.depth = other.depth
  /-- A quote is open in both or in none. -/
  quoted_eq : scan.quoted = other.quoted
  /-- A range is open after a colon in both or in none. -/
  afterColon_eq : scan.afterColon = other.afterColon
  /-- The current arguments are the same up to case. -/
  current : SameLetters scan.current other.current
  /-- The earlier arguments are. -/
  earlier : List.Forall₂ SameLetters scan.earlier other.earlier

variable {scan other : ArgumentScan} {c d : Char}

/-- A character outside of quotes is taken in side by side. -/
theorem agree_advance (alike : Alike scan other) (letter : SameLetter c d) (afterColon : Bool) :
    Agree (fun _ _ ↦ True) Alike (scan.advance afterColon c) (other.advance afterColon d) := by
  obtain ⟨depth, quoted, after, current, earlier⟩ := alike
  have quote : c = '"' ↔ d = '"' := letter.eq_iff rfl
  have opening : c = '(' ↔ d = '(' := letter.eq_iff rfl
  have closing : c = ')' ↔ d = ')' := letter.eq_iff rfl
  have comma : c = ',' ↔ d = ',' := letter.eq_iff rfl
  have colon : c = ':' ↔ d = ':' := letter.eq_iff rfl
  have longer : SameLetters (c :: scan.current) (d :: other.current) := .cons letter current
  have piece : SameLetters scan.current.reverse other.current.reverse :=
    List.forall₂_reverse_iff.mpr current
  unfold advance
  simp only [quote, opening, closing, comma, colon, depth, quoted]
  split
  · exact .ok ⟨rfl, rfl, rfl, longer, earlier⟩
  split
  · exact .ok ⟨rfl, rfl, rfl, longer, earlier⟩
  split
  · split
    · exact .error trivial
    · exact .ok ⟨rfl, rfl, rfl, longer, earlier⟩
  split
  · exact .ok ⟨rfl, rfl, rfl, .nil, .cons piece earlier⟩
  split
  · exact .ok ⟨rfl, rfl, rfl, longer, earlier⟩
  · exact .ok ⟨rfl, rfl, rfl, longer, earlier⟩

/-- A character is taken in side by side. -/
theorem agree_step (list others : String) (alike : Alike scan other) (letter : SameLetter c d) :
    Agree (fun _ _ ↦ True) Alike (scan.step list c) (other.step others d) := by
  have range := letter.congr caseless_isRangeChar
  have colon : c = ':' ↔ d = ':' := letter.eq_iff rfl
  have quote : c = '"' ↔ d = '"' := letter.eq_iff rfl
  unfold step
  simp only [alike.quoted_eq, alike.afterColon_eq, range, colon]
  split
  · exact .ok ⟨alike.depth_eq, by simp only [ne_eq, quote], rfl, .cons letter alike.current,
      alike.earlier⟩
  split
  · split
    · exact .error trivial
    · exact agree_advance alike letter false
  · exact agree_advance alike letter other.afterColon

theorem agree_finish (alike : Alike scan other) :
    Agree (fun _ _ ↦ True) (List.Forall₂ SameLetters) scan.finish other.finish := by
  unfold finish
  rw [alike.quoted_eq, alike.depth_eq]
  split
  · exact .error trivial
  split
  · exact .error trivial
  · exact .ok (List.forall₂_reverse_iff.mpr
      (.cons (List.forall₂_reverse_iff.mpr alike.current) alike.earlier))

end ArgumentScan

variable {one other : String}

/-- Lists are taken apart side by side. -/
theorem agree_pieces {list others : List Char} (same : SameLetters list others) :
    Agree (fun _ _ ↦ True) (List.Forall₂ SameLetters) (pieces list) (pieces others) := by
  have start : ArgumentScan.Alike .start .start := ⟨rfl, rfl, rfl, .nil, .nil⟩
  refine (Agree.foldlM same (fun _ _ alike _ _ letter ↦ ?_) start).bind fun _ _ alike ↦ ?_
  · exact ArgumentScan.agree_step _ _ alike letter
  · exact ArgumentScan.agree_finish alike

/-- Two strings have the same characters up to the case of ASCII letters. -/
def SameSpelling (one other : String) : Prop := SameLetters one.toList other.toList

instance : DecidableRel SameSpelling :=
  fun one other ↦ inferInstanceAs (Decidable (SameLetters one.toList other.toList))

theorem sameSpelling_ofList {one other : List Char} :
    SameSpelling (String.ofList one) (String.ofList other) ↔ SameLetters one other := by
  rw [SameSpelling, String.toList_ofList, String.toList_ofList]

theorem agree_splitArguments (same : SameSpelling one other) :
    Agree FormulaError.SameKind (List.Forall₂ SameSpelling) (splitArguments one)
      (splitArguments other) := by
  unfold splitArguments
  rw [isAllBlank, isAllBlank, SameLetters.all_eq caseless_isBlank same]
  split
  · exact .ok .nil
  generalize parted : pieces one.toList = parts, partedOther : pieces other.toList = others
  have agree := agree_pieces same
  rw [parted, partedOther] at agree
  cases agree with
  | error _ => exact .error rfl
  | @ok parts others same =>
    have blank : parts.any isAllBlank = others.any isAllBlank := by
      clear parted partedOther
      induction same with
      | nil => rfl
      | cons first _ ih =>
        rw [List.any_cons, List.any_cons, isAllBlank, isAllBlank,
          SameLetters.all_eq caseless_isBlank first, ih]
    simp only [blank]
    split
    · exact .error rfl
    · refine .ok ?_
      rw [List.forall₂_map_left_iff, List.forall₂_map_right_iff]
      exact same.imp fun _ _ piece ↦ sameSpelling_ofList.mpr (SameLetters.trim piece)

/-! ### Calls -/

/-- A text that is the same up to case begins as a call too. -/
theorem OpensCall.of_sameLetters {text other name rest : List Char}
    (opens : OpensCall text name rest) (same : SameLetters text other) :
    ∃ otherName otherRest, OpensCall other otherName otherRest ∧ SameLetters name otherName ∧
      SameLetters rest otherRest := by
  obtain ⟨named, filled, opened⟩ := opensCall_iff.mp opens
  have names := SameLetters.takeWhile caseless_isNameChar same
  have rests := SameLetters.dropWhile caseless_isNameChar same
  rw [named] at names
  rw [opened] at rests
  generalize dropped : other.dropWhile isNameChar = after at rests
  cases rests with
  | @cons _ c _ otherRest parenthesis rests =>
    obtain rfl := (parenthesis.eq_iff rfl).mp rfl
    refine ⟨_, otherRest, opensCall_iff.mpr ⟨rfl, ?_, dropped⟩, names, rests⟩
    intro nameless
    rw [nameless] at names
    exact filled (List.forall₂_nil_right_iff.mp names)

/-- Texts are read as calls side by side. -/
theorem agree_parseCall (same : SameSpelling one other) :
    Agree FormulaError.SameKind
      (Option.Rel fun call image ↦ SameSpelling call.1 image.1 ∧
        List.Forall₂ SameSpelling call.2 image.2)
      (parseCall one) (parseCall other) := by
  by_cases opened : ∃ name rest, OpensCall one.toList name rest
  · obtain ⟨name, rest, opens⟩ := opened
    obtain ⟨otherName, otherRest, otherOpens, names, rests⟩ := opens.of_sameLetters same
    rw [parseCall_of_opensCall opens, parseCall_of_opensCall otherOpens]
    have closed := agree_splitAtClosing rests 0 false
    generalize splitAtClosing 0 false rest = split, splitAtClosing 0 false otherRest = otherSplit
      at closed
    cases closed with
    | error _ => exact .error rfl
    | @ok split otherSplit same =>
      obtain ⟨inner, after⟩ := split
      obtain ⟨otherInner, otherAfter⟩ := otherSplit
      obtain ⟨inners, afters⟩ : SameLetters inner otherInner ∧ SameLetters after otherAfter := same
      cases afters with
      | nil =>
        have arguments := agree_splitArguments (sameSpelling_ofList.mpr inners)
        exact arguments.map fun _ _ same ↦ .some ⟨sameSpelling_ofList.mpr names, same⟩
      | cons _ _ => exact .error rfl
  · have otherOpened : ¬ ∃ name rest, OpensCall other.toList name rest := by
      rintro ⟨name, rest, opens⟩
      obtain ⟨name, rest, opens, _⟩ := opens.of_sameLetters (same.flip.imp fun _ _ ↦ Eq.symm)
      exact opened ⟨name, rest, opens⟩
    simp only [not_exists] at opened otherOpened
    rw [parseCall_of_not_opensCall opened, parseCall_of_not_opensCall otherOpened]
    exact .ok .none

/-! ### Shapes -/

variable {name otherName : String} {arguments others : List String} {cause : FormulaError}

theorem classify_of_call {argument : String}
    (called : parseCall (trimmed argument) = .ok (some (name, arguments))) :
    classify argument = .ok (.call name arguments) := by
  rw [classify, called]
  rfl

theorem classify_of_fault {argument : String}
    (fault : parseCall (trimmed argument) = .error cause) : classify argument = .error cause := by
  rw [classify, fault]
  rfl

theorem classify_of_no_call {argument : String} (none : parseCall (trimmed argument) = .ok none) :
    classify argument = .ok (classifyPlain (trimmed argument)) := by
  rw [classify, none]
  rfl

theorem classify_eq_call_iff {argument : String} :
    classify argument = .ok (.call name arguments) ↔
      parseCall (trimmed argument) = .ok (some (name, arguments)) := by
  refine ⟨fun shape ↦ ?_, classify_of_call⟩
  rcases called : parseCall (trimmed argument) with fault | _ | ⟨_, _⟩
  · cases shape.symm.trans (classify_of_fault called)
  · exact absurd (Except.ok.inj ((classify_of_no_call called).symm.trans shape))
      classifyPlain_ne_call
  · cases shape.symm.trans (classify_of_call called)
    rfl

theorem classify_eq_error_iff {argument : String} :
    classify argument = .error cause ↔ parseCall (trimmed argument) = .error cause := by
  refine ⟨fun failed ↦ ?_, classify_of_fault⟩
  rcases called : parseCall (trimmed argument) with fault | _ | ⟨_, _⟩
  · cases failed.symm.trans (classify_of_fault called)
    rfl
  · cases failed.symm.trans (classify_of_no_call called)
  · cases failed.symm.trans (classify_of_call called)

theorem SameSpelling.trimmed (same : SameSpelling one other) :
    SameSpelling (trimmed one) (trimmed other) := sameSpelling_ofList.mpr (SameLetters.trim same)

/-- What is the same up to case as a call is a call. -/
theorem exists_classify_eq_call (same : SameSpelling one other)
    (shape : classify one = .ok (.call name arguments)) :
    ∃ otherName others, classify other = .ok (.call otherName others) ∧
      SameSpelling name otherName ∧ List.Forall₂ SameSpelling arguments others := by
  have agree := agree_parseCall same.trimmed
  rw [classify_eq_call_iff.mp shape] at agree
  generalize called : parseCall (Text.trimmed other) = outcome at agree
  cases agree with
  | @ok _ image same =>
    cases same with
    | @some _ call same =>
      exact ⟨call.1, call.2, classify_eq_call_iff.mpr called, same⟩

/-- What is the same up to case as a malformation is one. -/
theorem exists_classify_eq_error (same : SameSpelling one other)
    (fault : classify one = .error cause) :
    ∃ otherCause, classify other = .error otherCause ∧ cause.SameKind otherCause := by
  have agree := agree_parseCall same.trimmed
  rw [classify_eq_error_iff.mp fault] at agree
  generalize called : parseCall (Text.trimmed other) = outcome at agree
  cases agree with
  | @error _ otherCause same => exact ⟨otherCause, classify_eq_error_iff.mpr called, same⟩

/-! ### Terms -/

theorem sameLetters_unquotedFrom {text other : List Char} (same : SameLetters text other) :
    ∀ inside, SameLetters (unquotedFrom inside text) (unquotedFrom inside other) := by
  induction same with
  | nil => exact fun _ ↦ .nil
  | @cons c d _ _ letter _ ih =>
    intro inside
    have quote : c = '"' ↔ d = '"' := letter.eq_iff rfl
    rw [unquotedFrom, unquotedFrom]
    simp only [quote]
    split
    · exact ih _
    split
    · exact ih _
    · exact .cons letter (ih _)

theorem quotesPaired_eq {text other : List Char} (same : SameLetters text other) :
    quotesPaired text = quotesPaired other := by
  have quote : Caseless (· == '"') := by
    refine caseless_of_isAlpha_eq_false fun c found ↦ ?_
    rw [eq_of_beq found]
    rfl
  rw [quotesPaired, quotesPaired, List.count_eq_countP, List.count_eq_countP,
    SameLetters.countP_eq quote same]

/-- Terms are refused side by side. -/
theorem agree_checkTerm (same : SameSpelling one other) :
    Agree FormulaError.SameKind (fun _ _ ↦ True) (checkTerm one) (checkTerm other) := by
  have unquoted : SameLetters (unquotedChars one.toList) (unquotedChars other.toList) :=
    sameLetters_unquotedFrom same false
  have parenthesis : Caseless fun c ↦ c = '(' || c = ')' := by
    refine caseless_of_isAlpha_eq_false fun c found ↦ ?_
    rw [Bool.or_eq_true, decide_eq_true_eq, decide_eq_true_eq] at found
    rcases found with rfl | rfl <;> rfl
  have colon : Caseless (':' == ·) := by
    refine caseless_of_isAlpha_eq_false fun c found ↦ ?_
    rw [← eq_of_beq found]
    rfl
  unfold checkTerm
  simp only [List.contains_eq_any_beq, SameLetters.any_eq parenthesis unquoted,
    SameLetters.any_eq colon unquoted, quotesPaired_eq same]
  split
  · exact .error rfl
  split
  · exact .error rfl
  split
  · exact .error rfl
  · exact .ok trivial

/-! ### Formulas -/

theorem head?_equals (text : String) : ("=" ++ text).toList.head? = some '=' := by
  rw [String.toList_append]
  rfl

theorem body?_equals (text : String) : body? ("=" ++ text) = some (trimmed text) := by
  have source : "=" ++ text = String.ofList ('=' :: text.toList) := by
    rw [← String.toList_inj, String.toList_append, String.toList_ofList, String.toList_ofList]
    rfl
  rw [source, body?_cons, trimmed]

theorem parse_equals_of_call {text : String} (shape : classify text = .ok (.call name arguments)) :
    parse ("=" ++ text) = .ok (.call name arguments) := by
  rw [classify_eq_call_iff] at shape
  have filled : trimmed text ≠ "" := by
    intro empty
    rw [empty] at shape
    cases shape
  rw [parse, body?_equals]
  simp only [if_neg filled, shape]
  rfl

theorem parse_equals_of_fault {text : String} (fault : classify text = .error cause) :
    parse ("=" ++ text) = .error cause := by
  rw [classify_eq_error_iff] at fault
  have filled : trimmed text ≠ "" := by
    intro empty
    rw [empty] at fault
    cases fault
  rw [parse, body?_equals]
  simp only [if_neg filled, fault]
  rfl

/-- Formulas fail to be parsed side by side. -/
theorem agree_parse_equals (same : SameSpelling one other) :
    Agree FormulaError.SameKind (fun _ _ ↦ True) (parse ("=" ++ one)) (parse ("=" ++ other)) := by
  have empty : trimmed one = "" ↔ trimmed other = "" := by
    rw [← String.length_eq_zero_iff, ← String.length_eq_zero_iff, ← String.length_toList,
      ← String.length_toList, same.trimmed.length_eq]
  rw [parse, parse, body?_equals, body?_equals]
  simp only [empty]
  split
  · exact .error rfl
  refine (agree_parseCall same.trimmed).bind fun _ _ calls ↦ ?_
  cases calls with
  | some _ => exact .ok trivial
  | none => exact (agree_checkTerm same.trimmed).bind fun _ _ _ ↦ .ok trivial

/-! ### Called names -/

/-- Two arguments differ in the case of called names only, at any depth of nesting. -/
inductive Recased : String → String → Prop
  /-- They are the same text. -/
  | same (text : String) : Recased text text
  /-- They are calls that are the same up to case, whose arguments differ in the case of called
  names only. -/
  | call {one other name otherName : String} {arguments others : List String}
    (letters : SameSpelling one other) (shape : classify one = .ok (.call name arguments))
    (otherShape : classify other = .ok (.call otherName others))
    (inside : List.Forall₂ Recased arguments others) : Recased one other
  /-- They are the same up to case, and so faulty that nothing in them is known to be called. -/
  | unreadable {one other : String} {cause : FormulaError} (letters : SameSpelling one other)
    (fault : classify one = .error cause) : Recased one other

namespace Recased

/-- Induction on the calls in two arguments, where a property of two calls may be shown from that of
each two of their arguments. -/
theorem induction (property : String → String → Prop)
    (same : ∀ text, property text text)
    (call : ∀ {one other name otherName arguments others}, SameSpelling one other →
      classify one = .ok (.call name arguments) →
        classify other = .ok (.call otherName others) → List.Forall₂ property arguments others →
          property one other)
    (unreadable : ∀ {one other cause}, SameSpelling one other → classify one = .error cause →
      property one other)
    {one other : String} (recased : Recased one other) : property one other :=
  @Recased.rec (fun one other _ ↦ property one other)
    (fun arguments others _ ↦ List.Forall₂ property arguments others)
    same (fun letters shape otherShape _ inside ↦ call letters shape otherShape inside)
    (fun letters fault ↦ unreadable letters fault) .nil
    (fun _ _ first later ↦ .cons first later) one other recased

end Recased

/-- Two formulas differ in the case of called names only. -/
inductive RecasedFormula : String → String → Prop
  /-- What follows their equals signs does. -/
  | body {one other : String} (recased : Recased one other) :
    RecasedFormula ("=" ++ one) ("=" ++ other)
  /-- They are the same up to case, and so faulty that nothing in them is known to be called. -/
  | unreadable {one other : String} {cause : FormulaError} (letters : SameSpelling one other)
    (fault : parse ("=" ++ one) = .error cause) : RecasedFormula ("=" ++ one) ("=" ++ other)

end Formula

end Worksheet
