import Worksheet.Text.Character

/-!
# Trimming

A text is its trimmed form with blanks around it (`exists_blanks_around_trim`), and more blanks at
either end change nothing (`trim_blank_append`, `trim_append_blank`). A text that has no blank at
its ends is trimmed (`trim_eq_self`).
-/

set_option autoImplicit false
set_option relaxedAutoImplicit false

namespace Worksheet.Text

/-- A character between the space and the last one of ASCII is not blank. -/
theorem isBlank_eq_false {c : Char} (first : 32 < c.toNat) (last : c.toNat < 127) :
    isBlank c = false := by
  have toNat_eq : c.val.toNat = c.toNat := rfl
  rw [isBlank, decide_eq_false_iff_not]
  simp only [Char.le_def, UInt32.le_iff_toNat_le, Char.ext_iff, ← UInt32.toNat_inj, toNat_eq]
  simp only [Char.reduceVal, UInt32.reduceToNat]
  omega

variable {text : List Char}

theorem dropWhile_isBlank_eq_self (first : ∀ c ∈ text.head?, isBlank c = false) :
    text.dropWhile isBlank = text := by
  cases text with
  | nil => rfl
  | cons c rest => exact List.dropWhile_cons_of_neg (by rw [first c rfl]; exact Bool.false_ne_true)

theorem trim_eq_self (first : ∀ c ∈ text.head?, isBlank c = false)
    (last : ∀ c ∈ text.getLast?, isBlank c = false) : trim text = text := by
  have back : text.reverse.dropWhile isBlank = text.reverse :=
    dropWhile_isBlank_eq_self (by rwa [List.head?_reverse])
  rw [trim, dropWhile_isBlank_eq_self first, back, List.reverse_reverse]

/-- A text that begins and ends with a part without blanks is trimmed. -/
theorem trim_between {front back : List Char} (frontNeNil : front ≠ []) (backNeNil : back ≠ [])
    (first : ∀ c ∈ front, isBlank c = false) (last : ∀ c ∈ back, isBlank c = false) :
    trim (front ++ text ++ back) = front ++ text ++ back := by
  refine trim_eq_self (fun c member ↦ ?_) (fun c member ↦ ?_)
  · rw [List.append_assoc, List.head?_append,
      Option.or_of_isSome (List.isSome_head?.mpr frontNeNil)] at member
    exact first c (List.mem_of_mem_head? member)
  · rw [List.getLast?_append, Option.or_of_isSome (List.getLast?_isSome.mpr backNeNil)] at member
    exact last c (List.mem_of_getLast? member)

theorem trim_blank_append {front : List Char} (blank : ∀ c ∈ front, isBlank c) :
    trim (front ++ text) = trim text := by
  rw [trim, List.dropWhile_append_of_pos blank, trim]

theorem trim_append_blank {back : List Char} (blank : ∀ c ∈ back, isBlank c) :
    trim (text ++ back) = trim text := by
  have dropped : back.dropWhile isBlank = [] := by
    rw [← List.append_nil back, List.dropWhile_append_of_pos blank, List.dropWhile_nil]
  unfold trim
  rw [List.dropWhile_append]
  cases front : text.dropWhile isBlank with
  | nil => simp [dropped]
  | cons c rest =>
    rw [List.isEmpty_cons, if_neg Bool.false_ne_true, List.reverse_append]
    rw [List.dropWhile_append_of_pos fun c member ↦ blank c (List.mem_reverse.mp member)]

theorem isBlank_of_mem_takeWhile {c : Char} (member : c ∈ text.takeWhile isBlank) : isBlank c :=
  List.all_eq_true.mp List.all_takeWhile c member

/-- Trimming takes off blanks only. -/
theorem exists_blanks_around_trim (text : List Char) :
    ∃ front back, (∀ c ∈ front, isBlank c) ∧ (∀ c ∈ back, isBlank c) ∧
      text = front ++ trim text ++ back := by
  refine ⟨text.takeWhile isBlank, ((text.dropWhile isBlank).reverse.takeWhile isBlank).reverse,
    fun c member ↦ isBlank_of_mem_takeWhile member,
    fun c member ↦ isBlank_of_mem_takeWhile (List.mem_reverse.mp member), ?_⟩
  have inner : text.dropWhile isBlank =
      trim text ++ ((text.dropWhile isBlank).reverse.takeWhile isBlank).reverse := by
    rw [trim, ← List.reverse_append, List.takeWhile_append_dropWhile, List.reverse_reverse]
  rw [List.append_assoc, ← inner, List.takeWhile_append_dropWhile]

theorem trim_trim (text : List Char) : trim (trim text) = trim text := by
  obtain ⟨front, back, blankFront, blankBack, whole⟩ := exists_blanks_around_trim text
  calc trim (trim text) = trim (front ++ trim text) := (trim_blank_append blankFront).symm
    _ = trim (front ++ trim text ++ back) := (trim_append_blank blankBack).symm
    _ = trim text := by rw [← whole]

/-- Trimming leaves no blank at the end. -/
theorem getLast?_trim {c : Char} (member : c ∈ (trim text).getLast?) : isBlank c = false := by
  rw [trim, List.getLast?_reverse] at member
  have shown := List.head?_dropWhile_not isBlank (text.dropWhile isBlank).reverse
  rw [Option.mem_def.mp member] at shown
  exact shown

/-- After a character that stays, trimming takes off only what it takes off the end of the rest. -/
theorem exists_trim_cons {c : Char} (shown : isBlank c = false) (text : List Char) :
    ∃ front, (∀ c ∈ front, isBlank c) ∧ trim (c :: text) = c :: (front ++ trim text) := by
  obtain ⟨front, back, blankFront, blankBack, whole⟩ := exists_blanks_around_trim text
  have first (rest : List Char) : ∀ d ∈ (c :: rest).head?, isBlank d = false := by
    rintro d ⟨⟩
    exact shown
  by_cases nothing : trim text = []
  · have blank : ∀ d ∈ text, isBlank d := by
      intro d member
      rw [whole, nothing, List.append_nil, List.mem_append] at member
      exact member.elim (blankFront d) (blankBack d)
    refine ⟨[], List.forall_mem_nil _, ?_⟩
    calc trim (c :: text) = trim ([c] ++ text) := rfl
      _ = trim [c] := trim_append_blank blank
      _ = [c] := trim_eq_self (first []) (first [])
      _ = c :: ([] ++ trim text) := by rw [nothing]; rfl
  · refine ⟨front, blankFront, ?_⟩
    have last : ∀ d ∈ (c :: (front ++ trim text)).getLast?, isBlank d = false := by
      intro d member
      rw [← List.cons_append, List.getLast?_append,
        Option.or_of_isSome (List.getLast?_isSome.mpr nothing)] at member
      exact getLast?_trim member
    calc trim (c :: text) = trim (c :: (front ++ trim text) ++ back) := by
          rw [List.cons_append, ← whole]
      _ = trim (c :: (front ++ trim text)) := trim_append_blank blankBack
      _ = c :: (front ++ trim text) := trim_eq_self (first _) last

end Worksheet.Text
