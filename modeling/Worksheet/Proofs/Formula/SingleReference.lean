import Worksheet.Proofs.Address.KeyText
import Worksheet.Proofs.Text.Trimming

/-!
# Formulas that are one reference

An equals sign and the text of an address, with blanks around the address or not, is read as a
reference to that address (`read_eq_reference`). Nothing in the text of an address is a blank, a
quote, a parenthesis or a colon.
-/

set_option autoImplicit false
set_option relaxedAutoImplicit false

namespace Worksheet

/-! ### Characters -/

theorem Address.toNat_of_mem_a1 {address : Address} {c : Char} (member : c ∈ address.a1) :
    65 ≤ c.toNat ∧ c.toNat ≤ 90 ∨ 48 ≤ c.toNat ∧ c.toNat ≤ 57 := by
  rcases isLetter_or_isDigit_of_mem_a1 member with letter | digit
  · exact Or.inl (Column.isLetter_iff.mp letter)
  · exact Or.inr (isDigit_iff.mp digit)

theorem Address.ne_of_mem_a1 {address : Address} {c other : Char} (member : c ∈ address.a1)
    (outside : other.toNat < 48 ∨ 57 < other.toNat ∧ other.toNat < 65) : c ≠ other := by
  rintro rfl
  have bounds := toNat_of_mem_a1 member
  omega

theorem Address.isBlank_eq_false_of_mem_a1 {address : Address} {c : Char}
    (member : c ∈ address.a1) : Text.isBlank c = false := by
  have bounds := toNat_of_mem_a1 member
  exact Text.isBlank_eq_false (by omega) (by omega)

theorem Address.trim_a1 (address : Address) : Text.trim address.a1 = address.a1 :=
  Text.trim_eq_self
    (fun _ first ↦ isBlank_eq_false_of_mem_a1 (List.mem_of_mem_head? first))
    (fun _ last ↦ isBlank_eq_false_of_mem_a1 (List.mem_of_getLast? last))

namespace Formula

/-- Without quotes every character is outside of quotes. -/
theorem unquotedFrom_eq_self {text : List Char} (plain : ∀ c ∈ text, c ≠ '"') :
    unquotedFrom false text = text := by
  induction text with
  | nil => rfl
  | cons c rest ih =>
    rw [List.forall_mem_cons] at plain
    rw [unquotedFrom, if_neg plain.1, if_neg Bool.false_ne_true, ih plain.2]

/-! ### Texts without delimiters -/

theorem parseCall_eq_none {text : List Char}
    (plain : '(' ∉ text ∨ text.takeWhile isNameChar = []) :
    parseCall (String.ofList text) = .ok none := by
  unfold parseCall
  simp only [String.toList_ofList]
  split
  · rename_i named opened
    rcases plain with none | nameless
    · have member : '(' ∈ text.dropWhile isNameChar := by
        rw [opened]
        exact List.mem_cons_self
      exact absurd ((List.dropWhile_sublist _).mem member) none
    · rw [nameless] at named
      cases named
  · rfl

theorem unquote?_eq_none {text : List Char} (plain : '"' ∉ text) : unquote? text = none := by
  unfold unquote?
  split
  · exact absurd List.mem_cons_self plain
  · rfl

/-- A formula that begins with its equals sign has the rest for a body, without the blanks around
it. -/
theorem body?_cons (rest : List Char) :
    body? (String.ofList ('=' :: rest)) = some (String.ofList (Text.trim rest)) := by
  obtain ⟨front, blank, outer⟩ := Text.exists_trim_cons (c := '=') rfl rest
  rw [body?, String.toList_ofList, outer]
  show some (String.ofList (Text.trim (front ++ Text.trim rest))) = _
  rw [Text.trim_blank_append blank, Text.trim_trim]

/-! ### The text of an address -/

variable (address : Address)

theorem not_mem_a1 {other : Char}
    (outside : other.toNat < 48 ∨ 57 < other.toNat ∧ other.toNat < 65) : other ∉ address.a1 :=
  fun member ↦ Address.ne_of_mem_a1 member outside rfl

theorem parseCall_toA1 : parseCall address.toA1 = .ok none :=
  parseCall_eq_none (Or.inl (not_mem_a1 address (by decide)))

theorem unquote?_a1 : unquote? address.a1 = none :=
  unquote?_eq_none (not_mem_a1 address (by decide))

theorem checkTerm_toA1 : checkTerm address.toA1 = .ok () := by
  have unquoted : unquotedChars address.a1 = address.a1 := by
    refine unquotedFrom_eq_self fun c member same ↦ ?_
    exact not_mem_a1 address (by decide) (same ▸ member)
  have parentheses : (address.a1.any fun c ↦ c = '(' || c = ')') = false := by
    simp only [List.any_eq_false, Bool.or_eq_true, decide_eq_true_eq, not_or]
    exact fun c member ↦
      ⟨Address.ne_of_mem_a1 member (by decide), Address.ne_of_mem_a1 member (by decide)⟩
  have quotes : quotesPaired address.a1 = true := by
    rw [quotesPaired, List.count_eq_zero.mpr (not_mem_a1 address (by decide))]
    rfl
  have colon : address.a1.contains ':' = false := by
    rw [List.contains_eq_mem, decide_eq_false_iff_not]
    exact not_mem_a1 address (by decide)
  rw [checkTerm, Address.toA1, String.toList_ofList, unquoted]
  simp only [parentheses, quotes, colon]
  rfl

theorem isReference_toA1 : isReference address.toA1 := by
  obtain ⟨letters, digits⟩ := address.takeWhile_a1
  have someLetters : Column.letters address.column ≠ [] :=
    Column.lettersOf_ne_nil (Nat.succ_ne_zero _)
  have someDigits : Nat.toDigits 10 (address.row.toNat + 1) ≠ [] := Nat.toDigits_ne_nil
  have allDigits := Address.isDigit_of_mem_toDigits (address.row.toNat + 1)
  simp [isReference, Address.toA1, letters, digits, someLetters, someDigits, allDigits]

theorem splitAtColon?_a1 : Address.splitAtColon? address.a1 = none :=
  Address.splitAtColon?_eq_none (not_mem_a1 address (by decide))

theorem classify_toA1 : classify address.toA1 = .ok (.reference address.toA1) := by
  have trimmed : Text.trimmed address.toA1 = address.toA1 := by
    rw [Text.trimmed, Address.toA1, String.toList_ofList, Address.trim_a1]
  have plain : classifyPlain address.toA1 = .reference address.toA1 := by
    have toList : address.toA1.toList = address.a1 := String.toList_ofList
    rw [classifyPlain, toList, unquote?_a1, splitAtColon?_a1]
    exact if_pos (isReference_toA1 address)
  rw [classify, trimmed, parseCall_toA1, ← plain]
  rfl

theorem readTerm_toA1 : readTerm address.toA1 = .ok (.reference address) := by
  have toList : address.toA1.toList = address.a1 := String.toList_ofList
  rw [readTerm, toList, unquote?_a1, classify_toA1]
  show (do return reference (← readAddress address.toA1)) = _
  rw [readAddress_toA1]
  rfl

/-- A formula whose body is the text of an address is a reference to it. -/
theorem read_eq_reference {text : String} {address : Address}
    (begins : text.toList.head? = some '=') (own : body text = address.toA1) :
    read text = .ok (.reference address) := by
  obtain ⟨rest, whole⟩ := List.head?_eq_some_iff.mp begins
  have trimmed : Text.trim rest = address.a1 := by
    rw [body, whole] at own
    exact String.ofList_injective own
  have inner : body? text = some address.toA1 := by
    rw [← String.ofList_toList (s := text), whole, body?_cons, trimmed]
    rfl
  have filled : address.toA1 ≠ "" := fun none ↦ address.a1_ne_nil (String.ofList_injective none)
  have parsed : parse text = .ok (.term address.toA1) := by
    rw [parse, inner]
    simp only [if_neg filled, parseCall_toA1]
    show (do checkTerm address.toA1; return Shape.term address.toA1) = _
    rw [checkTerm_toA1]
    rfl
  rw [read, if_neg (not_not_intro begins), parsed]
  exact readTerm_toA1 address

theorem body_equals_toA1 (address : Address) : body ("=" ++ address.toA1) = address.toA1 := by
  have written : address.toA1.toList = address.a1 := String.toList_ofList
  have whole : ("=" ++ address.toA1).toList = '=' :: address.a1 := by
    rw [String.toList_append, written]
    rfl
  rw [body, whole]
  simp only [Address.trim_a1, Address.toA1]

theorem read_equals_toA1 (address : Address) :
    read ("=" ++ address.toA1) = .ok (.reference address) := by
  refine read_eq_reference ?_ (body_equals_toA1 address)
  rw [String.toList_append]
  rfl

end Formula

end Worksheet
