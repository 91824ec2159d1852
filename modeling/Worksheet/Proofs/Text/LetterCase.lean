import Mathlib
import Worksheet.Proofs.Text.Trimming
import Worksheet.Text.Case

/-!
# Letter case

Characters and texts that are the same up to the case of ASCII letters (`SameLetter`,
`SameLetters`). A property of characters that is the same for all ASCII letters does not depend on
their case (`SameLetter.congr`), so that texts which are the same up to case have their parts with
such a property at the same places (`SameLetters.takeWhile`, `SameLetters.dropWhile`), and in
particular their blanks (`SameLetters.trim`). Such texts have the same form in upper case
(`uppercase_eq`).
-/

set_option autoImplicit false
set_option relaxedAutoImplicit false

namespace Worksheet.Text

/-- Two characters are the same, or the same ASCII letter in upper and in lower case. -/
def SameLetter (one other : Char) : Prop := one.toUpper = other.toUpper

instance : DecidableRel SameLetter :=
  fun one other ↦ inferInstanceAs (Decidable (one.toUpper = other.toUpper))

/-- Two texts have the same characters up to the case of ASCII letters. -/
abbrev SameLetters (one other : List Char) : Prop := List.Forall₂ SameLetter one other

/-- A property of characters does not tell ASCII letters apart. -/
def Caseless (property : Char → Bool) : Prop :=
  ∃ value, ∀ c : Char, c.isAlpha → property c = value

/-! ### Characters -/

theorem isAlpha_iff {c : Char} :
    c.isAlpha ↔ 65 ≤ c.toNat ∧ c.toNat ≤ 90 ∨ 97 ≤ c.toNat ∧ c.toNat ≤ 122 := by
  have upper : c.isUpper ↔ 65 ≤ c.toNat ∧ c.toNat ≤ 90 := decide_eq_true_iff
  have lower : c.isLower ↔ 97 ≤ c.toNat ∧ c.toNat ≤ 122 := by
    show (decide (97 ≤ c.toNat) && decide (c.toNat ≤ 122)) = true ↔ _
    rw [Bool.and_eq_true, decide_eq_true_iff, decide_eq_true_iff]
  rw [Char.isAlpha, Bool.or_eq_true, upper, lower]

theorem toUpper_of_isAlpha_eq_false {c : Char} (other : c.isAlpha = false) : c.toUpper = c := by
  rw [Char.toUpper]
  split
  · rename_i lower
    exact absurd (isAlpha_iff.mpr (Or.inr lower)) (by rw [other]; exact Bool.false_ne_true)
  · rfl

/-- What holds of the ASCII letters one by one holds of every letter. -/
theorem forall_isAlpha (property : Char → Prop)
    (each : ∀ point < 128, (Char.ofNat point).isAlpha → property (Char.ofNat point)) {c : Char}
    (letter : c.isAlpha) : property c := by
  have bounds := isAlpha_iff.mp letter
  have ascii := each c.toNat (by omega)
  rw [Char.ofNat_toNat] at ascii
  exact ascii letter

theorem isAlpha_toUpper {c : Char} (letter : c.isAlpha) : c.toUpper.isAlpha :=
  forall_isAlpha (fun c ↦ c.toUpper.isAlpha) (by decide) letter

theorem uppercaseOf_of_isAlpha {c : Char} (letter : c.isAlpha) : uppercaseOf c = [c.toUpper] :=
  forall_isAlpha (fun c ↦ uppercaseOf c = [c.toUpper]) (by decide +kernel) letter

namespace SameLetter

variable {c d : Char}

theorem eq_or_isAlpha (same : SameLetter c d) : c = d ∨ c.isAlpha ∧ d.isAlpha := by
  cases first : c.isAlpha with
  | true =>
    cases second : d.isAlpha with
    | true => exact Or.inr ⟨rfl, rfl⟩
    | false =>
      have upper := isAlpha_toUpper first
      rw [same, toUpper_of_isAlpha_eq_false second, second] at upper
      cases upper
  | false =>
    cases second : d.isAlpha with
    | true =>
      have upper := isAlpha_toUpper second
      rw [← same, toUpper_of_isAlpha_eq_false first, first] at upper
      cases upper
    | false =>
      rw [SameLetter, toUpper_of_isAlpha_eq_false first, toUpper_of_isAlpha_eq_false second]
        at same
      exact Or.inl same

/-- What does not tell letters apart does not depend on their case. -/
theorem congr {property : Char → Bool} (caseless : Caseless property) (same : SameLetter c d) :
    property c = property d := by
  obtain ⟨value, letters⟩ := caseless
  rcases same.eq_or_isAlpha with rfl | ⟨first, second⟩
  · rfl
  · rw [letters c first, letters d second]

/-- A sign that is no letter has no case. -/
theorem eq_iff {sign : Char} (other : sign.isAlpha = false) (same : SameLetter c d) :
    c = sign ↔ d = sign := by
  rcases same.eq_or_isAlpha with rfl | ⟨first, second⟩
  · rfl
  · constructor
    · rintro rfl
      exact absurd first (by rw [other]; exact Bool.false_ne_true)
    · rintro rfl
      exact absurd second (by rw [other]; exact Bool.false_ne_true)

end SameLetter

/-- A property that no letter has does not tell letters apart. -/
theorem caseless_of_isAlpha_eq_false {property : Char → Bool}
    (signs : ∀ c : Char, property c → c.isAlpha = false) : Caseless property := by
  refine ⟨false, fun c letter ↦ Bool.eq_false_iff.mpr fun holds ↦ ?_⟩
  rw [signs c holds] at letter
  cases letter

theorem caseless_isBlank : Caseless isBlank := by
  refine ⟨false, fun c letter ↦ ?_⟩
  have bounds := isAlpha_iff.mp letter
  exact isBlank_eq_false (by omega) (by omega)

/-! ### Texts -/

namespace SameLetters

variable {one other : List Char} {property : Char → Bool}

theorem takeWhile (caseless : Caseless property) (same : SameLetters one other) :
    SameLetters (one.takeWhile property) (other.takeWhile property) := by
  induction same with
  | nil => exact .nil
  | @cons c d one other letter _ ih =>
    rw [List.takeWhile_cons, List.takeWhile_cons, letter.congr caseless]
    split
    · exact .cons letter ih
    · exact .nil

theorem dropWhile (caseless : Caseless property) (same : SameLetters one other) :
    SameLetters (one.dropWhile property) (other.dropWhile property) := by
  induction same with
  | nil => exact .nil
  | @cons c d one other letter same ih =>
    rw [List.dropWhile_cons, List.dropWhile_cons, letter.congr caseless]
    split
    · exact ih
    · exact .cons letter same

theorem trim (same : SameLetters one other) : SameLetters (trim one) (trim other) := by
  have front := List.forall₂_reverse_iff.mpr (same.dropWhile caseless_isBlank)
  exact List.forall₂_reverse_iff.mpr (dropWhile caseless_isBlank front)

theorem map_eq (caseless : Caseless property) (same : SameLetters one other) :
    one.map property = other.map property := by
  induction same with
  | nil => rfl
  | cons letter _ ih => rw [List.map_cons, List.map_cons, letter.congr caseless, ih]

theorem any_eq (caseless : Caseless property) (same : SameLetters one other) :
    one.any property = other.any property := by
  have images : (one.map property).any id = (other.map property).any id := by
    rw [map_eq caseless same]
  rwa [List.any_map, List.any_map, Function.id_comp] at images

theorem all_eq (caseless : Caseless property) (same : SameLetters one other) :
    one.all property = other.all property := by
  have images : (one.map property).all id = (other.map property).all id := by
    rw [map_eq caseless same]
  rwa [List.all_map, List.all_map, Function.id_comp] at images

theorem countP_eq (caseless : Caseless property) (same : SameLetters one other) :
    one.countP property = other.countP property := by
  have images : (one.map property).countP id = (other.map property).countP id := by
    rw [map_eq caseless same]
  rwa [List.countP_map, List.countP_map, Function.id_comp] at images

end SameLetters

/-! ### Upper case -/

theorem flatMap_uppercaseOf_eq {one other : List Char} (same : SameLetters one other) :
    one.flatMap uppercaseOf = other.flatMap uppercaseOf := by
  induction same with
  | nil => rfl
  | @cons c d _ _ letter _ ih =>
    have image : uppercaseOf c = uppercaseOf d := by
      rcases letter.eq_or_isAlpha with rfl | ⟨first, second⟩
      · rfl
      · rw [uppercaseOf_of_isAlpha first, uppercaseOf_of_isAlpha second, letter]
    rw [List.flatMap_cons, List.flatMap_cons, ih, image]

/-- Texts that are the same up to case have the same form in upper case. -/
theorem uppercase_eq {one other : String} (same : SameLetters one.toList other.toList) :
    uppercase one = uppercase other := by
  rw [uppercase, uppercase, flatMap_uppercaseOf_eq same]

end Worksheet.Text
