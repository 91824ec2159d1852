import Worksheet.Proofs.Address.A1Text

/-!
# Reading back the key text of an address

The key text that is written for an address is read as that address (`ofKey?_key`). Neither index
holds a colon, so the text is split where it was put together (`splitAtColon?_append`), and each
index is read from its digits (`indexOf?_toDigits`).
-/

set_option autoImplicit false
set_option relaxedAutoImplicit false

namespace Worksheet.Address

/-! ### Splitting at a colon -/

theorem splitAtColon?_eq_none {text : List Char} (plain : ':' ∉ text) :
    splitAtColon? text = none := by
  have dropped : text.dropWhile (· ≠ ':') = [] := by
    have all : ∀ c ∈ text, decide (c ≠ ':') = true := by
      intro c member
      exact decide_eq_true fun same ↦ plain (same ▸ member)
    rw [← List.append_nil text, List.dropWhile_append_of_pos all, List.dropWhile_nil]
  rw [splitAtColon?, dropped]

theorem splitAtColon?_append {front back : List Char} (plain : ':' ∉ front) :
    splitAtColon? (front ++ ':' :: back) = some (front, back) := by
  have all : ∀ c ∈ front, decide (c ≠ ':') = true := by
    intro c member
    exact decide_eq_true fun same ↦ plain (same ▸ member)
  rw [splitAtColon?, List.dropWhile_append_of_pos all, List.takeWhile_append_of_pos all]
  simp

/-! ### Indices -/

/-- The digits of a number hold no character that is not a digit. -/
theorem not_mem_toDigits {other : Char} (outside : other.isDigit = false) (number : Nat) :
    other ∉ Nat.toDigits 10 number := by
  intro member
  have digit := List.all_eq_true.mp (isDigit_of_mem_toDigits number) other member
  exact Bool.false_ne_true (outside.symm.trans digit)

theorem dropPlus_eq_self {text : List Char} (plain : '+' ∉ text) : dropPlus text = text := by
  unfold dropPlus
  split
  · exact absurd List.mem_cons_self plain
  · rfl

theorem indexOf?_toDigits (index : UInt32) :
    indexOf? (Nat.toDigits 10 index.toNat) = some index := by
  have within : index.toNat < lineBound := index.toNat_lt
  have unsigned : '+' ∉ Nat.toDigits 10 index.toNat := not_mem_toDigits rfl _
  unfold indexOf?
  simp only [dropPlus_eq_self unsigned, digitsValue_toDigits]
  rw [if_pos ⟨Nat.toDigits_ne_nil, isDigit_of_mem_toDigits _, within⟩]
  simp

/-- The key text of an address is read as that address. -/
theorem ofKey?_key (address : Address) : ofKey? address.key = some address := by
  rw [ofKey?, key, splitAtColon?_append (not_mem_toDigits rfl _)]
  show (do return ⟨← indexOf? _, ← indexOf? _⟩) = some address
  rw [indexOf?_toDigits, indexOf?_toDigits]
  rfl

end Worksheet.Address
