import Mathlib.Algebra.Group.Nat.Defs
import Worksheet.Proofs.Address.KeyText

/-!
# The grammar of keys

A key is two indices with a colon between them, where an index is digits for a number of 32 bits
with a plus sign in front that may be left out (`IndexText`). Reading takes the first colon as the
one between the indices (`splitAtColon?_eq_some_iff`), accepts exactly these texts, and gives the
address that the digits name (`parseKey_eq_ok_iff`); any other text is an error that names the text
(`parseKey_cases`). No two addresses have the same key (`toKey_injective`).
-/

set_option autoImplicit false
set_option relaxedAutoImplicit false

namespace Worksheet.Address

variable {text front back digits : List Char} {address : Address}

/-! ### The first colon -/

/-- A text is split at its first colon. -/
theorem splitAtColon?_eq_some_iff :
    splitAtColon? text = some (front, back) ↔ text = front ++ ':' :: back ∧ ':' ∉ front := by
  constructor
  · intro found
    by_cases colon : ':' ∈ text
    · obtain ⟨before, after, rfl, plain⟩ := List.eq_append_cons_of_mem colon
      rw [splitAtColon?_append plain, Option.some.injEq, Prod.mk.injEq] at found
      obtain ⟨rfl, rfl⟩ := found
      exact ⟨rfl, plain⟩
    · rw [splitAtColon?_eq_none colon] at found
      cases found
  · rintro ⟨rfl, plain⟩
    exact splitAtColon?_append plain

/-! ### Indices -/

/-- A text is an index with the given digits. -/
structure IndexText (text digits : List Char) : Prop where
  /-- The text is the digits, perhaps with a plus sign in front. -/
  text_eq : text = digits ∨ text = '+' :: digits
  /-- There is a digit. -/
  digits_ne_nil : digits ≠ []
  /-- The digits go from `0` to `9`. -/
  isDigit : ∀ c ∈ digits, c.isDigit
  /-- The number of the digits has 32 bits. -/
  value_le : digitsValue digits ≤ 2 ^ 32 - 1

theorem dropPlus_cases (text : List Char) : text = dropPlus text ∨ text = '+' :: dropPlus text := by
  unfold dropPlus
  split
  · exact Or.inr rfl
  · exact Or.inl rfl

theorem IndexText.dropPlus_eq (index : IndexText text digits) : dropPlus text = digits := by
  rcases index.text_eq with rfl | rfl
  · exact dropPlus_eq_self fun member ↦ absurd (index.isDigit '+' member) (by decide)
  · rfl

/-- An index is read from its digits. -/
theorem indexOf?_eq_some_iff {index : UInt32} :
    indexOf? text = some index ↔
      ∃ digits, IndexText text digits ∧ digitsValue digits = index.toNat := by
  unfold indexOf?
  simp only [Option.ite_none_right_eq_some, Option.some.injEq]
  constructor
  · rintro ⟨⟨filled, all, small⟩, rfl⟩
    have bound : digitsValue (dropPlus text) < 2 ^ 32 := small
    refine ⟨dropPlus text, ⟨dropPlus_cases text, filled, List.all_eq_true.mp all, by omega⟩, ?_⟩
    rw [UInt32.toNat_ofNat_of_lt' small]
  · rintro ⟨digits, index, value⟩
    have bound := index.value_le
    rw [index.dropPlus_eq]
    refine ⟨⟨index.digits_ne_nil, List.all_eq_true.mpr index.isDigit, ?_⟩, ?_⟩
    · unfold lineBound
      omega
    · rw [value, UInt32.ofNat_toNat]

/-! ### Keys -/

/-- A text is a key with the given digits for the row and for the column: two indices around its
first colon. -/
def KeyText (text rowDigits columnDigits : List Char) : Prop :=
  ∃ row column, text = row ++ ':' :: column ∧ ':' ∉ row ∧
    IndexText row rowDigits ∧ IndexText column columnDigits

theorem ofKey?_eq_some_iff :
    ofKey? text = some address ↔ ∃ rowDigits columnDigits, KeyText text rowDigits columnDigits ∧
      digitsValue rowDigits = address.row.toNat ∧
        digitsValue columnDigits = address.column.toNat := by
  simp only [ofKey?, Option.bind_eq_bind, Option.bind_eq_some_iff, Option.pure_def,
    Option.some.injEq, indexOf?_eq_some_iff]
  constructor
  · rintro ⟨⟨row, column⟩, split, rowIndex, ⟨rowDigits, rowText, rowValue⟩, columnIndex,
      ⟨columnDigits, columnText, columnValue⟩, rfl⟩
    obtain ⟨whole, plain⟩ := splitAtColon?_eq_some_iff.mp split
    exact ⟨rowDigits, columnDigits, ⟨row, column, whole, plain, rowText, columnText⟩, rowValue,
      columnValue⟩
  · rintro ⟨rowDigits, columnDigits, ⟨row, column, whole, plain, rowText, columnText⟩, rowValue,
      columnValue⟩
    exact ⟨(row, column), splitAtColon?_eq_some_iff.mpr ⟨whole, plain⟩, address.row,
      ⟨rowDigits, rowText, rowValue⟩, address.column, ⟨columnDigits, columnText, columnValue⟩, rfl⟩

/-- Reading a key gives an address exactly if the digits of the key name that address. -/
theorem parseKey_eq_ok_iff {key : String} :
    parseKey key = .ok address ↔
      ∃ rowDigits columnDigits, KeyText key.toList rowDigits columnDigits ∧
        digitsValue rowDigits = address.row.toNat ∧
          digitsValue columnDigits = address.column.toNat := by
  rw [← ofKey?_eq_some_iff, parseKey]
  cases ofKey? key.toList with
  | some found => simp
  | none => simp

/-- Reading a key gives an address or an error that names the text. -/
theorem parseKey_cases (key : String) :
    (∃ address, parseKey key = .ok address) ∨ parseKey key = .error (.invalidKey key) := by
  unfold parseKey
  cases ofKey? key.toList with
  | some address => exact Or.inl ⟨address, rfl⟩
  | none => exact Or.inr rfl

/-- The keys that are read are those of two indices. -/
theorem exists_parseKey_eq_ok_iff {key : String} :
    (∃ address, parseKey key = .ok address) ↔
      ∃ rowDigits columnDigits, KeyText key.toList rowDigits columnDigits := by
  constructor
  · rintro ⟨address, read⟩
    obtain ⟨rowDigits, columnDigits, parts, -⟩ := parseKey_eq_ok_iff.mp read
    exact ⟨rowDigits, columnDigits, parts⟩
  · rintro ⟨rowDigits, columnDigits, row, column, whole, plain, rowText, columnText⟩
    have rowBound := rowText.value_le
    have columnBound := columnText.value_le
    refine ⟨⟨UInt32.ofNat (digitsValue rowDigits), UInt32.ofNat (digitsValue columnDigits)⟩,
      parseKey_eq_ok_iff.mpr ⟨rowDigits, columnDigits,
        ⟨row, column, whole, plain, rowText, columnText⟩, ?_, ?_⟩⟩
    · rw [UInt32.toNat_ofNat']
      omega
    · rw [UInt32.toNat_ofNat']
      omega

/-- The key that is written for an address is read as that address. -/
theorem parseKey_toKey (address : Address) : parseKey address.toKey = .ok address := by
  rw [parseKey, toKey, String.toList_ofList, ofKey?_key]

/-- Different addresses have different keys. -/
theorem toKey_injective : Function.Injective toKey := by
  intro one other same
  have read := parseKey_toKey one
  rw [same, parseKey_toKey] at read
  exact (Except.ok.inj read).symm

end Worksheet.Address
