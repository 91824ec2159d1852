import Worksheet.Proofs.Address.A1Grammar
import Worksheet.Proofs.Address.KeyGrammar
import Worksheet.Proofs.Formula.Phrase
import Worksheet.Proofs.Formula.SingleReference
import Worksheet.Proofs.Region.Walking

/-!
# The texts of regions

A region is read from two corners with a colon between them or from a single cell, with blanks
around each of them (`RegionText`, `parse_eq_ok_iff`). The text of a region is read as that region
(`parse_toA1`), and so are its corners in either order and with any blanks around them
(`parse_cornersText`). A text with a second colon is refused, and no other text is refused for its
colons (`parse_eq_invalidRegion_iff`). Keys and regions therefore survive their texts
(`keys_and_regions_survive`).
-/

set_option autoImplicit false
set_option relaxedAutoImplicit false

namespace Worksheet

theorem Address.parse_ofList_eq_ok_iff {text : List Char} {address : Address} :
    Address.parse (String.ofList text) = .ok address ↔ text = address.a1 := by
  rw [Address.parse_eq_ok_iff, String.toList_ofList]
  constructor
  · intro read
    exact (Address.a1_of_ofA1?_eq_ok read).symm
  · rintro rfl
    exact Address.ofA1?_a1 address

/-- A text is an address or is refused as no address. -/
theorem Address.parse_cases (text : String) :
    (∃ address, Address.parse text = .ok address) ∨
      ∃ detail, Address.parse text = .error (.invalidAddress detail) := by
  unfold Address.parse
  cases Address.ofA1? text.toList with
  | ok address => exact Or.inl ⟨address, rfl⟩
  | error fault => exact Or.inr ⟨fault.message, rfl⟩

namespace Region

variable {text : String} {region : Region}

/-! ### Reading -/

/-- A text is one corner or two corners of a region, with blanks around them. -/
inductive RegionText : List Char → Region → Prop where
  /-- A single cell. -/
  | single {text : List Char} {address : Address} (plain : ':' ∉ text)
      (trimmed : Text.trim text = address.a1) : RegionText text (single address)
  /-- Two opposite corners. -/
  | corners {front back : List Char} {one other : Address} (plainFront : ':' ∉ front)
      (plainBack : ':' ∉ back) (trimmedFront : Text.trim front = one.a1)
      (trimmedBack : Text.trim back = other.a1) :
      RegionText (front ++ ':' :: back) (ofCorners one other)

/-- Reading a text without a colon. -/
theorem parse_of_not_mem (plain : ':' ∉ text.toList) :
    Region.parse text = (Address.parse (Text.trimmed text)).map single := by
  rw [Region.parse, Address.splitAtColon?_eq_none plain]
  cases Address.parse (Text.trimmed text) with
  | ok address => rfl
  | error fault => rfl

section Corners

variable {front back : List Char} (whole : text.toList = front ++ ':' :: back)
  (plainFront : ':' ∉ front)

include whole plainFront

/-- Reading a text with one colon. -/
theorem parse_of_append (plainBack : ':' ∉ back) :
    Region.parse text = do
      let one ← Address.parse (String.ofList (Text.trim front))
      let other ← Address.parse (String.ofList (Text.trim back))
      return ofCorners one other := by
  rw [Region.parse, whole, Address.splitAtColon?_append plainFront]
  simp only [List.contains_eq_mem, decide_eq_true_eq, if_neg plainBack]

/-- Reading a text with a second colon. -/
theorem parse_of_append_of_mem (second : ':' ∈ back) :
    Region.parse text = .error (.invalidRegion text) := by
  rw [Region.parse, whole, Address.splitAtColon?_append plainFront]
  simp only [List.contains_eq_mem, decide_eq_true_eq, if_pos second]

end Corners

/-- Reading accepts the texts of one or two corners, and gives their region. -/
theorem parse_eq_ok_iff : Region.parse text = .ok region ↔ RegionText text.toList region := by
  constructor
  · intro read
    by_cases colon : ':' ∈ text.toList
    · obtain ⟨front, back, whole, plainFront⟩ := List.eq_append_cons_of_mem colon
      by_cases second : ':' ∈ back
      · rw [parse_of_append_of_mem whole plainFront second] at read
        cases read
      · rw [parse_of_append whole plainFront second] at read
        match first : Address.parse (String.ofList (Text.trim front)),
          last : Address.parse (String.ofList (Text.trim back)), read with
        | .ok one, .ok other, read =>
          obtain rfl : ofCorners one other = region := Except.ok.inj read
          rw [whole]
          exact .corners plainFront second (Address.parse_ofList_eq_ok_iff.mp first)
            (Address.parse_ofList_eq_ok_iff.mp last)
    · rw [parse_of_not_mem colon] at read
      match found : Address.parse (Text.trimmed text), read with
      | .ok address, read =>
        obtain rfl : single address = region := Except.ok.inj read
        exact .single colon (Address.parse_ofList_eq_ok_iff.mp found)
  · intro spelled
    generalize whole : text.toList = characters at spelled
    cases spelled with
    | single plain trimmed =>
      rw [parse_of_not_mem (whole ▸ plain), Text.trimmed, whole,
        Address.parse_ofList_eq_ok_iff.mpr trimmed]
      rfl
    | corners plainFront plainBack trimmedFront trimmedBack =>
      rw [parse_of_append whole plainFront plainBack,
        Address.parse_ofList_eq_ok_iff.mpr trimmedFront,
        Address.parse_ofList_eq_ok_iff.mpr trimmedBack]
      rfl

/-- A text is refused for its colons exactly if it has more than one. -/
theorem parse_eq_invalidRegion_iff :
    Region.parse text = .error (.invalidRegion text) ↔ 2 ≤ text.toList.count ':' := by
  by_cases colon : ':' ∈ text.toList
  · obtain ⟨front, back, whole, plainFront⟩ := List.eq_append_cons_of_mem colon
    have count : text.toList.count ':' = back.count ':' + 1 := by
      rw [whole, List.count_append, List.count_eq_zero.mpr plainFront, List.count_cons_self,
        Nat.zero_add]
    by_cases second : ':' ∈ back
    · have more := List.count_pos_iff.mpr second
      rw [parse_of_append_of_mem whole plainFront second, count]
      simp only [true_iff]
      omega
    · have none := List.count_eq_zero.mpr second
      rw [parse_of_append whole plainFront second, count, none]
      refine iff_of_false (fun refused ↦ ?_) (by decide)
      obtain ⟨one, first⟩ | ⟨detail, first⟩ :=
        Address.parse_cases (String.ofList (Text.trim front))
      · obtain ⟨other, last⟩ | ⟨detail, last⟩ :=
          Address.parse_cases (String.ofList (Text.trim back))
        · rw [first, last] at refused
          cases refused
        · rw [first, last] at refused
          cases refused
      · rw [first] at refused
        cases refused
  · rw [parse_of_not_mem colon, List.count_eq_zero.mpr colon]
    refine iff_of_false (fun refused ↦ ?_) (by decide)
    obtain ⟨address, found⟩ | ⟨detail, found⟩ := Address.parse_cases (Text.trimmed text)
    · rw [found] at refused
      cases refused
    · rw [found] at refused
      cases refused

/-! ### Writing -/

/-- The corners of a region name that region. -/
theorem ofCorners_first_last (region : Region) : ofCorners region.first region.last = region := by
  obtain ⟨⟨firstRow, firstColumn⟩, ⟨lastRow, lastColumn⟩, rows, columns⟩ := region
  have smaller {m n : UInt32} (ordered : m ≤ n) : min m n = m := if_pos ordered
  have larger {m n : UInt32} (ordered : m ≤ n) : max m n = n := if_pos ordered
  simp only at rows columns
  simp only [ofCorners, smaller rows, smaller columns, larger rows, larger columns]

theorem ofCorners_self (address : Address) : ofCorners address address = single address :=
  ofCorners_first_last (single address)

theorem not_mem_around {address : Address} (before after : Blanks) :
    ':' ∉ before.chars ++ address.a1 ++ after.chars := by
  have blank (blanks : Blanks) : ':' ∉ blanks.chars :=
    fun member ↦ absurd (blanks.isBlank ':' member) (by decide)
  simp only [List.mem_append, not_or]
  exact ⟨⟨blank before, Formula.not_mem_a1 address (by decide)⟩, blank after⟩

theorem trim_around (address : Address) (before after : Blanks) :
    Text.trim (before.chars ++ address.a1 ++ after.chars) = address.a1 := by
  rw [Text.trim_append_blank after.isBlank, Text.trim_blank_append before.isBlank,
    Address.trim_a1]

/-- Two corners with a colon between them and blanks around them. -/
def cornersText (one other : Address) (start before after last : Blanks) : String :=
  String.ofList ((start.chars ++ one.a1 ++ before.chars) ++
    ':' :: (after.chars ++ other.a1 ++ last.chars))

/-- Two corners are read as their region, with any blanks around them. -/
theorem parse_cornersText (one other : Address) (start before after last : Blanks) :
    Region.parse (cornersText one other start before after last) = .ok (ofCorners one other) := by
  rw [parse_eq_ok_iff, cornersText, String.toList_ofList]
  exact .corners (not_mem_around start before) (not_mem_around after last)
    (trim_around one start before) (trim_around other after last)

/-- The text of a region is read as that region. -/
theorem parse_toA1 (region : Region) : Region.parse region.toA1 = .ok region := by
  rw [parse_eq_ok_iff, toA1]
  split
  · next same =>
    have whole := region.ofCorners_first_last
    rw [← same, ofCorners_self] at whole
    rw [Address.toA1, String.toList_ofList, ← whole]
    exact .single (Formula.not_mem_a1 _ (by decide)) (Address.trim_a1 _)
  · have text : (region.first.toA1 ++ ":" ++ region.last.toA1).toList =
        region.first.a1 ++ ':' :: region.last.a1 := by
      simp [Address.toA1]
    have read : RegionText (region.first.a1 ++ ':' :: region.last.a1)
        (ofCorners region.first region.last) :=
      .corners (Formula.not_mem_a1 _ (by decide)) (Formula.not_mem_a1 _ (by decide))
        (Address.trim_a1 _) (Address.trim_a1 _)
    rw [region.ofCorners_first_last] at read
    rwa [text]

end Region

/-! ### Keys and regions -/

/-- The key of an address and the text of a region are read back, no two addresses share a key, and
what is accepted is known: for keys two indices around the first colon, for regions also the corners
in either order with blanks around them, and never a second colon. -/
theorem keys_and_regions_survive :
    (∀ address : Address, Address.parseKey address.toKey = .ok address) ∧
    Function.Injective Address.toKey ∧
    (∀ (key : String) (address : Address), Address.parseKey key = .ok address ↔
      ∃ rowDigits columnDigits, Address.KeyText key.toList rowDigits columnDigits ∧
        digitsValue rowDigits = address.row.toNat ∧
          digitsValue columnDigits = address.column.toNat) ∧
    (∀ key : String, (∃ address, Address.parseKey key = .ok address) ↔
      ∃ rowDigits columnDigits, Address.KeyText key.toList rowDigits columnDigits) ∧
    (∀ key : String, (∃ address, Address.parseKey key = .ok address) ∨
      Address.parseKey key = .error (.invalidKey key)) ∧
    (∀ one other : Address, Region.parse (Region.ofCorners one other).toA1 =
      .ok (Region.ofCorners one other)) ∧
    (∀ (one other : Address) (start before after last : Blanks),
      Region.parse (Region.cornersText one other start before after last) =
          .ok (Region.ofCorners one other) ∧
        Region.parse (Region.cornersText other one start before after last) =
          .ok (Region.ofCorners one other)) ∧
    (∀ text : String,
      Region.parse text = .error (.invalidRegion text) ↔ 2 ≤ text.toList.count ':') := by
  refine ⟨Address.parseKey_toKey, Address.toKey_injective, fun _ _ ↦ Address.parseKey_eq_ok_iff,
    fun _ ↦ Address.exists_parseKey_eq_ok_iff, Address.parseKey_cases,
    fun _ _ ↦ Region.parse_toA1 _,
    fun one other start before after last ↦ ⟨Region.parse_cornersText .., ?_⟩,
    fun _ ↦ Region.parse_eq_invalidRegion_iff⟩
  rw [Region.ofCorners_comm]
  exact Region.parse_cornersText ..

end Worksheet
