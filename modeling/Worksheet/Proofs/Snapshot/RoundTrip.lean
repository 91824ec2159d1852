import Worksheet.Proofs.Address.KeyText
import Worksheet.Proofs.Json.ReadingBack
import Worksheet.Proofs.Sheet.Cells
import Worksheet.Proofs.Snapshot.WrittenNumeral
import Worksheet.Snapshot.Text

/-!
# Reading snapshots back

A snapshot is read back from either of its texts if and only if each of its numbers survives the
text that is kept for it (`text_roundTrip`); everything else in it always comes back. The value of a
snapshot is one that JSON texts give back (`proper_toJson`), every part of it is read as what was
written (`readKey?_toKey`, `readCell?_cellJson`), and two cells never come under the same key, so
that under each key the cell of this key is found (`readCells?_eq_some_iff`). A number that is not
finite is kept as null, which no number is read from, and a snapshot with such a number is not read
at all.
-/

set_option autoImplicit false
set_option relaxedAutoImplicit false

namespace Worksheet.Snapshot

/-! ### Numbers and values -/

/-- Whether a number is read back from the text that is kept for it. -/
def Survives (number : Float) : Prop :=
  ((Json.read? (numberJson number).compact).bind fun json ↦ readContent? "number" (some json)) =
    some (.number number)

theorem proper_numberJson (number : Float) : (numberJson number).Proper := by
  unfold numberJson
  split
  · exact .number (proper_writtenNumeral number)
  · exact .null

theorem survives_iff {number : Float} :
    Survives number ↔ readContent? "number" (some (numberJson number)) = some (.number number) := by
  rw [Survives, (proper_numberJson number).read?_compact]
  rfl

theorem proper_valueJson (value : Value) : (valueJson value).Proper := by
  cases value with
  | empty => exact .object (by simpa using .string _)
  | number number => exact .object (by simpa using ⟨.string _, proper_numberJson number⟩)
  | text text => exact .object (by simpa using ⟨.string _, .string _⟩)
  | error message => exact .object (by simpa using ⟨.string _, .string _⟩)

theorem namedMembers?_map (members : List (String × Json)) :
    namedMembers? (members.map fun member ↦ (some member.1, member.2)) = some members := by
  rw [namedMembers?, List.mapM_map]
  exact (List.mapM_pure (m := Option) (f := id)).trans (congrArg some (List.map_id members))

/-- The value of a cell is read back, if its number, when it is one, survives. -/
theorem readValue?_valueJson (value : Value) :
    readValue? (valueJson value) = some value ↔
      ∀ number, value = .number number → Survives number := by
  cases value with
  | number number =>
    have content : readValue? (valueJson (.number number)) =
        readContent? "number" (some (numberJson number)) := by
      rw [valueJson, Json.ofMembers, readValue?, namedMembers?_map]
      rfl
    rw [content, ← survives_iff]
    exact ⟨fun survives _ same ↦ Value.number.inj same ▸ survives, fun each ↦ each number rfl⟩
  | empty =>
    refine iff_of_true rfl fun number same ↦ ?_
    cases same
  | text text =>
    refine iff_of_true rfl fun number same ↦ ?_
    cases same
  | error message =>
    refine iff_of_true rfl fun number same ↦ ?_
    cases same

/-- A number that is not finite is kept as null, and no number is read from it. -/
theorem readValue?_valueJson_of_not_finite {number : Float} (infinite : ¬ number.isFinite) :
    readValue? (valueJson (.number number)) = none := by
  rw [valueJson, numberJson, if_neg infinite]
  rfl

/-! ### Cells -/

theorem readKey?_toKey (address : Address) :
    readKey? (.ofString address.toKey) = some address := by
  rw [readKey?, Json.ofString, readText?, Option.bind_eq_bind, Option.bind_some, Address.toKey,
    String.toList_ofList, Address.ofKey?_key]

theorem readCell?_cellJson (cell : Cell) :
    readCell? (cellJson cell) = (readValue? (valueJson cell.raw)).bind fun raw ↦
      (readValue? (valueJson cell.computed)).map fun computed ↦
        ⟨cell.address, raw, cell.formula, computed⟩ := by
  obtain ⟨address, raw, formula, computed⟩ := cell
  rw [cellJson, Json.ofMembers, readCell?, namedMembers?_map]
  cases formula
  all_goals
    simp [required?, member?, readKey?_toKey, Option.map_eq_bind]
    rfl

/-- A cell is read back if the numbers in it survive. -/
theorem readCell?_cellJson_eq_some_iff (cell : Cell) :
    readCell? (cellJson cell) = some cell ↔
      ∀ number, cell.raw = .number number ∨ cell.computed = .number number → Survives number := by
  simp only [or_imp, forall_and]
  rw [← readValue?_valueJson, ← readValue?_valueJson, readCell?_cellJson]
  constructor
  · intro read
    obtain ⟨raw, readRaw, rest⟩ := Option.bind_eq_some_iff.mp read
    obtain ⟨computed, readComputed, whole⟩ := Option.map_eq_some_iff.mp rest
    have sameRaw : raw = cell.raw := congrArg Cell.raw whole
    have sameComputed : computed = cell.computed := congrArg Cell.computed whole
    exact ⟨sameRaw ▸ readRaw, sameComputed ▸ readComputed⟩
  · rintro ⟨readRaw, readComputed⟩
    rw [readRaw, readComputed]
    rfl

/-- A cell with a number that is not finite is not read. -/
theorem readCell?_cellJson_of_not_finite {cell : Cell} {number : Float}
    (held : cell.raw = .number number ∨ cell.computed = .number number)
    (infinite : ¬ number.isFinite) : readCell? (cellJson cell) = none := by
  rw [readCell?_cellJson]
  rcases held with same | same
  · rw [same, readValue?_valueJson_of_not_finite infinite]
    rfl
  · rw [same, readValue?_valueJson_of_not_finite infinite]
    exact Option.bind_fun_none _

/-! ### Cells by key -/

/-- The cells of a snapshot as they are kept. -/
def cellsJson (cells : CellMap) : Json :=
  .ofMembers (cells.toList.map fun entry ↦ (entry.1.toKey, cellJson entry.2))

/-- Reads a cell after those that come before it. -/
def readEntry? (cells : CellMap) (entry : Address × Cell) : Option CellMap :=
  (readCell? (cellJson entry.2)).map (cells.insert entry.1)

theorem readCells?_cellsJson (cells : CellMap) :
    readCells? (cellsJson cells) = cells.toList.foldlM readEntry? ∅ := by
  rw [cellsJson, Json.ofMembers, readCells?, List.map_map, List.foldlM_map]
  refine congrArg (fun step ↦ cells.toList.foldlM step ∅) (funext fun read ↦ funext fun entry ↦ ?_)
  simp only [Function.comp_apply, Option.bind_eq_bind, Option.bind_some, Address.toKey,
    String.toList_ofList, Address.ofKey?_key, readEntry?, Option.map_eq_bind]
  rfl

/-- Entries with distinct keys are read when each of their cells is. Under the key of an entry is
then what is read for its cell, and under other keys is what was there before. -/
theorem foldlM_readEntry?_eq_some_iff {entries : List (Address × Cell)}
    (distinct : entries.Pairwise fun one other ↦ ¬ compare one.1 other.1 = .eq)
    (start result : CellMap) :
    entries.foldlM readEntry? start = some result ↔
      (∀ entry ∈ entries, ∃ cell, readCell? (cellJson entry.2) = some cell ∧
        result[entry.1]? = some cell) ∧
      ∀ key, key ∉ entries.map Prod.fst → result[key]? = start[key]? := by
  induction entries generalizing start with
  | nil =>
    show some start = some result ↔ _
    constructor
    · rintro ⟨⟩
      exact ⟨List.forall_mem_nil _, fun _ _ ↦ rfl⟩
    · rintro ⟨-, same⟩
      exact congrArg some <| Std.ExtTreeMap.ext_getElem? fun key ↦ (same key List.not_mem_nil).symm
  | cons entry later ih =>
    obtain ⟨key, cell⟩ := entry
    rw [List.pairwise_cons] at distinct
    have single : key ∉ later.map Prod.fst := by
      intro member
      obtain ⟨other, listed, same⟩ := List.mem_map.mp member
      exact distinct.1 other listed (Std.LawfulEqOrd.compare_eq_iff_eq.mpr same.symm)
    rw [List.foldlM_cons, List.forall_mem_cons, readEntry?]
    match found : readCell? (cellJson cell) with
    | none =>
      refine ⟨nofun, ?_⟩
      rintro ⟨⟨⟨_, read, _⟩, _⟩, _⟩
      cases read
    | some read =>
      show later.foldlM readEntry? (start.insert key read) = some result ↔ _
      rw [ih distinct.2]
      constructor
      · rintro ⟨each, others⟩
        have stored := others key single
        rw [CellMap.getElem?_insert, if_pos rfl] at stored
        refine ⟨⟨⟨read, rfl, stored⟩, each⟩, fun place away ↦ ?_⟩
        rw [List.map_cons, List.mem_cons, not_or] at away
        rw [others place away.2, CellMap.getElem?_insert, if_neg (Ne.symm away.1)]
      · rintro ⟨⟨⟨_, ⟨⟩, stored⟩, each⟩, others⟩
        refine ⟨each, fun place away ↦ ?_⟩
        rw [CellMap.getElem?_insert]
        split
        · next same => rw [← same, stored]
        · next different =>
          refine others place ?_
          rw [List.map_cons, List.mem_cons, not_or]
          exact ⟨Ne.symm different, away⟩

/-- The cells of a snapshot are read when each of them is. Under the key of a cell is then what is
read for that cell, and under other keys is nothing. -/
theorem readCells?_eq_some_iff (cells result : CellMap) :
    readCells? (cellsJson cells) = some result ↔
      (∀ (key : Address) (cell : Cell), cells[key]? = some cell →
        ∃ read, readCell? (cellJson cell) = some read ∧ result[key]? = some read) ∧
      ∀ key : Address, cells[key]? = none → result[key]? = none := by
  have absent (key : Address) : key ∉ cells.toList.map Prod.fst ↔ cells[key]? = none := by
    rw [Std.ExtTreeMap.map_fst_toList_eq_keys, Std.ExtTreeMap.mem_keys,
      Std.ExtTreeMap.mem_iff_isSome_getElem?, Option.not_isSome_iff_eq_none]
  rw [readCells?_cellsJson, foldlM_readEntry?_eq_some_iff Std.ExtTreeMap.distinct_keys_toList]
  simp only [Prod.forall, Std.ExtTreeMap.mem_toList_iff_getElem?_eq_some, absent,
    Std.ExtTreeMap.getElem?_empty]

/-- The cells of a snapshot come back as they were when each of them does. -/
theorem readCells?_eq_some_self_iff (cells : CellMap) :
    readCells? (cellsJson cells) = some cells ↔
      ∀ (key : Address) (cell : Cell), cells[key]? = some cell →
        readCell? (cellJson cell) = some cell := by
  rw [readCells?_eq_some_iff]
  constructor
  · rintro ⟨each, -⟩ key cell stored
    obtain ⟨read, found, same⟩ := each key cell stored
    rw [found, ← stored, same]
  · intro each
    exact ⟨fun key cell stored ↦ ⟨cell, each key cell stored, stored⟩, fun _ empty ↦ empty⟩

/-! ### Snapshots -/

/-- Whether a number is the entered value of a cell or the result of its evaluation. -/
def HasNumber (snapshot : Snapshot) (number : Float) : Prop :=
  ∃ (key : Address) (cell : Cell), snapshot.cells[key]? = some cell ∧
    (cell.raw = .number number ∨ cell.computed = .number number)

theorem readExtent?_ofNat (count : UInt32) : readExtent? (.ofNat count.toNat) = some count := by
  have within : count.toNat < Address.lineBound := count.toNat_lt
  simp [readExtent?, Json.ofNat, readCount?, digitsValue_toDigits, within]

theorem ofJson?_toJson (snapshot : Snapshot) :
    ofJson? snapshot.toJson = (readCells? (cellsJson snapshot.cells)).map fun cells ↦
      ⟨cells, snapshot.rowCount, snapshot.columnCount⟩ := by
  rw [toJson, Json.ofMembers, ofJson?, namedMembers?_map]
  simp [required?, member?, readExtent?_ofNat, Option.map_eq_bind]
  rfl

theorem proper_cellJson (cell : Cell) : (cellJson cell).Proper := by
  obtain ⟨address, raw, formula, computed⟩ := cell
  refine .object ?_
  simp only [List.cons_append, List.forall_mem_cons, List.forall_mem_append]
  refine ⟨.string _, proper_valueJson raw, ?_, proper_valueJson computed, List.forall_mem_nil _⟩
  cases formula with
  | none => exact List.forall_mem_nil _
  | some text => exact List.forall_mem_cons.mpr ⟨.string text, List.forall_mem_nil _⟩

theorem proper_ofNat (count : Nat) : (Json.ofNat count).Proper :=
  .number ⟨Json.wholeDigits_toDigits count, nofun, nofun⟩

theorem proper_toJson (snapshot : Snapshot) : snapshot.toJson.Proper := by
  have cells : (cellsJson snapshot.cells).Proper := by
    refine .object fun member inside ↦ ?_
    obtain ⟨entry, -, rfl⟩ := List.mem_map.mp inside
    exact proper_cellJson entry.2
  refine .object ?_
  simp only [List.forall_mem_cons]
  exact ⟨cells, proper_ofNat _, proper_ofNat _, List.forall_mem_nil _⟩

theorem ofText?_compactText (snapshot : Snapshot) :
    ofText? snapshot.compactText = ofJson? snapshot.toJson := by
  rw [ofText?, compactText, String.toList_ofList, snapshot.proper_toJson.read?_compact]
  rfl

theorem ofText?_indentedText (snapshot : Snapshot) :
    ofText? snapshot.indentedText = ofJson? snapshot.toJson := by
  rw [ofText?, indentedText, String.toList_ofList, snapshot.proper_toJson.read?_indented]
  rfl

/-- A snapshot comes back as it was if and only if its numbers survive. -/
theorem ofJson?_toJson_eq_some_iff (snapshot : Snapshot) :
    ofJson? snapshot.toJson = some snapshot ↔
      ∀ number, snapshot.HasNumber number → Survives number := by
  have cells : ofJson? snapshot.toJson = some snapshot ↔
      readCells? (cellsJson snapshot.cells) = some snapshot.cells := by
    rw [ofJson?_toJson, Option.map_eq_some_iff]
    constructor
    · rintro ⟨cells, read, whole⟩
      rw [read, ← whole]
    · exact fun read ↦ ⟨snapshot.cells, read, rfl⟩
  rw [cells, readCells?_eq_some_self_iff]
  simp only [readCell?_cellJson_eq_some_iff]
  constructor
  · rintro each number ⟨key, cell, stored, held⟩
    exact each key cell stored number held
  · intro each key cell stored number held
    exact each number ⟨key, cell, stored, held⟩

/-- A snapshot with a number that is not finite is not read. -/
theorem ofJson?_toJson_of_not_finite {snapshot : Snapshot} {number : Float}
    (held : snapshot.HasNumber number) (infinite : ¬ number.isFinite) :
    ofJson? snapshot.toJson = none := by
  obtain ⟨key, cell, stored, held⟩ := held
  rw [ofJson?_toJson, Option.map_eq_none_iff, Option.eq_none_iff_forall_ne_some]
  intro result read
  obtain ⟨_, found, _⟩ := ((readCells?_eq_some_iff _ _).mp read).1 key cell stored
  rw [readCell?_cellJson_of_not_finite held infinite] at found
  cases found

/-- A snapshot is read back from its texts, on one line and over several, with the same keys,
records and extent, if and only if each of its numbers survives the text that is kept for it. It is
read from neither text if one of its numbers is not finite. -/
theorem text_roundTrip (snapshot : Snapshot) :
    (ofText? snapshot.compactText = some snapshot ↔
        ∀ number, snapshot.HasNumber number → Survives number) ∧
      (ofText? snapshot.indentedText = some snapshot ↔
        ∀ number, snapshot.HasNumber number → Survives number) ∧
      ((∃ number, snapshot.HasNumber number ∧ ¬ number.isFinite) →
        ofText? snapshot.compactText = none ∧ ofText? snapshot.indentedText = none) := by
  rw [ofText?_compactText, ofText?_indentedText]
  refine ⟨snapshot.ofJson?_toJson_eq_some_iff, snapshot.ofJson?_toJson_eq_some_iff, ?_⟩
  rintro ⟨number, held, infinite⟩
  exact ⟨ofJson?_toJson_of_not_finite held infinite, ofJson?_toJson_of_not_finite held infinite⟩

/-- A snapshot whose records name other addresses than their keys, with each kind of value and an
empty formula, comes back from both of its texts. -/
theorem text_roundTrip_of_mislabelled :
    let entries : List (Address × Cell) :=
      [(⟨0, 0⟩, ⟨⟨7, 3⟩, .number 1.5, none, .number 1.5⟩),
        (⟨0, 4294967295⟩, ⟨⟨0, 0⟩, .empty, some "", .error "a \"quoted\"\ttext"⟩),
        (⟨12, 1⟩, ⟨⟨12, 1⟩, .text "", none, .number (-1e300)⟩)]
    let snapshot : Snapshot := ⟨.ofList entries, 1, 0⟩
    ofText? snapshot.compactText = some snapshot ∧
      ofText? snapshot.indentedText = some snapshot := by
  intro entries snapshot
  have survives : ∀ number, snapshot.HasNumber number → Survives number := by
    rintro number ⟨key, cell, stored, held⟩
    have listed := (CellMap.getElem?_ofList_eq_some_iff (by decide)).mp stored
    have small : Survives 1.5 := survives_iff.mpr (by decide +kernel)
    have large : Survives (-1e300) := survives_iff.mpr (by decide +kernel)
    have either : number = 1.5 ∨ number = -1e300 := by
      simp only [entries, List.mem_cons, Prod.mk.injEq, List.not_mem_nil, or_false] at listed
      rcases listed with ⟨-, rfl⟩ | ⟨-, rfl⟩ | ⟨-, rfl⟩
      · exact Or.inl (by simpa [eq_comm] using held)
      · simp at held
      · exact Or.inr (by simpa [eq_comm] using held)
    rcases either with rfl | rfl
    · exact small
    · exact large
  obtain ⟨compact, indented, -⟩ := text_roundTrip snapshot
  exact ⟨compact.mpr survives, indented.mpr survives⟩

end Worksheet.Snapshot
