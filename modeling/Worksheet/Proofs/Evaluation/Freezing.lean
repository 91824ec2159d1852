import Worksheet.Entry
import Worksheet.Proofs.Evaluation.ReferencePath

/-!
# Freezing a cell to its value

A cell or a formula that has a value keeps it when fewer cells are in progress, and when a cell on
the way has its value in place of its formula (`lookup_of_ok`, `textMeaning_of_ok`). So a followed
cell contributes one value wherever it is reached, the value that it has on its own
(`eq_of_lookup_eq_ok`), and the sheet on which the cell is frozen to that value gives every formula
with a value the same value (`evaluateCell?_freeze`).
-/

set_option autoImplicit false
set_option relaxedAutoImplicit false

namespace Worksheet

/-- A formula text that has a value keeps it in a way to look up cells that keeps the values of the
cells it names. -/
theorem Formula.textMeaning_of_named_ok {functions : Functions} {look other : Lookup}
    {text : String} {value : Value}
    (kept : ∀ address, TextNames text address → ∀ found, look address = .ok found →
      other address = .ok found)
    (found : textMeaning functions look text = .ok value) :
    textMeaning functions other text = .ok value := by
  rw [← found]
  refine (textMeaning_congr fun address named ↦ ?_).symm
  obtain ⟨result, looked⟩ := exists_value_of_ok found named
  rw [looked, kept address named result looked]

/-- A region that has values keeps them in a way to look up cells that keeps the values of all
cells. -/
theorem Region.meaning_of_ok {look other : Lookup} {region : Region} {values : List Value}
    (kept : ∀ address value, look address = .ok value → other address = .ok value)
    (found : region.meaning look = .ok values) : region.meaning other = .ok values := by
  rw [← found]
  refine (meaning_congr fun address inside ↦ ?_).symm
  obtain ⟨value, looked⟩ := exists_value_of_ok found inside
  rw [looked, kept address value looked]

namespace Context

variable {functions : Functions} {content : Address → Content}

/-- What is seen of a sheet, but with a value seen at one address. -/
def frozen (content : Address → Content) (place : Address) (value : Value) (address : Address) :
    Content :=
  if place = address then .value value else content address

/-- Contents see no other values than some contents: at each address they have the same, or else the
value that a look-up in those always gives. -/
def Refines (functions : Functions) (one other : Address → Content) : Prop :=
  ∀ address, other address = one address ∨ ∃ value, other address = .value value ∧
    ∀ visiting found, lookup functions one visiting address = .ok found → found = value

theorem refines_self (functions : Functions) (content : Address → Content) :
    Refines functions content content := fun _ ↦ Or.inl rfl

/-- A cell that has a value keeps it when fewer cells are in progress, and with contents that see no
other values. -/
theorem lookup_of_ok {one other : Address → Content} (refines : Refines functions one other)
    {many few : Visiting} {address : Address} {result : Value}
    (inside : ∀ address ∈ few, address ∈ many) (fewer : few.size ≤ many.size)
    (looked : lookup functions one many address = .ok result) :
    lookup functions other few address = .ok result := by
  obtain ⟨absent, inner⟩ := lookup_eq_ok looked
  have away : address ∉ few := fun member ↦ absent (inside address member)
  rcases refines address with same | ⟨settled, seen, only⟩
  · match followed : one address with
    | .value stored =>
      rw [lookup_of_value absent followed] at looked
      rw [lookup_of_value away (same.trans followed), looked]
    | .formula next =>
      obtain ⟨shallow, found⟩ := inner next followed
      have more := Visiting.size_insert absent
      have less := Visiting.size_insert away
      rw [lookup_of_formula away (same.trans followed) (Nat.le_trans fewer shallow)]
      refine Formula.textMeaning_of_named_ok (fun named _ value reached ↦ ?_) found
      -- One more cell is in progress on both sides, so fewer are left to follow.
      refine lookup_of_ok refines (fun visited member ↦ ?_) (by omega) reached
      rw [Visiting.mem_insert] at member ⊢
      exact member.imp_right (inside visited)
  · rw [lookup_of_value away seen, only many result looked]
termination_by depthLimit + 1 - many.size

/-- A formula that has a value keeps it when fewer cells are in progress, and with contents that see
no other values. -/
theorem textMeaning_of_ok {one other : Address → Content} (refines : Refines functions one other)
    {many few : Visiting} {text : String} {value : Value}
    (inside : ∀ address ∈ few, address ∈ many) (fewer : few.size ≤ many.size)
    (found : Formula.textMeaning functions (lookup functions one many) text = .ok value) :
    Formula.textMeaning functions (lookup functions other few) text = .ok value :=
  Formula.textMeaning_of_named_ok
    (fun _ _ _ looked ↦ lookup_of_ok refines inside fewer looked) found

/-- A followed cell has the value of its formula on its own wherever it has a value at all. -/
theorem eq_of_lookup_eq_ok {place : Address} {formula : String} {value found : Value}
    {visiting : Visiting} (followed : content place = .formula formula)
    (alone : Formula.textMeaning functions
      (lookup functions content (Std.ExtTreeSet.ofList [place])) formula = .ok value)
    (looked : lookup functions content visiting place = .ok found) : found = value := by
  obtain ⟨absent, inner⟩ := lookup_eq_ok looked
  obtain ⟨_, reached⟩ := inner formula followed
  have single := Visiting.size_ofList_singleton place
  have more := Visiting.size_insert absent
  have inside : ∀ address ∈ (Std.ExtTreeSet.ofList [place] : Visiting),
      address ∈ visiting.insert place := fun address member ↦
    Visiting.mem_insert.mpr (Or.inl (Visiting.mem_ofList_singleton.mp member))
  have fewer := textMeaning_of_ok (refines_self functions content) inside (by omega) reached
  exact Except.ok.inj (fewer.symm.trans alone)

theorem refines_frozen {place : Address} {formula : String} {value : Value}
    (followed : content place = .formula formula)
    (alone : Formula.textMeaning functions
      (lookup functions content (Std.ExtTreeSet.ofList [place])) formula = .ok value) :
    Refines functions content (frozen content place value) := by
  intro address
  by_cases here : place = address
  · subst here
    refine Or.inr ⟨value, if_pos rfl, fun visiting found looked ↦ ?_⟩
    exact eq_of_lookup_eq_ok followed alone looked
  · exact Or.inl (if_neg here)

end Context

/-! ### Sheets -/

theorem Sheet.content_setValueAt (sheet : Sheet) (place : Address) (value : Value) :
    (sheet.setValueAt place value).content = Context.frozen sheet.content place value := by
  funext address
  have stored : (sheet.setValueAt place value).cell? address =
      if place = address then some (Cell.ofValue place value) else sheet.cell? address :=
    cell?_put sheet (Cell.ofValue place value) address
  unfold Context.frozen content followed? formula? valueAt
  rw [stored]
  by_cases here : place = address
  · simp [here, Cell.ofValue]
  · simp [here]

namespace Context

/-- A followed formula cell whose formula has a value on its own may be frozen to that value: every
formula that has a value keeps it, for any target. Wherever the cell is reached, with any cells in
progress, a reference gives no other value for it, and a range with values has the same values when
the cell is frozen. The functions may be any that look at nothing but values, as they might see the
difference otherwise. -/
theorem evaluateCell?_freeze {sheet : Sheet} {registry : Registry}
    {outside : Nat → List Value → Except FormulaError Value} {place : Address} {formula : String}
    {value : Value} (found : sheet.formula? place = some formula)
    (followed : Formula.body formula ≠ place.toA1)
    (alone : evaluateCell? ⟨sheet, registry, .ofValues outside⟩ place formula = .ok value) :
    let context : Context := ⟨sheet, registry, .ofValues outside⟩
    let frozen : Context := ⟨sheet.setValueAt place value, registry, .ofValues outside⟩
    (∀ target text result, context.evaluateCell? target text = .ok result →
      frozen.evaluateCell? target text = .ok result) ∧
    (∀ visiting result, ((context.resolve place).outcome visiting).1 = .ok result →
      result = value) ∧
    ∀ visiting region values, ((context.expand region).outcome visiting).1 = .ok values →
      ((frozen.expand region).outcome visiting).1 = .ok values := by
  intro context frozen
  have content := Sheet.content_of_followed found followed
  rw [evaluateCell?_eq] at alone
  have refines := refines_frozen content alone
  rw [← Sheet.content_setValueAt] at refines
  refine ⟨fun target text result evaluated ↦ ?_, fun visiting result resolved ↦ ?_,
    fun visiting region values expanded ↦ ?_⟩
  · rw [evaluateCell?_eq] at evaluated ⊢
    exact textMeaning_of_ok refines (fun _ member ↦ member) (Nat.le_refl _) evaluated
  · have looked := congrArg Prod.fst (context.yields_resolve visiting place)
    exact eq_of_lookup_eq_ok content alone (looked.symm.trans resolved)
  · have read := (congrArg Prod.fst (context.yields_expand visiting region)).symm.trans expanded
    rw [yields_expand]
    exact Region.meaning_of_ok
      (fun _ _ ↦ lookup_of_ok refines (fun _ member ↦ member) (Nat.le_refl _)) read

/-- The cell `B1`, whose formula refers to a text, seen from a formula that refers to `B1`. -/
theorem evaluateCell?_freeze_reference :
    let sheet := (Sheet.new.setValueAt ⟨0, 0⟩ (.text "x")).put
      (Cell.ofFormula ⟨0, 1⟩ "=A1" .empty)
    sheet.formula? ⟨0, 1⟩ = some "=A1" ∧ Formula.body "=A1" ≠ Address.toA1 ⟨0, 1⟩ ∧
      (builtIn sheet).evaluateCell? ⟨0, 1⟩ "=A1" = .ok (.text "x") ∧
        (builtIn sheet).evaluateCell? ⟨0, 2⟩ "=B1" = .ok (.text "x") ∧
          (builtIn (sheet.setValueAt ⟨0, 1⟩ (.text "x"))).evaluateCell? ⟨0, 2⟩ "=B1" =
            .ok (.text "x") := by
  intro sheet
  have found : sheet.formula? ⟨0, 1⟩ = some "=A1" := rfl
  have followed : Formula.body "=A1" ≠ Address.toA1 ⟨0, 1⟩ := by decide +kernel
  have source : sheet.content ⟨0, 0⟩ = .value (.text "x") := rfl
  have alone : (builtIn sheet).evaluateCell? ⟨0, 1⟩ "=A1" = .ok (.text "x") := by
    rw [evaluateCell?_eq]
    exact lookup_of_value (by decide) source
  have reached : (builtIn sheet).evaluateCell? ⟨0, 2⟩ "=B1" = .ok (.text "x") := by
    rw [evaluateCell?_eq]
    refine (lookup_of_formula (by decide) (Sheet.content_of_followed found followed)
      (by decide)).trans ?_
    exact lookup_of_value (by decide) source
  exact ⟨found, followed, alone, reached,
    (evaluateCell?_freeze found followed alone).1 ⟨0, 2⟩ "=B1" _ reached⟩

end Context

end Worksheet
