import Worksheet.Proofs.Recalculation.Simultaneous
import Worksheet.Proofs.Session.Effects

/-!
# Stale values after a recalculation

A recalculation stores for every formula the value that it has on the sheet of that moment. A later
step can make that value stale only where a formula consists of its own address alone: references
see the value that is stored with it, which is replaced when its turn comes. Such formulas are fresh
from the first recalculation on (`settled_recalculate`), so the second one leaves no stale value and
a third changes nothing (`recalculate_fresh`). They become stale when rows or columns are moved
(`recalculate_stale_after_deletion`), and not by entering values and formulas (`settled_session`).
-/

set_option autoImplicit false
set_option relaxedAutoImplicit false

namespace Worksheet.Sheet

variable {sheet : Sheet} {address : Address}

/-! ### One recalculation -/

/-- Reference paths are made of formulas alone. -/
theorem referencePath_congr {one other : Sheet} {text : String} {path : List Address}
    (formulas : ∀ address, one.formula? address = other.formula? address)
    (whole : ReferencePath one.content text path) : ReferencePath other.content text path := by
  induction whole with
  | last named => exact .last named
  | @step text next address path named followed _ ih =>
    refine .step named ?_ ih
    rw [content] at followed
    split at followed
    · rename_i formula found
      cases followed
      rw [followed?, formulas] at found
      rw [content, followed?, found]
    · cases followed

/-- The value that is stored when a cell is refreshed for the last time stays the one of its
formula, if no formula on its reference paths that consists of its own address is stale before and
refreshed afterwards. -/
theorem fresh_refreshAll_append {before after : List Address} (last : address ∉ after)
    (settled : ∀ formula, sheet.formula? address = some formula →
      ∀ path, ReferencePath sheet.content formula path → ∀ reached ∈ path,
        sheet.SelfNamed reached → reached ∈ after → sheet.Fresh reached) :
    (sheet.refreshAll (before ++ address :: after)).Fresh address := by
  intro formula found
  rw [formula?_refreshAll] at found
  rw [valueAt, cell?_refreshAll_append found last, refreshAll_append]
  -- The stored value was computed on the sheet after `before`; only steps from there on can matter.
  refine evaluateCell_congr fun path whole away reached onPath ↦ (content_refreshAll ?_).symm
  intro member named
  have before := selfNamed_refreshAll.mp named
  refine fresh_refreshAll before (Or.inr ?_)
  refine settled formula found path (referencePath_congr (formula?_refreshAll _) whole) reached
    onPath before ?_
  refine (List.mem_cons.mp member).resolve_left fun same ↦ away ?_
  rw [← same]
  exact onPath

/-- A formula is fresh after a recalculation, if no formula on its reference paths that consists of
its own address is stale before and comes later in row-major order. -/
theorem fresh_recalculate
    (settled : ∀ formula, sheet.formula? address = some formula →
      ∀ path, ReferencePath sheet.content formula path → ∀ reached ∈ path,
        sheet.SelfNamed reached → address.Before reached → sheet.Fresh reached) :
    (sheet.recalculate false).1.Fresh address := by
  rw [recalculate_eq_refreshAll]
  match found : sheet.formula? address with
  | none =>
    intro formula again
    rw [formula?_refreshAll, found] at again
    cases again
  | some formula =>
    obtain ⟨before, after, whole, _, later⟩ := exists_formulaAddresses_eq found
    rw [whole]
    refine fresh_refreshAll_append (fun member ↦ ?_) ?_
    · exact Address.not_before_self address (later address member)
    · intro formula found path reference reached onPath named member
      exact settled formula found path reference reached onPath named (later reached member)

theorem settled_recalculate (sheet : Sheet) : (sheet.recalculate false).1.Settled := by
  intro address named
  rw [recalculate_eq_refreshAll] at named ⊢
  have named := selfNamed_refreshAll.mp named
  obtain ⟨formula, found, _⟩ := id named
  exact fresh_refreshAll named (Or.inl (mem_formulaAddresses.mpr ⟨formula, found⟩))

/-! ### Two recalculations -/

/-- When no stored value that references can see is stale, everything is fresh after a
recalculation, and a second one changes nothing. -/
theorem fresh_and_recalculate_of_settled (settled : sheet.Settled) :
    (∀ address, (sheet.recalculate false).1.Fresh address) ∧
      ((sheet.recalculate false).1.recalculate false).1 = (sheet.recalculate false).1 := by
  constructor
  · intro address
    exact fresh_recalculate fun _ _ _ _ reached _ named _ ↦ settled reached named
  · rw [recalculate_of_settled sheet.settled_recalculate, recalculate_of_settled settled,
      evaluated_evaluated settled]

/-! ### Sessions without moves -/

/-- A change of one cell makes at most the formula at that cell stale, if at all one that consists
of its own address. -/
theorem settled_of_one_changed {later : Sheet} (settled : sheet.Settled) (changed : Address)
    (elsewhere : ∀ other, changed ≠ other → later.cell? other = sheet.cell? other)
    (here : later.SelfNamed changed → later.Fresh changed) : later.Settled := by
  intro other named
  by_cases same : changed = other
  · rw [← same] at named ⊢
    exact here named
  · have stored := (elsewhere other same).symm
    have before := (selfNamed_congr stored).mpr named
    exact fresh_congr before stored (settled other before)

theorem settled_put {cell : Cell} (settled : sheet.Settled)
    (fresh : (sheet.put cell).SelfNamed cell.address → (sheet.put cell).Fresh cell.address) :
    (sheet.put cell).Settled := by
  refine settled_of_one_changed settled cell.address (fun other different ↦ ?_) fresh
  rw [cell?_put, if_neg different]

theorem settled_setValueAt (settled : sheet.Settled) (address : Address) (value : Value) :
    (sheet.setValueAt address value).Settled := by
  refine settled_put settled ?_
  rintro ⟨formula, found, _⟩
  rw [formula?, cell?_put, if_pos rfl] at found
  cases found

/-- Storing a formula with its value leaves no stale value there. -/
theorem settled_putEvaluated (settled : sheet.Settled) (address : Address) (text : String) :
    (sheet.put (Cell.ofFormula address text (sheet.evaluateCell address text))).Settled := by
  refine settled_put settled ?_
  rintro ⟨other, found, own⟩ again same
  rw [formula?, cell?_put, if_pos rfl] at found same
  cases found
  cases same
  rw [valueAt, cell?_put, if_pos rfl]
  exact evaluateCell_of_own own sheet _

theorem settled_clear (settled : sheet.Settled) (removed : Address) :
    (sheet.clear removed).Settled := by
  refine settled_of_one_changed settled removed (fun other different ↦ ?_) ?_
  · rw [cell?_clear, if_neg different]
  · rintro ⟨formula, found, _⟩
    rw [formula?, cell?_clear, if_pos rfl] at found
    cases found

/-- Entering values and formulas makes no formula that consists of its own address stale. -/
theorem settled_of_effect {later : Sheet} (settled : sheet.Settled) {edit : Edit}
    (effect : edit.Effect sheet later) (entry : edit.isEntry) : later.Settled := by
  cases effect with
  | nothing => exact settled
  | formula _ address => exact settled_putEvaluated settled address _
  | value _ address => exact settled_setValueAt settled address _
  | clear _ address => exact settled_clear settled address
  | recalculate _ done =>
    exact @refreshAll_keeps Settled (fun _ _ _ _ before ↦ settled_putEvaluated before _ _) _ settled
      done
  | @shift _ axis _ _ is =>
    subst is
    cases axis <;> cases entry
  | put | clearAll | restore => cases entry

theorem settled_enterAt (settled : sheet.Settled) (address : Address) (input : String) :
    (sheet.enterAt address input).1.Settled :=
  settled_of_effect settled (sheet.effect_enterAt address.toA1 input address) rfl

/-- After a session in which cells are entered and none is moved, no formula that consists of its
own address is stale. -/
theorem settled_session {edits : List Edit} (settled : sheet.Settled)
    (entries : ∀ edit ∈ edits, edit.isEntry) : (sheet.session edits).Settled := by
  refine session_keeps (fun sheet edit member (before : sheet.Settled) ↦ ?_) settled
  exact settled_of_effect before (sheet.effect_edit edit) (entries edit member)

theorem settled_ofExtent (rows columns : UInt32) : (ofExtent rows columns).Settled := by
  rintro address ⟨formula, found, _⟩
  rw [formula?, cell?, ofExtent, Std.ExtTreeMap.getElem?_empty] at found
  cases found

/-! ### What a recalculation leaves stale -/

theorem content_of_selfNamed (named : sheet.SelfNamed address) :
    sheet.content address = .value (sheet.valueAt address) := by
  obtain ⟨formula, found, own⟩ := named
  rw [content, followed?, found, Option.filter_some_neg (by simpa using own)]

/-- A formula that is a reference to a cell whose formula consists of its own address has the value
that is stored there. -/
theorem evaluateCell_of_reference {target : Address} {text : String}
    (read : Formula.read text = .ok (.reference address)) (apart : address ≠ target)
    (named : sheet.SelfNamed address) :
    sheet.evaluateCell target text = sheet.valueAt address := by
  have absent : address ∉ (Std.ExtTreeSet.ofList [target] : Visiting) :=
    fun member ↦ apart (Visiting.mem_ofList_singleton.mp member)
  have found : (Context.builtIn sheet).evaluateCell? target text =
      .ok (sheet.valueAt address) := by
    rw [Context.evaluateCell?_eq, Formula.textMeaning, read]
    exact Context.lookup_of_value absent (content_of_selfNamed named)
  rw [evaluateCell, Context.evaluateCell, found]

/-- A reference to a later cell whose formula consists of its own address is left stale when that
cell is. -/
theorem not_fresh_recalculate {text : String} {target : Address}
    (found : sheet.formula? target = some text)
    (read : Formula.read text = .ok (.reference address)) (named : sheet.SelfNamed address)
    (later : target.Before address) (stale : ¬ sheet.Fresh address) :
    ¬ (sheet.recalculate false).1.Fresh target := by
  have settled := sheet.settled_recalculate address
  rw [recalculate_eq_refreshAll] at settled ⊢
  have apart : address ≠ target := fun same ↦ Address.not_before_self target (same ▸ later)
  obtain ⟨before, after, whole, earlier, rest⟩ := exists_formulaAddresses_eq found
  have last : target ∉ after :=
    fun member ↦ Address.not_before_self target (rest target member)
  have unrefreshed : address ∉ before := fun member ↦ later.asymm (earlier address member)
  have written : (sheet.refreshAll sheet.formulaAddresses).valueAt target =
      sheet.valueAt address := by
    rw [whole, valueAt, cell?_refreshAll_append found last]
    show (sheet.refreshAll before).evaluateCell target text = _
    rw [evaluateCell_of_reference read apart (selfNamed_refreshAll.mpr named), valueAt,
      cell?_refreshAll_of_not_mem unrefreshed, valueAt]
  intro fresh
  obtain ⟨formula, stored, own⟩ := id named
  refine stale fun other again ↦ ?_
  rw [stored] at again
  cases again
  calc sheet.valueAt address
      = (sheet.refreshAll sheet.formulaAddresses).evaluateCell target text := by
        rw [← written, fresh text (by rw [formula?_refreshAll, found])]
    _ = (sheet.refreshAll sheet.formulaAddresses).valueAt address :=
        evaluateCell_of_reference read apart (selfNamed_refreshAll.mpr named)
    _ = (sheet.refreshAll sheet.formulaAddresses).evaluateCell address formula :=
        settled (selfNamed_refreshAll.mpr named) formula (by rw [formula?_refreshAll, stored])
    _ = sheet.evaluateCell address formula := evaluateCell_of_own own _ _

/-- What a recalculation leaves stale. After one, a formula is fresh unless a formula on its
reference paths that consists of its own address was stale before and comes later in row-major
order. If none is stale at all, then everything is fresh after one recalculation and a second one
changes nothing; this is so after every session in which no cells are moved. In any case everything
is fresh after two recalculations, and a third changes nothing. -/
theorem recalculate_fresh (sheet : Sheet) :
    let once := (sheet.recalculate false).1
    let twice := (once.recalculate false).1
    (∀ address formula, sheet.formula? address = some formula →
      (∀ path, ReferencePath sheet.content formula path → ∀ reached ∈ path,
        sheet.SelfNamed reached → address.Before reached → sheet.Fresh reached) →
      once.formula? address = some formula ∧
        once.valueAt address = once.evaluateCell address formula) ∧
    (sheet.Settled → (∀ address, once.Fresh address) ∧ twice = once) ∧
    (∀ rows columns edits, (∀ edit ∈ edits, Edit.isEntry edit) →
      ((ofExtent rows columns).session edits).Settled) ∧
    (∀ address, twice.Fresh address) ∧ (twice.recalculate false).1 = twice := by
  intro once twice
  refine ⟨fun address formula found settled ↦ ?_, fresh_and_recalculate_of_settled,
    fun rows columns edits entries ↦ settled_session (settled_ofExtent rows columns) entries,
    fresh_and_recalculate_of_settled sheet.settled_recalculate⟩
  have kept : once.formula? address = some formula := by
    show (sheet.recalculate false).1.formula? address = _
    rw [recalculate_eq_refreshAll, formula?_refreshAll, found]
  refine ⟨kept, fresh_recalculate (fun other again ↦ ?_) formula kept⟩
  rw [found] at again
  cases again
  exact settled

/-- A recalculation can leave a stale value, and the next one then changes it: a formula is moved to
the cell that it names, with its value from before, and a new formula refers to that cell. -/
theorem recalculate_stale_after_deletion :
    let sheet := Sheet.new.session [.setValue "B1" (.text "old"), .enter "C1" "=B1",
      .columns (.delete 0), .enter "A1" "=B1"]
    let once := (sheet.recalculate false).1
    once.formula? ⟨0, 0⟩ = some "=B1" ∧
      once.valueAt ⟨0, 0⟩ ≠ once.evaluateCell ⟨0, 0⟩ "=B1" ∧
        (once.recalculate false).1.valueAt ⟨0, 0⟩ ≠ once.valueAt ⟨0, 0⟩ := by
  intro sheet once
  have body : Formula.body "=B1" = Address.toA1 ⟨0, 1⟩ := by
    rw [Address.toA1_of_single_letter (by decide)]
    rfl
  have named : sheet.SelfNamed ⟨0, 1⟩ := ⟨"=B1", rfl, body⟩
  have circular : sheet.evaluateCell ⟨0, 1⟩ "=B1" = .error "Circular reference detected" :=
    (evaluateCell_of_own body sheet Sheet.new).trans rfl
  have read : Formula.read "=B1" = .ok (.reference ⟨0, 1⟩) := rfl
  have later : Address.Before ⟨0, 0⟩ ⟨0, 1⟩ := rfl
  have old : sheet.valueAt ⟨0, 1⟩ = .text "old" := rfl
  have stale : ¬ sheet.Fresh ⟨0, 1⟩ := by
    intro fresh
    have same := fresh "=B1" rfl
    rw [old, circular] at same
    cases same
  have found : sheet.formula? ⟨0, 0⟩ = some "=B1" := rfl
  have kept : once.formula? ⟨0, 0⟩ = some "=B1" := by
    show (sheet.recalculate false).1.formula? _ = _
    rw [recalculate_eq_refreshAll, formula?_refreshAll, found]
  have left : once.valueAt ⟨0, 0⟩ ≠ once.evaluateCell ⟨0, 0⟩ "=B1" := by
    intro same
    refine not_fresh_recalculate found read named later stale fun formula again ↦ ?_
    rw [kept] at again
    cases again
    exact same
  refine ⟨kept, left, fun same ↦ left ?_⟩
  -- The second pass starts from a settled sheet, so it stores the value that the first one missed.
  have settled : once.Settled := sheet.settled_recalculate
  have fresh := (fresh_and_recalculate_of_settled settled).1 ⟨0, 0⟩ "=B1"
  rw [recalculate_eq_refreshAll, formula?_refreshAll, evaluateCell_refreshAll settled] at fresh
  rw [← same, recalculate_eq_refreshAll]
  exact fresh kept

end Worksheet.Sheet
