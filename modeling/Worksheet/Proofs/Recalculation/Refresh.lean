import Worksheet.Proofs.Evaluation.ReferencePath
import Worksheet.Proofs.Formula.SingleReference
import Worksheet.Recalculation

/-!
# Refreshing cells

One step of a recalculation refreshes a cell: its formula is evaluated on the sheet as it stands,
and the result is stored. A step changes the stored value of one formula cell (`cell?_refresh`), and
what references come upon changes only where a formula consists of its own address alone
(`content_refresh`). The value of such a formula does not depend on the sheet
(`evaluateCell_of_own`), so it is fresh once it has been refreshed (`fresh_refreshAll`).
-/

set_option autoImplicit false
set_option relaxedAutoImplicit false

namespace Worksheet.Sheet

/-! ### Fresh and stale cells -/

/-- The formula at an address consists of that address alone. References do not follow it, and see
its stored value. -/
def SelfNamed (sheet : Sheet) (address : Address) : Prop :=
  ∃ formula, sheet.formula? address = some formula ∧ Formula.body formula = address.toA1

/-- The value that is stored with the formula at an address is the one that the formula has. -/
def Fresh (sheet : Sheet) (address : Address) : Prop :=
  ∀ formula, sheet.formula? address = some formula →
    sheet.valueAt address = sheet.evaluateCell address formula

/-- No formula that consists of its own address alone has a stale value stored with it. -/
def Settled (sheet : Sheet) : Prop := ∀ address, sheet.SelfNamed address → sheet.Fresh address

/-- A formula that consists of the text of an address alone names no cell but that. -/
theorem eq_of_textNames_of_own {address other : Address} {formula : String}
    (own : Formula.body formula = address.toA1) (named : Formula.TextNames formula other) :
    other = address := by
  obtain ⟨tree, read, named⟩ := named
  by_cases begins : formula.toList.head? = some '='
  · rw [Formula.read_eq_reference begins own] at read
    cases read
    cases named
    rfl
  · rw [Formula.read, if_pos begins] at read
    cases read
    cases named

/-- A formula that consists of the text of its target alone has the same value on every sheet. -/
theorem evaluateCell_of_own {address : Address} {formula : String}
    (own : Formula.body formula = address.toA1) (one other : Sheet) :
    one.evaluateCell address formula = other.evaluateCell address formula := by
  -- Every reference path begins at the target, which is in progress, so none is left to compare.
  refine evaluateCell_congr fun path whole away ↦ ?_
  cases whole with
  | last named =>
    rw [eq_of_textNames_of_own own named] at away
    exact absurd (List.mem_singleton_self address) away
  | step named _ _ =>
    rw [eq_of_textNames_of_own own named] at away
    exact absurd List.mem_cons_self away

theorem selfNamed_congr {one other : Sheet} {address : Address}
    (stored : one.cell? address = other.cell? address) :
    one.SelfNamed address ↔ other.SelfNamed address := by
  rw [SelfNamed, SelfNamed, formula?, formula?, stored]

/-- A formula that consists of its own address stays fresh with the value that is stored. -/
theorem fresh_congr {one other : Sheet} {address : Address} (named : one.SelfNamed address)
    (stored : one.cell? address = other.cell? address) (fresh : one.Fresh address) :
    other.Fresh address := by
  obtain ⟨formula, found, own⟩ := named
  intro same again
  have value := fresh formula found
  rw [formula?, stored] at found
  rw [formula?, found] at again
  cases again
  rw [valueAt, stored] at value
  rw [valueAt, value]
  exact evaluateCell_of_own own one other

/-! ### One step -/

/-- The sheet after the formula of the cell at an address, if there is one, has been evaluated anew
and its result stored. -/
def refresh (sheet : Sheet) (address : Address) : Sheet :=
  match sheet.recalculateAt? address with
  | some (refreshed, _) => refreshed
  | none => sheet

variable {sheet : Sheet} {address : Address}

theorem refresh_of_formula {formula : String} (found : sheet.formula? address = some formula) :
    sheet.refresh address =
      sheet.put (Cell.ofFormula address formula (sheet.evaluateCell address formula)) := by
  rw [formula?] at found
  rw [refresh, recalculateAt?, found]
  rfl

theorem refresh_of_no_formula (none : sheet.formula? address = none) :
    sheet.refresh address = sheet := by
  rw [formula?] at none
  rw [refresh, recalculateAt?, none]
  rfl

/-- A step stores the value that the formula has, and leaves all other cells as they are. -/
theorem cell?_refresh {formula : String} (found : sheet.formula? address = some formula)
    (other : Address) :
    (sheet.refresh address).cell? other =
      if address = other then
        some (Cell.ofFormula address formula (sheet.evaluateCell address formula))
      else sheet.cell? other := by
  rw [refresh_of_formula found, cell?_put]
  rfl

theorem cell?_refresh_of_ne {other : Address} (different : address ≠ other) :
    (sheet.refresh address).cell? other = sheet.cell? other := by
  match found : sheet.formula? address with
  | none => rw [refresh_of_no_formula found]
  | some formula => rw [cell?_refresh found, if_neg different]

/-- A step leaves the formulas as they are. -/
theorem formula?_refresh (other : Address) :
    (sheet.refresh address).formula? other = sheet.formula? other := by
  match found : sheet.formula? address with
  | none => rw [refresh_of_no_formula found]
  | some formula =>
    rw [formula?, cell?_refresh found]
    by_cases same : address = other
    · rw [if_pos same, ← same, found]
      rfl
    · rw [if_neg same, formula?]

theorem valueAt_refresh_of_ne {other : Address} (different : address ≠ other) :
    (sheet.refresh address).valueAt other = sheet.valueAt other := by
  rw [valueAt, cell?_refresh_of_ne different, valueAt]

theorem valueAt_refresh_self {formula : String} (found : sheet.formula? address = some formula) :
    (sheet.refresh address).valueAt address = sheet.evaluateCell address formula := by
  rw [valueAt, cell?_refresh found, if_pos rfl]
  rfl

theorem selfNamed_refresh {other : Address} :
    (sheet.refresh address).SelfNamed other ↔ sheet.SelfNamed other := by
  rw [SelfNamed, SelfNamed, formula?_refresh]

theorem selfNamed_of_followed?_eq_none {formula : String}
    (found : sheet.formula? address = some formula) (unfollowed : sheet.followed? address = none) :
    sheet.SelfNamed address := by
  refine ⟨formula, found, ?_⟩
  rw [followed?, found] at unfollowed
  simpa using Option.filter_eq_none_iff.mp unfollowed formula rfl

/-- Two sheets with the same formula at an address have the same content there, if they have the
same value where the formula is not followed. -/
theorem content_congr {one other : Sheet} (formulas : one.formula? address = other.formula? address)
    (values : one.followed? address = none → one.valueAt address = other.valueAt address) :
    one.content address = other.content address := by
  have followed : one.followed? address = other.followed? address := by
    rw [followed?, followed?, formulas]
  rw [content, content, ← followed]
  cases found : one.followed? address with
  | some formula => rfl
  | none => exact congrArg Content.value (values found)

/-- A step does not change what references come upon at an address, unless a stale formula that
consists of its own address is refreshed there. -/
theorem content_refresh {other : Address}
    (settled : address = other → sheet.SelfNamed other → sheet.Fresh other) :
    (sheet.refresh address).content other = sheet.content other := by
  symm
  refine content_congr (formula?_refresh other).symm fun unfollowed ↦ ?_
  by_cases same : address = other
  · match found : sheet.formula? address with
    | none => rw [refresh_of_no_formula found]
    | some formula =>
      rw [same] at found
      have named := selfNamed_of_followed?_eq_none found unfollowed
      rw [same, valueAt_refresh_self found]
      exact settled same named formula found
  · rw [valueAt_refresh_of_ne same]

/-- A formula that consists of its own address is fresh after it has been refreshed, and stays so
when other formulas are. -/
theorem fresh_refresh {other : Address} (named : sheet.SelfNamed other)
    (fresh : address = other ∨ sheet.Fresh other) : (sheet.refresh address).Fresh other := by
  by_cases here : address = other
  · obtain ⟨formula, found, own⟩ := named
    intro same refreshed
    rw [formula?_refresh, found] at refreshed
    cases refreshed
    rw [here, valueAt_refresh_self found]
    exact evaluateCell_of_own own sheet _
  · exact fresh_congr named (cell?_refresh_of_ne here).symm (fresh.resolve_left here)

/-! ### Many steps -/

/-- The sheet after the cells at some addresses have been refreshed one after the other. -/
def refreshAll (sheet : Sheet) (order : List Address) : Sheet := order.foldl refresh sheet

theorem refreshAll_cons (sheet : Sheet) (address : Address) (order : List Address) :
    sheet.refreshAll (address :: order) = (sheet.refresh address).refreshAll order := rfl

theorem refreshAll_append (sheet : Sheet) (before after : List Address) :
    sheet.refreshAll (before ++ after) = (sheet.refreshAll before).refreshAll after :=
  List.foldl_append

/-- A recalculation refreshes the cells in their order, up to some point, and all of them when it
goes on after failures. -/
theorem exists_refreshAll_of_recalculateCells (stopOnError : Bool) (order : List Address)
    (sheet : Sheet) (report : RecalculationReport) :
    ∃ done, done <+: order ∧ (stopOnError = false → done = order) ∧
      (recalculateCells stopOnError order sheet report).1 = sheet.refreshAll done := by
  induction order generalizing sheet report with
  | nil => exact ⟨[], List.prefix_refl [], fun _ ↦ rfl, rfl⟩
  | cons address later ih =>
    have longer {done : List Address} (front : done <+: later)
        (all : stopOnError = false → done = later) :
        address :: done <+: address :: later ∧
          (stopOnError = false → address :: done = address :: later) :=
      ⟨List.cons_prefix_cons.mpr ⟨rfl, front⟩, fun on ↦ congrArg (address :: ·) (all on)⟩
    rw [recalculateCells]
    match found : sheet.recalculateAt? address with
    | none =>
      obtain ⟨done, front, all, whole⟩ := ih sheet report
      refine ⟨address :: done, (longer front all).1, (longer front all).2, ?_⟩
      rw [refreshAll_cons, refresh, found]
      exact whole
    | some (refreshed, value) =>
      have step : sheet.refresh address = refreshed := by rw [refresh, found]
      by_cases stop : (value.isError && stopOnError) = true
      · refine ⟨[address], ⟨later, rfl⟩, fun on ↦ ?_, ?_⟩
        · simp [on] at stop
        · simp only [if_pos stop, refreshAll_cons, step]
          rfl
      · simp only [if_neg stop]
        obtain ⟨done, front, all, whole⟩ := ih refreshed _
        refine ⟨address :: done, (longer front all).1, (longer front all).2, ?_⟩
        rw [refreshAll_cons, step]
        exact whole

theorem recalculateCells_eq_refreshAll (order : List Address) (sheet : Sheet)
    (report : RecalculationReport) :
    (recalculateCells false order sheet report).1 = sheet.refreshAll order := by
  obtain ⟨done, _, all, whole⟩ := exists_refreshAll_of_recalculateCells false order sheet report
  rw [whole, all rfl]

theorem recalculate_eq_refreshAll (sheet : Sheet) :
    (sheet.recalculate false).1 = sheet.refreshAll sheet.formulaAddresses :=
  recalculateCells_eq_refreshAll _ _ _

theorem formula?_refreshAll (order : List Address) (other : Address) :
    (sheet.refreshAll order).formula? other = sheet.formula? other := by
  induction order generalizing sheet with
  | nil => rfl
  | cons address later ih => rw [refreshAll_cons, ih, formula?_refresh]

theorem cell?_refreshAll_of_not_mem {order : List Address} {other : Address}
    (absent : other ∉ order) : (sheet.refreshAll order).cell? other = sheet.cell? other := by
  induction order generalizing sheet with
  | nil => rfl
  | cons address later ih =>
    rw [List.mem_cons, not_or] at absent
    rw [refreshAll_cons, ih absent.2, cell?_refresh_of_ne fun same ↦ absent.1 same.symm]

/-- A cell that is refreshed for the last time has the value that its formula has at that point. -/
theorem cell?_refreshAll_append {before after : List Address} {formula : String}
    (found : sheet.formula? address = some formula) (last : address ∉ after) :
    (sheet.refreshAll (before ++ address :: after)).cell? address =
      some (Cell.ofFormula address formula
        ((sheet.refreshAll before).evaluateCell address formula)) := by
  have there : (sheet.refreshAll before).formula? address = some formula := by
    rw [formula?_refreshAll, found]
  rw [refreshAll_append, refreshAll_cons, cell?_refreshAll_of_not_mem last, cell?_refresh there,
    if_pos rfl]

theorem selfNamed_refreshAll {order : List Address} {other : Address} :
    (sheet.refreshAll order).SelfNamed other ↔ sheet.SelfNamed other := by
  rw [SelfNamed, SelfNamed, formula?_refreshAll]

theorem fresh_refreshAll {order : List Address} {other : Address} (named : sheet.SelfNamed other)
    (fresh : other ∈ order ∨ sheet.Fresh other) : (sheet.refreshAll order).Fresh other := by
  induction order generalizing sheet with
  | nil => exact fresh.resolve_left List.not_mem_nil
  | cons address later ih =>
    refine ih (selfNamed_refresh.mpr named) ?_
    rw [List.mem_cons, or_assoc] at fresh
    rcases fresh with same | member | before
    · exact Or.inr (fresh_refresh named (Or.inl same.symm))
    · exact Or.inl member
    · exact Or.inr (fresh_refresh named (Or.inr before))

/-- Steps do not change what references come upon at an address, unless a stale formula that
consists of its own address is refreshed there. -/
theorem content_refreshAll {order : List Address} {other : Address}
    (settled : other ∈ order → sheet.SelfNamed other → sheet.Fresh other) :
    (sheet.refreshAll order).content other = sheet.content other := by
  induction order generalizing sheet with
  | nil => rfl
  | cons address later ih =>
    rw [refreshAll_cons, ih, content_refresh]
    · exact fun same ↦ settled (List.mem_cons.mpr (Or.inl same.symm))
    · intro member named
      have before := selfNamed_refresh.mp named
      exact fresh_refresh before (Or.inr (settled (List.mem_cons_of_mem address member) before))

end Worksheet.Sheet
