import Worksheet.Proofs.Evaluation.Freezing

/-!
# Evaluating with fewer cells in progress

The cells in progress are a state that the steps of an evaluation change and give back. An
evaluation leaves them as it found them, whether it gives a value or fails
(`Context.outcome_restores`). They decide which references are circular, how far cells may be
followed and along which cells a range is walked through, but not what a value is: with fewer cells
in progress a failure can become a value, and a value stays as it is
(`Context.outcome_of_fewer_in_progress`).
-/

set_option autoImplicit false
set_option relaxedAutoImplicit false

namespace Worksheet

namespace Context

/-- After a text is evaluated, a reference is resolved or a range is expanded, the cells in progress
are those from before, whether there is a value or a failure. -/
theorem outcome_restores (context : Context) (visiting : Visiting) :
    (∀ text, ((context.evaluate text).outcome visiting).2 = visiting) ∧
      (∀ text, ((context.resolveText text).outcome visiting).2 = visiting) ∧
      ∀ first last, ((context.expandTexts first last).outcome visiting).2 = visiting := by
  refine ⟨fun text ↦ ?_, fun text ↦ ?_, fun first last ↦ ?_⟩
  · exact congrArg Prod.snd (context.yields_evaluate visiting text)
  · exact congrArg Prod.snd (context.yields_resolveText visiting text)
  · exact congrArg Prod.snd (context.yields_expandTexts visiting first last)

/-- A text, a reference or a range that has a value while some cells are in progress has the same
value while only some of these are. -/
theorem outcome_of_fewer_in_progress (context : Context) {many few : Visiting}
    (inside : ∀ address ∈ few, address ∈ many) :
    (∀ text value, ((context.evaluate text).outcome many).1 = .ok value →
        ((context.evaluate text).outcome few).1 = .ok value) ∧
      (∀ text value, ((context.resolveText text).outcome many).1 = .ok value →
        ((context.resolveText text).outcome few).1 = .ok value) ∧
      ∀ first last values, ((context.expandTexts first last).outcome many).1 = .ok values →
        ((context.expandTexts first last).outcome few).1 = .ok values := by
  have fewer := Visiting.size_le_size inside
  have refines := refines_self context.functions context.sheet.content
  have kept (address : Address) (value : Value) :
      lookup context.functions context.sheet.content many address = .ok value →
        lookup context.functions context.sheet.content few address = .ok value :=
    lookup_of_ok refines inside fewer
  refine ⟨fun text value found ↦ ?_, fun text value found ↦ ?_, fun first last values found ↦ ?_⟩
  · rw [context.yields_evaluate] at found ⊢
    exact textMeaning_of_ok refines inside fewer found
  · rw [context.yields_resolveText] at found ⊢
    obtain ⟨address, read, looked⟩ := ok_of_bind found
    rw [read]
    exact kept address value looked
  · rw [context.yields_expandTexts] at found ⊢
    obtain ⟨region, read, walked⟩ := ok_of_bind found
    rw [read]
    exact Region.meaning_of_ok kept walked

/-- While a further cell is in progress a range of two cells is walked through as a whole, and
otherwise along the one cell that is stored. -/
theorem outcome_of_fewer_in_progress_range :
    let context : Context := .builtIn (Sheet.new.setValueAt ⟨0, 0⟩ (.text "x"))
    let many : Visiting := Std.ExtTreeSet.ofList [Address.mk 3 3]
    let region := Region.ofCorners ⟨0, 0⟩ ⟨0, 1⟩
    (∀ address ∈ (∅ : Visiting), address ∈ many) ∧
      context.candidates region many = [⟨0, 0⟩, ⟨0, 1⟩] ∧
      context.candidates region ∅ = [⟨0, 0⟩] ∧
      ((context.evaluate "=UPPER(A1:B1)").outcome many).1 = .ok (.text "X") ∧
      ((context.evaluate "=UPPER(A1:B1)").outcome ∅).1 = .ok (.text "X") := by
  intro context many region
  have inside : ∀ address ∈ (∅ : Visiting), address ∈ many :=
    fun address member ↦ absurd member Std.ExtTreeSet.not_mem_empty
  have found : ((context.evaluate "=UPPER(A1:B1)").outcome many).1 = .ok (.text "X") :=
    ok_of_toOption (by decide +kernel)
  exact ⟨inside, by decide +kernel, by decide +kernel, found,
    (context.outcome_of_fewer_in_progress inside).1 _ _ found⟩

end Context

end Worksheet
