import Mathlib
import Worksheet.Command.Files

/-!
# The files after a failure

A command that fails leaves all files as they were, with one exception
(`Command.files_eq_of_failure`): a recalculation whose sheet is refused as a table
(`Command.RefusesTable`) has created its output file by then. It leaves that file empty and touches
no other (`Command.RefusesTable.run_spec`). So a failed invocation keeps all existing files exactly
if no file with a content stands in that place (`Invocation.failure_keeps_files`). All of this holds
wherever the paths lead.
-/

set_option autoImplicit false
set_option relaxedAutoImplicit false

namespace Worksheet

variable {paths : PathResolution} {files : Files} {place : String}

/-- Writing leaves a file with the text at the place to which the path leads, unless it is the null
device, and all other files as they were. -/
theorem Files.getElem?_write {path : String} (resolved : paths files .creating path = .ok place)
    (text other : String) :
    (files.write paths path text)[other]? =
      if place = other then some (if files[place]? = some .nothing then .nothing else .text text)
      else files[other]? := by
  unfold write
  rw [resolved]
  simp only [Std.ExtTreeMap.getElem?_alter, Std.LawfulEqOrd.compare_eq_iff_eq]
  split
  · split <;> rfl
  · rfl

namespace Command

variable {command : Command}

/-- How a command ends among files. -/
def ending (command : Command) (paths : PathResolution) (files : Files) : Outcome :=
  command.outcome (files.read paths (command.input?.getD ""))
    ((paths files .creating (command.output?.getD "")).map fun _ ↦ ())

theorem run_eq (command : Command) (paths : PathResolution) (files : Files) :
    command.run paths files = (command.ending paths files,
      match command.output?, (command.ending paths files).file with
      | some path, some text => files.write paths path text
      | _, _ => files) := by
  show (match command.output?, (command.ending paths files).file with
    | some path, some text => (command.ending paths files, files.write paths path text)
    | _, _ => (command.ending paths files, files)) = _
  cases command.output? with
  | none => rfl
  | some path => cases (command.ending paths files).file <;> rfl

theorem run_of_file_eq_none (noFile : (command.ending paths files).file = none) :
    command.run paths files = (command.ending paths files, files) := by
  rw [run_eq, noFile]
  cases command.output? <;> rfl

/-- A recalculated sheet is refused as a table after its file has been created: the input is the
text of a snapshot, the output path leads to this place, and the delimiter or a stored cell keeps
the sheet from being a table. -/
inductive RefusesTable (paths : PathResolution) (files : Files) (place : String) :
    Command → Prop where
  /-- The table of the recalculated snapshot is refused. -/
  | recalc {input path text : String} {delimiter : Char} {stopOnError : Bool} {snapshot : Snapshot}
      {error : TableError} (read : files.read paths input = .ok text)
      (loaded : Snapshot.ofText? text = some snapshot)
      (created : paths files .creating path = .ok place)
      (refused : (snapshot.restore.recalculate stopOnError).1.tableText? delimiter = .error error) :
      RefusesTable paths files place (.recalc input (some path) .csv delimiter stopOnError)

/-- When a table is refused, its file is left empty. -/
theorem RefusesTable.run_spec (refuses : command.RefusesTable paths files place) :
    (command.run paths files).1.exit = 1 ∧ ∀ other : String, (command.run paths files).2[other]? =
      if place = other then some (if files[place]? = some .nothing then .nothing else .text "")
      else files[other]? := by
  rw [run_eq]
  cases refuses with
  | @recalc input path text delimiter stopOnError snapshot error read loaded created refused =>
    have ends : (Command.recalc input (some path) .csv delimiter stopOnError).ending paths files =
        Outcome.failure (progress (snapshot.restore.recalculate stopOnError).2)
          (.writeFailed (some path) error) (some "") := by
      simp only [ending, input?, output?, outcome, Option.getD_some, runRecalc, read, loaded,
        created, Except.map, sheetText, refused]
    rw [ends]
    exact ⟨rfl, fun other ↦ Files.getElem?_write created "" other⟩

/-- A recalculation that fails has no file to write, or it refuses a table. -/
theorem file_eq_none_of_failure {input : String} {output : Option String} {format : OutputFormat}
    {delimiter : Char} {stopOnError : Bool} {content : Except FileFault String}
    {creation : Except FileFault Unit}
    (failed : (runRecalc input output format delimiter stopOnError content creation).exit ≠ 0) :
    (runRecalc input output format delimiter stopOnError content creation).file = none ∨
      ∃ path text snapshot error, output = some path ∧ format = .csv ∧ content = .ok text ∧
        creation = .ok () ∧ Snapshot.ofText? text = some snapshot ∧
          (snapshot.restore.recalculate stopOnError).1.tableText? delimiter = .error error := by
  unfold runRecalc at failed ⊢
  cases content with
  | error fault => exact Or.inl rfl
  | ok text =>
    simp only at failed ⊢
    cases loaded : Snapshot.ofText? text with
    | none => exact Or.inl rfl
    | some snapshot =>
      simp only [loaded] at failed ⊢
      cases output with
      | none =>
        left
        cases sheetText (snapshot.restore.recalculate stopOnError).1 format delimiter <;> rfl
      | some path =>
        cases creation with
        | error fault => exact Or.inl rfl
        | ok =>
          cases format with
          | json => exact absurd rfl failed
          | csv =>
            simp only [sheetText] at failed
            cases refused : (snapshot.restore.recalculate stopOnError).1.tableText? delimiter with
            | ok table =>
              rw [refused] at failed
              exact absurd rfl failed
            | error error =>
              exact Or.inr ⟨path, text, snapshot, error, rfl, rfl, rfl, rfl, loaded, refused⟩

/-- A failed command leaves all files as they were, unless it refuses a table. -/
theorem files_eq_of_failure (failed : (command.run paths files).1.exit ≠ 0) :
    (command.run paths files).2 = files ∨ ∃ place, command.RefusesTable paths files place := by
  have ends : (command.ending paths files).exit ≠ 0 := by
    rwa [run_eq] at failed
  cases command with
  | eval rows columns cells target formula => exact Or.inl rfl
  | functions => exact Or.inl rfl
  | recalc input output format delimiter stopOnError =>
    rcases file_eq_none_of_failure ends with
      noFile | ⟨path, text, snapshot, error, rfl, rfl, read, created, loaded, refused⟩
    · have same := @run_of_file_eq_none paths files
        (.recalc input output format delimiter stopOnError) noFile
      exact Or.inl (congrArg Prod.snd same)
    · have resolved : ∃ place, paths files .creating path = .ok place := by
        cases found : paths files .creating path with
        | ok place => exact ⟨place, rfl⟩
        | error fault =>
          rw [output?, Option.getD_some, found] at created
          cases created
      obtain ⟨place, resolved⟩ := resolved
      exact Or.inr ⟨place, .recalc read loaded resolved refused⟩

end Command

/-! ### Invocations -/

namespace Invocation

/-- The command of an invocation comes to refuse a table for the file at a place. -/
def RefusesTable (invocation : Invocation) (paths : PathResolution) (files : Files)
    (place : String) : Prop :=
  ∃ command, invocation.check = .ok command ∧ command.RefusesTable paths files place

variable {invocation : Invocation}

theorem RefusesTable.getElem?_run (refuses : invocation.RefusesTable paths files place)
    (other : String) : (invocation.run paths files).2[other]? =
      if place = other then some (if files[place]? = some .nothing then .nothing else .text "")
      else files[other]? := by
  obtain ⟨command, checked, refuses⟩ := refuses
  rw [run, checked]
  exact refuses.run_spec.2 other

theorem files_eq_of_failure (failed : (invocation.run paths files).1.exit ≠ 0) :
    (invocation.run paths files).2 = files ∨
      ∃ place, invocation.RefusesTable paths files place := by
  unfold RefusesTable
  rw [run] at failed ⊢
  cases checked : invocation.check with
  | error fault => exact Or.inl rfl
  | ok command =>
    rw [checked] at failed
    rcases Command.files_eq_of_failure failed with same | ⟨place, refuses⟩
    · exact Or.inl same
    · exact Or.inr ⟨place, command, rfl, refuses⟩

/-- When an invocation fails, a file is as it was or is left empty because a table is refused that
would stand there. So all existing files keep their contents exactly if none with a content, the
null device apart, stands where a refused table would be written. -/
theorem failure_keeps_files (failed : (invocation.run paths files).1.exit ≠ 0) :
    (∀ place : String, (invocation.run paths files).2[place]? = files[place]? ∨
      invocation.RefusesTable paths files place ∧
        (invocation.run paths files).2[place]? = some (.text "")) ∧
    ((∀ (place : String) (content : FileContent), files[place]? = some content →
        (invocation.run paths files).2[place]? = some content) ↔
      ∀ (place : String) (content : FileContent), invocation.RefusesTable paths files place →
        files[place]? = some content → content = .text "" ∨ content = .nothing) := by
  have each : ∀ place : String, (invocation.run paths files).2[place]? = files[place]? ∨
      invocation.RefusesTable paths files place ∧
        (invocation.run paths files).2[place]? = some (.text "") := by
    intro place
    rcases files_eq_of_failure failed with same | ⟨emptied, refuses⟩
    · exact Or.inl (by rw [same])
    · rw [refuses.getElem?_run]
      by_cases here : emptied = place
      · subst here
        rw [if_pos rfl]
        by_cases device : files[emptied]? = some .nothing
        · exact Or.inl (by rw [if_pos device, device])
        · exact Or.inr ⟨refuses, by rw [if_neg device]⟩
      · exact Or.inl (if_neg here)
  refine ⟨each, fun kept place content refuses stored ↦ ?_, fun empty place content stored ↦ ?_⟩
  · have after := kept place content stored
    rw [refuses.getElem?_run, if_pos rfl, Option.some.injEq] at after
    split at after
    · exact Or.inr after.symm
    · exact Or.inl after.symm
  · rcases each place with same | ⟨refuses, emptied⟩
    · rw [same, stored]
    · rcases empty place content refuses stored with rfl | rfl
      · exact emptied
      · rw [refuses.getElem?_run, if_pos rfl, if_pos stored]

/-- Paths that are themselves the places of their files, with a further directory beside these. -/
def plainPaths : PathResolution := fun _ _ path ↦
  if path = "" then .error .notFound
  else if path = "sub" then .error .isDirectory
  else .ok path

/-- A snapshot without cells. -/
def snapshotText : FileContent :=
  .text "\x7b\"cells\":\x7b\x7d,\"rowCount\":1,\"columnCount\":1\x7d"

/-- A snapshot is to be written to a file as a table with a delimiter that is refused. -/
def toTable (output : String) : Invocation :=
  ⟨.recalc, [⟨.output, output⟩, ⟨.format, "csv"⟩, ⟨.delimiter, "§"⟩], some "in.json"⟩

/-- A refused table for a new file in a directory leaves the existing files as they were. -/
theorem failure_keeps_files_beside_new_one :
    let files : Files := .ofList [("in.json", snapshotText), ("sub/keep.csv", .text "kept")]
    ((toTable "sub/out.csv").run plainPaths files).1.exit = 1 ∧
      ∀ (place : String) (content : FileContent), files[place]? = some content →
        ((toTable "sub/out.csv").run plainPaths files).2[place]? = some content := by
  intro files
  have failed : ((toTable "sub/out.csv").run plainPaths files).1.exit = 1 := by decide +kernel
  obtain ⟨-, kept⟩ := failure_keeps_files (failed.trans_ne Nat.one_ne_zero)
  refine ⟨failed, kept.mpr ?_⟩
  rintro place content ⟨command, checked, refuses⟩ stored
  have known : (toTable "sub/out.csv").check =
      .ok (.recalc "in.json" "sub/out.csv" .csv '§' false) := rfl
  obtain rfl := Except.ok.inj (known.symm.trans checked)
  cases refuses with
  | recalc read loaded created refused =>
    have leads : plainPaths files .creating "sub/out.csv" = .ok "sub/out.csv" := by decide +kernel
    obtain rfl := Except.ok.inj (leads.symm.trans created)
    have absent : files["sub/out.csv"]? = none := by decide +kernel
    exact absurd (absent.symm.trans stored) nofun

/-- A refused table that was to replace the snapshot itself leaves its file empty. -/
theorem failure_empties_input :
    let files : Files := .ofList [("in.json", snapshotText)]
    ((toTable "in.json").run plainPaths files).1.exit = 1 ∧
      files["in.json"]? = some snapshotText ∧ snapshotText ≠ .text "" ∧
        ((toTable "in.json").run plainPaths files).2["in.json"]? = some (.text "") := by
  intro files
  decide +kernel

end Invocation

end Worksheet
