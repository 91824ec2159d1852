import Worksheet.Command.Options
import Worksheet.Recalculation
import Worksheet.Snapshot.Text
import Worksheet.Table

/-!
# Running commands

What a command prints, the status it ends with and the content of the file it writes, as a function
of its options and of what becomes of the files that it uses. A failure is printed with its context
and its cause.
-/

set_option autoImplicit false
set_option relaxedAutoImplicit false

namespace Worksheet

/-- What happened to a file that could not be read or created. -/
inductive FileFault where
  /-- There is no such file, or no directory for it. -/
  | notFound
  /-- A directory stands in its place. -/
  | isDirectory
  /-- A part of its path is no directory. -/
  | notDirectory
  /-- Its path, or a name on it, is too long. -/
  | nameTooLong
  /-- Its content is no text. -/
  | notText
  /-- Something else, in the words of the system. -/
  | other (message : String)
deriving DecidableEq, Repr

/-- The wording of a fault. -/
def FileFault.message : FileFault → String
  | notFound => "No such file or directory (os error 2)"
  | isDirectory => "Is a directory (os error 21)"
  | notDirectory => "Not a directory (os error 20)"
  | nameTooLong => "File name too long (os error 36)"
  | notText => "stream did not contain valid UTF-8"
  | other message => message

/-- How a command ended. -/
structure Outcome where
  /-- The status it ends with: 0 for success, 1 for a failure, 2 for a faulty option. -/
  exit : Nat
  /-- What it printed as its output. -/
  stdout : String
  /-- What it printed about its progress and failures. -/
  stderr : String
  /-- The content of the output file, if it created one. -/
  file : Option String
deriving DecidableEq, Repr

/-! ### Failures -/

/-- Why a command failed. -/
inductive CommandError where
  /-- The cell that a formula is evaluated as has no address. -/
  | invalidTarget (target : String) (error : SheetError)
  /-- The input cannot be read. -/
  | openFailed (path : String) (fault : FileFault)
  /-- The input is no snapshot. -/
  | invalidSnapshot (path : String)
  /-- The output cannot be created. -/
  | createFailed (path : String) (fault : FileFault)
  /-- The sheet cannot be written as a table, to a file or to the output. -/
  | writeFailed (path : Option String) (error : TableError)
deriving DecidableEq, Repr

namespace CommandError

/-- What was being done. -/
def context : CommandError → String
  | invalidTarget target _ => "Invalid target cell '" ++ target ++ "'"
  | openFailed path _ => "Failed to open '" ++ path ++ "'"
  | invalidSnapshot path => "'" ++ path ++ "' is not a valid snapshot"
  | createFailed path _ => "Failed to create '" ++ path ++ "'"
  | writeFailed (some path) _ => "Failed to write '" ++ path ++ "'"
  | writeFailed none _ => "Failed to write to stdout"

/-- What went wrong, where that is said. -/
def cause? : CommandError → Option String
  | invalidTarget _ error => some error.message
  | openFailed _ fault => some fault.message
  | invalidSnapshot _ => none
  | createFailed _ fault => some fault.message
  | writeFailed _ error => some error.message

/-- A text with every line after the first set in by four spaces. -/
def setIn (text : String) : String :=
  String.ofList (text.toList.flatMap fun c ↦
    if c = '\n' then ['\n', ' ', ' ', ' ', ' '] else [c])

/-- What is printed about a failure. -/
def report (error : CommandError) : String :=
  "Error: " ++ error.context ++
    match error.cause? with
    | some cause => "\n\nCaused by:\n    " ++ setIn cause ++ "\n"
    | none => "\n"

end CommandError

namespace Outcome

/-- A success with an output. -/
def success (stdout : String) : Outcome := ⟨0, stdout, "", none⟩

/-- A failure after some progress. -/
def failure (progress : String) (error : CommandError) (file : Option String) : Outcome :=
  ⟨1, "", progress ++ error.report, file⟩

end Outcome

namespace Command

/-! ### Listing -/

/-- A line of the listing. -/
def listingLine (definition : FunctionDefinition) : String :=
  let signature := definition.signature
  "  " ++ signature ++ String.ofList (List.replicate (14 - signature.length) ' ') ++ " " ++
    definition.description ++ "\n"

/-- The lines of some functions, after the functions of a group. A new group has a heading, and a
blank line before it unless it is the first. -/
def listingAfter : Option Category → List FunctionDefinition → String
  | _, [] => ""
  | current, definition :: later =>
    let heading :=
      if current = some definition.category then ""
      else (if current.isSome then "\n" else "") ++ definition.category.heading ++ "\n"
    heading ++ listingLine definition ++ listingAfter (some definition.category) later

/-- The listing of the functions of a registry. -/
def listing (registry : Registry) : String := listingAfter none registry.definitions

/-! ### Evaluating -/

/-- A new sheet with some cells. -/
def sheetOf (rows columns : UInt32) (cells : List (Address × String)) : Sheet :=
  cells.foldl (fun sheet cell ↦ (sheet.enterAt cell.1 cell.2).1) (Sheet.ofExtent rows columns)

/-- Evaluates a formula as the content of a cell of a sheet. -/
def runEval (sheet : Sheet) (target formula : String) : Outcome :=
  match sheet.applyFormula target formula with
  | .ok (_, value) => .success (value.shown ++ "\n")
  | .error error => .failure "" (.invalidTarget target error) none

/-! ### Recalculating -/

/-- What is printed about a recalculation. -/
def progress (report : RecalculationReport) : String :=
  "Calculated " ++ toString report.calculatedCount ++ " of " ++ toString report.formulaCount ++
    " formulas (" ++ toString report.errorCount ++ " errors)\n"

/-- The text of a sheet in a form. -/
def sheetText (sheet : Sheet) (format : OutputFormat) (delimiter : Char) :
    Except TableError String :=
  match format with
  | .json => .ok sheet.snapshot.indentedText
  | .csv => sheet.tableText? delimiter

/-- Recalculates the snapshot that a file answers with, and writes the sheet. The output file is
created, and so emptied, before the text of the sheet is made. -/
def runRecalc (input : String) (output : Option String) (format : OutputFormat)
    (delimiter : Char) (stopOnError : Bool) (content : Except FileFault String)
    (creation : Except FileFault Unit) : Outcome :=
  match content with
  | .error fault => .failure "" (.openFailed input fault) none
  | .ok text =>
    match Snapshot.ofText? text with
    | none => .failure "" (.invalidSnapshot input) none
    | some snapshot =>
      let (sheet, report) := snapshot.restore.recalculate stopOnError
      match output with
      | none =>
        match sheetText sheet format delimiter with
        | .ok text => ⟨0, text, progress report, none⟩
        | .error error => .failure (progress report) (.writeFailed none error) none
      | some path =>
        match creation with
        | .error fault => .failure (progress report) (.createFailed path fault) none
        | .ok () =>
          match sheetText sheet format delimiter with
          | .ok text => ⟨0, "", progress report ++ "Wrote '" ++ path ++ "'\n", some text⟩
          | .error error =>
            .failure (progress report) (.writeFailed (some path) error) (some "")

/-! ### All commands -/

/-- The file that a command reads. -/
def input? : Command → Option String
  | .recalc input _ _ _ _ => some input
  | _ => none

/-- The file that a command writes. -/
def output? : Command → Option String
  | .recalc _ output _ _ _ => output
  | _ => none

/-- How a command ends, given the text of its input file and whether its output file can be created.
Commands without such files take no notice of these. -/
def outcome (command : Command) (content : Except FileFault String)
    (creation : Except FileFault Unit) : Outcome :=
  match command with
  | .eval rows columns cells target formula => runEval (sheetOf rows columns cells) target formula
  | .functions => .success (listing Registry.builtIn)
  | .recalc input output format delimiter stopOnError =>
    runRecalc input output format delimiter stopOnError content creation

end Command

/-- How a faulty invocation ends. -/
def UsageFault.outcome (fault : UsageFault) : Outcome := ⟨2, "", fault.message, none⟩

end Worksheet
