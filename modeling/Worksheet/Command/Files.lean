import Std.Data.ExtTreeMap
import Worksheet.Command.Run

/-!
# Commands among files

What a command does to the files around it. Which file a path leads to, and whether it leads to one
at all, is up to the system with its directories, links and permissions. How the system follows
paths is a parameter (`PathResolution`), of which nothing is assumed. Paths to one file lead to one
place.
-/

set_option autoImplicit false
set_option relaxedAutoImplicit false

namespace Worksheet

/-- The content of a file. -/
inductive FileContent where
  /-- A text. -/
  | text (text : String)
  /-- Bytes that are no text. -/
  | bytes (bytes : List UInt8)
  /-- Nothing, whatever is written, as of the null device. -/
  | nothing
deriving DecidableEq

/-- Files, by their places in the system. -/
abbrev Files := Std.ExtTreeMap String FileContent

/-- What a path is followed for. -/
inductive FileUse where
  /-- To read the file. -/
  | reading
  /-- To create the file, or to empty it if there is one. -/
  | creating
deriving DecidableEq, Repr

/-- How the system follows paths: the place that a path leads to, whether or not there is a file, or
the fault for which it leads nowhere. It may depend on the files and on what the path is followed
for. -/
abbrev PathResolution := Files → FileUse → String → Except FileFault String

variable (paths : PathResolution)

namespace Files

/-- The text of a content. -/
def textOf : FileContent → Except FileFault String
  | .text text => .ok text
  | .bytes _ => .error .notText
  | .nothing => .ok ""

/-- The text of the file that a path leads to. -/
def read (files : Files) (path : String) : Except FileFault String := do
  match files[← paths files .reading path]? with
  | some content => textOf content
  | none => .error .notFound

/-- Writes a file, in place of what it held. -/
def write (files : Files) (path text : String) : Files :=
  match paths files .creating path with
  | .ok place => files.alter place fun content ↦
      if content = some .nothing then some .nothing else some (.text text)
  | .error _ => files

end Files

/-- Carries out a command among files. -/
def Command.run (command : Command) (files : Files) : Outcome × Files :=
  let content := files.read paths (command.input?.getD "")
  let creation := (paths files .creating (command.output?.getD "")).map fun _ ↦ ()
  let outcome := command.outcome content creation
  match command.output?, outcome.file with
  | some path, some text => (outcome, files.write paths path text)
  | _, _ => (outcome, files)

/-- Checks an invocation and carries its command out among files. -/
def Invocation.run (invocation : Invocation) (files : Files) : Outcome × Files :=
  match invocation.check with
  | .error fault => (fault.outcome, files)
  | .ok command => command.run paths files

end Worksheet
