import Worksheet.Command.Arguments
import Worksheet.Command.Run

/-!
# The program

The command line program. It reads the file that a command needs, carries the command out, writes
the file that comes of it, and prints the outcome.
-/

set_option autoImplicit false
set_option relaxedAutoImplicit false

namespace Worksheet.Program

/-- The number of an error of the system, which some calls give with a minus sign. -/
def errorNumber (code : UInt32) : UInt32 := if code < 0x80000000 then code else 0 - code

/-- The fault behind an error of the system. -/
def faultOf : IO.Error → FileFault
  | .noFileOrDirectory _ _ _ => .notFound
  | .inappropriateType _ code _ => if errorNumber code = 20 then .notDirectory else .isDirectory
  | .invalidArgument _ code details =>
    if errorNumber code = 36 then .nameTooLong else .other details
  | error => .other (toString error)

/-- Reads the text of a file. -/
def readText (path : String) : IO (Except FileFault String) := do
  try
    match String.fromUTF8? (← IO.FS.readBinFile path) with
    | some text => return .ok text
    | none => return .error .notText
  catch error => return .error (faultOf error)

/-- Writes a file, in place of what it held. -/
def writeText (path text : String) : IO (Except FileFault Unit) := do
  try
    IO.FS.writeFile path text
    return .ok ()
  catch error => return .error (faultOf error)

/-- Carries out a command. Its output file is touched only when the command comes to write it. -/
def perform (command : Command) : IO Outcome := do
  let content ←
    match command.input? with
    | some path => readText path
    | none => pure (.ok "")
  let outcome := command.outcome content (.ok ())
  match command.output?, outcome.file with
  | some path, some text =>
    match ← writeText path text with
    | .ok () => return outcome
    | .error fault => return command.outcome content (.error fault)
  | _, _ => return outcome

end Worksheet.Program

/-- Carries out the command that the arguments stand for, and ends with its status. -/
def main (arguments : List String) : IO UInt32 := do
  let outcome ←
    match Worksheet.Command.ofArguments arguments with
    | .ok command => Worksheet.Program.perform command
    | .error fault => pure fault.outcome
  (← IO.getStderr).putStr outcome.stderr
  (← IO.getStdout).putStr outcome.stdout
  return UInt32.ofNat outcome.exit
