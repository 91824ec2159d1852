import Worksheet.Address.Text
import Worksheet.Text.Terminal

/-!
# Command options

The commands and their options. An `Invocation` has the options as texts, in the order in which they
are given, and `Invocation.check` turns it into a `Command` or reports the first fault in that
order.
-/

set_option autoImplicit false
set_option relaxedAutoImplicit false

namespace Worksheet

/-! ### Commands -/

/-- The form in which a recalculated sheet is written. -/
inductive OutputFormat where
  /-- The text of its snapshot. -/
  | json
  /-- A table of its displayed values. -/
  | csv
deriving DecidableEq, Repr

/-- A command with checked options. -/
inductive Command where
  /-- Evaluates a formula on a new sheet with some cells. -/
  | eval (rows columns : UInt32) (cells : List (Address × String)) (target formula : String)
  /-- Recalculates the snapshot in a file. -/
  | recalc (input : String) (output : Option String) (format : OutputFormat) (delimiter : Char)
    (stopOnError : Bool)
  /-- Lists the functions. -/
  | functions

/-- The name of a command. -/
inductive CommandName where
  /-- The command that evaluates a formula. -/
  | eval
  /-- The command that recalculates a snapshot. -/
  | recalc
  /-- The command that lists the functions. -/
  | functions
deriving DecidableEq, Repr

/-! ### Options as they are given -/

/-- The name of an option. -/
inductive OptionName where
  /-- The number of rows of a new sheet. -/
  | rows
  /-- The number of columns of a new sheet. -/
  | columns
  /-- The cell that a formula is evaluated as. -/
  | target
  /-- The file that is written. -/
  | output
  /-- The form in which it is written. -/
  | format
  /-- The delimiter of a table. -/
  | delimiter
  /-- A cell of a new sheet. -/
  | cell
  /-- Whether to stop after a failure. -/
  | stopOnError
  /-- How much is said about the work. -/
  | verbose
deriving DecidableEq, Repr

namespace OptionName

/-- All options. -/
def all : List OptionName :=
  [rows, columns, target, output, format, delimiter, cell, stopOnError, verbose]

/-- The word by which an option is given. -/
def flag : OptionName → String
  | rows => "--rows"
  | columns => "--columns"
  | target => "--target"
  | output => "--output"
  | format => "--format"
  | delimiter => "--delimiter"
  | cell => "--cell"
  | stopOnError => "--stop-on-error"
  | verbose => "--verbose"

/-- How an option is named in messages. -/
def label : OptionName → String
  | rows => "--rows <ROWS>"
  | columns => "--columns <COLUMNS>"
  | target => "--target <TARGET>"
  | output => "--output <OUTPUT>"
  | format => "--format <FORMAT>"
  | delimiter => "--delimiter <DELIMITER>"
  | cell => "--cell <CELLS>"
  | stopOnError => "--stop-on-error"
  | verbose => "--verbose..."

/-- Whether an option comes with a text. -/
def takesText : OptionName → Bool
  | stopOnError => false
  | verbose => false
  | _ => true

/-- Whether an option may be given more than once. -/
def repeats : OptionName → Bool
  | cell => true
  | verbose => true
  | _ => false

/-- Whether a command takes an option. -/
def belongsTo : OptionName → CommandName → Bool
  | rows, _ => true
  | columns, _ => true
  | verbose, _ => true
  | target, command => command = .eval
  | cell, command => command = .eval
  | output, command => command = .recalc
  | format, command => command = .recalc
  | delimiter, command => command = .recalc
  | stopOnError, command => command = .recalc

end OptionName

/-- An option as it is given. The text of an option that comes without one is empty. -/
structure GivenOption where
  /-- The option. -/
  name : OptionName
  /-- Its text. -/
  text : String
deriving DecidableEq, Repr

/-- A command with its options in the order in which they are given, and its operand. -/
structure Invocation where
  /-- The command. -/
  name : CommandName
  /-- The options. -/
  options : List GivenOption
  /-- The formula to evaluate, or the file that is read. -/
  operand : Option String
deriving DecidableEq, Repr

/-! ### Faults -/

/-- What keeps a text from being a whole number of 64 bits. -/
inductive IntegerFault where
  /-- There is no text. -/
  | empty
  /-- A character is no digit. -/
  | invalidDigit
  /-- The number is too large. -/
  | tooLarge
  /-- The number is too small. -/
  | tooSmall
deriving DecidableEq, Repr

/-- The wording of a fault. -/
def IntegerFault.message : IntegerFault → String
  | empty => "cannot parse integer from empty string"
  | invalidDigit => "invalid digit found in string"
  | tooLarge => "number too large to fit in target type"
  | tooSmall => "number too small to fit in target type"

/-- What is wrong with the text of an option. -/
inductive OptionReason where
  /-- It is no whole number. -/
  | integer (fault : IntegerFault)
  /-- It is a whole number that is no count of lines. -/
  | outsideRange (value : Int)
  /-- It is no form of output. -/
  | unknownFormat
  /-- It is empty where a character is wanted. -/
  | noCharacter
  /-- It has several characters where one is wanted. -/
  | severalCharacters
  /-- It has no equals sign between an address and a value. -/
  | noAssignment (text : String)
  /-- Its address is faulty. -/
  | address (error : SheetError)
deriving DecidableEq, Repr

/-- The wording of a reason, as it follows the name of the option. -/
def OptionReason.wording : OptionReason → String
  | integer fault => ": " ++ fault.message
  | outsideRange value => ": " ++ toString value ++ " is not in 0..=4294967295"
  | unknownFormat =>
    "\n  [possible values: " ++ Text.styled "json" ++ ", " ++ Text.styled "csv" ++ "]"
  | noCharacter => ": cannot parse char from empty string"
  | severalCharacters => ": too many characters in string"
  | noAssignment text => ": expected ADDRESS=VALUE, got '" ++ text ++ "'"
  | address error => ": " ++ error.message

/-- Why an invocation is no command. -/
inductive UsageFault where
  /-- The text of an option is wrong. -/
  | invalid (option : OptionName) (text : String) (reason : OptionReason)
  /-- An option or operand, which has this label, has no text. -/
  | missing (label : String)
  /-- An option is given twice. -/
  | repeated (option : OptionName)
  /-- An argument has no meaning for the command. -/
  | unexpected (argument : String)
  /-- The operand, which has this label, is left out. -/
  | noOperand (label : String)
  /-- No command is named. -/
  | noCommand
  /-- There is no command of this name. -/
  | unknownCommand (name : String)
deriving DecidableEq, Repr

namespace UsageFault

/-- A text in quotes and in a style of its own. -/
def styledQuote (text : String) : String := "'" ++ Text.styled text ++ "'"

/-- What is said about a fault. Names of options and texts of the user have a style of their own. -/
def wording : UsageFault → String
  | invalid option text reason =>
    "invalid value " ++ styledQuote text ++ " for " ++ styledQuote option.label ++ reason.wording
  | missing label => "a value is required for " ++ styledQuote label ++ " but none was supplied"
  | repeated option =>
    "the argument " ++ styledQuote option.label ++ " cannot be used multiple times"
  | unexpected argument => "unexpected argument " ++ styledQuote argument ++ " found"
  | noOperand label =>
    "the following required arguments were not provided:\n  " ++ Text.styled label
  | noCommand => "a command is required"
  | unknownCommand name => "unrecognized subcommand " ++ styledQuote name

/-- What is printed about a fault where no terminal shows it. -/
def message (fault : UsageFault) : String :=
  Text.stripped <|
    Text.styled "error:" ++ " " ++ fault.wording ++ "\n\nFor more information, try " ++
      styledQuote "--help" ++ ".\n"

end UsageFault

/-! ### Checks of texts -/

namespace GivenOption

/-- What a whole number of 64 bits with a sign is below; it is at least the negation of this. -/
def integerBound : Int := 0x8000000000000000

/-- Reads digits onto a number that moves away from zero, and fails at the first digit with which
the number leaves its bounds. -/
def readDigits (negative : Bool) : Int → List Char → Except IntegerFault Int
  | value, [] => .ok value
  | value, c :: rest =>
    if !c.isDigit then .error .invalidDigit
    else
      let digit : Int := c.toNat - '0'.toNat
      let next := if negative then 10 * value - digit else 10 * value + digit
      if next < -integerBound then .error .tooSmall
      else if integerBound ≤ next then .error .tooLarge
      else readDigits negative next rest

/-- Reads a whole number of 64 bits: an optional sign and digits. -/
def readInteger : List Char → Except IntegerFault Int
  | [] => .error .empty
  | ['+'] => .error .invalidDigit
  | ['-'] => .error .invalidDigit
  | '+' :: digits => readDigits false 0 digits
  | '-' :: digits => readDigits true 0 digits
  | digits => readDigits false 0 digits

/-- The count of lines that an option has as its text. -/
def count (given : GivenOption) : Except UsageFault UInt32 :=
  match readInteger given.text.toList with
  | .error fault => .error (.invalid given.name given.text (.integer fault))
  | .ok value =>
    if 0 ≤ value ∧ value < Address.lineBound then .ok (UInt32.ofNat value.toNat)
    else .error (.invalid given.name given.text (.outsideRange value))

/-- The name of a file that an option has as its text. -/
def path (given : GivenOption) : Except UsageFault String :=
  if given.text = "" then .error (.missing given.name.label) else .ok given.text

/-- The form of output that an option has as its text. -/
def outputFormat (given : GivenOption) : Except UsageFault OutputFormat :=
  if given.text = "" then .error (.missing given.name.label)
  else if given.text = "json" then .ok .json
  else if given.text = "csv" then .ok .csv
  else .error (.invalid given.name given.text .unknownFormat)

/-- The one character that an option has as its text. -/
def character (given : GivenOption) : Except UsageFault Char :=
  match given.text.toList with
  | [character] => .ok character
  | [] => .error (.invalid given.name given.text .noCharacter)
  | _ => .error (.invalid given.name given.text .severalCharacters)

/-- The address and the typed text that an option has on the two sides of an equals sign. -/
def assignment (given : GivenOption) : Except UsageFault (Address × String) :=
  match given.text.toList.dropWhile (· ≠ '=') with
  | [] => .error (.invalid given.name given.text (.noAssignment given.text))
  | _ :: input =>
    match Address.parse (String.ofList (Text.trim (given.text.toList.takeWhile (· ≠ '=')))) with
    | .error error => .error (.invalid given.name given.text (.address error))
    | .ok address => .ok (address, String.ofList input)

end GivenOption

/-! ### Checked options -/

/-- The values of all options. -/
structure Options where
  /-- The number of rows of a new sheet. -/
  rows : UInt32
  /-- The number of columns of a new sheet. -/
  columns : UInt32
  /-- The cell that a formula is evaluated as. -/
  target : String
  /-- The file that is written. -/
  output : Option String
  /-- The form in which it is written. -/
  format : OutputFormat
  /-- The delimiter of a table. -/
  delimiter : Char
  /-- The cells of a new sheet. -/
  cells : List (Address × String)
  /-- Whether to stop after a failure. -/
  stopOnError : Bool

namespace Options

/-- The values of options that are not given. -/
def usual : Options where
  rows := 100
  columns := 26
  target := "A1"
  output := none
  format := .json
  delimiter := ','
  cells := []
  stopOnError := false

/-- Takes an option in. -/
def add (options : Options) (given : GivenOption) : Except UsageFault Options :=
  match given.name with
  | .rows => given.count.map fun rows ↦ { options with rows }
  | .columns => given.count.map fun columns ↦ { options with columns }
  | .target => .ok { options with target := given.text }
  | .output => given.path.map fun path ↦ { options with output := some path }
  | .format => given.outputFormat.map fun format ↦ { options with format }
  | .delimiter => given.character.map fun delimiter ↦ { options with delimiter }
  | .cell => given.assignment.map fun cell ↦ { options with cells := options.cells ++ [cell] }
  | .stopOnError => .ok { options with stopOnError := true }
  | .verbose => .ok options

/-- Takes options in from left to right, after others whose names are known. -/
def addAll (command : CommandName) :
    List OptionName → Options → List GivenOption → Except UsageFault Options
  | _, options, [] => .ok options
  | earlier, options, given :: later =>
    if !given.name.belongsTo command then .error (.unexpected given.name.flag)
    else if earlier.contains given.name && !given.name.repeats then .error (.repeated given.name)
    else do addAll command (given.name :: earlier) (← options.add given) later

end Options

namespace Invocation

/-- Checks an invocation: its options from left to right, and then its operand. -/
def check (invocation : Invocation) : Except UsageFault Command := do
  let options ← Options.addAll invocation.name [] .usual invocation.options
  match invocation.name, invocation.operand with
  | .eval, some formula =>
    return .eval options.rows options.columns options.cells options.target formula
  | .eval, none => throw (.noOperand "<FORMULA>")
  | .recalc, some "" => throw (.missing "<INPUT>")
  | .recalc, some input =>
    return .recalc input options.output options.format options.delimiter options.stopOnError
  | .recalc, none => throw (.noOperand "<INPUT>")
  | .functions, none => return .functions
  | .functions, some operand => throw (.unexpected operand)

end Invocation

end Worksheet
