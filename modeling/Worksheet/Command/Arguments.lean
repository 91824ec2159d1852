import Worksheet.Command.Options

/-!
# Command lines

Taking the arguments of a command line apart. An option is given by its word or its letter, and its
text follows in the same argument or in the next one. Letters of options without a text can share an
argument. The first other argument is the name of the command and the second one its operand, and
after `--` every argument counts as one of these.
-/

set_option autoImplicit false
set_option relaxedAutoImplicit false

namespace Worksheet

/-- The command with a name. -/
def CommandName.ofWord? : String → Option CommandName
  | "eval" => some eval
  | "recalc" => some recalc
  | "functions" => some functions
  | _ => none

/-- The letter by which an option can be given. -/
def OptionName.letter? : OptionName → Option Char
  | rows => none
  | columns => none
  | target => some 't'
  | output => some 'o'
  | format => some 'f'
  | delimiter => some 'd'
  | cell => some 'c'
  | stopOnError => none
  | verbose => some 'v'

/-- The option with a word. -/
def OptionName.ofFlag? (flag : String) : Option OptionName :=
  OptionName.all.find? fun option ↦ option.flag = flag

/-- The option with a letter. -/
def OptionName.ofLetter? (letter : Char) : Option OptionName :=
  OptionName.all.find? fun option ↦ option.letter? = some letter

/-- What is known of a command line after some of its arguments. -/
structure ArgumentReading where
  /-- The command, once it is named. -/
  command : Option CommandName
  /-- The options, the last one first. -/
  options : List GivenOption
  /-- The operand, once it is given. -/
  operand : Option String
  /-- The option whose text is the next argument. -/
  awaiting : Option OptionName
  /-- Whether no more options can come. -/
  optionsOver : Bool

namespace ArgumentReading

/-- What is known before the first argument. -/
def start : ArgumentReading := ⟨none, [], none, none, false⟩

/-- Takes in an option with its text. -/
def give (reading : ArgumentReading) (name : OptionName) (text : String) : ArgumentReading :=
  { reading with options := ⟨name, text⟩ :: reading.options, awaiting := none }

/-- Takes in the name of the command or its operand. -/
def addPlain (reading : ArgumentReading) (argument : String) :
    Except UsageFault ArgumentReading :=
  match reading.command, reading.operand with
  | none, _ =>
    match CommandName.ofWord? argument with
    | some command => .ok { reading with command := some command }
    | none => .error (.unknownCommand argument)
  | some _, none => .ok { reading with operand := some argument }
  | some _, some _ => .error (.unexpected argument)

/-- Takes in an option that is given by its word, with what follows the word. -/
def addFlag (reading : ArgumentReading) (flag : String) (after : List Char) :
    Except UsageFault ArgumentReading :=
  match OptionName.ofFlag? flag, after with
  | none, _ => .error (.unexpected flag)
  | some option, '=' :: text =>
    if option.takesText then .ok (reading.give option (String.ofList text))
    else .error (.unexpected (String.ofList text))
  | some option, _ =>
    if option.takesText then .ok { reading with awaiting := some option }
    else .ok (reading.give option "")

/-- Takes in options that are given by their letters. What follows the letter of an option with a
text is that text, where an equals sign may come first. -/
def addLetters (reading : ArgumentReading) : List Char → Except UsageFault ArgumentReading
  | [] => .ok reading
  | letter :: after =>
    match OptionName.ofLetter? letter with
    | none => .error (.unexpected (String.ofList ['-', letter]))
    | some option =>
      if !option.takesText then (reading.give option "").addLetters after
      else
        match after with
        | [] => .ok { reading with awaiting := some option }
        | '=' :: text => .ok (reading.give option (String.ofList text))
        | text => .ok (reading.give option (String.ofList text))

/-- Takes in an argument. -/
def add (reading : ArgumentReading) (argument : String) : Except UsageFault ArgumentReading :=
  match reading.awaiting, argument.toList with
  | some option, '-' :: _ :: _ => .error (.missing option.label)
  | some option, _ => .ok (reading.give option argument)
  | none, chars =>
    if reading.optionsOver then reading.addPlain argument
    else
      match chars with
      | ['-', '-'] => .ok { reading with optionsOver := true }
      | '-' :: '-' :: _ =>
        reading.addFlag (String.ofList (chars.takeWhile (· ≠ '='))) (chars.dropWhile (· ≠ '='))
      | '-' :: letter :: after => reading.addLetters (letter :: after)
      | _ => reading.addPlain argument

/-- The invocation, once all arguments have been read. -/
def finish (reading : ArgumentReading) : Except UsageFault Invocation :=
  match reading.awaiting, reading.command with
  | some option, _ => .error (.missing option.label)
  | none, none => .error .noCommand
  | none, some command => .ok ⟨command, reading.options.reverse, reading.operand⟩

end ArgumentReading

/-- The invocation that the arguments of a command line stand for. -/
def Invocation.ofArguments (arguments : List String) : Except UsageFault Invocation := do
  (← arguments.foldlM ArgumentReading.add .start).finish

/-- The command that the arguments of a command line stand for. -/
def Command.ofArguments (arguments : List String) : Except UsageFault Command := do
  (← Invocation.ofArguments arguments).check

end Worksheet
