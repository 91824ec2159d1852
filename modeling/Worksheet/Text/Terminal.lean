/-!
# Text for terminals

A terminal obeys some stretches of a text instead of showing them: control sequences, which begin
with an escape character. They set styles, among other things. Where a text does not go to a
terminal it is stripped of them and of the control characters that leave no trace on paper.
-/

set_option autoImplicit false
set_option relaxedAutoImplicit false

namespace Worksheet.Text

/-! ### Classes of characters -/

/-- Whether a character is a control of seven bits. -/
def isControl (c : Char) : Bool := c.toNat < 0x20 || c.toNat = 0x7f

/-- Whether a character moves on the paper without a mark: a tab, a line end, a new page. -/
def isMovement (c : Char) : Bool := c = '\t' || c = '\n' || c = '\x0c' || c = '\r'

/-- Whether a character is outside the seven-bit ones, of which control sequences are made. -/
def isBeyondSevenBits (c : Char) : Bool := 0x80 ≤ c.toNat

/-- Whether the bytes of a character have the one that ends a string of a control sequence. -/
def endsString (c : Char) : Bool := (String.utf8EncodeChar c).contains 0x9c

/-! ### Control sequences -/

/-- Where the reading of a text stands with respect to control sequences. -/
inductive ControlState where
  /-- In none of them. -/
  | ground
  /-- After an escape character. -/
  | escape
  /-- After an escape character and signs that wait for a last one. -/
  | escapeSigns
  /-- In the numbers of a control sequence, which a letter ends. -/
  | numbers
  /-- At the beginning of a string for the device. -/
  | device
  /-- In the numbers before a string for the device. -/
  | deviceNumbers
  /-- After signs before a string for the device. -/
  | deviceSigns
  /-- In a string of a control sequence. -/
  | string
  /-- In a command for the system that shows the terminal, which a bell ends. -/
  | command
deriving DecidableEq, Repr

namespace ControlState

/-- The state after a graphic character of seven bits. -/
def afterGraphic (state : ControlState) (c : Char) : ControlState :=
  match state with
  | ground => ground
  | escape =>
    if c < '0' then escapeSigns
    else if c = '[' then numbers
    else if c = ']' then command
    else if c = 'P' then device
    else if c = 'X' ∨ c = '^' ∨ c = '_' then string
    else ground
  | escapeSigns => if c < '0' then escapeSigns else ground
  | numbers => if c < '@' then numbers else ground
  | device => if c < '0' then deviceSigns else if c < '@' then deviceNumbers else string
  | deviceNumbers => if c < '0' then deviceSigns else if c < '<' then deviceNumbers else string
  | deviceSigns => if c < '0' then deviceSigns else string
  | string => string
  | command => command

/-- The state after a character that is not shown. -/
def next (state : ControlState) (c : Char) : ControlState :=
  if c = '\x1b' then escape
  else if c = '\x18' ∨ c = '\x1a' then ground
  else if isControl c then if state = command ∧ c = '\x07' then ground else state
  else if isBeyondSevenBits c then if state = string ∧ endsString c then ground else state
  else state.afterGraphic c

/-- Whether a character is shown in a state. -/
def shows (state : ControlState) (c : Char) : Bool :=
  match state with
  | ground => !isControl c || isMovement c
  | escape => isMovement c
  | escapeSigns => isMovement c
  | numbers => isMovement c
  | _ => false

end ControlState

/-! ### Stripping -/

/-- How far a text has been stripped. -/
structure Stripping where
  /-- The state in which the last hidden character left the reading. -/
  state : ControlState
  /-- Whether the last character was shown. As long as characters are shown, further ones are
  judged as in no control sequence. -/
  showing : Bool
deriving DecidableEq, Repr

namespace Stripping

/-- The beginning of a text. -/
def start : Stripping := ⟨.ground, false⟩

/-- Whether the next character is shown. -/
def shows (stripping : Stripping) (c : Char) : Bool :=
  (if stripping.showing then ControlState.ground else stripping.state).shows c

/-- Takes in a character. A shown one beyond seven bits ends a control sequence. -/
def next (stripping : Stripping) (c : Char) : Stripping :=
  if stripping.shows c then ⟨if isBeyondSevenBits c then .ground else stripping.state, true⟩
  else ⟨stripping.state.next c, false⟩

/-- The characters that are shown of the rest of a text. -/
def shown : Stripping → List Char → List Char
  | _, [] => []
  | stripping, c :: rest =>
    if stripping.shows c then c :: (stripping.next c).shown rest else (stripping.next c).shown rest

end Stripping

/-- A text without control sequences. -/
def stripped (text : String) : String := String.ofList (Stripping.start.shown text.toList)

/-- A text in a style of its own: a control sequence sets the style and another one ends it. -/
def styled (text : String) : String := "\x1b[1m" ++ text ++ "\x1b[0m"

end Worksheet.Text
