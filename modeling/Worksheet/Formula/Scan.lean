import Worksheet.Formula.Error
import Worksheet.Text.Character

/-!
# Scanning formula text

Quotes and parentheses in the text of a formula. A double quote opens or closes a quoted stretch,
and parentheses, colons and commas count only outside of such stretches. `splitAtClosing` finds the
parenthesis that closes a call, and `ArgumentScan` takes a list of arguments apart at its commas.
-/

set_option autoImplicit false
set_option relaxedAutoImplicit false

namespace Worksheet.Formula

/-! ### Quotes -/

/-- The characters outside of quotes, for a text that begins inside or outside of them. -/
def unquotedFrom : Bool → List Char → List Char
  | _, [] => []
  | inside, c :: rest =>
    if c = '"' then unquotedFrom (!inside) rest
    else if inside then unquotedFrom inside rest
    else c :: unquotedFrom inside rest

/-- The characters outside of quotes. -/
def unquotedChars (text : List Char) : List Char := unquotedFrom false text

/-- Whether every quote is closed. -/
def quotesPaired (text : List Char) : Bool := text.count '"' % 2 = 0

/-- Turns every two quotes in a row into one. -/
def undouble : List Char → List Char
  | '"' :: '"' :: rest => '"' :: undouble rest
  | c :: rest => c :: undouble rest
  | [] => []

/-- The text that a text in quotes stands for, with its doubled quotes made single. -/
def unquote? : List Char → Option (List Char)
  | '"' :: inner => if inner.getLast? = some '"' then some (undouble inner.dropLast) else none
  | _ => none

/-! ### Parentheses -/

/-- Splits a text at the parenthesis that closes one which stands before it. The depth counts the
parentheses that have been opened since. -/
def splitAtClosing : Nat → Bool → List Char → Except Malformation (List Char × List Char)
  | _, quoted, [] => .error (if quoted then .unterminatedString else .unbalancedParentheses)
  | depth, quoted, c :: rest =>
    if !quoted && c = ')' && depth = 0 then .ok ([], rest)
    else
      let depth :=
        if quoted then depth
        else if c = '(' then depth + 1
        else if c = ')' then depth - 1
        else depth
      (splitAtClosing depth (if c = '"' then !quoted else quoted) rest).map fun split ↦
        (c :: split.1, split.2)

/-- A mapped outcome is a result only where the outcome is one. -/
theorem exists_of_map_eq_ok {ε α β : Type} {f : α → β} {outcome : Except ε α} {result : β}
    (found : outcome.map f = .ok result) : ∃ value, outcome = .ok value ∧ f value = result := by
  cases outcome with
  | error cause => simp [Except.map] at found
  | ok value => exact ⟨value, rfl, by simpa [Except.map] using found⟩

/-- What comes before the closing parenthesis and what comes after it make up the text. -/
theorem length_of_splitAtClosing (text : List Char) :
    ∀ (depth : Nat) (quoted : Bool) (inner after : List Char),
      splitAtClosing depth quoted text = .ok (inner, after) →
        inner.length + after.length < text.length := by
  induction text with
  | nil => intro depth quoted inner after found; simp [splitAtClosing] at found
  | cons c rest ih =>
    intro depth quoted inner after found
    rw [splitAtClosing] at found
    split at found
    · cases found
      simp
    · obtain ⟨split, deeper, whole⟩ := exists_of_map_eq_ok found
      cases whole
      have shorter := ih _ _ _ _ deeper
      simp only [List.length_cons]
      omega

/-! ### Arguments -/

/-- What is known of a list of arguments after some of its characters. -/
structure ArgumentScan where
  /-- The number of open parentheses. -/
  depth : Nat
  /-- Whether a quote is open. -/
  quoted : Bool
  /-- Whether only letters, digits and blanks have come since a colon outside of parentheses. -/
  afterColon : Bool
  /-- The argument that is being read, its last character first. -/
  current : List Char
  /-- The arguments before it, the last one first. -/
  earlier : List (List Char)

namespace ArgumentScan

/-- What is known before the first character. -/
def start : ArgumentScan := ⟨0, false, false, [], []⟩

/-- Whether a character may stand between the colon of a range and its end: an ASCII letter, digit
or blank. -/
def isRangeChar (c : Char) : Bool :=
  c.isAlphanum || c = ' ' || c = '\t' || c = '\n' || c = '\x0c' || c = '\r'

/-- Takes in a character outside of quotes that is no fault. -/
def advance (scan : ArgumentScan) (afterColon : Bool) (c : Char) :
    Except Malformation ArgumentScan :=
  let next := { scan with afterColon, current := c :: scan.current }
  if c = '"' then .ok { next with quoted := true }
  else if c = '(' then .ok { next with depth := scan.depth + 1 }
  else if c = ')' then
    if scan.depth = 0 then .error .unbalancedParentheses
    else .ok { next with depth := scan.depth - 1 }
  else if c = ',' && scan.depth = 0 then
    .ok { next with current := [], earlier := scan.current.reverse :: scan.earlier }
  else if c = ':' && scan.depth = 0 then .ok { next with afterColon := true }
  else .ok next

/-- Takes in a character of a list. -/
def step (list : String) (scan : ArgumentScan) (c : Char) : Except Malformation ArgumentScan :=
  if scan.quoted then
    .ok { scan with quoted := c ≠ '"', current := c :: scan.current }
  else if scan.afterColon && !isRangeChar c then
    if c = ':' then .error (.unexpectedColon list) else scan.advance false c
  else scan.advance scan.afterColon c

/-- The arguments in their order, once the whole list has been read. -/
def finish (scan : ArgumentScan) : Except Malformation (List (List Char)) :=
  if scan.quoted then .error .unterminatedString
  else if scan.depth ≠ 0 then .error .unbalancedParentheses
  else .ok (scan.current.reverse :: scan.earlier).reverse

end ArgumentScan

namespace ArgumentScan

/-- Whether every argument of a scan, the current one included, has at most a number of
characters. -/
def Within (bound : Nat) (scan : ArgumentScan) : Prop :=
  ∀ piece ∈ scan.current :: scan.earlier, piece.length ≤ bound

/-- A character adds at most one character to an argument. -/
theorem Within.advance {bound : Nat} {scan next : ArgumentScan} {afterColon : Bool} {c : Char}
    (within : scan.Within bound) (moved : scan.advance afterColon c = .ok next) :
    next.Within (bound + 1) := by
  simp only [Within, List.forall_mem_cons] at within ⊢
  have earlier : ∀ piece ∈ scan.earlier, piece.length ≤ bound + 1 :=
    fun piece found ↦ Nat.le_succ_of_le (within.2 piece found)
  unfold ArgumentScan.advance at moved
  simp only at moved
  split at moved
  · cases moved; exact ⟨by simpa using within.1, earlier⟩
  split at moved
  · cases moved; exact ⟨by simpa using within.1, earlier⟩
  split at moved
  · split at moved
    · simp at moved
    · cases moved; exact ⟨by simpa using within.1, earlier⟩
  split at moved
  · cases moved
    refine ⟨by simp, ?_⟩
    simp only [List.forall_mem_cons, List.length_reverse]
    exact ⟨Nat.le_succ_of_le within.1, earlier⟩
  split at moved
  · cases moved; exact ⟨by simpa using within.1, earlier⟩
  · cases moved; exact ⟨by simpa using within.1, earlier⟩

/-- A character of a list adds at most one character to an argument. -/
theorem Within.step {bound : Nat} {list : String} {scan next : ArgumentScan} {c : Char}
    (within : scan.Within bound) (moved : scan.step list c = .ok next) :
    next.Within (bound + 1) := by
  unfold ArgumentScan.step at moved
  split at moved
  · cases moved
    simp only [Within, List.forall_mem_cons] at within ⊢
    exact ⟨by simpa using within.1,
      fun piece found ↦ Nat.le_succ_of_le (within.2 piece found)⟩
  split at moved
  · split at moved
    · simp at moved
    · exact within.advance moved
  · exact within.advance moved

/-- A scan of some characters adds at most as many to an argument. -/
theorem Within.foldlM {list : String} (chars : List Char) :
    ∀ {bound : Nat} {scan last : ArgumentScan}, scan.Within bound →
      chars.foldlM (ArgumentScan.step list) scan = .ok last →
        last.Within (bound + chars.length) := by
  induction chars with
  | nil =>
    intro bound scan last within scanned
    simp only [List.foldlM_nil] at scanned
    cases scanned
    simpa using within
  | cons c rest ih =>
    intro bound scan last within scanned
    rw [List.foldlM_cons] at scanned
    match moved : scan.step list c, scanned with
    | .ok next, scanned =>
      have := ih (within.step moved) scanned
      simpa [Nat.add_assoc, Nat.add_comm 1] using this

end ArgumentScan

/-- The pieces of a list between its commas outside of quotes and parentheses. -/
def pieces (list : List Char) : Except Malformation (List (List Char)) := do
  let scan ← list.foldlM (ArgumentScan.step (String.ofList list)) ArgumentScan.start
  scan.finish

/-- No piece is longer than its list. -/
theorem length_le_of_mem_pieces {list piece : List Char} {parts : List (List Char)}
    (split : pieces list = .ok parts) (found : piece ∈ parts) : piece.length ≤ list.length := by
  unfold pieces at split
  match scanned : list.foldlM (ArgumentScan.step (String.ofList list)) ArgumentScan.start,
    split with
  | .ok scan, split =>
    have within : scan.Within (0 + list.length) :=
      ArgumentScan.Within.foldlM list (by simp [ArgumentScan.Within, ArgumentScan.start]) scanned
    simp only [ArgumentScan.Within, List.forall_mem_cons, Nat.zero_add] at within
    change scan.finish = .ok parts at split
    unfold ArgumentScan.finish at split
    split at split
    · simp at split
    split at split
    · simp at split
    · cases split
      simp only [List.mem_reverse, List.mem_cons] at found
      rcases found with rfl | found
      · simpa using within.1
      · exact within.2 piece found

/-- Splits a list of arguments at its commas and trims the arguments. A blank list has none, and in
any other list no argument is blank. -/
def splitArguments (list : String) : Except FormulaError (List String) :=
  if Text.isAllBlank list.toList then .ok []
  else
    match pieces list.toList with
    | .error cause => .error (.malformed cause)
    | .ok parts =>
      if parts.any Text.isAllBlank then .error (.malformed (.emptyArgument list))
      else .ok (parts.map fun part ↦ String.ofList (Text.trim part))

/-- No argument is longer than its list. -/
theorem length_le_of_mem_splitArguments {list argument : String} {arguments : List String}
    (split : splitArguments list = .ok arguments) (found : argument ∈ arguments) :
    argument.length ≤ list.length := by
  unfold splitArguments at split
  split at split
  · cases split
    simp at found
  split at split
  · simp at split
  · rename_i parts parted
    split at split
    · simp at split
    · cases split
      obtain ⟨part, member, rfl⟩ := List.mem_map.1 found
      have trimmed := Text.length_trim_le part
      have whole := length_le_of_mem_pieces parted member
      simp only [String.length_toList, String.length_ofList] at whole ⊢
      omega

end Worksheet.Formula
