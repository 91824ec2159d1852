import Worksheet.Json.Reader
import Worksheet.Json.Writer
import Worksheet.Sheet
import Worksheet.Snapshot.Numeral

/-!
# The JSON text of snapshots

A snapshot is written as an object with its cells, by key text, and its extent; a cell with its own
address, its values and, if it has one, its formula; a value with its kind. When a snapshot is read,
members in any order are taken, unknown members are left out, and a known member that comes twice is
refused. The parts of fixed shape are also read from arrays of their members in the order above.
-/

set_option autoImplicit false
set_option relaxedAutoImplicit false

namespace Worksheet.Snapshot

/-! ### Writing -/

/-- A value as it is kept. -/
def valueJson : Value → Json
  | .empty => .ofMembers [("kind", .ofString "empty")]
  | .number number => .ofMembers [("kind", .ofString "number"), ("value", numberJson number)]
  | .text text => .ofMembers [("kind", .ofString "text"), ("value", .ofString text)]
  | .error message => .ofMembers [("kind", .ofString "error"), ("value", .ofString message)]

/-- A cell as it is kept. -/
def cellJson (cell : Cell) : Json :=
  let formula :=
    match cell.formula with
    | some text => [("formulaText", .ofString text)]
    | none => []
  .ofMembers <|
    ("id", .ofString cell.address.toKey) :: ("rawValue", valueJson cell.raw) :: formula ++
      [("computedValue", valueJson cell.computed)]

/-- A snapshot as it is kept. -/
def toJson (snapshot : Snapshot) : Json :=
  .ofMembers
    [("cells", .ofMembers <| snapshot.cells.toList.map fun entry ↦
        (entry.1.toKey, cellJson entry.2)),
      ("rowCount", .ofNat snapshot.rowCount.toNat),
      ("columnCount", .ofNat snapshot.columnCount.toNat)]

/-- The text of a snapshot on one line. -/
def compactText (snapshot : Snapshot) : String := String.ofList snapshot.toJson.compact

/-- The text of a snapshot over several lines, with a line end after the last. -/
def indentedText (snapshot : Snapshot) : String :=
  String.ofList (snapshot.toJson.indented 0 ++ ['\n'])

/-! ### Reading -/

/-- The members of an object, if the names of all of them have whole characters. -/
def namedMembers? (members : List (Option String × Json)) : Option (List (String × Json)) :=
  members.mapM fun member ↦ member.1.map fun name ↦ (name, member.2)

/-- The value of the member with a name, or `none` when there is no such member. The outer option is
`none` when there is more than one. -/
def member? (name : String) (members : List (String × Json)) : Option (Option Json) :=
  match members.filter fun member ↦ member.1 = name with
  | [] => some none
  | [member] => some (some member.2)
  | _ => none

/-- The value of the only member with a name. -/
def required? (name : String) (members : List (String × Json)) : Option Json := do
  (← member? name members)

/-- A text. -/
def readText? : Json → Option String
  | .string text => text
  | _ => none

/-- An address by its key text. -/
def readKey? (json : Json) : Option Address := do
  Address.ofKey? (← readText? json).toList

/-- A count of rows or columns. -/
def readExtent? : Json → Option UInt32
  | .number numeral => readCount? numeral
  | _ => none

/-- A formula, which may be null. -/
def readFormula? : Option Json → Option (Option String)
  | none => some none
  | some .null => some none
  | some (.string (some text)) => some (some text)
  | some _ => none

/-- The name of a kind: a text, or an object with a single null member of that name. -/
def readKind? : Json → Option String
  | .string kind => kind
  | .object [(kind, .null)] => kind
  | _ => none

/-- A value of a kind with its content, which is needed by every kind but that of no value. -/
def readContent? (kind : String) (content : Option Json) : Option Value :=
  match kind, content with
  | "empty", none => some .empty
  | "empty", some .null => some .empty
  | "number", some (.number numeral) => (readNumeral? numeral).map .number
  | "text", some (.string (some text)) => some (.text text)
  | "error", some (.string (some message)) => some (.error message)
  | _, _ => none

/-- A value. In an array its kind is a text. -/
def readValue? : Json → Option Value
  | .object members => do
    let members ← namedMembers? members
    readContent? (← readKind? (← required? "kind" members)) (← member? "value" members)
  | .array [kind, content] => do readContent? (← readText? kind) (some content)
  | _ => none

/-- A cell. -/
def readCell? : Json → Option Cell
  | .object members => do
    let members ← namedMembers? members
    let address ← readKey? (← required? "id" members)
    let raw ← readValue? (← required? "rawValue" members)
    let formula ← readFormula? (← member? "formulaText" members)
    let computed ← readValue? (← required? "computedValue" members)
    return ⟨address, raw, formula, computed⟩
  | .array [address, raw, formula, computed] => do
    return ⟨← readKey? address, ← readValue? raw, ← readFormula? (some formula),
      ← readValue? computed⟩
  | _ => none

/-- Cells by key. Of two with the same key, the later one is taken. -/
def readCells? : Json → Option CellMap
  | .object members =>
    members.foldlM (fun (cells : CellMap) member ↦ do
      let address ← Address.ofKey? (← member.1).toList
      return cells.insert address (← readCell? member.2)) ∅
  | _ => none

/-- A snapshot. -/
def ofJson? : Json → Option Snapshot
  | .object members => do
    let members ← namedMembers? members
    let cells ← readCells? (← required? "cells" members)
    let rowCount ← readExtent? (← required? "rowCount" members)
    let columnCount ← readExtent? (← required? "columnCount" members)
    return ⟨cells, rowCount, columnCount⟩
  | .array [cells, rowCount, columnCount] => do
    return ⟨← readCells? cells, ← readExtent? rowCount, ← readExtent? columnCount⟩
  | _ => none

/-- Reads the text of a snapshot. -/
def ofText? (text : String) : Option Snapshot := do ofJson? (← Json.read? text.toList)

end Worksheet.Snapshot
