import Worksheet.Sheet

/-!
# Delimited tables

The displayed values of a sheet as a table, from `A1` to the last used row and column, and the text
of a table: one line for each row, with a delimiter between fields. A field that could be mistaken
is put in quotes. Sheets that reach past the bounds of a table are refused.
-/

set_option autoImplicit false
set_option relaxedAutoImplicit false

namespace Worksheet

/-- Why a sheet is not written as a table. -/
inductive TableError where
  /-- The delimiter is not an ASCII character. -/
  | invalidDelimiter (delimiter : Char)
  /-- A cell is beyond the bounds of a table. -/
  | outsideLimit (last : Address)
deriving DecidableEq, Repr

namespace Table

/-- The largest number of rows. -/
def rowLimit : Nat := 1048576

/-- The largest number of columns. -/
def columnLimit : Nat := 16384

end Table

/-- The wording of an error. -/
def TableError.message : TableError → String
  | .invalidDelimiter delimiter =>
    "Delimiter must be a single ASCII character, got '" ++ String.singleton delimiter ++ "'"
  | .outsideLimit last =>
    "Cell " ++ last.toA1 ++ " is outside the CSV limit of " ++ toString Table.rowLimit ++
      " rows by " ++ toString Table.columnLimit ++ " columns; use JSON output"

namespace Sheet

/-- The displayed values from `A1` to a last cell, row by row. -/
def shownRows (sheet : Sheet) (last : Address) : List (List String) :=
  (List.range (last.row.toNat + 1)).map fun row ↦
    (List.range (last.column.toNat + 1)).map fun column ↦
      (sheet.valueAt ⟨UInt32.ofNat row, UInt32.ofNat column⟩).shown

/-- The displayed values from `A1` to the last used row and column. An empty sheet has no rows. -/
def table? (sheet : Sheet) : Except TableError (List (List String)) :=
  match sheet.usedRegion? with
  | none => .ok []
  | some used =>
    if Table.rowLimit ≤ used.last.row.toNat ∨ Table.columnLimit ≤ used.last.column.toNat then
      .error (.outsideLimit used.last)
    else .ok (sheet.shownRows used.last)

end Sheet

namespace Table

/-- Whether a field needs quotes: it holds the delimiter, a quote or a line end. -/
def needsQuotes (delimiter : Char) (field : List Char) : Bool :=
  field.any fun c ↦ c = delimiter || c = '"' || c = '\n' || c = '\r'

/-- Writes every quote twice. -/
def doubleQuotes (field : List Char) : List Char :=
  field.flatMap fun c ↦ if c = '"' then ['"', '"'] else [c]

/-- The text of a field. -/
def fieldText (delimiter : Char) (field : List Char) : List Char :=
  if needsQuotes delimiter field then '"' :: doubleQuotes field ++ ['"'] else field

/-- The texts of fields with a delimiter between them. -/
def joinFields (delimiter : Char) : List (List Char) → List Char
  | [] => []
  | [field] => field
  | field :: later => field ++ delimiter :: joinFields delimiter later

/-- The line of a row. A row of one empty field has quotes, so that its line is not empty. -/
def rowText (delimiter : Char) (fields : List String) : List Char :=
  match fields with
  | [""] => ['"', '"', '\n']
  | fields =>
    joinFields delimiter (fields.map fun field ↦ fieldText delimiter field.toList) ++ ['\n']

/-- The text of a table. -/
def text (delimiter : Char) (rows : List (List String)) : String :=
  String.ofList (rows.flatMap (rowText delimiter))

end Table

/-- The table text of a sheet. The delimiter is looked at before the size. -/
def Sheet.tableText? (sheet : Sheet) (delimiter : Char) : Except TableError String :=
  if 0x80 ≤ delimiter.toNat then .error (.invalidDelimiter delimiter)
  else (sheet.table?).map (Table.text delimiter)

end Worksheet
