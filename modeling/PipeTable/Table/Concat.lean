import PipeTable.Table.Basic

/-! # Joining tables

Tables are joined side by side or one below the other.  Separators are dropped and what is missing
is padded.
-/

namespace PipeTable.Table

/-- The row of a table at an index, or padding as wide as the table's columns. -/
def rowOrPadding (padding : String) (t : Table) (index : Nat) : List String :=
  match t.dataRows[index]? with
  | some row => row
  | none => List.replicate t.columnCount padding

/-- The tables side by side. -/
def concatHorizontal (tables : List Table) (padding : String) : Except Error Table :=
  if tables.isEmpty then .error (.noTables "horizontal_concat")
  else
    let height := (tables.map height).foldl max 0
    .ok (ofCells ((List.range height).map fun r =>
      tables.flatMap fun t => rowOrPadding padding t r))

/-- The tables one below the other. -/
def concatVertical (tables : List Table) (padding : String) : Except Error Table :=
  if tables.isEmpty then .error (.noTables "vertical_concat")
  else
    let rows := tables.flatMap dataRows
    let width := (rows.map List.length).foldl max 0
    .ok (ofCells (rows.map (padRow width padding)))

end PipeTable.Table
