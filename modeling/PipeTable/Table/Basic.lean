import PipeTable.Error

/-! # Tables

A table is a list of rows; a row is a separator or a list of cells.  Separators do not count as
data: lines are numbered over the data rows alone, from one, and so are columns.
-/

namespace PipeTable

/-- A row of a table. -/
inductive Row where
  | separator
  | data (cells : List String)
  deriving DecidableEq, Repr, Inhabited

namespace Row

/-- The cells of a data row. -/
def cells? : Row → Option (List String)
  | .separator => none
  | .data cells => some cells

/-- Whether the row is a separator. -/
def isSeparator : Row → Bool
  | .separator => true
  | .data _ => false

/-- Whether the row holds cells. -/
def isData (row : Row) : Bool := !row.isSeparator

end Row

/-- A table as its rows in order. -/
structure Table where
  rows : List Row
  deriving DecidableEq, Repr, Inhabited

namespace Table

/-- A table of data rows only. -/
def ofCells (rows : List (List String)) : Table := ⟨rows.map Row.data⟩

/-- The data rows in order. -/
def dataRows (t : Table) : List (List String) := t.rows.filterMap Row.cells?

/-- The number of data rows. -/
def height (t : Table) : Nat := t.dataRows.length

/-- The number of separators. -/
def separatorCount (t : Table) : Nat := t.rows.length - t.height

/-- The number of cells of the first data row. -/
def columnCount (t : Table) : Nat :=
  match t.dataRows with
  | row :: _ => row.length
  | [] => 0

/-- The number of cells of the longest data row. -/
def width (t : Table) : Nat := (t.dataRows.map List.length).foldl max 0

/-- The positions among all rows at which the data rows stand, counted from `start`. -/
def positionsFrom (start : Nat) : List Row → List Nat
  | [] => []
  | .separator :: rows => positionsFrom (start + 1) rows
  | .data _ :: rows => start :: positionsFrom (start + 1) rows

/-- The positions among all rows at which the data rows stand. -/
def dataPositions (t : Table) : List Nat := positionsFrom 0 t.rows

/-- The element with a number counted from one. -/
def nth? {α : Type} (items : List α) (number : Int) : Option α :=
  if 1 ≤ number then items[(number - 1).toNat]? else none

/-- The position among all rows of a data line. -/
def positionOf (t : Table) (line : Int) : Except Fault Nat :=
  match nth? t.dataPositions line with
  | some position => .ok position
  | none => .error (.noLine line t.height)

/-- The cells of a data line. -/
def dataRow (t : Table) (line : Int) : Except Fault (List String) :=
  match nth? t.dataRows line with
  | some row => .ok row
  | none => .error (.noLine line t.height)

/-- The content of a cell. -/
def cell (t : Table) (line column : Int) : Except Fault String := do
  let row ← t.dataRow line
  match nth? row column with
  | some content => .ok content
  | none => .error (.noColumn column row.length)

/-- The table with the row at a position changed. -/
def modifyRow (t : Table) (position : Nat) (f : List String → List String) : Table :=
  ⟨t.rows.modify position fun
    | .data cells => .data (f cells)
    | .separator => .separator⟩

/-- The table with the content of a cell replaced. -/
def setCell (t : Table) (line column : Int) (content : String) : Except Fault Table := do
  let position ← t.positionOf line
  let row ← t.dataRow line
  if 1 ≤ column ∧ column ≤ row.length then
    .ok (t.modifyRow position fun cells => cells.set (column - 1).toNat content)
  else .error (.noColumn column row.length)

/-- Writes a value to a cell of the table at hand; what has no text is no content of a cell. -/
def assign (line column : Int) (v : Value) : ExceptT Fault (StateM Table) Unit := do
  match (← get).setCell line column v.cellText with
  | .ok changed => if v.isWritable then set changed else throw .badValue
  | .error fault => throw fault

/-- A table of equal cells; counts below zero give nothing. -/
def blank (height width : Int) (fill : String) : Table :=
  ofCells (List.replicate height.toNat (List.replicate width.toNat fill))

/-- A row with cells added on the right up to a width. -/
def padRow (width : Nat) (padding : String) (row : List String) : List String :=
  row ++ List.replicate (width - row.length) padding

/-- The table with all data rows padded to the longest one. -/
def rectangularize (t : Table) (padding : String) : Table :=
  ⟨t.rows.map fun
    | .separator => .separator
    | .data cells => .data (padRow t.width padding cells)⟩

/-- Rows and columns exchanged, separators dropped; every row needs the cells of the first. -/
def transpose (t : Table) : Except Error Table :=
  match t.dataRows with
  | [] => .error (.emptyTable "transpose")
  | first :: _ =>
    let columns := (List.range first.length).mapM fun c => t.dataRows.mapM fun row => row[c]?
    match columns with
    | some rows => .ok (ofCells rows)
    | none => .error (.fault .outOfRange)

/-- Inserts separators at ascending positions of the rows, each shifted by those before it. -/
def insertShifted (count : Nat) : Nat → List Int → List Row → List Row
  | _, [], rows => rows
  | shift, position :: more, rows =>
    let clamped := (max 0 (min position count)).toNat
    insertShifted count (shift + 1) more (rows.insertIdx (clamped + shift) .separator)

/-- The table with a separator added after the first `p` rows for each of the given `p`; positions
refer to the rows as they were and are clamped to the table. -/
def insertSeparators (t : Table) (positions : List Int) : Table :=
  ⟨insertShifted t.rows.length 0 (positions.mergeSort (· ≤ ·)) t.rows⟩

/-- The names `c1`, `c2`, … of as many columns. -/
def columnNames (count : Nat) : List String :=
  (List.range count).map fun i => "c" ++ toString (i + 1)

/-- The data rows as a frame: a name per column, and the rows padded with empty cells. -/
def toFrame (t : Table) : List String × List (List String) :=
  (columnNames t.width, t.dataRows.map (padRow t.width ""))

/-- The table of a frame, with its names and a separator on top if asked for. -/
def ofFrame (frame : List String × List (List String)) (header : Bool) : Table :=
  let body := frame.2.map Row.data
  ⟨if header then .data frame.1 :: .separator :: body else body⟩

end Table

end PipeTable
