import PipeTable.Expr.Registry
import PipeTable.Navigation
import PipeTable.Pattern.Search
import PipeTable.Preset
import PipeTable.Table.Flatten
import PipeTable.Text.Blank

/-! # Sessions

A session holds a table, a cursor on it and a memory of its own.  Conditions look at the cells
around the cursor, and some change cells or the memory.
-/

namespace PipeTable

/-- A message for the user and for how many seconds it is shown. -/
structure Report where
  text : String
  seconds : Nat
  deriving DecidableEq, Repr

/-- A session of editing one table. -/
structure Session where
  table : Table
  cursor : Cursor := ⟨1, 1⟩
  /-- What the functions of conditions remember, by key. -/
  memory : List (Value × Value) := []
  /-- The condition of the last jump. -/
  condition : Value := .none
  direction : Direction := .right
  /-- Whether a jump is under way. -/
  running : Bool := false
  reports : List Report := []
  /-- Places that conditions asked to note. -/
  notes : List Cursor := []

namespace Session

/-- The grid of the table's data cells. -/
def grid (s : Session) : Grid := ⟨s.table.height, s.table.columnCount⟩

/-- The place at an offset from the cursor, if it lies in the grid. -/
def offset? (s : Session) (lines columns : Int) : Option Cursor :=
  let place : Cursor := ⟨s.cursor.line + lines, s.cursor.column + columns⟩
  if s.grid.contains place then some place else none

/-- The content of the cell at an offset; none outside the grid. -/
def field (s : Session) (lines columns : Int) : Except Fault (Option String) :=
  match s.offset? lines columns with
  | some place => (s.table.cell place.line place.column).map some
  | none => .ok none

/-- The session with the content of the cell at an offset replaced; none outside the grid. -/
def setField (s : Session) (content : String) (lines columns : Int) :
    Except Fault (Option Session) :=
  match s.offset? lines columns with
  | some place => do
    let table ← s.table.setCell place.line place.column content
    return some { s with table }
  | none => .ok none

/-- Whether a pattern occurs in the stripped cell at an offset; never outside the grid. -/
def matchField (s : Session) (pattern : Value) (lines columns : Int) : Except Fault Bool := do
  match ← s.field lines columns with
  | some content => Pattern.occurs pattern (Text.strip content)
  | none => return false

/-- The session with the cells below or above the cursor flattened into its cell. -/
def flatten (s : Session) (count reducer : Value) : Except Error Session := do
  let (table, _) ←
    s.table.flattenColumn s.cursor.line s.cursor.column count (Reduction.ofValue reducer)
  return { s with table }

/-- The value that the memory has for a key. -/
def remembered (s : Session) (key : Value) : Except Fault (Option Value) :=
  if key.isKey then .ok (Value.findEntry s.memory key) else .error .mismatch

/-- The session with a value for a key in its memory. -/
def remember (s : Session) (key v : Value) : Except Fault Session :=
  if key.isKey then .ok { s with memory := Value.putEntry s.memory key v } else .error .mismatch

/-- The session with its memory, condition and direction as at the start. -/
def reset (s : Session) : Session :=
  { s with memory := [], condition := .none, direction := .right }

end Session

end PipeTable
