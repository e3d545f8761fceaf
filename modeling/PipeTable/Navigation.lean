import PipeTable.Error

/-! # Moving over a grid

A move goes to the neighbouring cell in a direction.  At an edge it wraps around to the next line or
column, so that moving on in one direction visits every cell of the grid.
-/

namespace PipeTable

/-- A direction of movement. -/
inductive Direction where
  | up
  | down
  | left
  | right
  deriving DecidableEq, Repr

namespace Direction

/-- The word for a direction. -/
def name : Direction → String
  | .up => "up"
  | .down => "down"
  | .left => "left"
  | .right => "right"

/-- The direction back. -/
def opposite : Direction → Direction
  | .up => .down
  | .down => .up
  | .left => .right
  | .right => .left

/-- The direction of a word. -/
def ofName? : String → Option Direction
  | "up" => some .up
  | "down" => some .down
  | "left" => some .left
  | "right" => some .right
  | _ => none

/-- The direction that a value names. -/
def ofValue (v : Value) : Except Error Direction :=
  match v with
  | .text word => match ofName? word with
    | some d => .ok d
    | none => .error (.badDirection v)
  | _ => .error (.badDirection v)

end Direction

/-- A place in a table: a data line and a column, both counted from one. -/
structure Cursor where
  line : Int
  column : Int
  deriving DecidableEq, Repr

/-- A grid of cells. -/
structure Grid where
  height : Nat
  width : Nat
  deriving DecidableEq, Repr

namespace Grid

/-- The number of cells. -/
def size (g : Grid) : Nat := g.height * g.width

/-- Whether a cursor stands on a cell. -/
def contains (g : Grid) (c : Cursor) : Bool :=
  1 ≤ c.line && c.line ≤ g.height && 1 ≤ c.column && c.column ≤ g.width

/-- The next cell in a direction.  Left and right run along lines, up and down along columns. -/
def move (g : Grid) (direction : Direction) (c : Cursor) : Cursor :=
  match direction with
  | .right =>
    if c.column + 1 ≤ g.width then ⟨c.line, c.column + 1⟩
    else ⟨if c.line < g.height then c.line + 1 else 1, 1⟩
  | .left =>
    if 1 ≤ c.column - 1 then ⟨c.line, c.column - 1⟩
    else ⟨if 1 < c.line then c.line - 1 else g.height, g.width⟩
  | .down =>
    if c.line + 1 ≤ g.height then ⟨c.line + 1, c.column⟩
    else ⟨1, if c.column < g.width then c.column + 1 else 1⟩
  | .up =>
    if 1 ≤ c.line - 1 then ⟨c.line - 1, c.column⟩
    else ⟨g.height, if 1 < c.column then c.column - 1 else g.width⟩

end Grid

end PipeTable
