import PipeTable.Error
import PipeTable.Text.Blank
import PipeTable.Text.Integer

/-! # Asking the optimizer

The optimizer is told the lengths of all cells and the width that is left, and answers with a width
per column and a number of lines per row.  Both travel as text.
-/

namespace PipeTable.Narrow

/-- What the optimizer is asked: to lay out cells of the given lengths, row by row. -/
structure Request where
  rows : Nat
  columns : Nat
  maxWidth : Int
  lengths : List (List Int)
  deriving Repr, DecidableEq

/-- What the optimizer answers: a width per column and a number of lines per row. -/
structure Response where
  widths : List Int
  rows : List Int
  deriving Repr, DecidableEq

/-- Whoever answers requests. -/
abbrev Solver := Request → Except Error Response

/-- Integers on one line. -/
def integerLine (values : List Int) : String :=
  " ".intercalate (values.map Text.writeInteger)

/-- The text of a request: the sizes, then a line of lengths per row. -/
def Request.format (r : Request) : String :=
  let sizes := integerLine [r.rows, r.columns, r.maxWidth]
  "\n".intercalate (sizes :: r.lengths.map integerLine) ++ "\n"

/-- The values in rows of a length. -/
def chunks (columns : Nat) : Nat → List Int → List (List Int)
  | 0, _ => []
  | rows + 1, values => values.take columns :: chunks columns rows (values.drop columns)

/-- The request for lengths in reading order; their number has to match the sizes. -/
def Request.ofLengths (rows columns : Nat) (maxWidth : Int) (lengths : List Int) :
    Except Fault Request :=
  if lengths.length = rows * columns then .ok ⟨rows, columns, maxWidth, chunks columns rows lengths⟩
  else .error .badValue

/-- Reads exactly as many integers as expected from the words of a text. -/
def readIntegers (label : String) (text : List Char) (expected : Nat) (diagnostic : String) :
    Except Error (List Int) :=
  match (Text.wordsChars text).mapM Text.readIntegerChars? with
  | none => .error (.engine (.notIntegers label) diagnostic)
  | some values =>
    if values.length = expected then .ok values
    else .error (.engine (.wrongNumber values.length label expected) diagnostic)

/-- What follows a label at the start of a stripped line. -/
def labelled? (label : String) (line : List Char) : Option (List Char) :=
  let body := Text.stripChars line
  if label.toList.isPrefixOf body then some (body.drop label.length) else none

/-- What follows a label on the last line that starts with it. -/
def lastLabelled? (label : String) (lines : List (List Char)) : Option (List Char) :=
  (lines.filterMap (labelled? label)).getLast?

/-- Reads an answer: the last line of widths and the last line of row counts, in any order and among
any other lines. -/
def Response.parse (text : String) (rows columns : Nat) (diagnostic : String) :
    Except Error Response := do
  let lines := Text.linesChars text.toList
  let shown := if diagnostic = "" then text else diagnostic
  match lastLabelled? "Widths:" lines, lastLabelled? "Rows:" lines with
  | some widthsText, some rowsText =>
    let widths ← readIntegers "widths" widthsText columns shown
    let counts ← readIntegers "row counts" rowsText rows shown
    return ⟨widths, counts⟩
  | _, _ => .error (.engine .missingLines shown)

end PipeTable.Narrow
