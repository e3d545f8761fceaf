import PipeTable.Table.Basic
import PipeTable.Text.Blank

/-! # Tables as text

Each row is one line.  A line that starts with a bar is a table line, and one that goes on with a
dash is a separator; in all others the cells stand between bars.  Writing aligns the columns, and
what it writes reads back as the same table with its rows made equally long.
-/

namespace PipeTable.Table

/-- Whether a line belongs to a table. -/
def isTableLine (line : List Char) : Bool :=
  match line.dropWhile Text.isBlank with
  | '|' :: _ => true
  | _ => false

/-- Whether a line is a separator. -/
def isSeparatorLine (line : List Char) : Bool :=
  match line.dropWhile Text.isBlank with
  | '|' :: '-' :: _ => true
  | _ => false

/-- A line without its first bar. -/
def dropOpeningBar : List Char → List Char
  | '|' :: cs => cs
  | cs => cs

/-- A line without its last bar. -/
def dropClosingBar (cs : List Char) : List Char :=
  if cs.getLast? = some '|' then cs.dropLast else cs

/-- The cells between the bars of a line. -/
def splitCells (line : List Char) : List String :=
  let body := dropClosingBar (dropOpeningBar (Text.stripChars line))
  (Text.pieces (· = '|') body).map fun cell => String.ofList (Text.stripChars cell)

/-- Reads the rows of lines, which are numbered from `number`; blank lines are passed over. -/
def parseLines (number : Nat) : List (List Char) → Except Error (List Row)
  | [] => .ok []
  | line :: more =>
    if (Text.stripChars line).isEmpty then parseLines (number + 1) more
    else if !isTableLine line then
      .error (.parse (.notTableLine number (String.ofList line)))
    else do
      let rows ← parseLines (number + 1) more
      return (if isSeparatorLine line then .separator else .data (splitCells line)) :: rows

/-- Reads a table from text. -/
def parse (text : String) : Except Error Table :=
  (parseLines 1 (Text.linesChars text.toList)).map Table.mk

/-- The widths of the columns: the longest cell of each, and at least one. -/
def columnWidths (t : Table) : List Nat :=
  t.dataRows.foldl (fun widths row =>
    widths.zipIdx.map fun (w, i) => max w ((row[i]?.map String.length).getD 0))
    (List.replicate t.width 1)

/-- A separator line for columns of the given widths. -/
def separatorLine (widths : List Nat) : String :=
  if widths.isEmpty then "|-|"
  else
    let dashes := widths.map fun w => String.ofList (List.replicate (w + 2) '-')
    "|" ++ "+".intercalate dashes ++ "|"

/-- A line of cells, padded to the widths. -/
def cellLine (widths : List Nat) (cells : List String) : String :=
  let padded := padRow widths.length "" cells
  let aligned := List.zipWith (fun cell w => " " ++ Text.padRight cell w ++ " ") padded widths
  "|" ++ "|".intercalate aligned ++ "|"

/-- The line of a row. -/
def rowLine (widths : List Nat) : Row → String
  | .separator => separatorLine widths
  | .data cells => cellLine widths cells

/-- Writes a table with aligned columns, every line after an indent. -/
def format (t : Table) (indent : String) : String :=
  let widths := t.columnWidths
  "\n".intercalate (t.rows.map fun row => indent ++ rowLine widths row)

end PipeTable.Table
