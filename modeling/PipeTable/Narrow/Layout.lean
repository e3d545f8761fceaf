import PipeTable.Narrow.Plan
import PipeTable.Text.Wrap

/-! # Laying out a narrow table

A row whose cells are wrapped becomes a group of rows, one below the other.  The words of a cell
stay in their column and in their order.  If asked for, separators keep apart what was one row
from the next.
-/

namespace PipeTable.Table

/-- The lines of several cells as rows, the shorter cells filled up with empty lines. -/
def stackLines (height : Nat) (columns : List (List String)) : List (List String) :=
  (List.range height).map fun k => columns.map fun lines => lines.getD k ""

/-- What follows a group of rows: a separator if it is asked for, the group has several rows, and
another data row comes next. -/
def groupEnd (separators : Bool) (group : List (List String)) (rest : List Row) : List Row :=
  match rest with
  | .data _ :: _ => if separators && 1 < group.length then [.separator] else []
  | _ => []

/-- Replaces every data row by the group of rows that `expand` makes of it. -/
def expandRows (separators : Bool) (expand : List String → Except Error (List (List String))) :
    List Row → Except Error (List Row)
  | [] => .ok []
  | .separator :: rest => do return .separator :: (← expandRows separators expand rest)
  | .data cells :: rest => do
    let group ← expand cells
    let more ← expandRows separators expand rest
    return group.map Row.data ++ groupEnd separators group rest ++ more

/-- The row with the given lines of one column, counted from zero: the first in the row itself, the
others below it in rows that are empty but for them. -/
def columnGroup (cells : List String) (column : Nat) (lines : List String) : List (List String) :=
  match lines with
  | [] => []
  | first :: more =>
    cells.set column first ::
      more.map fun line => (List.replicate cells.length "").set column line

/-- Wraps the cells of one column that are wider than a width onto rows below. -/
def narrowColumn (t : Table) (column width : Int) (separators : Bool) : Except Error Table := do
  if column < 1 ∨ t.columnCount < column then
    throw (.precondition (.columnOutside "narrow_column" column t.columnCount))
  if width < 1 then throw (.precondition (.widthNotPositive width))
  let expand (cells : List String) : Except Error (List (List String)) :=
    match nth? cells column with
    | some cell => .ok (columnGroup cells (column - 1).toNat (Text.wrap cell width.toNat))
    | none => .error (.fault .outOfRange)
  return ⟨← expandRows separators expand t.rows⟩

/-- The rows of one data row laid out on the planned number of lines. -/
def planGroup (widths : List Int) (lines : Int) (cells : List String) :
    Except Error (List (List String)) := do
  if lines ≤ 1 then return [cells]
  let columns ← cells.zipIdx.mapM fun (cell, c) =>
    match widths[c]? with
    | some width => .ok (Text.fit cell width.toNat lines.toNat)
    | none => .error (.fault .outOfRange)
  if columns.isEmpty then throw (.fault .badValue)
  return stackLines ((columns.map List.length).foldl max lines.toNat) columns

/-- Lays out rows on the planned numbers of lines, one for every data row. -/
def layRows (separators : Bool) (widths : List Int) : List Int → List Row → Except Error (List Row)
  | _, [] => .ok []
  | counts, .separator :: rest => do return .separator :: (← layRows separators widths counts rest)
  | [], .data _ :: _ => .error (.fault .outOfRange)
  | count :: counts, .data cells :: rest => do
    let group ← planGroup widths count cells
    let more ← layRows separators widths counts rest
    return group.map Row.data ++ groupEnd separators group rest ++ more

/-- Lays out a table by a plan. -/
def applyPlan (t : Table) (plan : Narrow.Plan) (separators : Bool) : Except Error Table := do
  return ⟨← layRows separators plan.widths plan.rows t.rows⟩

/-- Narrows a table to a width with the help of a solver, if there is one. -/
def narrow (t : Table) (maxWidth : Int) (fixedColumns : List Int) (separators : Bool)
    (solver : Option Narrow.Solver) : Except Error Table := do
  t.applyPlan (← Narrow.plan t maxWidth fixedColumns solver) separators

end PipeTable.Table
