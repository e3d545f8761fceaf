import PipeTable.Table.Reduction
import PipeTable.Table.Basic
import PipeTable.Text.Blank
import PipeTable.Value.Convert

/-! # Flattening columns

A run of cells of one column, downwards or upwards from a start, becomes one value in the start
cell; the other cells of the run become empty.  Flattening several columns also removes the rows
that this leaves empty, and can be repeated from the next row on.
-/

namespace PipeTable.Table

/-- The number of rows from a position down to the next separator or the end. -/
def rowsUntilSeparator (t : Table) (position : Nat) : Nat :=
  ((t.rows.drop position).takeWhile Row.isData).length

/-- The number of data rows from a data line down to the next separator or the end. -/
def inferRowCount (t : Table) (line : Int) : Except Fault Nat :=
  (t.positionOf line).map t.rowsUntilSeparator

/-- The positions of the data rows that a run takes, the start first: as many as the count says, at
least one, downwards for a positive count and upwards otherwise. -/
def run (t : Table) (start : Nat) (count : Int) : List Nat :=
  let ahead := if 0 < count then t.dataPositions.filter fun p => start ≤ p
    else (t.dataPositions.filter fun p => p ≤ start).reverse
  ahead.take (max 1 count.natAbs)

/-- The stripped cells at positions of one column, counted from zero. -/
def cellsAt (t : Table) (positions : List Nat) (column : Nat) : Except Fault (List String) :=
  positions.mapM fun p =>
    match ((t.rows[p]?.bind Row.cells?).getD [])[column]? with
    | some cell => .ok (Text.strip cell)
    | none => .error .outOfRange

/-- The table with the cells of a run of one column, counted from zero, reduced into the first. -/
def flattenRun (t : Table) (positions : List Nat) (column : Nat) (reducer : Reducer) :
    Except Fault Table := do
  match positions with
  | [] => return t
  | start :: others =>
    let values ← t.cellsAt (positions.mergeSort (· ≤ ·)) column
    let emptied := others.foldl
      (fun table p => table.modifyRow p fun cells => cells.set column "") t
    return emptied.modifyRow start fun cells => cells.set column (reducer values).shown

/-- Refuses a column that the first data row does not have. -/
def checkColumn (t : Table) (operation : String) (column : Int) : Except Error Unit :=
  if 1 ≤ column ∧ column ≤ t.columnCount then .ok ()
  else .error (.precondition (.columnOutside operation column t.columnCount))

/-- The position of a data line, as a refusal of the operation if there is none. -/
def startPosition (t : Table) (operation : String) (line : Int) : Except Error Nat :=
  (t.positionOf line).mapError fun _ => .precondition (.lineOutside operation line t.height)

/-- The number of rows that a count asks for at a position; no count means down to the next
separator. -/
def resolveCount (t : Table) (position : Nat) (count : Value) : Except Error Int :=
  if count.isNone then .ok (t.rowsUntilSeparator position)
  else count.toInteger.mapError Error.fault

/-- Reduces a run of one column into its start cell.  Returns the positions of the run too, the
start first. -/
def flattenColumn (t : Table) (line column : Int) (count : Value) (reducer : Except Error Reducer) :
    Except Error (Table × List Nat) := do
  t.checkColumn "flatten_column" column
  let start ← t.startPosition "flatten_column" line
  let rows ← t.resolveCount start count
  let reduce ← reducer
  let positions := t.run start rows
  let result ← (t.flattenRun positions (column - 1).toNat reduce).mapError Error.fault
  return (result, positions)

/-- The columns, counted from one, that a signed count spans from a start column. -/
def columnSpan (start : Int) (count : Option Int) (width : Nat) : List Nat :=
  let first := match count with
    | some n => if n < 0 then max 1 (start + n + 1) else start
    | none => start
  let last := match count with
    | some n => if n < 0 then start else min (width : Int) (start + max 1 n - 1)
    | none => (width : Int)
  (List.range (last - first + 1).toNat).map fun i => first.toNat + i

/-- The counts of a span of columns: one for all, or one for each. -/
def spanCounts (columns : Nat) (counts : Value) : Except Error (List Value) :=
  let check (given : List Value) : Except Error (List Value) :=
    if given.length = columns then .ok given
    else .error (.parse (.wrongCounts given.length columns counts))
  match counts with
  | .list given => check given
  | .tuple given => check given
  | single => .ok (List.replicate columns single)

/-- Reduces the runs of several columns one after the other.  Returns all positions consumed. -/
def flattenRuns (start : Nat) (reducer : Reducer) :
    Table → List (Nat × Int) → Except Fault (Table × List Nat)
  | t, [] => .ok (t, [])
  | t, (column, count) :: more => do
    let positions := t.run start count
    let next ← t.flattenRun positions (column - 1) reducer
    let (result, others) ← flattenRuns start reducer next more
    return (result, positions ++ others)

/-- Whether all cells of the row at a position are blank. -/
def isBlankAt (t : Table) (position : Nat) : Bool :=
  ((t.rows[position]?.bind Row.cells?).getD []).all fun cell => (Text.strip cell).isEmpty

/-- The table without the rows at the given positions. -/
def dropRows (t : Table) (positions : List Nat) : Table :=
  ⟨(t.rows.zipIdx.filter fun (_, i) => !positions.contains i).map Prod.fst⟩

/-- One flattening of a span of columns from a position.  Returns the table without the rows that
became empty, and the position at which the next flattening would start, if any row is left. -/
def flattenStep (t : Table) (columns : List Nat) (counts : List Value) (start : Nat)
    (reducer : Reducer) : Except Error (Table × Option Nat) := do
  let resolved ← counts.mapM (t.resolveCount start)
  let (flat, consumed) ← (flattenRuns start reducer t (columns.zip resolved)).mapError Error.fault
  let deleted := (t.dataPositions.filter fun p => consumed.contains p).filter fun p =>
    p ≠ start && flat.isBlankAt p
  let upwards := match resolved with
    | first :: _ => decide (first < 0)
    | [] => false
  let following := if upwards
    then (t.dataPositions.filter fun p => consumed.all fun c => p < c).getLast?
    else (t.dataPositions.filter fun p => consumed.all fun c => c < p).head?
  let next := following.map fun p => p - (deleted.filter fun d => d < p).length
  return (flat.dropRows deleted, next)

/-- Flattens a span of columns `repetitions` times, each time from the first row past the rows
consumed before. -/
def flattenSteps (columns : List Nat) (counts : List Value) (reducer : Reducer) :
    Nat → Table → Nat → Except Error Table
  | 0, t, _ => .ok t
  | repetitions + 1, t, start => do
    let (result, next) ← t.flattenStep columns counts start reducer
    match next with
    | some position => flattenSteps columns counts reducer repetitions result position
    | none => return result

/-- Flattens a span of columns from a start cell and drops the rows that become empty. -/
def flattenColumns (t : Table) (line column : Int) (counts : Value) (columnCount : Option Int)
    (reducer : Except Error Reducer) (repetitions : Int) : Except Error Table := do
  t.checkColumn "flatten_columns" column
  let columns := columnSpan column columnCount t.columnCount
  let given ← spanCounts columns.length counts
  let reduce ← reducer
  let start ← t.startPosition "flatten_columns" line
  flattenSteps columns given reduce (max 1 repetitions).toNat t start

end PipeTable.Table
