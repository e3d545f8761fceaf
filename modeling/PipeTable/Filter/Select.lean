import PipeTable.Expr.Eval
import PipeTable.Filter.Functions
import PipeTable.Selection
import PipeTable.Table.Basic

/-! # Selecting from a table

A selection takes rows by number, keeps those for which an expression holds, and takes columns by
number.  The expression sees the number of a row among the rows that were taken.
-/

namespace PipeTable.Filter

open Expr (Environment Expression)

/-- The value of an expression for one row. -/
def valueAt (e : Expression Unit) (columns : Nat) (number : Nat) (row : List String) :
    Except Error Value :=
  ((e.evaluate (Environment.ofRow row number columns)).run.run ()).1

/-- Whether a row is kept.  A tolerant filter drops a row on which the evaluation fails. -/
def isKept (e : Expression Unit) (tolerant : Bool) (columns : Nat) (number : Nat)
    (row : List String) : Except Error Bool :=
  match valueAt e columns number row with
  | .ok v => .ok v.holds
  | .error (.evaluation cause) =>
    if tolerant then .ok false else .error (.evaluation (.inRow number cause))
  | .error e => .error e

/-- The rows that are kept, numbered from `number`. -/
def keepRows (e : Expression Unit) (tolerant : Bool) (columns : Nat) :
    Nat → List (List String) → Except Error (List (List String))
  | _, [] => .ok []
  | number, row :: rows => do
    let kept ← isKept e tolerant columns number row
    let more ← keepRows e tolerant columns (number + 1) rows
    return if kept then row :: more else more

/-- The cells of a row in the given columns; what the row lacks is empty. -/
def project (columns : List Int) (row : List String) : List String :=
  columns.map fun c => (Table.nth? row c).getD ""

/-- The expression that a value spells; a blank one filters nothing. -/
def conditionOf (v : Value) : Except Error (Option (Expression Unit)) :=
  if v.isNone || Text.strip v.toText = "" then .ok none
  else do return some (← Expression.ofValue v registry registry)

/-- The rows of a table that its numbers select. -/
def pickRows (t : Table) (numbers : List Int) : List (List String) :=
  numbers.filterMap (Table.nth? t.dataRows)

end PipeTable.Filter

namespace PipeTable.Table

/-- Selects rows and columns by number and keeps the rows for which an expression holds, if there is
one. -/
def select (t : Table) (rows columns : Value)
    (condition : Except Error (Option (Expr.Expression Unit))) (tolerant : Bool) :
    Except Error Table := do
  let taken := Filter.pickRows t (← Selection.resolve rows t.height)
  let kept ← match ← condition with
    | some e => Filter.keepRows e tolerant t.columnCount 1 taken
    | none => pure taken
  return ofCells (kept.map (Filter.project (← Selection.resolve columns t.columnCount)))

/-- Selects rows and columns by number and keeps the rows for which a condition holds. -/
def filter (t : Table) (rows columns condition : Value) (tolerant : Bool) : Except Error Table :=
  t.select rows columns (Filter.conditionOf condition) tolerant

end PipeTable.Table
