import PipeTable.Narrow.Request
import PipeTable.Narrow.Room
import PipeTable.Table.Basic

/-! # Planning a narrow layout

A plan gives every column a width and every data row a number of lines.  Fixed columns keep the
width of their longest cell; the optimizer divides what is left among the others.  Its answer is
checked before it becomes a plan.
-/

namespace PipeTable.Narrow

/-- A layout: a width per column and a number of lines per data row. -/
structure Plan where
  maxWidth : Int
  fixed : List Int
  widths : List Int
  rows : List Int
  deriving Repr, DecidableEq

/-- The number of lines of the whole layout. -/
def Plan.totalRows (p : Plan) : Int := p.rows.foldl (· + ·) 0

/-- How far planning gets without the optimizer: all the way, or to a request. -/
inductive Draft where
  | finished (plan : Plan)
  | asking (fixed : List Int) (columnWidths : List Int) (narrowable : List Nat) (request : Request)

/-- Keeps one of equal integers that stand side by side. -/
def withoutRepeats (values : List Int) : List Int :=
  values.foldr (fun v kept => if kept.head? = some v then kept else v :: kept) []

/-- The integers in ascending order, each once. -/
def ascending (values : List Int) : List Int := withoutRepeats (values.mergeSort (· ≤ ·))

/-- The lengths of all cells, when all rows are equally long. -/
def cellLengths? (rows : List (List String)) (width : Nat) : Option (List (List Int)) :=
  if rows.all fun row => row.length = width then
    some (rows.map fun row => row.map fun cell => (cell.length : Int))
  else none

/-- The greatest length in each column. -/
def columnMaxima (width : Nat) (lengths : List (List Int)) : List Int :=
  (List.range width).map fun c => (lengths.map fun row => row.getD c 0).foldl max 0

/-- The columns, numbered from one, that are not fixed. -/
def freeColumns (width : Nat) (fixed : List Int) : List Nat :=
  ((List.range width).map fun i => i + 1).filter fun (c : Nat) => !fixed.contains (c : Int)

/-- The sum of the greatest lengths of the fixed columns. -/
def widthOfFixed (fixed maxima : List Int) : Int :=
  (fixed.map fun c => maxima.getD (c - 1).toNat 0).foldl (· + ·) 0

/-- A refusal whose message states the given numbers.  Numbers with too many digits cannot be
written, and then no message comes about. -/
def stating (numbers : List Int) (refusal : Error) : Error :=
  if numbers.all Text.isWritable then refusal else .fault .badValue

/-- Prepares a plan: checks the fixed columns and sees what width is left for the others. -/
def draft (t : Table) (maxWidth : Int) (fixedColumns : List Int) : Except Error Draft := do
  let rows := t.dataRows
  if rows.isEmpty then throw (.emptyTable "narrow_table")
  let width := t.columnCount
  let fixed := ascending fixedColumns
  match fixed.find? fun c => c < 1 ∨ (width : Int) < c with
  | some c => throw (stating [c] (.precondition (.fixedOutside c width)))
  | none =>
    let narrowable := freeColumns width fixed
    match cellLengths? rows width with
    | none => throw (.fault .badValue)
    | some lengths =>
      let maxima := columnMaxima width lengths
      let needed := widthOfFixed fixed maxima
      let budget := maxWidth - needed
      if narrowable.isEmpty then
        if budget < 0 then
          throw (stating [needed, maxWidth] (.infeasible (.fixedColumns needed maxWidth)))
        return .finished ⟨maxWidth, fixed, maxima, rows.map fun _ => 1⟩
      if budget < narrowable.length then
        throw (stating [budget] (.infeasible (.tooNarrow budget narrowable.length)))
      let part := lengths.map fun row => narrowable.map fun c => row.getD (c - 1) 0
      return .asking fixed maxima narrowable ⟨rows.length, narrowable.length, budget, part⟩

/-- The first cell, in reading order, that is longer than its room. -/
def firstOverfull? (lengths : List (List Int)) (columns : Nat) (response : Response) :
    Option (Nat × Nat) :=
  let counts := holding response.rows
  let widths := holding response.widths
  let places := (List.range (commonExtent lengths.length response.rows.length)).flatMap fun r =>
    (List.range (commonExtent columns response.widths.length)).map fun c => (r, c)
  places.find? fun (r, c) =>
    match (repeated lengths r).bind (repeated · c), repeated response.rows r,
        repeated response.widths c with
    | some length, some lines, some width => room counts widths lines width < length
    | _, _, _ => false

/-- Puts the widths of the narrowable columns in their places. -/
def scatter (widths : List Int) : List (Nat × Int) → List Int
  | [] => widths
  | (column, width) :: more => scatter (widths.set (column - 1) width) more

/-- Checks the optimizer's answer and makes the plan of it. -/
def complete (maxWidth : Int) (fixed columnWidths : List Int) (narrowable : List Nat)
    (request : Request) (response : Response) : Except Error Plan := do
  if response.widths.any (· ≤ 0) then throw (stating [maxWidth] (.infeasible (.noLayout maxWidth)))
  if response.rows.any (· < 1) then throw (.engine .rowCount "")
  let total := response.widths.foldl (· + ·) 0
  if request.maxWidth < total then
    throw (stating [total, request.maxWidth] (.engine (.widthSum total request.maxWidth) ""))
  if overflows response.rows response.widths then throw (.fault .overflow)
  if !(compatible request.rows response.rows.length &&
      compatible request.columns response.widths.length) then throw (.fault .badValue)
  match firstOverfull? request.lengths request.columns response with
  | some (r, c) =>
    match narrowable[c]? with
    | some column => throw (.engine (.doesNotFit (r + 1) column) "")
    | none => throw (.fault .outOfRange)
  | none =>
    return ⟨maxWidth, fixed, scatter columnWidths (narrowable.zip response.widths), response.rows⟩

/-- Plans a narrow layout with the help of a solver, if there is one. -/
def plan (t : Table) (maxWidth : Int) (fixedColumns : List Int) (solver : Option Solver) :
    Except Error Plan := do
  match solver with
  | none => throw (.unavailable .noOptimizer)
  | some solve =>
    match ← draft t maxWidth fixedColumns with
    | .finished plan => return plan
    | .asking fixed columnWidths narrowable request =>
      complete maxWidth fixed columnWidths narrowable request (← solve request)

/-- The request that planning sends to the solver, if it gets that far. -/
def requestOf? (t : Table) (maxWidth : Int) (fixedColumns : List Int) : Option Request :=
  match draft t maxWidth fixedColumns with
  | .ok (.asking _ _ _ request) => some request
  | _ => none

end PipeTable.Narrow
