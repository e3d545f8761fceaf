import PipeTable.Expr.Registry
import PipeTable.Number.Sum
import PipeTable.Pattern.Search
import PipeTable.Selection
import PipeTable.Text.Case
import PipeTable.Value.Convert
import PipeTable.Value.Compare
import PipeTable.Value.Sequence

/-! # Functions of filters

What the expressions of a filter can call.  None of them has an effect; two look at the row as a
whole.
-/

namespace PipeTable.Filter

open Expr (Environment Function Registry Signature)

variable {σ : Type}

/-- A function without effects; wrong numbers of arguments are refused. -/
def pureFunction (signature : Signature)
    (f : Environment → List Value → Except Fault Value) : Function σ :=
  ⟨signature, fun env arguments => Expr.Eval.ofFault (f env arguments)⟩

/-- The text of an argument, if it can be written. -/
def textOf (v : Value) : Except Fault String :=
  if v.isWritable then .ok v.cellText else .error .badValue

/-- A function of the text of its only argument. -/
def textFunction (signature : Signature) (f : String → Value) : Function σ :=
  pureFunction signature fun _ arguments => match arguments with
    | [v] => f <$> textOf v
    | _ => .error .mismatch

/-- The cell of a row that a signed index stands for; an empty row has none. -/
def cellAt (row : List String) (index : Value) : Except Fault Value :=
  if row.isEmpty then .ok .none
  else do
    let position := Selection.resolveIndex (← index.toInteger) row.length
    return match row[(position - 1).toNat]? with
      | some cell => .text cell
      | none => .none

/-- Whether a pattern occurs in any cell of a row. -/
def anyCell (pattern : Value) : List String → Except Fault Bool
  | [] => .ok false
  | cell :: cells => do
    if ← Pattern.occurs pattern cell then return true
    anyCell pattern cells

/-- The sum of the cells of a row that are numbers. -/
def rowSum (row : List String) : Float :=
  Number.sum (row.map fun cell =>
    let x := Number.ofText cell
    if Number.isNaN x then 0.0 else x)

/-- The functions that filters can call. -/
def functions : List (Function σ) :=
  [pureFunction .between fun _ arguments => match arguments with
      | [v, low, high] => .bool <$> v.isBetween low high
      | _ => .error .mismatch,
    pureFunction .match fun _ arguments => match arguments with
      | [pattern, v] => do return .bool (← Pattern.occurs pattern (← textOf v))
      | _ => .error .mismatch,
    pureFunction .contains fun _ arguments => match arguments with
      | [v, piece] => do
        return .bool (Value.isPiece (← textOf piece).toList (← textOf v).toList)
      | _ => .error .mismatch,
    textFunction .isEmpty fun s => .bool (Text.strip s = ""),
    pureFunction .num fun _ arguments => match arguments with
      | [v] => .float <$> v.toNumber
      | _ => .error .mismatch,
    pureFunction .cell fun env arguments => match arguments with
      | [index] => cellAt env.row index
      | _ => .error .mismatch,
    pureFunction .anyCell fun env arguments => match arguments with
      | [pattern] => .bool <$> anyCell pattern env.row
      | _ => .error .mismatch,
    pureFunction .rowSum fun env _ => .ok (.float (rowSum env.row)),
    textFunction .lower fun s => .text (Text.lower s),
    textFunction .upper fun s => .text (Text.upper s),
    textFunction .strip fun s => .text (Text.strip s),
    textFunction .length fun s => .int s.length]

/-- The registry of filters. -/
def registry : Registry σ where
  context := .filter
  foreign := Signature.ofJump.map Signature.name
  functions := functions

end PipeTable.Filter
