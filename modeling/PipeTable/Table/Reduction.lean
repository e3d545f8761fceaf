import PipeTable.Error
import PipeTable.Number.Sum
import PipeTable.Value.Compare

/-! # Reductions

A reduction makes one value of the cells of a run.  Reductions are given by name, or by a function
of the caller's own.
-/

namespace PipeTable

/-- A way to make one value of many cells. -/
abbrev Reducer := List String → Value

/-- The reductions that have a name. -/
inductive Reduction where
  | join
  | comma
  | concat
  | sum
  | mean
  | min
  | max
  | count
  | first
  | last
  deriving DecidableEq, Repr

namespace Reduction

/-- The name of a reduction. -/
def name : Reduction → String
  | .join => "join"
  | .comma => "comma"
  | .concat => "concat"
  | .sum => "sum"
  | .mean => "mean"
  | .min => "min"
  | .max => "max"
  | .count => "count"
  | .first => "first"
  | .last => "last"

/-- All reductions that have a name. -/
def all : List Reduction :=
  [.join, .comma, .concat, .sum, .mean, .min, .max, .count, .first, .last]

/-- The reduction with a name. -/
def ofName? (word : String) : Option Reduction := all.find? fun r => r.name = word

/-- The cells that are not empty. -/
def filled (cells : List String) : List String := cells.filter fun cell => cell != ""

/-- The numbers among the cells. -/
def numbers (cells : List String) : List Float :=
  (cells.map Number.ofText).filter fun x => !Number.isNaN x

/-- The value of a function on the numbers, or the empty text if there are none. -/
def ofNumbers (cells : List String) (f : Float → List Float → Float) : Value :=
  match numbers cells with
  | x :: xs => .float (f x xs)
  | [] => .text ""

/-- The first of two numbers unless the second is less. -/
def lesser (x y : Float) : Float := if y < x then y else x

/-- The first of two numbers unless the second is greater. -/
def greater (x y : Float) : Float := if x < y then y else x

/-- The value of a reduction on cells. -/
def apply : Reduction → Reducer
  | .join, cells => .text (" ".intercalate (filled cells))
  | .comma, cells => .text (", ".intercalate (filled cells))
  | .concat, cells => .text (String.join cells)
  | .sum, cells => .float (Number.sum (numbers cells))
  | .mean, cells => ofNumbers cells fun x xs => Number.mean (x :: xs)
  | .min, cells => ofNumbers cells fun x xs => xs.foldl lesser x
  | .max, cells => ofNumbers cells fun x xs => xs.foldl greater x
  | .count, cells => .int (filled cells).length
  | .first, cells => .text ((filled cells).head?.getD "")
  | .last, cells => .text ((filled cells).getLast?.getD "")

/-- The reduction that a value names. -/
def ofValue (v : Value) : Except Error Reducer :=
  match v with
  | .text word => match ofName? word with
    | some r => .ok r.apply
    | none => .error (.parse (.unknownReduction v))
  | _ => .error (if v.isKey then .parse (.unknownReduction v) else .fault .mismatch)

end Reduction

/-- The reducer that puts a text between all cells, empty ones included. -/
def Reducer.joinWith (separator : String) : Reducer :=
  fun cells => .text (separator.intercalate cells)

/-- The content of the cell that shows a value: whole numbers lose their point, and what is absent
or not a number is empty. -/
def Value.shown (v : Value) : String :=
  match v with
  | .float x =>
    if Number.isNaN x then ""
    else if Number.isWhole x then
      match Number.truncate? x with
      | some n => Text.writeInteger n
      | Option.none => v.cellText
    else v.cellText
  | _ => v.cellText

end PipeTable
