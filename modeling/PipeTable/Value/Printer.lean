import PipeTable.Number.Shortest
import PipeTable.Text.Integer
import PipeTable.Text.Quoted
import PipeTable.Value.Basic

/-! # The text of a value

A value is written as the literal that stands for it.  As the content of a cell a text is written
plainly and every other value as its literal.
-/

namespace PipeTable.Value

/-- A part of a complex number: a whole number loses its fraction. -/
def writePart (x : Float) : String :=
  match (Number.write x).toList.reverse with
  | '0' :: '.' :: digits => String.ofList digits.reverse
  | _ => Number.write x

/-- A complex number in parentheses, or its imaginary part alone when the real one is a plain
zero. -/
def writeComplex (re im : Float) : String :=
  if Number.place? re = some (.at 0) && !Number.isNegative re then writePart im ++ "j"
  else
    let sign := if Number.isNegative im && !Number.isNaN im then "" else "+"
    "(" ++ writePart re ++ sign ++ writePart im ++ "j)"

/-- Brackets around the written items of a sequence; a tuple of one keeps a comma. -/
def writeTuple (items : List String) : String :=
  match items with
  | [single] => "(" ++ single ++ ",)"
  | _ => "(" ++ ", ".intercalate items ++ ")"

mutual

/-- The literal that stands for a value. -/
def literal : Value → String
  | .none => "None"
  | .bool b => if b then "True" else "False"
  | .int n => Text.writeInteger n
  | .float x => Number.write x
  | .complex re im => writeComplex re im
  | .text s => Text.quote s
  | .bytes data => Text.quoteBytes data
  | .ellipsis => "Ellipsis"
  | .list items => "[" ++ ", ".intercalate (literals items) ++ "]"
  | .tuple items => writeTuple (literals items)
  | .set items =>
    if items.isEmpty then "set()" else "\x7b" ++ ", ".intercalate (literals items) ++ "\x7d"
  | .dict entries => "\x7b" ++ ", ".intercalate (literalEntries entries) ++ "\x7d"
  | .slice lower upper step =>
    "slice(" ++ literal lower ++ ", " ++ literal upper ++ ", " ++ literal step ++ ")"
  | .expression source _ => "Expression(" ++ Text.quote source ++ ")"

/-- The literals of values. -/
def literals : List Value → List String
  | [] => []
  | v :: vs => literal v :: literals vs

/-- The entries of a mapping as they stand in its literal. -/
def literalEntries : List (Value × Value) → List String
  | [] => []
  | (k, v) :: more => (literal k ++ ": " ++ literal v) :: literalEntries more

end

mutual

/-- Whether all integers in a value have few enough digits for its literal to be written. -/
def isWritable : Value → Bool
  | .int n => Text.isWritable n
  | .list items => areWritable items
  | .tuple items => areWritable items
  | .set items => areWritable items
  | .dict entries => entriesWritable entries
  | .slice lower upper step => lower.isWritable && upper.isWritable && step.isWritable
  | _ => true

/-- Whether the literals of values can be written. -/
def areWritable : List Value → Bool
  | [] => true
  | v :: vs => v.isWritable && areWritable vs

/-- Whether the literals of the entries of a mapping can be written. -/
def entriesWritable : List (Value × Value) → Bool
  | [] => true
  | (k, v) :: more => k.isWritable && v.isWritable && entriesWritable more

end

/-- The text of a value: a text itself, else the literal. -/
def toText : Value → String
  | .text s => s
  | v => literal v

/-- The text of a value as the content of a cell; the absent value is the empty cell. -/
def cellText : Value → String
  | .none => ""
  | v => toText v

end PipeTable.Value
