import PipeTable.Error

/-! # Signatures of functions

What an expression has to know of a function to call it.  The functions of both contexts are listed
here, since each context has to recognize those of the other.
-/

namespace PipeTable.Expr

/-- The name of a function, how many arguments it takes, and what it is for. -/
structure Signature where
  name : String
  arity : Int
  /-- How many arguments more may be given. -/
  optional : Int := 0
  description : String
  deriving DecidableEq, Repr

namespace Signature

/-- Whether the function takes a number of arguments. -/
def accepts (s : Signature) (given : Int) : Bool :=
  s.arity ≤ given && given ≤ s.arity + s.optional

/-- The line that describes the function. -/
def describe (s : Signature) : String :=
  s.name ++ "/" ++ toString s.arity ++ ": " ++ s.description

/-! ## Functions of filters -/

def between : Signature := ⟨"between", 3, 0, "true when low <= value <= high"⟩
def «match» : Signature := ⟨"match", 2, 0, "regex search in a value"⟩
def contains : Signature := ⟨"contains", 2, 0, "substring test"⟩
def isEmpty : Signature := ⟨"isempty", 1, 0, "value is absent or blank"⟩
def num : Signature := ⟨"num", 1, 0, "numeric parse, NaN on failure"⟩
def cell : Signature := ⟨"cell", 1, 0, "cell of the current row by index, 0/negative from end"⟩
def anyCell : Signature := ⟨"anycell", 1, 0, "any cell of the current row matches a regex"⟩
def rowSum : Signature := ⟨"rowsum", 0, 0, "sum of the numeric cells of the current row"⟩
def lower : Signature := ⟨"lower", 1, 0, "lowercase text"⟩
def upper : Signature := ⟨"upper", 1, 0, "uppercase text"⟩
def strip : Signature := ⟨"strip", 1, 0, "strip surrounding whitespace"⟩
def length : Signature := ⟨"length", 1, 0, "length of the text"⟩

/-- The functions of filters. -/
def ofFilter : List Signature :=
  [between, «match», contains, isEmpty, num, cell, anyCell, rowSum, lower, upper, strip, length]

/-! ## Functions of sessions -/

def getField : Signature := ⟨"getfield", 0, 2, "cell content at a row/column offset"⟩
def setField : Signature := ⟨"setfield", 1, 2, "replace cell content at a row/column offset"⟩
def matchField : Signature := ⟨"matchfield", 1, 2, "regex search in the cell at an offset"⟩
def line : Signature := ⟨"line", 0, 0, "current data line"⟩
def column : Signature := ⟨"column", 0, 0, "current column"⟩
def getVar : Signature := ⟨"getvar", 1, 1, "read persistent jump state"⟩
def setVar : Signature := ⟨"setvar", 2, 0, "write persistent jump state, returns true"⟩
def checkVar : Signature := ⟨"checkvar", 2, 0, "persistent jump state equals a value"⟩
def incVar : Signature := ⟨"incvar", 1, 1, "add to a persistent counter and return it"⟩
def flatten : Signature := ⟨"flatten", 1, 1, "flatten cells below (or above) into this one"⟩

/-- The functions of sessions. -/
def ofJump : List Signature :=
  [getField, setField, matchField, line, column, getVar, setVar, checkVar, incVar, flatten]

end Signature

end PipeTable.Expr
