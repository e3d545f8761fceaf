/-! # Faults of operations on values

What can go wrong when a value is used for what it is not, sorted by kind.  Faults of expressions
are reported with the expression; elsewhere they stand for themselves.
-/

namespace PipeTable

/-- Why an operation on values has no result. -/
inductive Fault where
  /-- The operation does not accept a value of this type. -/
  | mismatch
  /-- The type is right and the value is not. -/
  | badValue
  /-- An index lies outside a sequence. -/
  | outOfRange
  /-- The table has no such data line. -/
  | noLine (line : Int) (count : Nat)
  /-- The row has no such column. -/
  | noColumn (column : Int) (width : Nat)
  /-- A mapping has no such key. -/
  | missingKey
  | divisionByZero
  /-- A number does not fit the type that has to hold it. -/
  | overflow
  /-- A sequence would be repeated too often. -/
  | tooManyCopies (count : Int)
  /-- The value has no such operation at all. -/
  | noMember
  /-- A text is not a pattern. -/
  | badPattern
  deriving DecidableEq, Repr

/-- The wording of a fault that does not depend on the program around it. -/
def Fault.detail? : Fault → Option String
  | .noLine line count => some s!"data line {line} outside 1..{count}"
  | .noColumn column width => some s!"column {column} outside 1..{width}"
  | .tooManyCopies count => some s!"repetition count {count} is too large"
  | _ => none

/-- The wording of a fault in plain words. -/
def Fault.describe (fault : Fault) : String :=
  match fault.detail? with
  | some text => text
  | none => match fault with
    | .mismatch => "unsupported type of value"
    | .badValue => "invalid value"
    | .missingKey => "no such key"
    | .divisionByZero => "division by zero"
    | .overflow => "number too large"
    | .noMember => "value has no such operation"
    | .badPattern => "invalid pattern"
    | _ => "index out of range"

end PipeTable
