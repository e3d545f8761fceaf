import PipeTable.Error

/-! # Terms

A term is an expression as it was read.  Constructs that no expression may use are kept by name and
place only: they are refused, but only after the whole text has been read.
-/

namespace PipeTable.Expr

/-- Operators with one operand. -/
inductive UnaryOp where
  | not
  | minus
  | plus
  | invert
  deriving DecidableEq, Repr

/-- Operators with two operands. -/
inductive BinaryOp where
  | add
  | sub
  | mul
  | div
  | floorDiv
  | mod
  | pow
  | matMul
  | bitOr
  | bitXor
  | bitAnd
  | shiftLeft
  | shiftRight
  deriving DecidableEq, Repr

/-- Comparisons. -/
inductive CompareOp where
  | eq
  | ne
  | lt
  | le
  | gt
  | ge
  | isIn
  | notIn
  | same
  | notSame
  deriving DecidableEq, Repr

/-- A stretch of the source. -/
structure Stretch where
  start : Nat
  stop : Nat
  deriving DecidableEq, Repr

/-- An expression as it was read. -/
inductive Term where
  | constant (v : Value)
  | name (id : String)
  | all (operands : List Term)
  | any (operands : List Term)
  | unary (op : UnaryOp) (operand : Term)
  | binary (left : Term) (op : BinaryOp) (right : Term)
  | compare (first : Term) (links : List (CompareOp × Term))
  | ifElse (test yes no : Term)
  | call (function : Term) (arguments : List Term) (keywords : Bool)
  | list (items : List Term)
  | tuple (items : List Term)
  | subscript (container index : Term)
  | slice (lower upper step : Option Term)
  | starred (item : Term) (place : Stretch)
  | set (items : List Term) (place : Stretch)
  /-- A mapping.  `spread` tells that it takes over the entries of others; the entries are those
  before these. -/
  | dict (entries : List (Term × Term)) (spread : Bool) (place : Stretch)
  | unsupported (construct : String) (place : Stretch)

end PipeTable.Expr
