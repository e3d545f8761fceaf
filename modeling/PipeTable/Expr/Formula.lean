import PipeTable.Expr.Term

/-! # Formulas

A formula is an expression that may be evaluated: it is built from the supported constructs only,
and every call names its function.
-/

namespace PipeTable.Expr

/-- The signs in front of an operand. -/
inductive Sign where
  | minus
  | plus
  deriving DecidableEq, Repr

/-- The operators of arithmetic. -/
inductive Arithmetic where
  | add
  | sub
  | mul
  | div
  | floorDiv
  | mod
  | pow
  deriving DecidableEq, Repr

/-- The comparisons. -/
inductive Comparison where
  | eq
  | ne
  | lt
  | le
  | gt
  | ge
  | isIn
  | notIn
  deriving DecidableEq, Repr

/-- An expression that may be evaluated. -/
inductive Formula where
  | constant (v : Value)
  | name (id : String)
  | all (operands : List Formula)
  | any (operands : List Formula)
  | not (operand : Formula)
  | sign (s : Sign) (operand : Formula)
  | arithmetic (left : Formula) (op : Arithmetic) (right : Formula)
  | compare (first : Formula) (links : List (Comparison × Formula))
  | ifElse (test yes no : Formula)
  | call (function : String) (arguments : List Formula)
  | list (items : List Formula)
  | tuple (items : List Formula)
  | subscript (container index : Formula)
  | slice (lower upper step : Option Formula)
  deriving Inhabited

/-- The operator of arithmetic that a read one stands for, or the construct that it is. -/
def BinaryOp.arithmetic : BinaryOp → Except String Arithmetic
  | .add => .ok .add
  | .sub => .ok .sub
  | .mul => .ok .mul
  | .div => .ok .div
  | .floorDiv => .ok .floorDiv
  | .mod => .ok .mod
  | .pow => .ok .pow
  | .matMul => .error "MatMult"
  | .bitOr => .error "BitOr"
  | .bitXor => .error "BitXor"
  | .bitAnd => .error "BitAnd"
  | .shiftLeft => .error "LShift"
  | .shiftRight => .error "RShift"

/-- The comparison that a read one stands for, or the construct that it is. -/
def CompareOp.comparison : CompareOp → Except String Comparison
  | .eq => .ok .eq
  | .ne => .ok .ne
  | .lt => .ok .lt
  | .le => .ok .le
  | .gt => .ok .gt
  | .ge => .ok .ge
  | .isIn => .ok .isIn
  | .notIn => .ok .notIn
  | .same => .error "Is"
  | .notSame => .error "IsNot"

/-- The formula of an operator with one operand, or the construct that it is. -/
def UnaryOp.formula : UnaryOp → Except String (Formula → Formula)
  | .not => .ok .not
  | .minus => .ok (.sign .minus)
  | .plus => .ok (.sign .plus)
  | .invert => .error "Invert"

end PipeTable.Expr
