import PipeTable.Expr.Expression
import PipeTable.Value.Compare
import PipeTable.Value.Fill

/-! # Evaluation

A formula is evaluated by recursion on its structure.  Operands are evaluated from left to right,
and only as far as the outcome depends on them.
-/

namespace PipeTable.Expr

/-! ## Operators -/

/-- The value of a sign in front of a value: of a number itself, else of the number that the value
reads as. -/
def Sign.apply (s : Sign) (v : Value) : Except Fault Value := do
  let number ← if v.isNumber then pure v else .float <$> v.toNumber
  match s with
  | .plus => return number
  | .minus => return match number with
    | .int n => .int (-n)
    | .float x => .float (-x)
    | other => other

/-- The value of an operation on two values. -/
def Arithmetic.apply : Arithmetic → Value → Value → Except Fault Value
  | .add => Value.add
  | .sub => Value.subtract
  | .mul => Value.multiply
  | .div => Value.divide
  | .floorDiv => Value.floorQuotient
  | .mod => Value.modulo
  | .pow => Value.power

/-- Refuses an integer beyond all doubles. -/
def checkSize : Value → Except Fault Unit
  | .int n => if (Number.ofInteger? n).isSome then .ok () else .error .overflow
  | _ => .ok ()

/-- The order of two values.  Numbers are compared exactly, whatever their types. -/
def order? (left right : Value) : Except Fault (Option Ordering) :=
  if left.isNumber && right.isNumber then
    if left.isNaN then .ok none
    else do
      checkSize left
      if right.isNaN then return none
      checkSize right
      match left.places?, right.places? with
      | some (some p, _), some (some q, _) => return some (p.compare q)
      | _, _ => return none
  else Value.compare? left right

/-- Whether two values count as equal.  A number equals the texts that read as it. -/
def areEqual (left right : Value) : Except Fault Bool :=
  if left.isNumber != right.isNumber && !left.isNone && !right.isNone then do
    return (← Value.compare? left right) = some .eq
  else .ok (Value.equals left right)

/-- Whether a comparison holds between two values. -/
def Comparison.holds (op : Comparison) (left right : Value) : Except Fault Bool := do
  match op with
  | .isIn => Value.contains right left
  | .notIn => return !(← Value.contains right left)
  | .eq => areEqual left right
  | .ne => return !(← areEqual left right)
  | .lt => return (← order? left right) = some .lt
  | .le => return (← order? left right).any fun o => o != .gt
  | .gt => return (← order? left right) = some .gt
  | .ge => return (← order? left right).any fun o => o != .lt

/-! ## Formulas -/

/-- Whether a text is the name of a column or of its number: `c`, a decimal number, and perhaps
`n`. -/
def isColumnName (name : String) : Bool :=
  match name.toList with
  | 'c' :: cs =>
    let digits := if cs.getLast? = some 'n' then cs.dropLast else cs
    !digits.isEmpty && digits.all Text.isDecimal
  | _ => false

variable {σ : Type}

/-- The value of a name. -/
def lookup (source : String) (env : Environment) (name : String) : Eval σ Value :=
  match env.find? name with
  | some v => return v
  | none =>
    if isColumnName name then throw (.evaluation (.columnOutside name))
    else throw (.evaluation (.unboundName name source))

/-- The function with a name. -/
def callee (registry : Registry σ) (source name : String) : Eval σ (Function σ) :=
  match registry.find? name with
  | some f => return f
  | none => throw (.evaluation (.unboundFunction name source))

mutual

/-- The value of a formula. -/
def Formula.eval (registry : Registry σ) (source : String) (env : Environment) :
    Formula → Eval σ Value
  | .constant v => return v
  | .name id => lookup source env id
  | .all operands => evalAll registry source env .none operands
  | .any operands => evalAny registry source env .none operands
  | .not operand => do return .bool !(← operand.eval registry source env).holds
  | .sign s operand => do Eval.ofFault (s.apply (← operand.eval registry source env))
  | .arithmetic left op right => do
    let l ← left.eval registry source env
    let r ← right.eval registry source env
    Eval.ofFault (op.apply l r)
  | .compare first links => do
    let v ← first.eval registry source env
    return .bool (← evalLinks registry source env v links)
  | .ifElse test yes no => do
    if (← test.eval registry source env).holds then yes.eval registry source env
    else no.eval registry source env
  | .call function arguments => do
    let f ← callee registry source function
    f.run env (← evalList registry source env arguments)
  | .list items => do return .list (← evalList registry source env items)
  | .tuple items => do return .tuple (← evalList registry source env items)
  | .subscript container index => do
    let c ← container.eval registry source env
    let i ← index.eval registry source env
    Eval.ofFault (c.item i)
  | .slice lower upper step => do
    let l ← evalOptional registry source env lower
    let u ← evalOptional registry source env upper
    let s ← evalOptional registry source env step
    return .slice l u s

/-- The values of formulas. -/
def evalList (registry : Registry σ) (source : String) (env : Environment) :
    List Formula → Eval σ (List Value)
  | [] => return []
  | f :: fs => do
    let v ← f.eval registry source env
    return v :: (← evalList registry source env fs)

/-- The first value that does not hold, or the last one. -/
def evalAll (registry : Registry σ) (source : String) (env : Environment) (last : Value) :
    List Formula → Eval σ Value
  | [] => return last
  | f :: fs => do
    let v ← f.eval registry source env
    if v.holds then evalAll registry source env v fs else return v

/-- The first value that holds, or the last one. -/
def evalAny (registry : Registry σ) (source : String) (env : Environment) (last : Value) :
    List Formula → Eval σ Value
  | [] => return last
  | f :: fs => do
    let v ← f.eval registry source env
    if v.holds then return v else evalAny registry source env v fs

/-- Whether all links of a chain of comparisons hold, up to the first that does not. -/
def evalLinks (registry : Registry σ) (source : String) (env : Environment) (left : Value) :
    List (Comparison × Formula) → Eval σ Bool
  | [] => return true
  | (op, f) :: more => do
    let right ← f.eval registry source env
    if ← Eval.ofFault (op.holds left right) then evalLinks registry source env right more
    else return false

/-- The value of a formula that may be absent. -/
def evalOptional (registry : Registry σ) (source : String) (env : Environment) :
    Option Formula → Eval σ Value
  | none => return .none
  | some f => f.eval registry source env

end

namespace Expression

/-- Puts a fault into the words of an evaluation.  A missing operation is no fault of the
expression's values and stays as it is. -/
def explain (source : String) : Error → Error
  | .fault .noMember => .fault .noMember
  | .fault fault => .evaluation (.failed source fault)
  | e => e

/-- The value of an expression. -/
def evaluate (e : Expression σ) (env : Environment) : Eval σ Value :=
  ExceptT.adapt (explain e.source) (e.formula.eval e.registry e.source env)

/-- Whether an expression holds. -/
def isTrue (e : Expression σ) (env : Environment) : Eval σ Bool := do
  return (← e.evaluate env).holds

end Expression

end PipeTable.Expr
