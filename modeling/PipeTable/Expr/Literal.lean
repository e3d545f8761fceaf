import PipeTable.Expr.Parser
import PipeTable.Text.Blank
import PipeTable.Value.Arithmetic
import PipeTable.Value.Equality

/-! # Literals

A literal is an expression that stands for a value without being evaluated: constants, signed
numbers, complex numbers as sums, and sequences, sets and mappings of literals.
-/

namespace PipeTable.Expr

/-- The value of a numeric constant. -/
def Term.number? : Term → Option Value
  | .constant (.int n) => some (.int n)
  | .constant (.float x) => some (.float x)
  | .constant (.complex re im) => some (.complex re im)
  | _ => none

/-- A number with its sign changed. -/
def negate : Value → Value
  | .int n => .int (-n)
  | .float x => .float (-x)
  | .complex re im => .complex (-re) (-im)
  | v => v

/-- The value of a numeric constant that may have one sign. -/
def Term.signedNumber? : Term → Option Value
  | .unary .plus t => t.number?
  | .unary .minus t => t.number?.map negate
  | t => t.number?

/-- The complex number of a real and an imaginary part that are added or subtracted. -/
def complexOf (left : Option Value) (op : BinaryOp) (right : Option Value) : Except Fault Value :=
  match left, right with
  | some l, some (.complex re im) =>
    if l.isNumber then
      match op with
      | .add => l.add (.complex re im)
      | .sub => l.subtract (.complex re im)
      | _ => .error .badValue
    else .error .badValue
  | _, _ => .error .badValue

/-- A set with one more item. -/
def insertItem (items : List Value) (v : Value) : Except Fault (List Value) :=
  if !v.isKey then .error .mismatch
  else if v.isAmong items then .ok items
  else .ok (items ++ [v])

/-- A mapping with one more entry. -/
def insertEntry (entries : List (Value × Value)) (key v : Value) :
    Except Fault (List (Value × Value)) :=
  if key.isKey then .ok (Value.putEntry entries key v) else .error .mismatch

mutual

/-- The value that a term stands for.  A term that is no literal is a bad value. -/
def Term.literal : Term → Except Fault Value
  | .constant v => .ok v
  | .tuple items => .tuple <$> literalItems items
  | .list items => .list <$> literalItems items
  | .set items _ => .set <$> literalSet [] items
  | .dict entries spread _ => do
    let found ← literalDict [] entries
    if spread then .error .badValue else .ok (.dict found)
  | .call (.name "set") [] false => .ok (.set [])
  | .binary left op right => complexOf left.signedNumber? op right.number?
  | .unary op operand =>
    match (Term.unary op operand).signedNumber? with
    | some v => .ok v
    | none => .error .badValue
  | _ => .error .badValue

/-- The values of literals. -/
def literalItems : List Term → Except Fault (List Value)
  | [] => .ok []
  | t :: ts => do
    let v ← t.literal
    return v :: (← literalItems ts)

/-- The items of a set, added to those before them. -/
def literalSet (found : List Value) : List Term → Except Fault (List Value)
  | [] => .ok found
  | t :: ts => do literalSet (← insertItem found (← t.literal)) ts

/-- The entries of a mapping, added to those before them. -/
def literalDict (found : List (Value × Value)) :
    List (Term × Term) → Except Fault (List (Value × Value))
  | [] => .ok found
  | (key, value) :: more => do
    let k ← key.literal
    let v ← value.literal
    literalDict (← insertEntry found k v) more

end

/-- The value of a text that is a literal. -/
def readLiteral (s : String) : Except Fault Value :=
  match Term.read? (Text.unifyNewlinesChars s.toList) with
  | some t => t.literal
  | none => .error .badValue

end PipeTable.Expr
