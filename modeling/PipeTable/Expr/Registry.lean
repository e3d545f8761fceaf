import PipeTable.Expr.Signature
import PipeTable.Number.Reading
import PipeTable.Value.Equality

/-! # Registries of functions

A registry holds the functions that the expressions of one context can call.  It also knows names
that belong to the other context, so that calling them can be told from calling nothing at all.
-/

namespace PipeTable.Expr

/-- The names that an expression can refer to, and the row it is evaluated over. -/
structure Environment where
  bindings : List (String × Value) := []
  row : List String := []

/-- A computation on a state of type `σ` that may fail; what it did to the state before it failed
stays done. -/
abbrev Eval (σ : Type) := ExceptT Error (StateM σ)

/-- The outcome of a computation that needs no state. -/
def Eval.ofFault {σ α : Type} : Except Fault α → Eval σ α
  | .ok a => pure a
  | .error fault => throw (.fault fault)

/-- A function that expressions can call. -/
structure Function (σ : Type) where
  signature : Signature
  run : Environment → List Value → Eval σ Value

/-- The functions of one context, and the names that only the other one has. -/
structure Registry (σ : Type) where
  context : Context
  foreign : List String := []
  functions : List (Function σ) := []

namespace Registry

variable {σ : Type}

/-- The function with a name. -/
def find? (r : Registry σ) (name : String) : Option (Function σ) :=
  r.functions.find? fun f => f.signature.name = name

/-- Whether the registry has a function with a name. -/
def contains (r : Registry σ) (name : String) : Bool := (r.find? name).isSome

/-- Whether a name belongs to the other context alone. -/
def isForeign (r : Registry σ) (name : String) : Bool :=
  r.foreign.contains name && !r.contains name

/-- The registry with one more function, which replaces one of the same name. -/
def register (r : Registry σ) (f : Function σ) : Registry σ :=
  { r with functions :=
      f :: r.functions.filter fun g => g.signature.name != f.signature.name }

/-- The signatures in the order of their names. -/
def signatures (r : Registry σ) : List Signature :=
  (r.functions.map Function.signature).mergeSort fun s t => s.name ≤ t.name

/-- The names in order. -/
def names (r : Registry σ) : List String := r.signatures.map Signature.name

/-- The descriptions in the order of the names. -/
def describe (r : Registry σ) : List String := r.signatures.map Signature.describe

/-- Whether an expression of the registry's context may call a function with a number of arguments.
Names that no context knows are let pass; calling them fails. -/
def allow (r : Registry σ) (source name : String) (given : Nat) : Except Error Unit :=
  if r.isForeign name then .error (.foreignFunction name r.context source)
  else match r.find? name with
    | some f =>
      if f.signature.accepts given then .ok ()
      else .error (.parse (.wrongArity name f.signature.arity given source))
    | none => .ok ()

/-- The registry of a context whose functions have nothing to act on: they can be named in
expressions, and calling them fails. -/
def detached (context : Context) (foreign own : List Signature) : Registry σ where
  context := context
  foreign := foreign.map Signature.name
  functions := own.map fun s => ⟨s, fun _ _ => throw (.fault .noMember)⟩

end Registry

/-! ## Rows -/

/-- The names bound for one row: its number, its cells as a list, the number of columns, and for
each column its text, absent when empty, and its number. -/
def Environment.ofRow (row : List String) (number columns : Int) : Environment where
  row := row
  bindings :=
    ("n", .int number) :: ("row", .list (row.map .text)) :: ("ncols", .int columns) ::
      (List.range columns.toNat).flatMap fun k =>
        let text := row[k]?.getD ""
        [(s!"c{k + 1}", if text = "" then .none else .text text),
          (s!"c{k + 1}n", .float (Number.ofText text))]

/-- The value of a name. -/
def Environment.find? (env : Environment) (name : String) : Option Value :=
  env.bindings.lookup name

end PipeTable.Expr
