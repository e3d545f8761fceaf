import PipeTable.Expr.Formula

/-! # Checking terms

A term becomes a formula unless something in it is refused.  Of several complaints the one nearest
to the root counts, and among those of one depth the one that stands first.
-/

namespace PipeTable.Expr

/-- What a check needs to know of the place where a term stands. -/
structure Surroundings where
  /-- The whole source. -/
  source : String
  /-- The part of the source that a stretch covers. -/
  fragment : Stretch → String
  /-- Whether a function may be called with a number of arguments. -/
  allow : String → Nat → Except Error Unit

/-- Why a term is refused, and how far below the root. -/
structure Complaint where
  depth : Nat
  cause : Error

/-- The outcome of a check. -/
abbrev Checked (α : Type) := Except Complaint α

/-- Both outcomes; of two complaints the one nearer to the root, else the first. -/
def Checked.both {α β γ : Type} (f : α → β → γ) : Checked α → Checked β → Checked γ
  | .ok a, .ok b => .ok (f a b)
  | .error c, .ok _ => .error c
  | .ok _, .error c => .error c
  | .error c, .error d => .error (if d.depth < c.depth then d else c)

namespace Surroundings

/-- The complaint about an unsupported construct; what has no place of its own shows the whole
source. -/
def unsupported (s : Surroundings) (depth : Nat) (construct : String) (place : Option Stretch) :
    Complaint :=
  let text := (place.map s.fragment).getD ""
  ⟨depth, .parse (.unsupported construct (if text = "" then s.source else text))⟩

/-- The complaint about a refused operator. -/
def operator {α : Type} (s : Surroundings) (depth : Nat) : Except String α → Checked α
  | .ok op => .ok op
  | .error construct => .error (s.unsupported depth construct none)

/-- The operators of a chain of comparisons. -/
def operators (s : Surroundings) (depth : Nat) : List CompareOp → Checked (List Comparison)
  | [] => .ok []
  | op :: ops => Checked.both List.cons (s.operator depth op.comparison) (operators s depth ops)

end Surroundings

/-- The name of a called function, if the call is allowed. -/
def allowCall (s : Surroundings) (depth : Nat) (function : Term) (given : Nat) (keywords : Bool) :
    Checked String :=
  match function with
  | .name id =>
    if keywords then .error ⟨depth, .parse (.keywordArguments s.source)⟩
    else match s.allow id given with
      | .ok () => .ok id
      | .error cause => .error ⟨depth, cause⟩
  | _ => .error ⟨depth, .parse (.calleeNotNamed s.source)⟩

mutual

/-- The formula of a term at a depth, or the complaint about it. -/
def Term.check (s : Surroundings) (depth : Nat) : Term → Checked Formula
  | .constant v => .ok (.constant v)
  | .name id => .ok (.name id)
  | .all operands => (checkAll s (depth + 1) operands).map .all
  | .any operands => (checkAll s (depth + 1) operands).map .any
  | .unary op operand =>
    Checked.both (· ·) (s.operator (depth + 1) op.formula) (operand.check s (depth + 1))
  | .binary left op right =>
    Checked.both (· ·)
      (Checked.both Formula.arithmetic (left.check s (depth + 1))
        (s.operator (depth + 1) op.arithmetic))
      (right.check s (depth + 1))
  | .compare first links =>
    Checked.both (fun (l, ops) operands => .compare l (ops.zip operands))
      (Checked.both Prod.mk (first.check s (depth + 1))
        (s.operators (depth + 1) (links.map Prod.fst)))
      (checkLinks s (depth + 1) links)
  | .ifElse test yes no =>
    Checked.both (· ·)
      (Checked.both Formula.ifElse (test.check s (depth + 1)) (yes.check s (depth + 1)))
      (no.check s (depth + 1))
  | .call function arguments keywords =>
    match allowCall s depth function arguments.length keywords with
    | .ok id => (checkAll s (depth + 1) arguments).map (.call id)
    | .error complaint => .error complaint
  | .list items => (checkAll s (depth + 1) items).map .list
  | .tuple items => (checkAll s (depth + 1) items).map .tuple
  | .subscript container index =>
    Checked.both .subscript (container.check s (depth + 1)) (index.check s (depth + 1))
  | .slice lower upper step =>
    Checked.both (· ·)
      (Checked.both Formula.slice (checkOptional s (depth + 1) lower)
        (checkOptional s (depth + 1) upper))
      (checkOptional s (depth + 1) step)
  | .starred _ place => .error (s.unsupported depth "Starred" (some place))
  | .set _ place => .error (s.unsupported depth "Set" (some place))
  | .dict _ _ place => .error (s.unsupported depth "Dict" (some place))
  | .unsupported construct place => .error (s.unsupported depth construct (some place))

/-- The formulas of terms of one depth. -/
def checkAll (s : Surroundings) (depth : Nat) : List Term → Checked (List Formula)
  | [] => .ok []
  | t :: ts => Checked.both List.cons (t.check s depth) (checkAll s depth ts)

/-- The formulas of the operands of a chain of comparisons. -/
def checkLinks (s : Surroundings) (depth : Nat) : List (CompareOp × Term) → Checked (List Formula)
  | [] => .ok []
  | (_, t) :: more => Checked.both List.cons (t.check s depth) (checkLinks s depth more)

/-- The formula of a term that may be absent. -/
def checkOptional (s : Surroundings) (depth : Nat) : Option Term → Checked (Option Formula)
  | none => .ok none
  | some t => (t.check s depth).map some

end

end PipeTable.Expr
