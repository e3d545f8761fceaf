import PipeTable.Expr.Check
import PipeTable.Expr.Parser
import PipeTable.Expr.Registry
import PipeTable.Text.Blank

/-! # Compiled expressions

An expression is compiled against a registry: its source is read, checked and kept as a formula
together with the functions it may call.
-/

namespace PipeTable.Expr

/-- An expression that compiled. -/
structure Expression (σ : Type) where
  source : String
  registry : Registry σ
  formula : Formula

/-- The parts of a source that become single characters when its line breaks are unified. -/
def sourcePieces : List Char → List (List Char)
  | [] => []
  | '\r' :: '\n' :: cs => ['\r', '\n'] :: sourcePieces cs
  | c :: cs => [c] :: sourcePieces cs

/-- The part of a source that a stretch of its unified form covers. -/
def fragmentOf (source : List Char) (place : Stretch) : String :=
  String.ofList (((sourcePieces source).drop place.start).take (place.stop - place.start)).flatten

namespace Expression

variable {σ : Type}

/-- Compiles a source. -/
def compile (source : String) (registry : Registry σ) : Except Error (Expression σ) :=
  let text := Text.stripChars source.toList
  if text.isEmpty then .error (.parse (.emptyExpression (.text source)))
  else if text.contains '\x00' then .error (.fault .badValue)
  else match Term.read? (Text.unifyNewlinesChars text) with
    | none => .error (.parse (.badExpression source))
    | some term =>
      match term.check ⟨source, fragmentOf text, registry.allow source⟩ 0 with
      | .ok formula => .ok ⟨source, registry, formula⟩
      | .error complaint => .error complaint.cause

/-- The expression for another registry.  Within one context it stays as it is. -/
def adopt (e : Expression σ) (registry : Registry σ) : Except Error (Expression σ) :=
  if e.registry.context = registry.context then .ok e else compile e.source registry

/-- Compiles what a value spells.  An expression of the registry's context was compiled before, with
the functions in `standard`. -/
def ofValue (v : Value) (standard registry : Registry σ) : Except Error (Expression σ) :=
  match v with
  | .text s => compile s registry
  | .expression source context =>
    compile source (if context = registry.context then standard else registry)
  | _ => if v.isTrue then .error (.fault .noMember) else .error (.parse (.emptyExpression v))

end Expression

end PipeTable.Expr
