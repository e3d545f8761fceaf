import Mathlib
import PipeTable.Proofs.Effects
import PipeTable.Proofs.Faults

/-! # What a value depends on

The value of a formula depends on the names that occur in it and on what its functions look at, and
on nothing else.  Two evaluations that agree there have the same value or both fail; the errors may
differ in their wording, since they quote the source of the expression.
-/

namespace PipeTable

/-! ## Outcomes that agree -/

namespace Outcome

variable {ε α β : Type}

theorem map_bind {γ : Type} (x : Except ε α) (f : α → β) (g : β → Except ε γ) :
    x.map f >>= g = x >>= fun a => g (f a) := by
  cases x <;> rfl

theorem bind_map {γ : Type} (x : Except ε α) (f : α → Except ε β) (g : β → γ) :
    (x >>= f).map g = x >>= fun a => (f a).map g := by
  cases x <;> rfl

/-- Both outcomes are the same result, or both are errors of a kind. -/
inductive Agree (P : ε → Prop) : Except ε α → Except ε α → Prop
  | ok (a : α) : Agree P (.ok a) (.ok a)
  | error {e e' : ε} (he : P e) (he' : P e') : Agree P (.error e) (.error e')

namespace Agree

variable {P Q : ε → Prop}

theorem symm {x y : Except ε α} (h : Agree P x y) : Agree P y x := by
  cases h with
  | ok a => exact .ok a
  | error he he' => exact .error he' he

theorem trans {x y z : Except ε α} (hxy : Agree P x y) (hyz : Agree P y z) : Agree P x z := by
  cases hxy with
  | ok a => exact hyz
  | error he he' =>
      cases hyz with
      | error _ he'' => exact .error he he''

theorem map {x y : Except ε α} (h : Agree P x y) (f : α → β) :
    Agree P (x.map f) (y.map f) := by
  cases h with
  | ok a => exact .ok (f a)
  | error he he' => exact .error he he'

theorem mapError {x y : Except ε α} {f g : ε → ε} (h : Agree P x y) (hf : ∀ e, P e → Q (f e))
    (hg : ∀ e, P e → Q (g e)) : Agree Q (x.mapError f) (y.mapError g) := by
  cases h with
  | ok a => exact .ok a
  | error he he' => exact .error (hf _ he) (hg _ he')

theorem of_ok {x : Except ε α} {a : α} (h : Agree P x (.ok a)) : x = .ok a := by
  cases h
  rfl

theorem of_error {x : Except ε α} {e : ε} (h : Agree P x (.error e)) :
    ∃ e', x = .error e' ∧ P e' ∧ P e := by
  cases h with
  | error he he' => exact ⟨_, rfl, he, he'⟩

/-- Errors can be put into other words before or after a second step. -/
theorem bind_mapError {x y : Except ε α} {f : ε → ε} {g g' : α → Except ε β}
    (hxy : Agree P (x.mapError f) y) (hg : ∀ a, Agree P ((g a).mapError f) (g' a)) :
    Agree P ((x >>= g).mapError f) (y >>= g') := by
  cases x with
  | ok a =>
      cases hxy
      exact hg a
  | error e =>
      cases hxy with
      | error he he' => exact .error he he'

end Agree

end Outcome

/-- Whether an error is reported as one of the evaluation of an expression. -/
def Error.IsReported : Error → Prop
  | .evaluation _ => True
  | .fault cause => cause ≠ .noMember
  | _ => False

namespace Expr

open Outcome (Agree)

variable {σ α β : Type}

/-! ## Computations that agree -/

/-- From every state both computations lead to the same state and have the same result or both end
in an error of an evaluation. -/
def Eval.Agrees (x y : Eval σ α) : Prop :=
  ∀ s, (x.run s).2 = (y.run s).2 ∧ Agree Error.IsReported (x.run s).1 (y.run s).1

namespace Eval.Agrees

theorem pure (a : α) : (pure a : Eval σ α).Agrees (pure a) := fun _ => ⟨rfl, .ok a⟩

theorem throw {e e' : Error} (he : e.IsReported) (he' : e'.IsReported) :
    (throw e : Eval σ α).Agrees (throw e') :=
  fun _ => ⟨rfl, .error he he'⟩

theorem ofFault {x : Except Fault α} (hx : Supported x) :
    (ofFault x : Eval σ α).Agrees (ofFault x) := by
  cases x with
  | ok a => exact .pure a
  | error fault =>
      have hfault := Supported.error_iff.mp hx
      exact .throw hfault hfault

theorem bind {x y : Eval σ α} {f g : α → Eval σ β} (hxy : x.Agrees y)
    (hfg : ∀ a, (f a).Agrees (g a)) : (x >>= f).Agrees (y >>= g) := by
  intro s
  obtain ⟨hstate, hresult⟩ := hxy s
  rw [run_bind, run_bind]
  rcases hx : x.run s with ⟨r, t⟩
  rcases hy : y.run s with ⟨r', t'⟩
  rw [hx, hy] at hstate hresult
  obtain rfl : t = t' := hstate
  cases hresult with
  | ok a => exact hfg a t
  | error he he' => exact ⟨rfl, .error he he'⟩

end Eval.Agrees

/-! ## Names -/

mutual

/-- The names whose values a formula asks for.  Those of functions are not among them. -/
def Formula.names : Formula → List String
  | .constant _ => []
  | .name id => [id]
  | .all operands | .any operands | .list operands | .tuple operands => namesOfList operands
  | .not operand | .sign _ operand => operand.names
  | .arithmetic left _ right => left.names ++ right.names
  | .compare first links => first.names ++ namesOfLinks links
  | .ifElse test yes no => test.names ++ yes.names ++ no.names
  | .call _ arguments => namesOfList arguments
  | .subscript container index => container.names ++ index.names
  | .slice lower upper step =>
    namesOfOption lower ++ namesOfOption upper ++ namesOfOption step

/-- The names in formulas. -/
def namesOfList : List Formula → List String
  | [] => []
  | φ :: φs => φ.names ++ namesOfList φs

/-- The names in the links of a chain of comparisons. -/
def namesOfLinks : List (Comparison × Formula) → List String
  | [] => []
  | (_, φ) :: more => φ.names ++ namesOfLinks more

/-- The names in a formula that may be absent. -/
def namesOfOption : Option Formula → List String
  | none => []
  | some φ => φ.names

end

/-- Two environments have the same row and bind the names in a list alike. -/
def Environment.AgreesOn (names : List String) (env env' : Environment) : Prop :=
  env.row = env'.row ∧ ∀ id ∈ names, env.find? id = env'.find? id

namespace Environment.AgreesOn

variable {env env' : Environment} {names more : List String}

theorem left (h : AgreesOn (names ++ more) env env') : AgreesOn names env env' :=
  ⟨h.1, fun id hid => h.2 id (List.mem_append_left _ hid)⟩

theorem right (h : AgreesOn (names ++ more) env env') : AgreesOn more env env' :=
  ⟨h.1, fun id hid => h.2 id (List.mem_append_right _ hid)⟩

end Environment.AgreesOn

/-! ## Formulas -/

/-- A function whose outcome depends on the row and on its arguments only, and that fails only as
evaluations do. -/
def Function.LooksAtRow (f : Function σ) : Prop :=
  ∀ env env' arguments, env.row = env'.row → (f.run env arguments).Agrees (f.run env' arguments)

section Formulas

variable {registry : Registry σ} {env env' : Environment} (source source' : String)

theorem lookup_agrees {name : String} (h : env.find? name = env'.find? name) :
    (lookup source env name : Eval σ Value).Agrees (lookup source' env' name) := by
  unfold lookup
  rw [h]
  split
  · exact .pure _
  · split <;> exact .throw trivial trivial

theorem call_agrees (hregistry : ∀ f ∈ registry.functions, f.LooksAtRow)
    (hrow : env.row = env'.row) (function : String) {arguments arguments' : Eval σ (List Value)}
    (harguments : arguments.Agrees arguments') :
    (do let f ← callee registry source function; f.run env (← arguments)).Agrees
      (do let f ← callee registry source' function; f.run env' (← arguments')) := by
  -- the callee is looked up first, so an unknown one is an error whatever the arguments do
  unfold callee
  split
  next f hfind =>
    rw [pure_bind, pure_bind]
    exact harguments.bind fun vs =>
      hregistry f (List.mem_of_find?_eq_some hfind) env env' vs hrow
  next =>
    change Eval.Agrees (throw _) (throw _)
    exact .throw trivial trivial

mutual

/-- The value of a formula depends on the row and on the names that occur in it. -/
theorem Formula.eval_agrees (hregistry : ∀ f ∈ registry.functions, f.LooksAtRow) :
    (φ : Formula) → env.AgreesOn φ.names env' →
      (φ.eval registry source env).Agrees (φ.eval registry source' env')
  | .constant v, _ => .pure v
  | .name id, h => lookup_agrees source source' (h.2 id List.mem_cons_self)
  | .all operands, h => evalAll_agrees hregistry .none operands h
  | .any operands, h => evalAny_agrees hregistry .none operands h
  | .not operand, h => (operand.eval_agrees hregistry h).bind fun _ => .pure _
  | .sign s operand, h =>
      (operand.eval_agrees hregistry h).bind fun v => .ofFault (sign_supported s v)
  | .arithmetic left op right, h =>
      (left.eval_agrees hregistry h.left).bind fun l =>
        (right.eval_agrees hregistry h.right).bind fun r => .ofFault (arithmetic_supported op l r)
  | .compare first links, h =>
      (first.eval_agrees hregistry h.left).bind fun v =>
        (evalLinks_agrees hregistry v links h.right).bind fun _ => .pure _
  | .ifElse test yes no, h =>
      (test.eval_agrees hregistry h.left.left).bind fun v => by
        split
        · exact yes.eval_agrees hregistry h.left.right
        · exact no.eval_agrees hregistry h.right
  | .call function arguments, h =>
      call_agrees source source' hregistry h.1 function (evalList_agrees hregistry arguments h)
  | .list items, h => (evalList_agrees hregistry items h).bind fun _ => .pure _
  | .tuple items, h => (evalList_agrees hregistry items h).bind fun _ => .pure _
  | .subscript container index, h =>
      (container.eval_agrees hregistry h.left).bind fun c =>
        (index.eval_agrees hregistry h.right).bind fun i => .ofFault (Value.item_supported c i)
  | .slice lower upper step, h =>
      (evalOptional_agrees hregistry lower h.left.left).bind fun _ =>
        (evalOptional_agrees hregistry upper h.left.right).bind fun _ =>
          (evalOptional_agrees hregistry step h.right).bind fun _ => .pure _

theorem evalList_agrees (hregistry : ∀ f ∈ registry.functions, f.LooksAtRow) :
    (φs : List Formula) → env.AgreesOn (namesOfList φs) env' →
      (evalList registry source env φs).Agrees (evalList registry source' env' φs)
  | [], _ => .pure _
  | φ :: φs, h => (φ.eval_agrees hregistry h.left).bind fun _ =>
      (evalList_agrees hregistry φs h.right).bind fun _ => .pure _

theorem evalAll_agrees (hregistry : ∀ f ∈ registry.functions, f.LooksAtRow) (last : Value) :
    (φs : List Formula) → env.AgreesOn (namesOfList φs) env' →
      (evalAll registry source env last φs).Agrees (evalAll registry source' env' last φs)
  | [], _ => .pure _
  | φ :: φs, h => (φ.eval_agrees hregistry h.left).bind fun v => by
      split
      · exact evalAll_agrees hregistry v φs h.right
      · exact .pure _

theorem evalAny_agrees (hregistry : ∀ f ∈ registry.functions, f.LooksAtRow) (last : Value) :
    (φs : List Formula) → env.AgreesOn (namesOfList φs) env' →
      (evalAny registry source env last φs).Agrees (evalAny registry source' env' last φs)
  | [], _ => .pure _
  | φ :: φs, h => (φ.eval_agrees hregistry h.left).bind fun v => by
      split
      · exact .pure _
      · exact evalAny_agrees hregistry v φs h.right

theorem evalLinks_agrees (hregistry : ∀ f ∈ registry.functions, f.LooksAtRow) (left : Value) :
    (links : List (Comparison × Formula)) → env.AgreesOn (namesOfLinks links) env' →
      (evalLinks registry source env left links).Agrees
        (evalLinks registry source' env' left links)
  | [], _ => .pure _
  | (op, φ) :: more, h => (φ.eval_agrees hregistry h.left).bind fun v =>
      .bind (.ofFault (holds_supported op left v)) fun holds => by
        split
        · exact evalLinks_agrees hregistry v more h.right
        · exact .pure _

theorem evalOptional_agrees (hregistry : ∀ f ∈ registry.functions, f.LooksAtRow) :
    (φ : Option Formula) → env.AgreesOn (namesOfOption φ) env' →
      (evalOptional registry source env φ).Agrees (evalOptional registry source' env' φ)
  | none, _ => .pure _
  | some φ, h => φ.eval_agrees hregistry h

end

end Formulas

end Expr

end PipeTable
