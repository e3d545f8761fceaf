import Mathlib
import PipeTable.Expr.Eval
import PipeTable.Proofs.Faults

/-! # What evaluation can do

A computation that may fail runs from one state to another.  Bounds say which changes of the state
and which errors are admitted.  What is composed of computations within bounds stays within them, so
a formula does no more than the functions that its registry holds.
-/

namespace PipeTable

/-- Whether an error is one in which the reading or the evaluation of an expression or a condition
can end by itself, whatever functions it calls. -/
def Error.isOwn : Error → Bool
  | .parse _ | .foreignFunction .. | .evaluation _ | .fault _ => true
  | _ => false

namespace Expr

variable {σ α β : Type}

/-! ## Running -/

namespace Eval

@[simp]
theorem run_get (s : σ) : (get : Eval σ σ).run s = (.ok s, s) := rfl

@[simp]
theorem run_modify (f : σ → σ) (s : σ) : (modify f : Eval σ PUnit).run s = (.ok (), f s) := rfl

@[simp]
theorem run_ofFault (x : Except Fault α) (s : σ) :
    (ofFault x : Eval σ α).run s = (x.mapError .fault, s) := by
  cases x <;> rfl

/-- A sequence of two computations fails where the first fails, and else ends as the second. -/
theorem run_bind (x : Eval σ α) (f : α → Eval σ β) (s : σ) :
    (x >>= f).run s = match x.run s with
      | (.ok a, t) => (f a).run t
      | (.error e, t) => (.error e, t) := by
  change (ExceptT.bindCont f (x.run s).1 : StateM σ _) (x.run s).2 = _
  rcases x.run s with ⟨_ | _, _⟩ <;> rfl

theorem run_bind_ok {x : Eval σ α} {f : α → Eval σ β} {s t : σ} {a : α}
    (hx : x.run s = (.ok a, t)) : (x >>= f).run s = (f a).run t := by
  rw [run_bind, hx]

theorem run_bind_failed {x : Eval σ α} {f : α → Eval σ β} {s t : σ} {e : Error}
    (hx : x.run s = (.error e, t)) : (x >>= f).run s = (.error e, t) := by
  rw [run_bind, hx]

theorem run_bind_error {x : Eval σ α} {f : α → Eval σ β} {s : σ} {e : Error}
    (hx : (x.run s).1 = .error e) : ((x >>= f).run s).1 = .error e := by
  have hrun : x.run s = (.error e, (x.run s).2) := Prod.ext hx rfl
  rw [run_bind_failed hrun]

theorem run_bind_eq_ok {x : Eval σ α} {f : α → Eval σ β} {s t : σ} {b : β}
    (h : (x >>= f).run s = (.ok b, t)) :
    ∃ a u, x.run s = (.ok a, u) ∧ (f a).run u = (.ok b, t) := by
  rw [run_bind] at h
  rcases hx : x.run s with ⟨_ | a, u⟩ <;> rw [hx] at h
  · cases h
  · exact ⟨a, u, rfl, h⟩

theorem run_map (f : α → β) (x : Eval σ α) (s : σ) :
    (f <$> x).run s = ((x.run s).1.map f, (x.run s).2) := by
  rw [map_eq_pure_bind, run_bind]
  rcases x.run s with ⟨_ | _, _⟩ <;> rfl

theorem run_adapt (f : Error → Error) (x : Eval σ α) (s : σ) :
    (ExceptT.adapt f x : Eval σ α).run s = ((x.run s).1.mapError f, (x.run s).2) := rfl

end Eval

/-! ## Bounds -/

/-- What a computation is allowed: how it may change the state and in which errors it may end.  It
may always leave the state as it is, make several changes one after the other, and end in the errors
of expressions themselves. -/
structure Bounds (σ : Type) where
  change : σ → σ → Prop
  failure : Error → Prop
  refl : ∀ s, change s s
  trans : ∀ {s t u}, change s t → change t u → change s u
  own : ∀ {e : Error}, e.isOwn = true → failure e

/-- The computation stays within bounds, whatever state it starts from. -/
def Eval.Within (b : Bounds σ) (x : Eval σ α) : Prop :=
  ∀ s, b.change s (x.run s).2 ∧ ∀ e, (x.run s).1 = .error e → b.failure e

/-- All results of the computation have a property, whatever state it starts from. -/
def Eval.Yields (P : α → Prop) (x : Eval σ α) : Prop := ∀ s a, (x.run s).1 = .ok a → P a

/-- All functions of a registry stay within bounds, whatever they are called with. -/
def Registry.Within (b : Bounds σ) (r : Registry σ) : Prop :=
  ∀ f ∈ r.functions, ∀ env arguments, (f.run env arguments).Within b

/-- A function of a registry that others were added to is one of these or was there before. -/
theorem Registry.mem_foldl_register {f : Function σ} (extra : List (Function σ)) {r : Registry σ}
    (h : f ∈ (extra.foldl Registry.register r).functions) : f ∈ extra ∨ f ∈ r.functions := by
  induction extra generalizing r with
  | nil => exact .inr h
  | cons g extra ih =>
      rcases ih h with h | h
      · exact .inl (List.mem_cons_of_mem _ h)
      · simp only [Registry.register, List.mem_cons, List.mem_filter] at h
        rcases h with rfl | ⟨h, -⟩
        · exact .inl List.mem_cons_self
        · exact .inr h

namespace Eval.Within

variable {b : Bounds σ}

protected theorem pure (a : α) : (pure a : Eval σ α).Within b :=
  fun s => ⟨b.refl s, fun _ h => nomatch h⟩

protected theorem get : (get : Eval σ σ).Within b :=
  fun s => ⟨b.refl s, fun _ h => nomatch h⟩

protected theorem throw {e : Error} (he : b.failure e) : (throw e : Eval σ α).Within b :=
  fun s => ⟨b.refl s, fun _ h => by cases h; exact he⟩

protected theorem modify {f : σ → σ} (hf : ∀ s, b.change s (f s)) :
    (modify f : Eval σ PUnit).Within b :=
  fun s => ⟨hf s, fun _ h => nomatch h⟩

protected theorem ofFault (x : Except Fault α) : (ofFault x : Eval σ α).Within b := by
  cases x with
  | ok a => exact .pure a
  | error fault => exact .throw (b.own rfl)

/-- What stays within bounds stays within wider ones. -/
theorem mono {wide : Bounds σ} {x : Eval σ α} (hx : x.Within b)
    (hchange : ∀ s t, b.change s t → wide.change s t)
    (hfailure : ∀ e, b.failure e → wide.failure e) : x.Within wide :=
  fun s => ⟨hchange _ _ (hx s).1, fun e he => hfailure e ((hx s).2 e he)⟩

/-- The second of two computations need only be considered for results that the first can have. -/
theorem bind_of {P : α → Prop} {x : Eval σ α} {f : α → Eval σ β} (hx : x.Within b)
    (hyields : x.Yields P) (hf : ∀ a, P a → (f a).Within b) : (x >>= f).Within b := by
  intro s
  obtain ⟨hchange, hfailure⟩ := hx s
  rw [run_bind]
  rcases heq : x.run s with ⟨_ | a, t⟩
  · rw [heq] at hchange hfailure
    exact ⟨hchange, fun e h => hfailure e (by cases h; rfl)⟩
  · rw [heq] at hchange
    have ha : P a := hyields s a (by rw [heq])
    exact ⟨b.trans hchange (hf a ha t).1, (hf a ha t).2⟩

protected theorem bind {x : Eval σ α} {f : α → Eval σ β} (hx : x.Within b)
    (hf : ∀ a, (f a).Within b) : (x >>= f).Within b :=
  hx.bind_of (P := fun _ => True) (fun _ _ _ => trivial) fun a _ => hf a

/-- A computation that looks at the state first stays within bounds if it does so from that
state. -/
theorem get_bind {f : σ → Eval σ α}
    (hf : ∀ s, b.change s ((f s).run s).2 ∧ ∀ e, ((f s).run s).1 = .error e → b.failure e) :
    (get >>= f).Within b := by
  intro s
  rw [run_bind_ok (run_get s)]
  exact hf s

protected theorem adapt {x : Eval σ α} {f : Error → Error} (hx : x.Within b)
    (hf : ∀ e, b.failure e → b.failure (f e)) :
    Eval.Within b (ExceptT.adapt f x : Eval σ α) := by
  intro s
  obtain ⟨hchange, hfailure⟩ := hx s
  rw [run_adapt]
  refine ⟨hchange, fun e h => ?_⟩
  rcases hresult : (x.run s).1 with cause | a <;> rw [hresult] at h
  · cases h
    exact hf cause (hfailure cause hresult)
  · cases h

end Eval.Within

namespace Eval.Yields

variable {P : α → Prop} {Q : β → Prop}

protected theorem pure {a : α} (ha : P a) : (pure a : Eval σ α).Yields P := by
  intro _ _ h
  cases h
  exact ha

protected theorem throw (e : Error) : (throw e : Eval σ α).Yields P := fun _ _ h => nomatch h

protected theorem ofFault {x : Except Fault α} (hx : ∀ a, x = .ok a → P a) :
    (ofFault x : Eval σ α).Yields P := by
  cases x with
  | ok a => exact .pure (hx a rfl)
  | error fault => exact .throw _

theorem bind_of {x : Eval σ α} {f : α → Eval σ β} (hx : x.Yields P)
    (hf : ∀ a, P a → (f a).Yields Q) : (x >>= f).Yields Q := by
  intro s c h
  rw [run_bind] at h
  rcases heq : x.run s with ⟨_ | a, t⟩ <;> rw [heq] at h
  · cases h
  · exact hf a (hx s a (by rw [heq])) t c h

protected theorem bind {x : Eval σ α} {f : α → Eval σ β} (hf : ∀ a, (f a).Yields Q) :
    (x >>= f).Yields Q :=
  bind_of (P := fun _ => True) (fun _ _ _ => trivial) fun a _ => hf a

end Eval.Yields

/-! ## Calls -/

mutual

/-- The calls in a formula: the name of each function and the number of its arguments. -/
def Formula.calls : Formula → List (String × Nat)
  | .constant _ => []
  | .name _ => []
  | .all operands => callsOf operands
  | .any operands => callsOf operands
  | .not operand => operand.calls
  | .sign _ operand => operand.calls
  | .arithmetic left _ right => left.calls ++ right.calls
  | .compare first links => first.calls ++ callsOfLinks links
  | .ifElse test yes no => test.calls ++ yes.calls ++ no.calls
  | .call function arguments => (function, arguments.length) :: callsOf arguments
  | .list items => callsOf items
  | .tuple items => callsOf items
  | .subscript container index => container.calls ++ index.calls
  | .slice lower upper step =>
    callsOfOptional lower ++ callsOfOptional upper ++ callsOfOptional step

/-- The calls in several formulas. -/
def callsOf : List Formula → List (String × Nat)
  | [] => []
  | φ :: φs => φ.calls ++ callsOf φs

/-- The calls in the operands of a chain of comparisons. -/
def callsOfLinks : List (Comparison × Formula) → List (String × Nat)
  | [] => []
  | (_, φ) :: more => φ.calls ++ callsOfLinks more

/-- The calls in a formula that may be absent. -/
def callsOfOptional : Option Formula → List (String × Nat)
  | none => []
  | some φ => φ.calls

end

/-! ## Formulas -/

/-- A property of computations that all those have which are composed of computations that have it,
failures of expressions among them.  Operations do not end in the one fault that no value has. -/
structure Eval.Closed (P : {α : Type} → Eval σ α → Prop) : Prop where
  pure : ∀ {α : Type} (a : α), P (pure a : Eval σ α)
  own : ∀ {α : Type} {e : Error}, e.isOwn = true → e ≠ .fault .noMember → P (throw e : Eval σ α)
  bind : ∀ {α β : Type} {x : Eval σ α} {f : α → Eval σ β}, P x → (∀ a, P (f a)) → P (x >>= f)

theorem Eval.Within.closed (b : Bounds σ) : Eval.Closed (σ := σ) (Eval.Within b) where
  pure := .pure
  own h _ := .throw (b.own h)
  bind := .bind

section Formulas

variable {P : {α : Type} → Eval σ α → Prop} {registry : Registry σ} (hP : Eval.Closed (σ := σ) P)
  (source : String) (env : Environment)
include hP

namespace Eval.Closed

protected theorem ofFault {x : Except Fault α} (hx : Supported x) :
    P (Eval.ofFault x : Eval σ α) := by
  cases x with
  | ok a => exact hP.pure a
  | error fault => exact hP.own rfl fun h => Supported.error_iff.mp hx (Error.fault.inj h)

theorem lookup (name : String) : P (Expr.lookup source env name : Eval σ Value) := by
  unfold Expr.lookup
  split
  · exact hP.pure _
  · split <;> exact hP.own rfl (fun h => by cases h)

theorem call {name : String} {arguments : Eval σ (List Value)}
    (hfunction : ∀ f, registry.find? name = some f → ∀ vs, P (f.run env vs))
    (harguments : P arguments) :
    P (do let f ← callee registry source name; f.run env (← arguments)) := by
  unfold callee
  split
  next f hfind =>
    rw [pure_bind]
    exact hP.bind harguments fun vs => hfunction f hfind vs
  next =>
    change P (throw _ : Eval σ Value)
    exact hP.own rfl fun h => by cases h

end Eval.Closed

/-- The functions that are called have a property, whatever they are called with. -/
def Registry.Runs (P : {α : Type} → Eval σ α → Prop) (registry : Registry σ) (env : Environment)
    (calls : List (String × Nat)) : Prop :=
  ∀ c ∈ calls, ∀ f, registry.find? c.1 = some f → ∀ vs, P (f.run env vs)

mutual

/-- Evaluating a formula has a property that is closed if the functions that it calls have it. -/
theorem Formula.eval_closed : (φ : Formula) → registry.Runs P env φ.calls →
    P (φ.eval registry source env)
  | .constant v, _ => hP.pure v
  | .name id, _ => hP.lookup source env id
  | .all operands, h => evalAll_closed .none operands h
  | .any operands, h => evalAny_closed .none operands h
  | .not operand, h => hP.bind (operand.eval_closed h) fun _ => hP.pure _
  | .sign s operand, h =>
      hP.bind (operand.eval_closed h) fun v => hP.ofFault (sign_supported s v)
  | .arithmetic left op right, h => by
      obtain ⟨hleft, hright⟩ := List.forall_mem_append.mp h
      exact hP.bind (left.eval_closed hleft) fun l =>
        hP.bind (right.eval_closed hright) fun r => hP.ofFault (arithmetic_supported op l r)
  | .compare first links, h => by
      obtain ⟨hfirst, hlinks⟩ := List.forall_mem_append.mp h
      exact hP.bind (first.eval_closed hfirst) fun v =>
        hP.bind (evalLinks_closed v links hlinks) fun _ => hP.pure _
  | .ifElse test yes no, h => by
      obtain ⟨h, hno⟩ := List.forall_mem_append.mp h
      obtain ⟨htest, hyes⟩ := List.forall_mem_append.mp h
      refine hP.bind (test.eval_closed htest) fun v => ?_
      split
      · exact yes.eval_closed hyes
      · exact no.eval_closed hno
  | .call function arguments, h => by
      obtain ⟨hfunction, harguments⟩ := List.forall_mem_cons.mp h
      exact hP.call source env hfunction (evalList_closed arguments harguments)
  | .list items, h => hP.bind (evalList_closed items h) fun _ => hP.pure _
  | .tuple items, h => hP.bind (evalList_closed items h) fun _ => hP.pure _
  | .subscript container index, h => by
      obtain ⟨hcontainer, hindex⟩ := List.forall_mem_append.mp h
      exact hP.bind (container.eval_closed hcontainer) fun c =>
        hP.bind (index.eval_closed hindex) fun i => hP.ofFault (Value.item_supported c i)
  | .slice lower upper step, h => by
      obtain ⟨h, hstep⟩ := List.forall_mem_append.mp h
      obtain ⟨hlower, hupper⟩ := List.forall_mem_append.mp h
      exact hP.bind (evalOptional_closed lower hlower) fun _ =>
        hP.bind (evalOptional_closed upper hupper) fun _ =>
          hP.bind (evalOptional_closed step hstep) fun _ => hP.pure _

theorem evalList_closed : (φs : List Formula) → registry.Runs P env (callsOf φs) →
    P (evalList registry source env φs)
  | [], _ => hP.pure _
  | φ :: φs, h => by
      obtain ⟨hφ, hφs⟩ := List.forall_mem_append.mp h
      exact hP.bind (φ.eval_closed hφ) fun _ =>
        hP.bind (evalList_closed φs hφs) fun _ => hP.pure _

theorem evalAll_closed (last : Value) : (φs : List Formula) →
    registry.Runs P env (callsOf φs) → P (evalAll registry source env last φs)
  | [], _ => hP.pure _
  | φ :: φs, h => by
      obtain ⟨hφ, hφs⟩ := List.forall_mem_append.mp h
      refine hP.bind (φ.eval_closed hφ) fun v => ?_
      split
      · exact evalAll_closed v φs hφs
      · exact hP.pure _

theorem evalAny_closed (last : Value) : (φs : List Formula) →
    registry.Runs P env (callsOf φs) → P (evalAny registry source env last φs)
  | [], _ => hP.pure _
  | φ :: φs, h => by
      obtain ⟨hφ, hφs⟩ := List.forall_mem_append.mp h
      refine hP.bind (φ.eval_closed hφ) fun v => ?_
      split
      · exact hP.pure _
      · exact evalAny_closed v φs hφs

theorem evalLinks_closed (left : Value) : (links : List (Comparison × Formula)) →
    registry.Runs P env (callsOfLinks links) → P (evalLinks registry source env left links)
  | [], _ => hP.pure _
  | (op, φ) :: more, h => by
      obtain ⟨hφ, hmore⟩ := List.forall_mem_append.mp h
      refine hP.bind (φ.eval_closed hφ) fun v =>
        hP.bind (hP.ofFault (holds_supported op left v)) fun holds => ?_
      split
      · exact evalLinks_closed v more hmore
      · exact hP.pure _

theorem evalOptional_closed : (φ : Option Formula) →
    registry.Runs P env (callsOfOptional φ) → P (evalOptional registry source env φ)
  | none, _ => hP.pure _
  | some φ, h => φ.eval_closed h

end

end Formulas

/-- A formula does no more than the functions of its registry. -/
theorem Formula.eval_within {b : Bounds σ} {registry : Registry σ} (source : String)
    (env : Environment) (hregistry : registry.Within b) (φ : Formula) :
    (φ.eval registry source env).Within b :=
  φ.eval_closed (Eval.Within.closed b) source env fun _ _ f hf vs =>
    hregistry f (List.mem_of_find?_eq_some hf) env vs

namespace Expression

variable {b : Bounds σ} {e : Expression σ}

theorem failure_explain (source : String) {error : Error} (h : b.failure error) :
    b.failure (explain source error) := by
  unfold explain
  split
  · exact h
  · exact b.own rfl
  · exact h

/-- An expression does no more than the functions of its registry. -/
theorem evaluate_within (hregistry : e.registry.Within b) (env : Environment) :
    (e.evaluate env).Within b :=
  (e.formula.eval_within e.source env hregistry).adapt fun _ => failure_explain e.source

theorem isTrue_within (hregistry : e.registry.Within b) (env : Environment) :
    (e.isTrue env).Within b :=
  (evaluate_within hregistry env).bind fun _ => .pure _

end Expression

end Expr

end PipeTable
