import Mathlib
import PipeTable.Proofs.Faults
import PipeTable.Proofs.Meaning
import PipeTable.Proofs.Requests
import PipeTable.Proofs.Sweep

/-! # How evaluations end

An expression that fails says so itself: the faults of its values are put into words, and no
function of a session asks a value for an operation that values lack.  So the test of a condition,
once it is compiled, ends in an answer or in an error that is reported, at each cell of a
rectangular table.
-/

namespace PipeTable

namespace Expr

variable {σ α β : Type}

/-- From a state with a property the computation leads to such a state again, and the errors in
which it can end from there have a property too. -/
def Eval.Keeps (I : σ → Prop) (Q : Error → Prop) (x : Eval σ α) : Prop :=
  ∀ s, I s → I (x.run s).2 ∧ ∀ e, (x.run s).1 = .error e → Q e

namespace Eval.Keeps

variable {I : σ → Prop} {Q R : Error → Prop}

protected theorem pure (a : α) : (pure a : Eval σ α).Keeps I Q :=
  fun _ hs => ⟨hs, fun _ h => nomatch h⟩

protected theorem throw {e : Error} (he : Q e) : (throw e : Eval σ α).Keeps I Q :=
  fun _ hs => ⟨hs, fun _ h => by cases h; exact he⟩

protected theorem ofFault {x : Except Fault α} (hx : ∀ fault, x = .error fault → Q (.fault fault)) :
    (ofFault x : Eval σ α).Keeps I Q := by
  cases x with
  | ok a => exact .pure a
  | error fault => exact .throw (hx fault rfl)

protected theorem bind {x : Eval σ α} {f : α → Eval σ β} (hx : x.Keeps I Q)
    (hf : ∀ a, (f a).Keeps I Q) : (x >>= f).Keeps I Q := by
  intro s hs
  obtain ⟨hstate, herror⟩ := hx s hs
  rw [run_bind]
  rcases heq : x.run s with ⟨e | a, t⟩ <;> rw [heq] at hstate herror
  · exact ⟨hstate, fun _ h => by cases h; exact herror e rfl⟩
  · exact hf a t hstate

/-- A computation that looks at the state first need only be considered from that state. -/
theorem get_bind {f : σ → Eval σ α}
    (hf : ∀ s, I s → I ((f s).run s).2 ∧ ∀ e, ((f s).run s).1 = .error e → Q e) :
    (get >>= f).Keeps I Q := by
  intro s hs
  rw [run_bind_ok (run_get s)]
  exact hf s hs

protected theorem adapt {x : Eval σ α} {f : Error → Error} (hx : x.Keeps I Q)
    (hf : ∀ e, Q e → R (f e)) : Eval.Keeps I R (ExceptT.adapt f x : Eval σ α) := by
  intro s hs
  obtain ⟨hstate, herror⟩ := hx s hs
  rw [run_adapt]
  refine ⟨hstate, fun e h => ?_⟩
  obtain ⟨cause, hcause, rfl⟩ := Outcome.mapError_eq_error.mp h
  exact hf cause (herror cause hcause)

end Eval.Keeps

/-! ## Formulas -/

/-- The error is reported, or a fault that an expression puts into words. -/
def Explained (e : Error) : Prop :=
  e.isReported = true ∨ ∃ fault, e = .fault fault ∧ fault ≠ .noMember

section Formulas

variable {I : σ → Prop} {registry : Registry σ} (source : String) (env : Environment)

/-- All functions of a registry keep a property of states and end in errors that can be
explained. -/
def Registry.Keeps (I : σ → Prop) (r : Registry σ) : Prop :=
  ∀ f ∈ r.functions, ∀ env arguments, (f.run env arguments).Keeps I Explained

theorem keeps_closed (I : σ → Prop) :
    Eval.Closed (σ := σ) fun x => x.Keeps I Explained where
  pure := .pure
  own {_ e} hown hne := .throw <| by
    cases e with
    | fault fault => exact .inr ⟨fault, rfl, fun h => hne (congrArg Error.fault h)⟩
    | parse | foreignFunction | evaluation => exact .inl rfl
    | _ => cases hown
  bind := .bind

/-- A formula over functions whose errors can be explained ends in such errors itself. -/
theorem Formula.eval_keeps (hregistry : registry.Keeps I) (φ : Formula) :
    (φ.eval registry source env).Keeps I Explained :=
  φ.eval_closed (keeps_closed I) source env fun _ _ f hf vs =>
    hregistry f (List.mem_of_find?_eq_some hf) env vs

end Formulas

namespace Expression

variable {I : σ → Prop} {e : Expression σ}

theorem isReported_explain (source : String) {error : Error} (h : Explained error) :
    (explain source error).isReported = true := by
  rcases h with h | ⟨fault, rfl, h⟩
  · unfold explain
    split <;> first | rfl | exact h
  · unfold explain
    split
    next heq => exact absurd (Error.fault.inj heq) h
    next => rfl
    next hnot => exact absurd rfl (hnot fault)

/-- An expression over functions whose errors can be explained ends in a value or in an error that
is reported. -/
theorem isTrue_keeps (hregistry : e.registry.Keeps I) (env : Environment) :
    (e.isTrue env).Keeps I (fun error => error.isReported = true) :=
  ((e.formula.eval_keeps e.source env hregistry).adapt fun _ => isReported_explain e.source).bind
    fun _ => .pure _

end Expression

end Expr

/-! ## Cells and fields -/

namespace Table

end Table

namespace Session

variable (s : Session)

end Session

namespace Jump

open PipeTable.Expr (Eval Explained Expression)

/-! ## Functions of sessions -/

/-- The table has the given shape. -/
def Shaped (shape : List (Option Nat)) (s : Session) : Prop := s.table.shape = shape

section Tests

variable {shape : List (Option Nat)}

/-- The error is one that the operations on tables report themselves. -/
def Reported (e : Error) : Prop := e.isReported = true

theorem occursAt_keeps (hrect : ∀ t : Table, t.shape = shape → t.Rectangular)
    (p : Pattern.Compiled) (lines columns : Int) :
    (Condition.pattern p lines columns).holds.Keeps (Shaped shape) Reported := by
  refine Eval.Keeps.get_bind fun s hs => ?_
  rw [occursAt_eq (hrect s.table hs)]
  exact ⟨hs, nofun⟩

mutual

/-- On a rectangular table the test of a condition ends in an answer or in an error that is
reported. -/
theorem Condition.holds_keeps (hrect : ∀ t : Table, t.shape = shape → t.Rectangular) :
    (c : Condition) → c.Expressions (fun e => e.registry.Keeps (Shaped shape)) →
    c.holds.Keeps (Shaped shape) Reported
  | .pattern p lines columns, _ => occursAt_keeps hrect p lines columns
  | .place .., _ => Eval.Keeps.get_bind fun _ hs => ⟨hs, nofun⟩
  | .all conditions, h => allHold_keeps hrect conditions h
  | .any conditions, h => anyHolds_keeps hrect conditions h
  | .not condition, h => (condition.holds_keeps hrect h).bind fun _ => .pure _
  | .expression _, h => Expression.isTrue_keeps h _

theorem allHold_keeps (hrect : ∀ t : Table, t.shape = shape → t.Rectangular) :
    (cs : List Condition) → expressionsOf (fun e => e.registry.Keeps (Shaped shape)) cs →
    (allHold cs).Keeps (Shaped shape) Reported
  | [], _ => .pure _
  | c :: cs, h => (c.holds_keeps hrect h.1).bind fun holds => by
      split
      · exact allHold_keeps hrect cs h.2
      · exact .pure _

theorem anyHolds_keeps (hrect : ∀ t : Table, t.shape = shape → t.Rectangular) :
    (cs : List Condition) → expressionsOf (fun e => e.registry.Keeps (Shaped shape)) cs →
    (anyHolds cs).Keeps (Shaped shape) Reported
  | [], _ => .pure _
  | c :: cs, h => (c.holds_keeps hrect h.1).bind fun holds => by
      split
      · exact .pure _
      · exact anyHolds_keeps hrect cs h.2

end

end Tests

end Jump

end PipeTable
