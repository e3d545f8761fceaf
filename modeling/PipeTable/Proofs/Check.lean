import Mathlib
import PipeTable.Expr.Expression
import PipeTable.Proofs.Effects

/-! # Refusals of expressions

A source is refused for what it says and never for what evaluating it would do: every complaint of a
check, and so every failure to compile, is about the text, a construct, an operator or a call.
-/

namespace PipeTable.Expr

variable {α β γ σ : Type}

namespace Checked

/-- All complaints have causes of a kind. -/
def Blames (P : Error → Prop) (x : Checked α) : Prop := ∀ c, x = .error c → P c.cause

variable {P : Error → Prop}

theorem blames_ok (a : α) : Blames P (.ok a : Checked α) := fun _ h => nomatch h

theorem blames_error {c : Complaint} (hc : P c.cause) : Blames P (.error c : Checked α) := by
  intro c' h
  cases h
  exact hc

theorem Blames.both {f : α → β → γ} {x : Checked α} {y : Checked β} (hx : Blames P x)
    (hy : Blames P y) : Blames P (Checked.both f x y) := by
  cases x with
  | ok a =>
      cases y with
      | ok b => exact blames_ok _
      | error d => exact blames_error (hy d rfl)
  | error c =>
      cases y with
      | ok b => exact blames_error (hx c rfl)
      | error d =>
          apply blames_error
          split
          · exact hy d rfl
          · exact hx c rfl

theorem Blames.map {f : α → β} {x : Checked α} (hx : Blames P x) : Blames P (x.map f) := by
  cases x with
  | ok a => exact blames_ok _
  | error c => exact blames_error (hx c rfl)

end Checked

open Checked

section Check

variable {s : Surroundings} {P : Error → Prop} (hparse : ∀ cause, P (.parse cause))
include hparse

theorem Surroundings.operator_blames (depth : Nat) (op : Except String α) :
    Blames P (s.operator depth op) := by
  cases op with
  | ok op => exact blames_ok _
  | error construct => exact blames_error (hparse _)

theorem Surroundings.operators_blames (depth : Nat) (ops : List CompareOp) :
    Blames P (s.operators depth ops) := by
  induction ops with
  | nil => exact blames_ok _
  | cons op ops ih => exact (s.operator_blames hparse depth _).both ih

theorem allowCall_blames (hallow : ∀ name given e, s.allow name given = .error e → P e)
    (depth : Nat) (function : Term) (given : Nat) (keywords : Bool) :
    Blames P (allowCall s depth function given keywords) := by
  unfold allowCall
  split
  · split
    · exact blames_error (hparse _)
    · split
      · exact blames_ok _
      next cause hcause => exact blames_error (hallow _ _ _ hcause)
  · exact blames_error (hparse _)

end Check

variable {s : Surroundings} {P : Error → Prop}

mutual

/-- A term is refused for its own text or for what the surroundings say of a call. -/
theorem Term.check_blames (hparse : ∀ cause, P (.parse cause))
    (hallow : ∀ name given e, s.allow name given = .error e → P e) (depth : Nat) :
    (t : Term) → Blames P (t.check s depth)
  | .constant _ => blames_ok _
  | .name _ => blames_ok _
  | .all operands => (checkAll_blames hparse hallow _ operands).map
  | .any operands => (checkAll_blames hparse hallow _ operands).map
  | .unary _ operand =>
      (s.operator_blames hparse _ _).both (operand.check_blames hparse hallow _)
  | .binary left _ right =>
      ((left.check_blames hparse hallow _).both (s.operator_blames hparse _ _)).both
        (right.check_blames hparse hallow _)
  | .compare first links =>
      ((first.check_blames hparse hallow _).both (s.operators_blames hparse _ _)).both
        (checkLinks_blames hparse hallow _ links)
  | .ifElse test yes no =>
      ((test.check_blames hparse hallow _).both (yes.check_blames hparse hallow _)).both
        (no.check_blames hparse hallow _)
  | .call function arguments keywords => by
      have hcall := allowCall_blames hparse hallow depth function arguments.length keywords
      rw [Term.check]
      split
      · exact (checkAll_blames hparse hallow _ arguments).map
      next c hc => exact blames_error (hcall c hc)
  | .list items => (checkAll_blames hparse hallow _ items).map
  | .tuple items => (checkAll_blames hparse hallow _ items).map
  | .subscript container index =>
      (container.check_blames hparse hallow _).both (index.check_blames hparse hallow _)
  | .slice lower upper step =>
      ((checkOptional_blames hparse hallow _ lower).both
        (checkOptional_blames hparse hallow _ upper)).both
        (checkOptional_blames hparse hallow _ step)
  | .starred .. => blames_error (hparse _)
  | .set .. => blames_error (hparse _)
  | .dict .. => blames_error (hparse _)
  | .unsupported .. => blames_error (hparse _)

theorem checkAll_blames (hparse : ∀ cause, P (.parse cause))
    (hallow : ∀ name given e, s.allow name given = .error e → P e) (depth : Nat) :
    (ts : List Term) → Blames P (checkAll s depth ts)
  | [] => blames_ok _
  | t :: ts => (t.check_blames hparse hallow _).both (checkAll_blames hparse hallow _ ts)

theorem checkLinks_blames (hparse : ∀ cause, P (.parse cause))
    (hallow : ∀ name given e, s.allow name given = .error e → P e) (depth : Nat) :
    (links : List (CompareOp × Term)) → Blames P (checkLinks s depth links)
  | [] => blames_ok _
  | (_, t) :: more => (t.check_blames hparse hallow _).both (checkLinks_blames hparse hallow _ more)

theorem checkOptional_blames (hparse : ∀ cause, P (.parse cause))
    (hallow : ∀ name given e, s.allow name given = .error e → P e) (depth : Nat) :
    (t : Option Term) → Blames P (checkOptional s depth t)
  | none => blames_ok _
  | some t => (t.check_blames hparse hallow _).map

end

namespace Expression

/-- A source that does not compile is refused by the reader or the check. -/
theorem compile_own {source : String} {registry : Registry σ} {e : Error}
    (h : compile source registry = .error e) : e.isOwn = true := by
  have hallow : ∀ name given e, registry.allow source name given = .error e →
      e.isOwn = true := by
    intro name given e he
    unfold Registry.allow at he
    split at he
    · cases he; rfl
    · split at he
      · split at he
        · cases he
        · cases he; rfl
      · cases he
  simp only [compile] at h
  split at h
  · cases h; rfl
  · split at h
    · cases h; rfl
    · split at h
      · cases h; rfl
      next term _ =>
        split at h
        · cases h
        next complaint hcheck =>
          cases h
          exact term.check_blames (P := fun e => e.isOwn = true) (fun _ => rfl) hallow 0
            complaint hcheck

/-- A compiled expression keeps its source and its registry. -/
theorem compile_ok {source : String} {registry : Registry σ} {e : Expression σ}
    (h : compile source registry = .ok e) :
    e.source = source ∧ e.registry = registry ∧
      ∃ term, Term.read? (Text.unifyNewlinesChars (Text.stripChars source.toList)) = some term ∧
        term.check ⟨source, fragmentOf (Text.stripChars source.toList), registry.allow source⟩ 0 =
          .ok e.formula := by
  simp only [compile] at h
  split at h
  · cases h
  · split at h
    · cases h
    · split at h
      · cases h
      next term hterm =>
        split at h
        next formula hcheck =>
          cases h
          exact ⟨rfl, rfl, term, hterm, hcheck⟩
        · cases h

theorem ofValue_own {v : Value} {standard registry : Registry σ} {e : Error}
    (h : ofValue v standard registry = .error e) : e.isOwn = true := by
  unfold ofValue at h
  split at h
  · exact compile_own h
  · exact compile_own h
  · split at h <;> cases h <;> rfl

/-- What a value compiles to calls the functions of one of the two registries at hand. -/
theorem ofValue_registry {v : Value} {standard registry : Registry σ} {e : Expression σ}
    (h : ofValue v standard registry = .ok e) : e.registry = standard ∨ e.registry = registry := by
  unfold ofValue at h
  split at h
  · exact .inr (compile_ok h).2.1
  · have hregistry := (compile_ok h).2.1
    split at hregistry
    · exact .inl hregistry
    · exact .inr hregistry
  · split at h <;> cases h

end Expression

end PipeTable.Expr
