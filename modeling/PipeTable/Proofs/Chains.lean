import Mathlib
import PipeTable.Filter.Functions
import PipeTable.Proofs.Effects

/-! # Chains of comparisons

A chain says of each operand and the next one how they compare.  Over a row it comes to the
conjunction of these single comparisons, though it evaluates each operand once and the conjunction
evaluates those in the middle twice: no function of a filter changes anything, so an operand has the
same value or the same error each time.
-/

namespace PipeTable

namespace Expr

variable {σ α β : Type}

/-! ## Computations that change nothing -/

/-- The bounds of a computation that leaves the state as it is. -/
def Bounds.still (σ : Type) : Bounds σ where
  change s t := t = s
  failure _ := True
  refl _ := rfl
  trans h h' := h'.trans h
  own _ := trivial

theorem Eval.Within.run_eq {x : Eval σ α} (hx : x.Within (.still σ)) (s : σ) :
    x.run s = ((x.run s).1, s) :=
  Prod.ext rfl (hx s).1

/-! ## Chains as conjunctions -/

/-- The single comparisons of a chain, each of an operand with the next one. -/
def comparisons (first : Formula) : List (Comparison × Formula) → List Formula
  | [] => []
  | (op, φ) :: more => .compare first [(op, φ)] :: comparisons φ more

section Evaluation

variable {registry : Registry σ} (source : String) (env : Environment)

/-- A chain starts with its first comparison, and goes on from the second operand if this holds. -/
theorem eval_compare_cons (first φ : Formula) (op : Comparison)
    (more : List (Comparison × Formula)) :
    (Formula.compare first ((op, φ) :: more)).eval registry source env = (do
      let left ← first.eval registry source env
      let right ← φ.eval registry source env
      if ← Eval.ofFault (op.holds left right) then
        return .bool (← evalLinks registry source env right more)
      else return .bool false) := by
  simp only [Formula.eval, evalLinks, bind_assoc]
  refine bind_congr fun left => bind_congr fun right => bind_congr fun holds => ?_
  cases holds <;> simp

theorem evalAll_cons_cons (last : Value) (φ ψ : Formula) (more : List Formula) :
    evalAll registry source env last (φ :: ψ :: more) = (do
      let v ← φ.eval registry source env
      if v.holds then evalAll registry source env v (ψ :: more) else return v) := by
  rw [evalAll]

theorem evalAll_single (last : Value) (φ : Formula) :
    evalAll registry source env last [φ] = φ.eval registry source env := by
  simp [evalAll]

/-- Links that do not all hold end the evaluation: those behind them are not looked at. -/
theorem run_evalLinks_append (left : Value) (links more : List (Comparison × Formula)) (s : σ)
    (h : ((evalLinks registry source env left links).run s).1 ≠ .ok true) :
    (evalLinks registry source env left (links ++ more)).run s =
      (evalLinks registry source env left links).run s := by
  induction links generalizing left s with
  | nil => exact absurd rfl h
  | cons link links ih =>
      obtain ⟨op, φ⟩ := link
      rw [List.cons_append, evalLinks, evalLinks]
      rw [evalLinks] at h
      rcases hφ : (φ.eval registry source env).run s with ⟨e | right, t⟩
      · rw [Eval.run_bind_failed hφ, Eval.run_bind_failed hφ]
      rw [Eval.run_bind_ok hφ] at h ⊢
      rw [Eval.run_bind_ok hφ]
      cases hholds : op.holds left right with
      | error fault => rfl
      | ok holds =>
          rw [hholds] at h
          cases holds with
          | false => rfl
          | true => exact ih right t h

theorem run_compare_append (first : Formula) (links more : List (Comparison × Formula)) (s : σ)
    (h : (((Formula.compare first links).eval registry source env).run s).1 ≠ .ok (.bool true)) :
    ((Formula.compare first (links ++ more)).eval registry source env).run s =
      ((Formula.compare first links).eval registry source env).run s := by
  rw [Formula.eval, Formula.eval]
  rw [Formula.eval] at h
  rcases hfirst : (first.eval registry source env).run s with ⟨e | left, t⟩
  · rw [Eval.run_bind_failed hfirst, Eval.run_bind_failed hfirst]
  rw [Eval.run_bind_ok hfirst] at h ⊢
  rw [Eval.run_bind_ok hfirst, Eval.run_bind, run_evalLinks_append, ← Eval.run_bind]
  intro hlinks
  exact h (by rw [Eval.run_bind_ok (Prod.ext hlinks rfl)]; rfl)

variable (hregistry : registry.Within (.still σ))
include hregistry

theorem run_eval (φ : Formula) (s : σ) :
    (φ.eval registry source env).run s = (((φ.eval registry source env).run s).1, s) :=
  (φ.eval_within source env hregistry).run_eq s

/-- By induction on the links.  The operand that a chain carries along as the left one of the next
comparison is what the conjunction finds when it evaluates this operand again. -/
theorem run_evalAll_comparisons (s : σ) (last : Value) (first : Formula)
    (link : Comparison × Formula) (links : List (Comparison × Formula)) :
    (evalAll registry source env last (comparisons first (link :: links))).run s =
      ((Formula.compare first (link :: links)).eval registry source env).run s := by
  induction links generalizing first link last with
  | nil => exact congrArg (·.run s) (evalAll_single source env last _)
  | cons next links ih =>
      obtain ⟨op, φ⟩ := link
      rw [comparisons, comparisons, evalAll_cons_cons, ← comparisons, eval_compare_cons,
        eval_compare_cons, bind_assoc]
      have hfirst := run_eval source env hregistry first s
      rcases hleft : ((first.eval registry source env).run s).1 with e | left <;>
        rw [hleft] at hfirst
      · rw [Eval.run_bind_failed hfirst, Eval.run_bind_failed hfirst]
      rw [Eval.run_bind_ok hfirst, Eval.run_bind_ok hfirst, bind_assoc]
      have hφ := run_eval source env hregistry φ s
      rcases hright : ((φ.eval registry source env).run s).1 with e | right <;> rw [hright] at hφ
      · rw [Eval.run_bind_failed hφ, Eval.run_bind_failed hφ]
      rw [Eval.run_bind_ok hφ, Eval.run_bind_ok hφ, bind_assoc]
      rcases hholds : op.holds left right with fault | - | -
      · rfl
      · rfl
      · refine (ih (.bool true) φ next).trans ?_
        rw [Formula.eval, Eval.run_bind_ok hφ]
        rfl

theorem run_all_comparisons (s : σ) (first : Formula) (link : Comparison × Formula)
    (links : List (Comparison × Formula)) :
    ((Formula.all (comparisons first (link :: links))).eval registry source env).run s =
      ((Formula.compare first (link :: links)).eval registry source env).run s := by
  rw [Formula.eval]
  exact run_evalAll_comparisons source env hregistry s .none first link links

end Evaluation

end Expr

namespace Filter

open PipeTable.Expr (Bounds Comparison Environment Eval Expression Formula Function Registry
  comparisons)

variable {σ : Type}

/-- The functions of filters change nothing. -/
theorem registry_still : (registry (σ := σ)).Within (.still σ) := by
  have hpure : ∀ signature f env arguments,
      ((pureFunction (σ := σ) signature f).run env arguments).Within (.still σ) :=
    fun _ _ _ _ => .ofFault _
  simp only [Registry.Within, registry, functions, List.forall_mem_cons, textFunction, hpure,
    implies_true, List.not_mem_nil, IsEmpty.forall_iff, and_self]

/-- Functions that change nothing can be registered besides. -/
theorem foldl_register_still {extra : List (Function σ)}
    (hextra : ∀ f ∈ extra, ∀ env arguments, (f.run env arguments).Within (.still σ)) :
    (extra.foldl Registry.register registry).Within (.still σ) := by
  intro f hf
  rcases Registry.mem_foldl_register extra hf with hf | hf
  · exact hextra f hf
  · exact registry_still f hf

/-- Over a row, a chain of comparisons has the outcome of the conjunction of its single comparisons,
whichever that is.  Where some of its links do not come out true, it has the outcome of these:
operands behind them are not evaluated. -/
theorem chain_as_conjunction (extra : List (Function σ))
    (hextra : ∀ f ∈ extra, ∀ env arguments, (f.run env arguments).Within (.still σ))
    (source : String) (row : List String) (number columns : Int) (first : Formula)
    (link : Comparison × Formula) (links : List (Comparison × Formula)) (s : σ) :
    let outcome (φ : Formula) : Except Error Value × σ :=
      (Expression.evaluate ⟨source, extra.foldl Registry.register registry, φ⟩
        (.ofRow row number columns)).run s
    outcome (.compare first (link :: links)) =
        outcome (.all (comparisons first (link :: links))) ∧
      ∀ before after, link :: links = before ++ after →
        (outcome (.compare first before)).1 ≠ .ok (.bool true) →
          outcome (.compare first (link :: links)) = outcome (.compare first before) := by
  intro outcome
  have houtcome : ∀ φ ψ : Formula,
      (φ.eval (extra.foldl Registry.register registry) source (.ofRow row number columns)).run s =
        (ψ.eval (extra.foldl Registry.register registry) source
          (.ofRow row number columns)).run s → outcome φ = outcome ψ := by
    intro φ ψ h
    simp only [outcome, Expression.evaluate, Eval.run_adapt, h]
  refine ⟨houtcome _ _ ?_, fun before after hsplit hbefore => houtcome _ _ ?_⟩
  · exact (Expr.run_all_comparisons source _ (foldl_register_still hextra) s first link links).symm
  · rw [hsplit]
    refine Expr.run_compare_append source _ first before after s fun htrue => hbefore ?_
    simp only [outcome, Expression.evaluate, Eval.run_adapt, htrue]
    rfl

/-- A chain whose second link does not hold ends before the name that nothing is bound to, as the
conjunction does. -/
theorem chain_ends_before_unbound :
    let word : Function Nat :=
      ⟨⟨"word", 0, 0, "word for the state"⟩, fun _ _ => do
        return .text (if (← get) = 3 then "three" else "few")⟩
    let outcome (φ : Formula) : Except Error Value × Nat :=
      (Expression.evaluate ⟨"'three' == word() == c1 == missing",
        [word].foldl Registry.register registry, φ⟩ (.ofRow ["two"] 1 1)).run 3
    let links : List (Comparison × Formula) :=
      [(.eq, .call "word" []), (.eq, .name "c1"), (.eq, .name "missing")]
    (∀ f ∈ [word], ∀ env arguments, (f.run env arguments).Within (.still Nat)) ∧
      outcome (.compare (.constant (.text "three")) links) = (.ok (.bool false), 3) ∧
      outcome (.all (comparisons (.constant (.text "three")) links)) = (.ok (.bool false), 3) := by
  intro word outcome links
  have hstill : ∀ f ∈ [word], ∀ env arguments, (f.run env arguments).Within (.still Nat) := by
    simp only [List.mem_singleton, forall_eq]
    exact fun _ _ => .bind .get fun _ => .pure _
  have hshort : outcome (.compare (.constant (.text "three")) (links.take 2)) =
      (.ok (.bool false), 3) := rfl
  obtain ⟨hconjunction, hends⟩ := chain_as_conjunction [word] hstill
    "'three' == word() == c1 == missing" ["two"] 1 1 (.constant (.text "three"))
    (.eq, .call "word" []) links.tail 3
  have hfalse : (outcome (.compare (.constant (.text "three")) (links.take 2))).1 ≠
      .ok (.bool true) := by
    rw [hshort]
    nofun
  have hchain := (hends (links.take 2) (links.drop 2) rfl hfalse).trans hshort
  exact ⟨hstill, hchain, hconjunction.symm.trans hchain⟩

end Filter

end PipeTable
