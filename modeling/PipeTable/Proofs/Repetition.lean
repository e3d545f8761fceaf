import Mathlib
import PipeTable.Filter.Functions
import PipeTable.Proofs.Effects

/-! # Repeated sequences

A sequence times an integer is that many copies of the sequence, on whichever side the integer
stands.  Texts, lists and tuples are refused beyond a number of copies; bytes are not.  A product
that is refused ends the evaluation of every formula that has come to evaluate it.
-/

namespace PipeTable

namespace Value

variable {v w : Value} {length : Nat} {n : Int}

/-- A product that is too long and is not refused: bytes are repeated as often as they are asked
to. -/
structure IsRunaway (v : Value) (n : Int) : Prop where
  isBytes : ∃ b data, v = .bytes (b :: data)
  tooMany : maxCopies < n
  fits : v.length?.getD 0 * n ≤ maxIndex

@[simp]
theorem length_copies {α : Type} (items : List α) (n : Int) :
    (copies items n).length = n.toNat * items.length := by
  cases items with
  | nil => rfl
  | cons x xs => simp [copies]

/-- A sequence is not a number. -/
theorem numeric?_of_length? (hv : v.length? = some length) : v.numeric? = Option.none := by
  cases v <;> first | rfl | cases hv

theorem integer?_of_length? (hv : v.length? = some length) : v.integer? = Option.none := by
  cases v <;> first | rfl | cases hv

theorem numeric?_of_integer? (hw : w.integer? = some n) : w.numeric? = some (.integer n) := by
  cases w <;> cases hw <;> rfl

/-- Each sequence can be repeated. -/
theorem repeated?_of_length? (hv : v.length? = some length) (n : Int) :
    ∃ r, repeated? v n = some r ∧ r.length? = some (n.toNat * length) := by
  cases v <;> cases hv <;> refine ⟨_, rfl, ?_⟩ <;>
    simp [length?, String.length_toList]

/-- On whichever side the integer stands, the number of copies is checked and the sequence is
repeated. -/
theorem multiply_sequence (hv : v.length? = some length) (hw : w.integer? = some n) :
    multiply v w = (do checkCopies v w; repeatBy v n) ∧ multiply w v = multiply v w := by
  have hcheck : checkCopies w v = .ok () := by rw [checkCopies, integer?_of_length? hv]
  simp only [multiply, numeric?_of_length? hv, numeric?_of_integer? hw, hcheck]
  exact ⟨rfl, by cases checkCopies v w <;> rfl⟩

theorem canRepeat_iff :
    canRepeat length n = true ↔
      -maxIndex - 1 ≤ n ∧ n ≤ maxIndex ∧ length * n ≤ maxIndex := by
  simp [canRepeat, and_assoc]

theorem repeatBy_ok (hv : v.length? = some length) (hfits : canRepeat length n = true) :
    ∃ r, repeatBy v n = .ok r ∧ r.length? = some (n.toNat * length) := by
  obtain ⟨r, hr, hlength⟩ := repeated?_of_length? hv n
  refine ⟨r, ?_, hlength⟩
  simp only [repeatBy, hv, Option.getD_some, hfits, if_true, hr]

theorem repeatBy_overflow (hv : v.length? = some length) (hfits : canRepeat length n = false) :
    repeatBy v n = .error .overflow := by
  obtain ⟨r, hr, -⟩ := repeated?_of_length? hv 0
  simp only [repeatBy, hv, Option.getD_some, hfits, Bool.false_eq_true, if_false, hr]

theorem checkCopies_of_integer? (v : Value) (hw : w.integer? = some n) :
    checkCopies v w =
      if v.isBounded && maxCopies < n then
        .error (if Text.isWritable n then .tooManyCopies n else .badValue)
      else .ok () := by
  rw [checkCopies, hw]

/-- Too many copies of what is not bounded are copies of bytes or of nothing. -/
theorem isRunaway_or_empty (hv : v.length? = some length) (hbounded : v.isBounded = false)
    (hmany : maxCopies < n) (hshort : length * n ≤ maxIndex) : v.IsRunaway n ∨ length = 0 := by
  cases v with
  | bytes data =>
      cases hv
      cases data with
      | nil => exact .inr rfl
      | cons b data => exact .inl ⟨⟨b, data, rfl⟩, hmany, hshort⟩
  | text | list | tuple => cases hbounded
  | _ => cases hv

/-- A product is refused, or it is no longer than the greatest number of copies allows, unless it is
one of bytes. -/
theorem multiply_bounded (hv : v.length? = some length) (hw : w.integer? = some n)
    (hn : ¬ v.IsRunaway n) :
    (∃ fault, fault ≠ .noMember ∧ multiply v w = .error fault) ∨
      ∃ r m, multiply v w = .ok r ∧ r.length? = some m ∧ m ≤ 10000 * length := by
  rw [(multiply_sequence hv hw).1, checkCopies_of_integer? v hw]
  by_cases hrefused : (v.isBounded && maxCopies < n) = true
  · left
    rw [if_pos hrefused]
    exact ⟨_, by split <;> nofun, rfl⟩
  rw [if_neg hrefused]
  cases hfits : canRepeat length n with
  | false => exact .inl ⟨.overflow, nofun, repeatBy_overflow hv hfits⟩
  | true =>
      right
      obtain ⟨r, hr, hlength⟩ := repeatBy_ok hv hfits
      refine ⟨r, _, hr, hlength, ?_⟩
      by_cases hmany : maxCopies < n
      · have hbounded : v.isBounded = false := by simpa [hmany] using hrefused
        have hempty := (isRunaway_or_empty hv hbounded hmany (canRepeat_iff.mp hfits).2.2)
        simp [hempty.resolve_left hn]
      · exact Nat.mul_le_mul_right length (by simp only [maxCopies] at hmany; omega)

/-- Bytes are repeated as often as they are asked to. -/
theorem multiply_runaway (hv : v.length? = some length) (hw : w.integer? = some n)
    (hn : v.IsRunaway n) :
    ∃ r, multiply v w = .ok r ∧ r.length? = some (n.toNat * length) ∧
      10000 * length < n.toNat * length := by
  obtain ⟨⟨b, data, rfl⟩, hmany, hshort⟩ := hn
  cases hv
  simp only [length?, Option.getD_some] at hshort
  have hcount : n ≤ maxIndex := by
    have hone : (1 : Int) ≤ (b :: data).length := by simp
    simp only [maxCopies] at hmany
    nlinarith
  have hfits : canRepeat (b :: data).length n = true := by
    refine canRepeat_iff.mpr ⟨?_, hcount, hshort⟩
    simp only [maxIndex, maxCopies] at hmany ⊢
    omega
  obtain ⟨r, hr, hlength⟩ := repeatBy_ok (v := .bytes (b :: data)) rfl hfits
  simp only [maxCopies] at hmany
  refine ⟨r, ?_, hlength, Nat.mul_lt_mul_of_pos_right (by omega) (Nat.succ_pos _)⟩
  rw [(multiply_sequence rfl hw).1, checkCopies_of_integer? _ hw]
  exact hr

end Value

namespace Expr

variable {σ α : Type}

section Evaluation

variable (registry : Registry σ) (source : String) (env : Environment)

/-- Evaluating a formula from a state comes to evaluate one of its operands, from a state that the
operands before it have led to. -/
inductive Enters : Formula → σ → Formula → σ → Prop where
  -- all operands before it have held
  | all {before after : List Formula} {φ : Formula} {v : Value} {s t : σ}
      (hbefore : (evalAll registry source env (.bool true) before).run s = (.ok v, t))
      (hv : v.holds = true) : Enters (.all (before ++ φ :: after)) s φ t
  -- no operand before it has held
  | any {before after : List Formula} {φ : Formula} {v : Value} {s t : σ}
      (hbefore : (evalAny registry source env .none before).run s = (.ok v, t))
      (hv : v.holds = false) : Enters (.any (before ++ φ :: after)) s φ t
  | not {φ : Formula} {s : σ} : Enters (.not φ) s φ s
  | sign {sign : Sign} {φ : Formula} {s : σ} : Enters (.sign sign φ) s φ s
  | left {φ right : Formula} {op : Arithmetic} {s : σ} : Enters (.arithmetic φ op right) s φ s
  | right {left φ : Formula} {op : Arithmetic} {v : Value} {s t : σ}
      (hleft : (left.eval registry source env).run s = (.ok v, t)) :
      Enters (.arithmetic left op φ) s φ t
  | first {φ : Formula} {links : List (Comparison × Formula)} {s : σ} :
      Enters (.compare φ links) s φ s
  -- the links before it hold
  | link {first φ : Formula} {op : Comparison} {before after : List (Comparison × Formula)}
      {s t : σ} (hbefore : ((Formula.compare first before).eval registry source env).run s =
        (.ok (.bool true), t)) :
      Enters (.compare first (before ++ (op, φ) :: after)) s φ t
  | test {φ yes no : Formula} {s : σ} : Enters (.ifElse φ yes no) s φ s
  | yes {test φ no : Formula} {v : Value} {s t : σ}
      (htest : (test.eval registry source env).run s = (.ok v, t)) (hv : v.holds = true) :
      Enters (.ifElse test φ no) s φ t
  | no {test yes φ : Formula} {v : Value} {s t : σ}
      (htest : (test.eval registry source env).run s = (.ok v, t)) (hv : v.holds = false) :
      Enters (.ifElse test yes φ) s φ t
  | argument {function : String} {f : Function σ} {before after : List Formula} {φ : Formula}
      {vs : List Value} {s t : σ} (hf : registry.find? function = some f)
      (hbefore : (evalList registry source env before).run s = (.ok vs, t)) :
      Enters (.call function (before ++ φ :: after)) s φ t
  | listItem {before after : List Formula} {φ : Formula} {vs : List Value} {s t : σ}
      (hbefore : (evalList registry source env before).run s = (.ok vs, t)) :
      Enters (.list (before ++ φ :: after)) s φ t
  | tupleItem {before after : List Formula} {φ : Formula} {vs : List Value} {s t : σ}
      (hbefore : (evalList registry source env before).run s = (.ok vs, t)) :
      Enters (.tuple (before ++ φ :: after)) s φ t
  | container {φ index : Formula} {s : σ} : Enters (.subscript φ index) s φ s
  | index {container φ : Formula} {v : Value} {s t : σ}
      (hcontainer : (container.eval registry source env).run s = (.ok v, t)) :
      Enters (.subscript container φ) s φ t
  | lower {φ : Formula} {upper step : Option Formula} {s : σ} :
      Enters (.slice (some φ) upper step) s φ s
  | upper {lower step : Option Formula} {φ : Formula} {v : Value} {s t : σ}
      (hlower : (evalOptional registry source env lower).run s = (.ok v, t)) :
      Enters (.slice lower (some φ) step) s φ t
  | step {lower upper : Option Formula} {φ : Formula} {v w : Value} {s t u : σ}
      (hlower : (evalOptional registry source env lower).run s = (.ok v, t))
      (hupper : (evalOptional registry source env upper).run t = (.ok w, u)) :
      Enters (.slice lower upper (some φ)) s φ u

/-- Evaluating a formula comes to evaluate another one inside it. -/
inductive Visits : Formula → σ → Formula → σ → Prop where
  | self (φ : Formula) (s : σ) : Visits φ s φ s
  | enter {φ ψ χ : Formula} {s t u : σ} (hφ : Enters registry source env φ s ψ t)
      (hψ : Visits ψ t χ u) : Visits φ s χ u

variable {registry source env} {φ ψ : Formula} {s t u : σ} {e : Error}

theorem run_evalList_failed {before after : List Formula} {vs : List Value}
    (hbefore : (evalList registry source env before).run s = (.ok vs, t))
    (hφ : (φ.eval registry source env).run t = (.error e, u)) :
    (evalList registry source env (before ++ φ :: after)).run s = (.error e, u) := by
  induction before generalizing s vs with
  | nil =>
      cases hbefore
      rw [List.nil_append, evalList, Eval.run_bind_failed hφ]
  | cons ψ before ih =>
      rw [evalList] at hbefore
      obtain ⟨v, s', hψ, hrest⟩ := Eval.run_bind_eq_ok hbefore
      obtain ⟨vs', t', hmore, hvs⟩ := Eval.run_bind_eq_ok hrest
      cases hvs
      rw [List.cons_append, evalList, Eval.run_bind_ok hψ, Eval.run_bind_failed (ih hmore)]

theorem run_evalAll_failed {before after : List Formula} {last v : Value}
    (hbefore : (evalAll registry source env last before).run s = (.ok v, t)) (hv : v.holds = true)
    (hφ : (φ.eval registry source env).run t = (.error e, u)) (other : Value) :
    (evalAll registry source env other (before ++ φ :: after)).run s = (.error e, u) := by
  induction before generalizing s last other with
  | nil =>
      cases hbefore
      rw [List.nil_append, evalAll, Eval.run_bind_failed hφ]
  | cons ψ before ih =>
      rw [evalAll] at hbefore
      obtain ⟨w, s', hψ, hrest⟩ := Eval.run_bind_eq_ok hbefore
      rw [List.cons_append, evalAll, Eval.run_bind_ok hψ]
      cases hw : w.holds with
      | true =>
          rw [if_pos hw] at hrest
          exact ih hrest w
      | false =>
          rw [if_neg (by simp [hw])] at hrest
          cases hrest
          rw [hw] at hv
          cases hv

theorem run_evalAny_failed {before after : List Formula} {last v : Value}
    (hbefore : (evalAny registry source env last before).run s = (.ok v, t))
    (hv : v.holds = false) (hφ : (φ.eval registry source env).run t = (.error e, u))
    (other : Value) :
    (evalAny registry source env other (before ++ φ :: after)).run s = (.error e, u) := by
  induction before generalizing s last other with
  | nil =>
      cases hbefore
      rw [List.nil_append, evalAny, Eval.run_bind_failed hφ]
  | cons ψ before ih =>
      rw [evalAny] at hbefore
      obtain ⟨w, s', hψ, hrest⟩ := Eval.run_bind_eq_ok hbefore
      rw [List.cons_append, evalAny, Eval.run_bind_ok hψ]
      cases hw : w.holds with
      | false =>
          rw [if_neg (by simp [hw])] at hrest ⊢
          exact ih hrest w
      | true =>
          rw [if_pos hw] at hrest
          cases hrest
          rw [hw] at hv
          cases hv

theorem run_evalLinks_failed {before after : List (Comparison × Formula)} {left : Value}
    {op : Comparison}
    (hbefore : (evalLinks registry source env left before).run s = (.ok true, t))
    (hφ : (φ.eval registry source env).run t = (.error e, u)) :
    (evalLinks registry source env left (before ++ (op, φ) :: after)).run s = (.error e, u) := by
  induction before generalizing s left with
  | nil =>
      cases hbefore
      rw [List.nil_append, evalLinks, Eval.run_bind_failed hφ]
  | cons link before ih =>
      obtain ⟨op', ψ⟩ := link
      rw [evalLinks] at hbefore
      obtain ⟨right, s', hψ, hrest⟩ := Eval.run_bind_eq_ok hbefore
      obtain ⟨holds, t', hholds, hmore⟩ := Eval.run_bind_eq_ok hrest
      rw [List.cons_append, evalLinks, Eval.run_bind_ok hψ, Eval.run_bind_ok hholds]
      cases holds with
      | true => exact ih hmore
      | false => cases hmore

/-- An operand that fails ends the evaluation of the formula. -/
theorem Enters.run_failed (h : Enters registry source env φ s ψ t)
    (hψ : (ψ.eval registry source env).run t = (.error e, u)) :
    (φ.eval registry source env).run s = (.error e, u) := by
  cases h with
  | all hbefore hv =>
      rw [Formula.eval]
      exact run_evalAll_failed hbefore hv hψ .none
  | any hbefore hv =>
      rw [Formula.eval]
      exact run_evalAny_failed hbefore hv hψ .none
  | not | sign | left | first | test | container => rw [Formula.eval, Eval.run_bind_failed hψ]
  | right hv | index hv =>
      rw [Formula.eval, Eval.run_bind_ok hv, Eval.run_bind_failed hψ]
  | link hbefore =>
      rw [Formula.eval] at hbefore ⊢
      obtain ⟨v, s', hfirst, hrest⟩ := Eval.run_bind_eq_ok hbefore
      obtain ⟨holds, t', hlinks, hholds⟩ := Eval.run_bind_eq_ok hrest
      cases hholds
      rw [Eval.run_bind_ok hfirst, Eval.run_bind_failed (run_evalLinks_failed hlinks hψ)]
  | yes htest hv => rw [Formula.eval, Eval.run_bind_ok htest, if_pos hv, hψ]
  | no htest hv => rw [Formula.eval, Eval.run_bind_ok htest, if_neg (by simp [hv]), hψ]
  | argument hf hbefore =>
      rw [Formula.eval, callee, hf, pure_bind,
        Eval.run_bind_failed (run_evalList_failed hbefore hψ)]
  | listItem hbefore | tupleItem hbefore =>
      rw [Formula.eval, Eval.run_bind_failed (run_evalList_failed hbefore hψ)]
  | lower =>
      rw [Formula.eval, evalOptional, Eval.run_bind_failed hψ]
  | upper hlower =>
      rw [Formula.eval, Eval.run_bind_ok hlower, evalOptional, Eval.run_bind_failed hψ]
  | step hlower hupper =>
      rw [Formula.eval, Eval.run_bind_ok hlower, Eval.run_bind_ok hupper, evalOptional,
        Eval.run_bind_failed hψ]

/-- What fails inside a formula ends the evaluation of the formula, by induction on the way to
it. -/
theorem Visits.run_failed (h : Visits registry source env φ s ψ t)
    (hψ : (ψ.eval registry source env).run t = (.error e, u)) :
    (φ.eval registry source env).run s = (.error e, u) := by
  induction h with
  | self => exact hψ
  | enter hφ _ ih => exact hφ.run_failed (ih hψ)

/-- A product is that of the operands' values, on whichever side the sequence stands. -/
theorem run_product {left right : Formula} {l r v w : Value} {length : Nat} {n : Int} {t₁ t₂ : σ}
    (hleft : (left.eval registry source env).run t = (.ok l, t₁))
    (hright : (right.eval registry source env).run t₁ = (.ok r, t₂))
    (hoperands : l = v ∧ r = w ∨ l = w ∧ r = v) (hv : v.length? = some length)
    (hw : w.integer? = some n) :
    ((Formula.arithmetic left .mul right).eval registry source env).run t =
      ((Value.multiply v w).mapError .fault, t₂) := by
  have hmultiply : Value.multiply l r = Value.multiply v w := by
    rcases hoperands with ⟨rfl, rfl⟩ | ⟨rfl, rfl⟩
    · rfl
    · exact (Value.multiply_sequence hv hw).2
  rw [Formula.eval, Eval.run_bind_ok hleft, Eval.run_bind_ok hright, Eval.run_ofFault, ← hmultiply]
  rfl

end Evaluation

namespace Expression

variable {e : Expression σ} {env : Environment} {s t : σ} {φ : Formula}

/-- A fault inside an expression ends its evaluation in the words of the expression. -/
theorem run_evaluate_failed {fault : Fault} {u : σ}
    (hvisit : Visits e.registry e.source env e.formula s φ t) (hfault : fault ≠ .noMember)
    (hφ : (φ.eval e.registry e.source env).run t = (.error (.fault fault), u)) :
    (e.evaluate env).run s = (.error (.evaluation (.failed e.source fault)), u) := by
  have hexplain : explain e.source (.fault fault) = .evaluation (.failed e.source fault) := by
    cases fault <;> first | rfl | exact absurd rfl hfault
  rw [evaluate, Eval.run_adapt, hvisit.run_failed hφ, Except.mapError, hexplain]

/-- Wherever an expression comes to multiply a sequence and an integer, its evaluation fails or the
product has at most ten thousand times the length of the sequence, except for bytes: they are
repeated as often as they are asked to. -/
theorem product_bounded {left right : Formula} {l r v w : Value} {length : Nat} {n : Int}
    {t₁ t₂ : σ}
    (hvisit : Visits e.registry e.source env e.formula s (.arithmetic left .mul right) t)
    (hleft : (left.eval e.registry e.source env).run t = (.ok l, t₁))
    (hright : (right.eval e.registry e.source env).run t₁ = (.ok r, t₂))
    (hoperands : l = v ∧ r = w ∨ l = w ∧ r = v) (hv : v.length? = some length)
    (hw : w.integer? = some n) :
    let product := ((Formula.arithmetic left .mul right).eval e.registry e.source env).run t
    (¬ v.IsRunaway n →
      (∃ cause u, (e.evaluate env).run s = (.error (.evaluation cause), u)) ∨
        ∃ p m, product = (.ok p, t₂) ∧ p.length? = some m ∧ m ≤ 10000 * length) ∧
    (v.IsRunaway n →
      ∃ p m, product = (.ok p, t₂) ∧ p.length? = some m ∧ 10000 * length < m) := by
  intro product
  have hproduct : product = ((Value.multiply v w).mapError .fault, t₂) :=
    run_product hleft hright hoperands hv hw
  constructor
  · intro hn
    rcases Value.multiply_bounded hv hw hn with ⟨fault, hfault, hrefused⟩ | ⟨p, m, hp, hlength, hm⟩
    · rw [hrefused] at hproduct
      exact .inl ⟨_, _, run_evaluate_failed hvisit hfault hproduct⟩
    · rw [hp] at hproduct
      exact .inr ⟨p, m, hproduct, hlength, hm⟩
  · intro hn
    obtain ⟨p, hp, hlength, hm⟩ := Value.multiply_runaway hv hw hn
    rw [hp] at hproduct
    exact ⟨p, _, hproduct, hlength, hm⟩

end Expression

end Expr

namespace Filter

open PipeTable.Expr (Enters Environment Expression Formula Term Visits)

/-- In the ten thousand and first row a text is repeated too often, in the second operand of a
comparison. -/
theorem product_bounded_in_row :
    let e : Expression Unit :=
      ⟨"c1 == n * c1", registry, .compare (.name "c1")
        [(.eq, .arithmetic (.name "n") .mul (.name "c1"))]⟩
    let env : Environment := .ofRow ["ab"] 10001 1
    Expression.compile "c1 == n * c1" registry = .ok e ∧
      Visits e.registry e.source env e.formula () (.arithmetic (.name "n") .mul (.name "c1")) () ∧
      ((Formula.name "n").eval e.registry e.source env).run () = (.ok (.int 10001), ()) ∧
      ((Formula.name "c1").eval e.registry e.source env).run () = (.ok (.text "ab"), ()) ∧
      (Value.text "ab").length? = some 2 ∧ (Value.int 10001).integer? = some 10001 ∧
      ¬ (Value.text "ab").IsRunaway 10001 ∧
      ∃ cause u, (e.evaluate env).run () = (.error (.evaluation cause), u) := by
  intro e env
  have hread : Term.read? (Text.unifyNewlinesChars (Text.stripChars "c1 == n * c1".toList)) =
      some (.compare (.name "c1") [(.eq, .binary (.name "n") .mul (.name "c1"))]) := by
    cbv
  have hcompile : Expression.compile "c1 == n * c1" registry = .ok e := by
    simp only [Expression.compile, hread]
    rfl
  have hn : ((Formula.name "n").eval e.registry e.source env).run () = (.ok (.int 10001), ()) :=
    rfl
  have hc : ((Formula.name "c1").eval e.registry e.source env).run () = (.ok (.text "ab"), ()) :=
    rfl
  have hlink : Enters e.registry e.source env
      (.compare (.name "c1") ([] ++ (.eq, .arithmetic (.name "n") .mul (.name "c1")) :: [])) ()
      (.arithmetic (.name "n") .mul (.name "c1")) () :=
    .link rfl
  have hvisit : Visits e.registry e.source env e.formula ()
      (.arithmetic (.name "n") .mul (.name "c1")) () :=
    .enter hlink (.self _ _)
  have hbounded : ¬ (Value.text "ab").IsRunaway 10001 := fun h => nomatch h.isBytes
  refine ⟨hcompile, hvisit, hn, hc, rfl, rfl, hbounded, ?_⟩
  refine ((Expression.product_bounded hvisit hn hc (.inr ⟨rfl, rfl⟩) rfl rfl).1
    hbounded).resolve_right ?_
  rintro ⟨p, m, hp, -⟩
  cases hp

/-- Bytes are repeated ten thousand and one times. -/
theorem product_of_bytes_unbounded :
    let node : Formula := .arithmetic (.constant (.bytes [97])) .mul (.constant (.int 10001))
    let e : Expression Unit := ⟨"b'a' * 0x2711", registry, node⟩
    Expression.compile "b'a' * 0x2711" registry = .ok e ∧
      (Value.bytes [97]).length? = some 1 ∧
      ∃ p m, (e.evaluate {}).run () = (.ok p, ()) ∧ p.length? = some m ∧ 10000 * 1 < m := by
  intro node e
  have hread : Term.read? (Text.unifyNewlinesChars (Text.stripChars "b'a' * 0x2711".toList)) =
      some (.binary (.constant (.bytes [97])) .mul (.constant (.int 10001))) := by
    cbv
  have hcompile : Expression.compile "b'a' * 0x2711" registry = .ok e := by
    simp only [Expression.compile, hread]
    rfl
  have hrunaway : (Value.bytes [97]).IsRunaway 10001 := ⟨⟨97, [], rfl⟩, by decide, by decide⟩
  obtain ⟨p, hp, hlength, hm⟩ := Value.multiply_runaway (v := .bytes [97]) (w := .int 10001) rfl rfl
    hrunaway
  refine ⟨hcompile, rfl, p, _, ?_, hlength, hm⟩
  have hproduct : (node.eval registry e.source {}).run () =
      ((Value.multiply (.bytes [97]) (.int 10001)).mapError .fault, ()) :=
    Expr.run_product rfl rfl (.inl ⟨rfl, rfl⟩) rfl rfl
  rw [hp] at hproduct
  rw [Expression.evaluate, Expr.Eval.run_adapt, hproduct]
  rfl

end Filter

end PipeTable
