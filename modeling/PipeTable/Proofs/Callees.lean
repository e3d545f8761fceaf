import Mathlib
import PipeTable.Jump.Functions
import PipeTable.Proofs.Monitor

/-! # What a formula calls

All that an expression takes from its registry is whether its calls are allowed and what the called
functions do.  So two registries that allow the same calls give the same formula, and two that run
the called functions in the same way give the same values.  An expression is compiled again for
another context; within one context it is kept, with the functions it was compiled with.
-/

namespace PipeTable.Expr

variable {α β γ σ : Type}

/-! ## Evaluation -/

/-- Two registries run a function of a name in the same way, or neither has one. -/
def Registry.RunAlike (first second : Registry σ) (name : String) : Prop :=
  (first.find? name).map Function.run = (second.find? name).map Function.run

section Evaluation

variable {first second : Registry σ} {source : String} {env : Environment}

theorem call_congr {name : String} (h : first.RunAlike second name)
    (arguments : Eval σ (List Value)) :
    (do let f ← callee first source name; f.run env (← arguments)) =
      (do let f ← callee second source name; f.run env (← arguments) : Eval σ Value) := by
  unfold Registry.RunAlike at h
  unfold callee
  cases hfirst : first.find? name with
  | none =>
      cases hsecond : second.find? name with
      | none => rfl
      | some g => rw [hfirst, hsecond] at h; cases h
  | some f =>
      cases hsecond : second.find? name with
      | none => rw [hfirst, hsecond] at h; cases h
      | some g =>
          rw [hfirst, hsecond] at h
          have hrun : f.run = g.run := Option.some.inj h
          simp only [pure_bind, hrun]

mutual

/-- The value of a formula depends on the functions that it calls, and on no others. -/
theorem Formula.eval_congr : (φ : Formula) → (∀ c ∈ φ.calls, first.RunAlike second c.1) →
    φ.eval first source env = φ.eval second source env
  | .constant _, _ => rfl
  | .name _, _ => rfl
  | .all operands, h => evalAll_congr operands h .none
  | .any operands, h => evalAny_congr operands h .none
  | .not operand, h => by rw [Formula.eval, Formula.eval, operand.eval_congr h]
  | .sign _ operand, h => by rw [Formula.eval, Formula.eval, operand.eval_congr h]
  | .arithmetic left _ right, h => by
      obtain ⟨hleft, hright⟩ := List.forall_mem_append.mp h
      rw [Formula.eval, Formula.eval, left.eval_congr hleft, right.eval_congr hright]
  | .compare f links, h => by
      obtain ⟨hfirst, hlinks⟩ := List.forall_mem_append.mp h
      rw [Formula.eval, Formula.eval, f.eval_congr hfirst]
      simp only [evalLinks_congr links hlinks]
  | .ifElse test yes no, h => by
      obtain ⟨h, hno⟩ := List.forall_mem_append.mp h
      obtain ⟨htest, hyes⟩ := List.forall_mem_append.mp h
      rw [Formula.eval, Formula.eval, test.eval_congr htest, yes.eval_congr hyes,
        no.eval_congr hno]
  | .call function arguments, h => by
      obtain ⟨hfunction, harguments⟩ := List.forall_mem_cons.mp h
      rw [Formula.eval, Formula.eval, evalList_congr arguments harguments]
      exact call_congr hfunction _
  | .list items, h => by rw [Formula.eval, Formula.eval, evalList_congr items h]
  | .tuple items, h => by rw [Formula.eval, Formula.eval, evalList_congr items h]
  | .subscript container index, h => by
      obtain ⟨hcontainer, hindex⟩ := List.forall_mem_append.mp h
      rw [Formula.eval, Formula.eval, container.eval_congr hcontainer, index.eval_congr hindex]
  | .slice lower upper step, h => by
      obtain ⟨h, hstep⟩ := List.forall_mem_append.mp h
      obtain ⟨hlower, hupper⟩ := List.forall_mem_append.mp h
      rw [Formula.eval, Formula.eval, evalOptional_congr lower hlower,
        evalOptional_congr upper hupper, evalOptional_congr step hstep]

theorem evalList_congr : (φs : List Formula) → (∀ c ∈ callsOf φs, first.RunAlike second c.1) →
    evalList first source env φs = evalList second source env φs
  | [], _ => rfl
  | φ :: φs, h => by
      obtain ⟨hφ, hφs⟩ := List.forall_mem_append.mp h
      rw [evalList, evalList, φ.eval_congr hφ, evalList_congr φs hφs]

theorem evalAll_congr : (φs : List Formula) → (∀ c ∈ callsOf φs, first.RunAlike second c.1) →
    (last : Value) → evalAll first source env last φs = evalAll second source env last φs
  | [], _, _ => rfl
  | φ :: φs, h, last => by
      obtain ⟨hφ, hφs⟩ := List.forall_mem_append.mp h
      rw [evalAll, evalAll, φ.eval_congr hφ]
      simp only [evalAll_congr φs hφs]

theorem evalAny_congr : (φs : List Formula) → (∀ c ∈ callsOf φs, first.RunAlike second c.1) →
    (last : Value) → evalAny first source env last φs = evalAny second source env last φs
  | [], _, _ => rfl
  | φ :: φs, h, last => by
      obtain ⟨hφ, hφs⟩ := List.forall_mem_append.mp h
      rw [evalAny, evalAny, φ.eval_congr hφ]
      simp only [evalAny_congr φs hφs]

theorem evalLinks_congr : (links : List (Comparison × Formula)) →
    (∀ c ∈ callsOfLinks links, first.RunAlike second c.1) → (left : Value) →
    evalLinks first source env left links = evalLinks second source env left links
  | [], _, _ => rfl
  | (_, φ) :: more, h, left => by
      obtain ⟨hφ, hmore⟩ := List.forall_mem_append.mp h
      rw [evalLinks, evalLinks, φ.eval_congr hφ]
      simp only [evalLinks_congr more hmore]

theorem evalOptional_congr : (φ : Option Formula) →
    (∀ c ∈ callsOfOptional φ, first.RunAlike second c.1) →
    evalOptional first source env φ = evalOptional second source env φ
  | none, _ => rfl
  | some φ, h => φ.eval_congr h

end

end Evaluation

/-! ## Checking -/

/-- The surroundings allow calls. -/
def Surroundings.Allows (s : Surroundings) (calls : List (String × Nat)) : Prop :=
  ∀ c ∈ calls, s.allow c.1 c.2 = .ok ()

@[simp]
theorem Surroundings.allows_nil (s : Surroundings) : s.Allows [] := fun _ h => nomatch h

@[simp]
theorem Surroundings.allows_append (s : Surroundings) (calls more : List (String × Nat)) :
    s.Allows (calls ++ more) ↔ s.Allows calls ∧ s.Allows more :=
  List.forall_mem_append

/-- A check comes to a result exactly where calls are allowed, and to no other result anywhere. -/
def Checked.Needs (x : Surroundings → Checked α) (a : α) (calls : List (String × Nat)) : Prop :=
  ∀ s b, x s = .ok b ↔ b = a ∧ s.Allows calls

namespace Checked.Needs

theorem ok (a : α) : Needs (fun _ => .ok a) a [] := by
  intro s b
  simp [eq_comm]

theorem both {f : α → β → γ} {x : Surroundings → Checked α} {y : Surroundings → Checked β} {a : α}
    {b : β} {calls more : List (String × Nat)} (hx : Needs x a calls) (hy : Needs y b more) :
    Needs (fun s => Checked.both f (x s) (y s)) (f a b) (calls ++ more) := by
  intro s c
  rw [Checked.both_eq_ok, Surroundings.allows_append]
  constructor
  · rintro ⟨a', b', ha, hb, rfl⟩
    obtain ⟨rfl, hcalls⟩ := (hx s a').mp ha
    obtain ⟨rfl, hmore⟩ := (hy s b').mp hb
    exact ⟨rfl, hcalls, hmore⟩
  · rintro ⟨rfl, hcalls, hmore⟩
    exact ⟨a, b, (hx s a).mpr ⟨rfl, hcalls⟩, (hy s b).mpr ⟨rfl, hmore⟩, rfl⟩

theorem map {f : α → β} {x : Surroundings → Checked α} {a : α} {calls : List (String × Nat)}
    (hx : Needs x a calls) : Needs (fun s => (x s).map f) (f a) calls := by
  intro s b
  rw [Outcome.map_eq_ok]
  constructor
  · rintro ⟨a', ha, rfl⟩
    obtain ⟨rfl, hcalls⟩ := (hx s a').mp ha
    exact ⟨rfl, hcalls⟩
  · rintro ⟨rfl, hcalls⟩
    exact ⟨a, (hx s a).mpr ⟨rfl, hcalls⟩, rfl⟩

theorem bind {x : Surroundings → Checked α} {f : Surroundings → α → Checked β} {a : α} {b : β}
    {calls more : List (String × Nat)} (hx : Needs x a calls) (hf : Needs (fun s => f s a) b more) :
    Needs (fun s => x s >>= f s) b (calls ++ more) := by
  intro s c
  rw [Outcome.bind_eq_ok, Surroundings.allows_append]
  constructor
  · rintro ⟨a', ha, hb⟩
    obtain ⟨rfl, hcalls⟩ := (hx s a').mp ha
    obtain ⟨rfl, hmore⟩ := (hf s c).mp hb
    exact ⟨rfl, hcalls, hmore⟩
  · rintro ⟨rfl, hcalls, hmore⟩
    exact ⟨a, (hx s a).mpr ⟨rfl, hcalls⟩, (hf s c).mpr ⟨rfl, hmore⟩⟩

theorem operator {depth : Nat} {entry : Except String α} {op : α} (h : entry = .ok op) :
    Needs (fun s => s.operator depth entry) op [] := by
  subst h
  exact ok op

theorem of_eq {x : Surroundings → Checked α} {a : α} {calls more : List (String × Nat)}
    (hx : Needs x a calls) (h : calls = more) : Needs x a more :=
  h ▸ hx

end Checked.Needs

open Checked (Needs)

theorem operators_needs {s : Surroundings} {depth : Nat} {ops : List CompareOp}
    {operations : List Comparison} (h : s.operators depth ops = .ok operations) :
    Needs (fun s => s.operators depth ops) operations [] ∧ operations.length = ops.length := by
  induction ops generalizing operations with
  | nil =>
      cases h
      exact ⟨.ok _, rfl⟩
  | cons op ops ih =>
      obtain ⟨operation, more, hop, hops, rfl⟩ := Checked.both_eq_ok.mp h
      obtain ⟨hneeds, hlength⟩ := ih hops
      exact ⟨Needs.both (.operator (Surroundings.operator_eq_ok.mp hop)) hneeds,
        congrArg Nat.succ hlength⟩

theorem allowCall_needs {s : Surroundings} {depth given : Nat} {function : Term} {keywords : Bool}
    {id : String} (h : allowCall s depth function given keywords = .ok id) :
    Needs (fun s => allowCall s depth function given keywords) id [(id, given)] := by
  unfold allowCall at h
  split at h
  next name =>
    split at h
    · cases h
    next hkeywords =>
      split at h
      next =>
        cases h
        intro s b
        simp only [allowCall, if_neg hkeywords, Surroundings.Allows, List.mem_singleton,
          forall_eq]
        cases hallow : s.allow id given with
        | ok => simp [eq_comm]
        | error e => simp
      next => cases h
  next => cases h

theorem callsOfLinks_zip {ops : List Comparison} {φs : List Formula} (h : ops.length = φs.length) :
    callsOfLinks (ops.zip φs) = callsOf φs := by
  induction ops generalizing φs with
  | nil =>
      obtain rfl := List.length_eq_zero_iff.mp h.symm
      rfl
  | cons op ops ih =>
      obtain _ | ⟨φ, φs⟩ := φs
      · cases h
      · rw [List.zip_cons_cons, callsOfLinks, callsOf, ih (Nat.succ.inj h)]

theorem length_of_checkLinks {s : Surroundings} {depth : Nat} {links : List (CompareOp × Term)}
    {φs : List Formula} (h : checkLinks s depth links = .ok φs) : φs.length = links.length := by
  induction links generalizing φs with
  | nil => cases h; rfl
  | cons link links ih =>
      obtain ⟨φ, rest, -, hrest, rfl⟩ := Checked.both_eq_ok.mp h
      rw [List.length_cons, List.length_cons, ih hrest]

mutual

/-- A term that passes a check passes another one exactly if that allows the calls in its formula,
which is the same. -/
theorem Term.check_needs {s : Surroundings} : (t : Term) → {depth : Nat} → {φ : Formula} →
    t.check s depth = .ok φ → Needs (fun s => t.check s depth) φ φ.calls
  | .constant v, _, _, h => by
      cases h
      exact .ok _
  | .name id, _, _, h => by
      cases h
      exact .ok _
  | .all operands, _, _, h => by
      obtain ⟨φs, hφs, rfl⟩ := Outcome.map_eq_ok.mp h
      exact (checkAll_needs operands hφs).map
  | .any operands, _, _, h => by
      obtain ⟨φs, hφs, rfl⟩ := Outcome.map_eq_ok.mp h
      exact (checkAll_needs operands hφs).map
  | .unary op operand, _, _, h => by
      obtain ⟨make, φ, hop, hφ, rfl⟩ := Checked.both_eq_ok.mp h
      have hmake := Surroundings.operator_eq_ok.mp hop
      have hneeds : Needs (fun s => Term.check s _ (.unary op operand)) (make φ) φ.calls :=
        .both (.operator hmake) (operand.check_needs hφ)
      cases op <;> cases hmake <;> exact hneeds
  | .binary left op right, _, _, h => by
      obtain ⟨make, r, hmake, hr, rfl⟩ := Checked.both_eq_ok.mp h
      obtain ⟨l, operation, hl, hop, rfl⟩ := Checked.both_eq_ok.mp hmake
      have hoperator := Surroundings.operator_eq_ok.mp hop
      exact (Needs.both (.both (left.check_needs hl) (.operator hoperator))
        (right.check_needs hr)).of_eq (by rw [List.append_nil]; rfl)
  | .compare first links, _, _, h => by
      obtain ⟨⟨l, ops⟩, φs, hpair, hφs, rfl⟩ := Checked.both_eq_ok.mp h
      obtain ⟨_, _, hl, hops, heq⟩ := Checked.both_eq_ok.mp hpair
      cases heq
      obtain ⟨hoperators, hlength⟩ := operators_needs hops
      have hlengths : ops.length = φs.length := by
        rw [hlength, List.length_map, length_of_checkLinks hφs]
      exact (Needs.both (.both (first.check_needs hl) hoperators)
        (checkLinks_needs links hφs)).of_eq
          (by rw [List.append_nil, Formula.calls, callsOfLinks_zip hlengths])
  | .ifElse test yes no, _, _, h => by
      obtain ⟨make, n, hmake, hn, rfl⟩ := Checked.both_eq_ok.mp h
      obtain ⟨c, y, hc, hy, rfl⟩ := Checked.both_eq_ok.mp hmake
      exact .both (.both (test.check_needs hc) (yes.check_needs hy)) (no.check_needs hn)
  | .call function arguments keywords, depth, _, h => by
      rw [Term.check] at h
      split at h
      next id hcall =>
        obtain ⟨φs, hφs, rfl⟩ := Outcome.map_eq_ok.mp h
        have hneeds := (allowCall_needs hcall).bind
          (f := fun s id => (checkAll s (depth + 1) arguments).map (Formula.call id))
          (checkAll_needs arguments hφs).map
        intro s b
        rw [Formula.calls, length_of_checkAll hφs, ← List.singleton_append, ← hneeds s b]
        dsimp only
        rw [Term.check]
        cases allowCall s depth function arguments.length keywords <;> rfl
      next => cases h
  | .list items, _, _, h => by
      obtain ⟨φs, hφs, rfl⟩ := Outcome.map_eq_ok.mp h
      exact (checkAll_needs items hφs).map
  | .tuple items, _, _, h => by
      obtain ⟨φs, hφs, rfl⟩ := Outcome.map_eq_ok.mp h
      exact (checkAll_needs items hφs).map
  | .subscript container index, _, _, h => by
      obtain ⟨c, i, hc, hi, rfl⟩ := Checked.both_eq_ok.mp h
      exact .both (container.check_needs hc) (index.check_needs hi)
  | .slice lower upper step, _, _, h => by
      obtain ⟨make, φ, hmake, hφ, rfl⟩ := Checked.both_eq_ok.mp h
      obtain ⟨l, u, hl, hu, rfl⟩ := Checked.both_eq_ok.mp hmake
      exact .both (.both (checkOptional_needs lower hl) (checkOptional_needs upper hu))
        (checkOptional_needs step hφ)
  | .starred _ _, _, _, h => nomatch h
  | .set _ _, _, _, h => nomatch h
  | .dict _ _ _, _, _, h => nomatch h
  | .unsupported _ _, _, _, h => nomatch h

theorem checkAll_needs {s : Surroundings} : (ts : List Term) → {depth : Nat} →
    {φs : List Formula} → checkAll s depth ts = .ok φs →
    Needs (fun s => checkAll s depth ts) φs (callsOf φs)
  | [], _, _, h => by
      cases h
      exact .ok _
  | t :: ts, _, _, h => by
      obtain ⟨φ, φs, hφ, hφs, rfl⟩ := Checked.both_eq_ok.mp h
      exact .both (t.check_needs hφ) (checkAll_needs ts hφs)

theorem checkLinks_needs {s : Surroundings} : (links : List (CompareOp × Term)) → {depth : Nat} →
    {φs : List Formula} → checkLinks s depth links = .ok φs →
    Needs (fun s => checkLinks s depth links) φs (callsOf φs)
  | [], _, _, h => by
      cases h
      exact .ok _
  | (_, t) :: more, _, _, h => by
      obtain ⟨φ, φs, hφ, hφs, rfl⟩ := Checked.both_eq_ok.mp h
      exact .both (t.check_needs hφ) (checkLinks_needs more hφs)

theorem checkOptional_needs {s : Surroundings} : (t : Option Term) → {depth : Nat} →
    {φ : Option Formula} → checkOptional s depth t = .ok φ →
    Needs (fun s => checkOptional s depth t) φ (callsOfOptional φ)
  | none, _, _, h => by
      cases h
      exact .ok _
  | some t, _, _, h => by
      obtain ⟨φ, hφ, rfl⟩ := Outcome.map_eq_ok.mp h
      exact (t.check_needs hφ).map

end

/-! ## Compiling again -/

@[simp]
theorem Registry.register_context (r : Registry σ) (f : Function σ) :
    (r.register f).context = r.context := rfl

namespace Expression

/-- Two outcomes of compiling are the same for whoever evaluates them: the same error, or
expressions that come to the same value or error in every environment, and do the same to the
state. -/
inductive SameOutcome : Except Error (Expression σ) → Except Error (Expression σ) → Prop
  | values {e e' : Expression σ} (h : ∀ env, e.evaluate env = e'.evaluate env) :
      SameOutcome (.ok e) (.ok e')
  | error (cause : Error) : SameOutcome (.error cause) (.error cause)

theorem SameOutcome.refl (x : Except Error (Expression σ)) : SameOutcome x x := by
  cases x with
  | ok e => exact .values fun _ => rfl
  | error cause => exact .error cause

section Compile

variable {source : String} {first : Registry σ} {e : Expression σ}

/-- A source that compiles with some functions compiles with others exactly if these allow the calls
in its formula, and then its formula is the same. -/
theorem compile_again (second : Registry σ) (h : compile source first = .ok e) (e' : Expression σ) :
    compile source second = .ok e' ↔
      e' = ⟨source, second, e.formula⟩ ∧
        ∀ c ∈ e.formula.calls, second.allow source c.1 c.2 = .ok () := by
  obtain ⟨-, -, term, hread, hcheck⟩ := compile_ok h
  have hneeds := term.check_needs hcheck
    ⟨source, fragmentOf (Text.stripChars source.toList), second.allow source⟩
  constructor
  · intro h'
    obtain ⟨hsource, hregistry, term', hread', hcheck'⟩ := compile_ok h'
    cases hread.symm.trans hread'
    obtain ⟨hformula, hallows⟩ := (hneeds _).mp hcheck'
    refine ⟨?_, hallows⟩
    cases e'
    cases hsource
    cases hregistry
    cases hformula
    rfl
  · rintro ⟨rfl, hallows⟩
    have hcheck' := (hneeds _).mpr ⟨rfl, hallows⟩
    simp only [compile] at h ⊢
    split at h
    · cases h
    next hempty =>
      split at h
      · cases h
      next hnull => simp only [if_neg hempty, if_neg hnull, hread, hcheck']

/-- Within its context, an expression is kept with the functions that it was compiled with. -/
theorem adopt_eq_self {second : Registry σ} (h : e.registry.context = second.context) :
    e.adopt second = .ok e :=
  if_pos h

/-- An expression is compiled again for another context.  Within its context it is kept, and that
comes to the same as compiling its source with the new functions, if these allow its calls and the
called functions run as before; what its calls are not allowed to call is not even compiled. -/
theorem adopt_compiled (second : Registry σ) (h : compile source first = .ok e) :
    (first.context ≠ second.context →
      SameOutcome (e.adopt second) (compile source second)) ∧
    (first.context = second.context →
      e.adopt second = .ok e ∧
      ((∃ e', compile source second = .ok e') ↔
        ∀ c ∈ e.formula.calls, second.allow source c.1 c.2 = .ok ()) ∧
      ((∀ c ∈ e.formula.calls,
          second.allow source c.1 c.2 = .ok () ∧ first.RunAlike second c.1) →
        SameOutcome (e.adopt second) (compile source second))) := by
  obtain ⟨hsource, hregistry, -⟩ := compile_ok h
  constructor
  · intro hcontext
    rw [adopt, hregistry, if_neg hcontext, hsource]
    exact .refl _
  · intro hcontext
    have hkept : e.adopt second = .ok e := adopt_eq_self (hregistry ▸ hcontext)
    refine ⟨hkept, ?_, fun halike => ?_⟩
    · constructor
      · rintro ⟨e', he'⟩
        exact ((compile_again second h e').mp he').2
      · exact fun hallows => ⟨_, (compile_again second h _).mpr ⟨rfl, hallows⟩⟩
    · have hcompile := (compile_again second h _).mpr ⟨rfl, fun c hc => (halike c hc).1⟩
      rw [hkept, hcompile]
      refine .values fun env => ?_
      rw [evaluate, evaluate, hregistry, hsource,
        e.formula.eval_congr fun c hc => (halike c hc).2]

end Compile

/-- A function that hands on its argument. -/
def probe : Function Session :=
  ⟨⟨"probe", 0, 1, "hand on the argument"⟩, fun _ arguments => pure (arguments.headD .none)⟩

/-- One more function makes no difference to an expression that does not call it. -/
theorem adopt_compiled_besides :
    ∃ e, compile "line() > column()" Jump.registry = .ok e ∧
      (∀ c ∈ e.formula.calls,
        (Jump.registry.register probe).allow "line() > column()" c.1 c.2 = .ok () ∧
          Jump.registry.RunAlike (Jump.registry.register probe) c.1) ∧
      SameOutcome (e.adopt (Jump.registry.register probe))
        (compile "line() > column()" (Jump.registry.register probe)) := by
  have hread : Term.read? (Text.unifyNewlinesChars (Text.stripChars "line() > column()".toList)) =
      some (.compare (.call (.name "line") [] false) [(.gt, .call (.name "column") [] false)]) := by
    cbv
  have hcompile : compile "line() > column()" Jump.registry = .ok ⟨"line() > column()",
      Jump.registry, .compare (.call "line" []) [(.gt, .call "column" [])]⟩ := by
    simp only [compile, hread]
    rfl
  have hcalls : ∀ c ∈ (Formula.compare (.call "line" []) [(.gt, .call "column" [])]).calls,
      (Jump.registry.register probe).allow "line() > column()" c.1 c.2 = .ok () ∧
        Jump.registry.RunAlike (Jump.registry.register probe) c.1 := by
    simp only [Formula.calls, callsOf, callsOfLinks, List.append_nil, List.length_nil,
      List.cons_append, List.nil_append, List.forall_mem_cons, Registry.RunAlike]
    exact ⟨⟨by cbv, by cbv⟩, ⟨by cbv, by cbv⟩, List.forall_mem_nil _⟩
  have hkept := (adopt_compiled (Jump.registry.register probe) hcompile).2
    (Registry.register_context Jump.registry probe).symm
  exact ⟨_, hcompile, hcalls, hkept.2.2 hcalls⟩

theorem read_probe :
    Term.read? (Text.unifyNewlinesChars (Text.stripChars "probe(line())".toList)) =
      some (.call (.name "probe") [.call (.name "line") [] false] false) := by
  cbv

/-- An expression does not get to know a function that is registered after it was compiled, while
its source compiled anew does. -/
theorem adopt_misses_function :
    ∃ e, compile "probe(line())" Jump.registry = .ok e ∧
      ¬ SameOutcome (e.adopt (Jump.registry.register probe))
        (compile "probe(line())" (Jump.registry.register probe)) := by
  have hcompile : compile "probe(line())" Jump.registry =
      .ok ⟨"probe(line())", Jump.registry, .call "probe" [.call "line" []]⟩ := by
    simp only [compile, read_probe]
    rfl
  have hallows : ∀ c ∈ (Formula.call "probe" [.call "line" []]).calls,
      (Jump.registry.register probe).allow "probe(line())" c.1 c.2 = .ok () := by
    simp only [Formula.calls, callsOf, List.append_nil, List.length_nil, List.length_cons,
      List.forall_mem_cons]
    exact ⟨by cbv, by cbv, List.forall_mem_nil _⟩
  have hanew := (compile_again (Jump.registry.register probe) hcompile _).mpr ⟨rfl, hallows⟩
  refine ⟨_, hcompile, fun hsame => ?_⟩
  rw [adopt_eq_self (Registry.register_context Jump.registry probe).symm, hanew] at hsame
  cases hsame with
  | values hvalues =>
      have hrun := congrArg (fun x => (x.run { table := ⟨[]⟩ }).1.toOption.isSome) (hvalues {})
      have hfails : ((evaluate ⟨"probe(line())", Jump.registry, .call "probe" [.call "line" []]⟩
          {}).run { table := ⟨[]⟩ }).1.toOption.isSome = false := by cbv
      have hanswers : ((evaluate ⟨"probe(line())", Jump.registry.register probe,
          .call "probe" [.call "line" []]⟩ {}).run { table := ⟨[]⟩ }).1.toOption.isSome = true := by
        cbv
      rw [hfails, hanswers] at hrun
      cases hrun

end Expression

end PipeTable.Expr
