import Mathlib
import PipeTable.Filter.Functions
import PipeTable.Proofs.Check

/-! # Monitored evaluation

A term can be evaluated as it was read, without a check.  Then constructs without a rule turn up,
operators without a meaning, and calls that should not be made.  A monitor reports each of them as
an incident.  The check is right to be content with a term if no evaluation of it, in no environment
and from no state, meets with an incident, and if what comes of it is the value of the formula.
-/

namespace PipeTable.Expr

/-- What an evaluation must not meet with. -/
inductive Incident where
  /-- A construct that no rule of evaluation treats. -/
  | noRule (construct : String)
  /-- An operator that has no entry among those of its kind. -/
  | noOperator (construct : String)
  /-- A call of something else than a name. -/
  | noName
  /-- A call of a function that only the other context has. -/
  | foreign (name : String)
  /-- A call with a number of arguments that the function does not take. -/
  | wrongCount (name : String) (given : Nat)
  deriving DecidableEq, Repr

/-- An evaluation that may be ended by an incident. -/
abbrev Monitored (σ : Type) := ExceptT Incident (Eval σ)

variable {σ α β : Type}

/-- An evaluation under the eyes of the monitor, to which it gives no occasion. -/
def Eval.watched (x : Eval σ α) : Monitored σ α := ExceptT.lift x

/-- The operator among those of its kind, or the incident that it has no entry. -/
def entry (op : Except String α) : Monitored σ α :=
  match op with
  | .ok op => return op
  | .error construct => throw (.noOperator construct)

/-- Calls a function with arguments, if it takes as many. -/
def Function.call (f : Function σ) (env : Environment) (arguments : List Value) :
    Monitored σ Value :=
  if f.signature.accepts arguments.length then (f.run env arguments).watched
  else throw (.wrongCount f.signature.name arguments.length)

mutual

/-- The value of a term as it was read. -/
def Term.run (registry : Registry σ) (source : String) (env : Environment) :
    Term → Monitored σ Value
  | .constant v => return v
  | .name id => (lookup source env id).watched
  | .all operands => runAll registry source env .none operands
  | .any operands => runAny registry source env .none operands
  | .unary op operand => do
    let v ← operand.run registry source env
    match op with
    | .not => return .bool !v.holds
    | .minus => (Eval.ofFault (Sign.minus.apply v)).watched
    | .plus => (Eval.ofFault (Sign.plus.apply v)).watched
    | .invert => throw (.noOperator "Invert")
  | .binary left op right => do
    let l ← left.run registry source env
    let r ← right.run registry source env
    let operation ← entry op.arithmetic
    (Eval.ofFault (operation.apply l r)).watched
  | .compare first links => do
    let v ← first.run registry source env
    return .bool (← runLinks registry source env v links)
  | .ifElse test yes no => do
    if (← test.run registry source env).holds then yes.run registry source env
    else no.run registry source env
  | .call (.name id) arguments _ => do
    if registry.isForeign id then throw (.foreign id)
    let f ← (callee registry source id).watched
    f.call env (← runList registry source env arguments)
  | .call _ _ _ => throw .noName
  | .list items => do return .list (← runList registry source env items)
  | .tuple items => do return .tuple (← runList registry source env items)
  | .subscript container index => do
    let c ← container.run registry source env
    let i ← index.run registry source env
    (Eval.ofFault (c.item i)).watched
  | .slice lower upper step => do
    let l ← runOptional registry source env lower
    let u ← runOptional registry source env upper
    let s ← runOptional registry source env step
    return .slice l u s
  | .starred _ _ => throw (.noRule "Starred")
  | .set _ _ => throw (.noRule "Set")
  | .dict _ _ _ => throw (.noRule "Dict")
  | .unsupported construct _ => throw (.noRule construct)

/-- The values of terms. -/
def runList (registry : Registry σ) (source : String) (env : Environment) :
    List Term → Monitored σ (List Value)
  | [] => return []
  | t :: ts => do
    let v ← t.run registry source env
    return v :: (← runList registry source env ts)

/-- The first value that does not hold, or the last one. -/
def runAll (registry : Registry σ) (source : String) (env : Environment) (last : Value) :
    List Term → Monitored σ Value
  | [] => return last
  | t :: ts => do
    let v ← t.run registry source env
    if v.holds then runAll registry source env v ts else return v

/-- The first value that holds, or the last one. -/
def runAny (registry : Registry σ) (source : String) (env : Environment) (last : Value) :
    List Term → Monitored σ Value
  | [] => return last
  | t :: ts => do
    let v ← t.run registry source env
    if v.holds then return v else runAny registry source env v ts

/-- Whether all links of a chain of comparisons hold, up to the first that does not. -/
def runLinks (registry : Registry σ) (source : String) (env : Environment) (left : Value) :
    List (CompareOp × Term) → Monitored σ Bool
  | [] => return true
  | (op, t) :: more => do
    let right ← t.run registry source env
    let comparison ← entry op.comparison
    if ← (Eval.ofFault (comparison.holds left right)).watched then
      runLinks registry source env right more
    else return false

/-- The value of a term that may be absent. -/
def runOptional (registry : Registry σ) (source : String) (env : Environment) :
    Option Term → Monitored σ Value
  | none => return .none
  | some t => t.run registry source env

end

/-! ## Quiet runs -/

/-- The first computation goes as the second one does, and the monitor has nothing to report. -/
def Monitored.Quiet (x : Monitored σ α) (y : Eval σ α) : Prop := x = y.watched

/-- What follows a computation matters only for the results that it can have. -/
theorem Eval.bind_congr_of_yields {P : α → Prop} {x : Eval σ α} {f g : α → Eval σ β}
    (hx : x.Yields P) (h : ∀ a, P a → f a = g a) : x >>= f = x >>= g := by
  funext s
  change (x >>= f).run s = (x >>= g).run s
  rw [Eval.run_bind, Eval.run_bind]
  rcases heq : x.run s with ⟨_ | a, t⟩
  · rfl
  · have ha : P a := hx s a (by rw [heq])
    dsimp only
    rw [h a ha]

namespace Monitored.Quiet

protected theorem pure (a : α) : (pure a : Monitored σ α).Quiet (pure a) := rfl

protected theorem watched (x : Eval σ α) : x.watched.Quiet x := rfl

theorem bind_of {P : α → Prop} {x : Monitored σ α} {y : Eval σ α} {f : α → Monitored σ β}
    {g : α → Eval σ β} (hx : x.Quiet y) (hyields : y.Yields P) (hf : ∀ a, P a → (f a).Quiet (g a)) :
    (x >>= f).Quiet (y >>= g) := by
  -- a monitored computation is one whose results are reports, so all sides are evaluations
  have hquiet : ∀ a, P a → ((f a).run : Eval σ _) = Except.ok <$> g a := hf
  calc (x >>= f : Monitored σ β) = ((Except.ok <$> y : Eval σ (Except Incident α)) >>=
        ExceptT.bindCont f : Eval σ (Except Incident β)) := by rw [hx]; rfl
    _ = (y >>= fun a => (f a).run : Eval σ (Except Incident β)) := by rw [bind_map_left]; rfl
    _ = y >>= fun a => Except.ok <$> g a := Eval.bind_congr_of_yields hyields hquiet
    _ = Except.ok <$> (y >>= g) := (map_bind _ _ _).symm

protected theorem bind {x : Monitored σ α} {y : Eval σ α} {f : α → Monitored σ β}
    {g : α → Eval σ β} (hx : x.Quiet y) (hf : ∀ a, (f a).Quiet (g a)) :
    (x >>= f).Quiet (y >>= g) :=
  hx.bind_of (P := fun _ => True) (fun _ _ _ => trivial) fun a _ => hf a

end Monitored.Quiet

/-! ## What a check has seen to -/

theorem Checked.both_eq_ok {γ : Type} {f : α → β → γ} {x : Checked α} {y : Checked β} {c : γ} :
    Checked.both f x y = .ok c ↔ ∃ a b, x = .ok a ∧ y = .ok b ∧ f a b = c := by
  cases x <;> cases y <;> simp [Checked.both]

theorem Surroundings.operator_eq_ok {s : Surroundings} {depth : Nat} {entry : Except String α}
    {op : α} : s.operator depth entry = .ok op ↔ entry = .ok op := by
  cases entry <;> simp [Surroundings.operator]

/-- An allowed call names its function, which is not foreign and takes as many arguments. -/
theorem allowCall_eq_ok {s : Surroundings} {registry : Registry σ} {source : String}
    (hallow : s.allow = registry.allow source) {depth given : Nat} {function : Term}
    {keywords : Bool} {id : String} (h : allowCall s depth function given keywords = .ok id) :
    function = .name id ∧ registry.isForeign id = false ∧
      ∀ f, registry.find? id = some f → f.signature.accepts given = true := by
  unfold allowCall at h
  split at h
  next name =>
    split at h
    · cases h
    · split at h
      next hallowed =>
        cases h
        rw [hallow, Registry.allow] at hallowed
        split at hallowed
        · cases hallowed
        next hforeign =>
          refine ⟨rfl, by simpa using hforeign, fun f hf => ?_⟩
          rw [hf] at hallowed
          dsimp only at hallowed
          split at hallowed
          next haccepts => exact haccepts
          next => cases hallowed
      next => cases h
  next => cases h

theorem length_of_checkAll {s : Surroundings} {depth : Nat} {ts : List Term} {φs : List Formula}
    (h : checkAll s depth ts = .ok φs) : φs.length = ts.length := by
  induction ts generalizing φs with
  | nil => cases h; rfl
  | cons t ts ih =>
      obtain ⟨φ, rest, -, hrest, rfl⟩ := Checked.both_eq_ok.mp h
      rw [List.length_cons, List.length_cons, ih hrest]

theorem evalList_yields (registry : Registry σ) (source : String) (env : Environment)
    (φs : List Formula) :
    (evalList registry source env φs).Yields fun vs => vs.length = φs.length := by
  induction φs with
  | nil => exact .pure rfl
  | cons φ φs ih =>
      exact .bind fun v => .bind_of ih fun vs hvs => .pure (congrArg Nat.succ hvs)

/-! ## Runs of checked terms -/

/-- An operator that has an entry leaves no trace of having been looked up. -/
theorem entry_quiet {op : Except String α} {a : α} {f : α → Monitored σ β} {y : Eval σ β}
    (h : op = .ok a) (hf : (f a).Quiet y) : (entry op >>= f).Quiet y := by
  have hentry : (entry op : Monitored σ α) = pure a := by
    rw [h]
    rfl
  rwa [hentry, pure_bind]

section Run

variable {registry : Registry σ} {source : String} (env : Environment) {s : Surroundings}

theorem call_quiet {id : String} {arguments : List Term} {φs : List Formula}
    (hforeign : registry.isForeign id = false)
    (haccepts : ∀ f, registry.find? id = some f → f.signature.accepts arguments.length = true)
    (hlength : φs.length = arguments.length)
    (h : (runList registry source env arguments).Quiet (evalList registry source env φs))
    (keywords : Bool) :
    ((Term.call (.name id) arguments keywords).run registry source env).Quiet
      ((Formula.call id φs).eval registry source env) := by
  have hcallee : (callee registry source id).Yields fun f =>
      f.signature.accepts arguments.length = true := by
    unfold callee
    split
    next f hf => exact .pure (haccepts f hf)
    next => exact .throw _
  rw [Term.run, if_neg (by simp [hforeign])]
  -- the check has counted the arguments as they stand, the monitor counts their values
  refine Monitored.Quiet.bind_of (.watched _) hcallee fun f hf => ?_
  refine h.bind_of (evalList_yields registry source env φs) fun vs hvs => ?_
  rw [Function.call, hvs, hlength, if_pos hf]
  exact .watched _

mutual

/-- A term that passes the check runs as its formula is evaluated, without an incident. -/
theorem Term.run_quiet (hallow : s.allow = registry.allow source) : (t : Term) → {depth : Nat} →
    {φ : Formula} → t.check s depth = .ok φ →
      (t.run registry source env).Quiet (φ.eval registry source env)
  | .constant v, _, _, h => by
      cases h
      exact .pure v
  | .name id, _, _, h => by
      cases h
      exact .watched _
  | .all operands, _, _, h => by
      obtain ⟨φs, hφs, rfl⟩ := Outcome.map_eq_ok.mp h
      exact runAll_quiet hallow operands .none hφs
  | .any operands, _, _, h => by
      obtain ⟨φs, hφs, rfl⟩ := Outcome.map_eq_ok.mp h
      exact runAny_quiet hallow operands .none hφs
  | .unary op operand, _, _, h => by
      obtain ⟨make, φ, hop, hφ, rfl⟩ := Checked.both_eq_ok.mp h
      have hmake := Surroundings.operator_eq_ok.mp hop
      have hrun := operand.run_quiet hallow hφ
      cases op with
      | not => cases hmake; exact hrun.bind fun _ => .pure _
      | minus => cases hmake; exact hrun.bind fun _ => .watched _
      | plus => cases hmake; exact hrun.bind fun _ => .watched _
      | invert => cases hmake
  | .binary left op right, _, _, h => by
      obtain ⟨make, r, hmake, hr, rfl⟩ := Checked.both_eq_ok.mp h
      obtain ⟨l, operation, hl, hop, rfl⟩ := Checked.both_eq_ok.mp hmake
      exact (left.run_quiet hallow hl).bind fun _ => (right.run_quiet hallow hr).bind fun _ =>
        entry_quiet (Surroundings.operator_eq_ok.mp hop) (.watched _)
  | .compare first links, _, _, h => by
      obtain ⟨⟨l, ops⟩, φs, hpair, hφs, rfl⟩ := Checked.both_eq_ok.mp h
      obtain ⟨_, _, hl, hops, heq⟩ := Checked.both_eq_ok.mp hpair
      cases heq
      exact (first.run_quiet hallow hl).bind fun v =>
        (runLinks_quiet hallow links v hops hφs).bind fun _ => .pure _
  | .ifElse test yes no, _, _, h => by
      obtain ⟨make, n, hmake, hn, rfl⟩ := Checked.both_eq_ok.mp h
      obtain ⟨c, y, hc, hy, rfl⟩ := Checked.both_eq_ok.mp hmake
      refine (test.run_quiet hallow hc).bind fun v => ?_
      split
      · exact yes.run_quiet hallow hy
      · exact no.run_quiet hallow hn
  | .call function arguments keywords, _, _, h => by
      rw [Term.check] at h
      split at h
      next id hcall =>
        obtain ⟨φs, hφs, rfl⟩ := Outcome.map_eq_ok.mp h
        obtain ⟨hname, hforeign, haccepts⟩ := allowCall_eq_ok hallow hcall
        have harguments := runList_quiet hallow arguments hφs
        rw [hname]
        exact call_quiet env hforeign haccepts (length_of_checkAll hφs) harguments keywords
      next => cases h
  | .list items, _, _, h => by
      obtain ⟨φs, hφs, rfl⟩ := Outcome.map_eq_ok.mp h
      exact (runList_quiet hallow items hφs).bind fun _ => .pure _
  | .tuple items, _, _, h => by
      obtain ⟨φs, hφs, rfl⟩ := Outcome.map_eq_ok.mp h
      exact (runList_quiet hallow items hφs).bind fun _ => .pure _
  | .subscript container index, _, _, h => by
      obtain ⟨c, i, hc, hi, rfl⟩ := Checked.both_eq_ok.mp h
      exact (container.run_quiet hallow hc).bind fun _ =>
        (index.run_quiet hallow hi).bind fun _ => .watched _
  | .slice lower upper step, _, _, h => by
      obtain ⟨make, φ, hmake, hφ, rfl⟩ := Checked.both_eq_ok.mp h
      obtain ⟨l, u, hl, hu, rfl⟩ := Checked.both_eq_ok.mp hmake
      exact (runOptional_quiet hallow lower hl).bind fun _ =>
        (runOptional_quiet hallow upper hu).bind fun _ =>
          (runOptional_quiet hallow step hφ).bind fun _ => .pure _
  | .starred _ _, _, _, h => nomatch h
  | .set _ _, _, _, h => nomatch h
  | .dict _ _ _, _, _, h => nomatch h
  | .unsupported _ _, _, _, h => nomatch h

theorem runList_quiet (hallow : s.allow = registry.allow source) : (ts : List Term) →
    {depth : Nat} → {φs : List Formula} → checkAll s depth ts = .ok φs →
      (runList registry source env ts).Quiet (evalList registry source env φs)
  | [], _, _, h => by
      cases h
      exact .pure _
  | t :: ts, _, _, h => by
      obtain ⟨φ, φs, hφ, hφs, rfl⟩ := Checked.both_eq_ok.mp h
      exact (t.run_quiet hallow hφ).bind fun _ => (runList_quiet hallow ts hφs).bind fun _ =>
        .pure _

theorem runAll_quiet (hallow : s.allow = registry.allow source) : (ts : List Term) →
    (last : Value) → {depth : Nat} → {φs : List Formula} → checkAll s depth ts = .ok φs →
      (runAll registry source env last ts).Quiet (evalAll registry source env last φs)
  | [], _, _, _, h => by
      cases h
      exact .pure _
  | t :: ts, _, _, _, h => by
      obtain ⟨φ, φs, hφ, hφs, rfl⟩ := Checked.both_eq_ok.mp h
      refine (t.run_quiet hallow hφ).bind fun v => ?_
      split
      · exact runAll_quiet hallow ts v hφs
      · exact .pure v

theorem runAny_quiet (hallow : s.allow = registry.allow source) : (ts : List Term) →
    (last : Value) → {depth : Nat} → {φs : List Formula} → checkAll s depth ts = .ok φs →
      (runAny registry source env last ts).Quiet (evalAny registry source env last φs)
  | [], _, _, _, h => by
      cases h
      exact .pure _
  | t :: ts, _, _, _, h => by
      obtain ⟨φ, φs, hφ, hφs, rfl⟩ := Checked.both_eq_ok.mp h
      refine (t.run_quiet hallow hφ).bind fun v => ?_
      split
      · exact .pure v
      · exact runAny_quiet hallow ts v hφs

theorem runLinks_quiet (hallow : s.allow = registry.allow source) :
    (links : List (CompareOp × Term)) → (left : Value) → {depth : Nat} →
    {ops : List Comparison} → {φs : List Formula} →
    s.operators depth (links.map Prod.fst) = .ok ops → checkLinks s depth links = .ok φs →
      (runLinks registry source env left links).Quiet
        (evalLinks registry source env left (ops.zip φs))
  | [], _, _, _, _, hops, h => by
      cases hops
      cases h
      exact .pure _
  | (op, t) :: more, _, _, _, _, hall, h => by
      obtain ⟨operation, ops, hop, hops, rfl⟩ := Checked.both_eq_ok.mp hall
      obtain ⟨φ, φs, hφ, hφs, rfl⟩ := Checked.both_eq_ok.mp h
      refine (t.run_quiet hallow hφ).bind fun v =>
        entry_quiet (Surroundings.operator_eq_ok.mp hop) ?_
      refine Monitored.Quiet.bind (.watched _) fun holds => ?_
      split
      · exact runLinks_quiet hallow more v hops hφs
      · exact .pure _

theorem runOptional_quiet (hallow : s.allow = registry.allow source) : (t : Option Term) →
    {depth : Nat} → {φ : Option Formula} → checkOptional s depth t = .ok φ →
      (runOptional registry source env t).Quiet (evalOptional registry source env φ)
  | none, _, _, h => by
      cases h
      exact .pure _
  | some t, _, _, h => by
      obtain ⟨φ, hφ, rfl⟩ := Outcome.map_eq_ok.mp h
      exact t.run_quiet hallow hφ

end

end Run

/-! ## Compiled expressions -/

/-- The monitor reports nothing about the computation, whatever state it starts from. -/
def Monitored.NoIncident (x : Monitored σ α) : Prop :=
  ∀ s incident, ((x.run : Eval σ _).run s).1 ≠ .ok (.error incident)

theorem Monitored.Quiet.noIncident {x : Monitored σ α} {y : Eval σ α} (h : x.Quiet y) :
    x.NoIncident := by
  intro s incident hreport
  have hrun : (x.run : Eval σ _).run s = ((y.run s).1.map Except.ok, (y.run s).2) := by
    rw [h]
    exact Eval.run_map Except.ok y s
  rw [hrun, Outcome.map_eq_ok] at hreport
  obtain ⟨_, -, hok⟩ := hreport
  cases hok

/-- A source that compiles, with whatever functions are registered, was read as a term no evaluation
of which meets with an incident: every construct has its rule, every operator its entry, every call
as many arguments as its function takes, and no call is one of a foreign function.  What comes of
the term is the value of the compiled formula. -/
theorem compiled_runs_without_incident {source : String} {registry : Registry σ} {e : Expression σ}
    (h : Expression.compile source registry = .ok e) :
    ∃ term, Term.read? (Text.unifyNewlinesChars (Text.stripChars source.toList)) = some term ∧
      ∀ env, (term.run e.registry e.source env).NoIncident ∧
        term.run e.registry e.source env = (e.formula.eval e.registry e.source env).watched := by
  obtain ⟨hsource, hregistry, term, hread, hcheck⟩ := Expression.compile_ok h
  rw [hsource, hregistry]
  refine ⟨term, hread, fun env => ?_⟩
  have hquiet := term.run_quiet env rfl hcheck
  exact ⟨hquiet.noIncident, hquiet⟩

/-- A filter that calls a function of its own, registered besides those that every filter has. -/
theorem registered_call_runs_without_incident :
    let half : Function Unit := ⟨⟨"half", 1, 0, "half of a number"⟩, fun _ arguments =>
      match arguments with
      | [.int n] => pure (.int (n / 2))
      | _ => throw (.fault .mismatch)⟩
    let registry := Filter.registry.register half
    let term : Term := .compare (.call (.name "half") [.name "n"] false) [(.gt, .name "n")]
    ∃ e, Expression.compile "half(n) > n" registry = .ok e ∧
      ∀ env, (term.run registry "half(n) > n" env).NoIncident := by
  intro half registry term
  have hread : Term.read? (Text.unifyNewlinesChars (Text.stripChars "half(n) > n".toList)) =
      some term := by cbv
  have hcompile : Expression.compile "half(n) > n" registry = .ok ⟨"half(n) > n", registry,
      .compare (.call "half" [.name "n"]) [(.gt, .name "n")]⟩ := by
    simp only [Expression.compile, hread]
    rfl
  obtain ⟨read, hread', hruns⟩ := compiled_runs_without_incident hcompile
  rw [hread] at hread'
  cases hread'
  exact ⟨_, hcompile, fun env => (hruns env).1⟩

end PipeTable.Expr
