import Mathlib
import PipeTable.Jump.Traversal
import PipeTable.Proofs.Check
import PipeTable.Proofs.Effects

/-! # Jumps that fail

Conditions change cells and the memory while they are tested, and steps move the cursor.  All of
this is confined to the table, the cursor and the memory of the session, so putting these back
undoes a jump that does not succeed.
-/

namespace PipeTable

/-! ## Operations of sessions -/

namespace Session

theorem setField_ok {s t : Session} {content : String} {lines columns : Int}
    (h : s.setField content lines columns = .ok (some t)) : ∃ table, t = { s with table } := by
  unfold setField at h
  split at h
  next place _ =>
    cases hset : s.table.setCell place.line place.column content with
    | error fault => rw [hset] at h; cases h
    | ok table => rw [hset] at h; cases h; exact ⟨table, rfl⟩
  · cases h

theorem remember_ok {s t : Session} {key v : Value} (h : s.remember key v = .ok t) :
    t = { s with memory := Value.putEntry s.memory key v } := by
  unfold remember at h
  split at h
  · cases h; rfl
  · cases h

theorem flatten_ok {s t : Session} {count reducer : Value} (h : s.flatten count reducer = .ok t) :
    ∃ table, t = { s with table } := by
  unfold flatten at h
  cases hflat : s.table.flattenColumn s.cursor.line s.cursor.column count
      (Reduction.ofValue reducer) with
  | error e => rw [hflat] at h; cases h
  | ok result => rw [hflat] at h; cases h; exact ⟨result.1, rfl⟩

end Session

namespace Jump

open PipeTable.Expr (Bounds Eval Expression Function Registry Signature)

/-! ## Functions -/

section Functions

variable {b : Bounds Session}

theorem observer_within (signature : Signature) (f : Session → List Value → Except Fault Value)
    (env : Expr.Environment) (arguments : List Value) :
    ((observer signature f).run env arguments).Within b :=
  Eval.Within.get.bind fun _ => .ofFault _

/-- An action stays within bounds if the outcomes of its effect on sessions do. -/
theorem action_within {signature : Signature}
    {f : Session → List Value → Except Error (Session × Value)} {arguments : List Value}
    (hok : ∀ s t v, f s arguments = .ok (t, v) → b.change s t)
    (herror : ∀ s e, f s arguments = .error e → b.failure e) (env : Expr.Environment) :
    ((action signature f).run env arguments).Within b := by
  refine Eval.Within.get_bind fun s => ?_
  cases h : f s arguments with
  | ok result => exact ⟨hok s result.1 result.2 h, fun _ he => nomatch he⟩
  | error e => exact ⟨b.refl s, fun _ he => by cases he; exact herror s e h⟩

theorem failure_mapError {α : Type} {x : Except Fault α} {e : Error}
    (h : x.mapError Error.fault = .error e) : b.failure e := by
  obtain ⟨cause, _, rfl⟩ := Outcome.mapError_eq_error.mp h
  exact b.own rfl

theorem change_setField
    (hset : ∀ (s t : Session) content lines columns,
      s.setField content lines columns = .ok (some t) → b.change s t)
    {s t : Session} {v : Value} {arguments : List Value}
    (h : setField s arguments = .ok (t, v)) : b.change s t := by
  unfold setField at h
  split at h
  · obtain ⟨place, _, h⟩ := Outcome.bind_eq_ok.mp h
    obtain ⟨outcome, houtcome, h⟩ := Outcome.bind_eq_ok.mp h
    cases outcome with
    | none => cases h; exact b.refl s
    | some changed =>
        dsimp only at h
        split at h <;> cases h
        exact hset _ _ _ _ _ houtcome
  · cases h

theorem change_increment
    (hremember : ∀ (s t : Session) key v, s.remember key v = .ok t → b.change s t)
    {s t : Session} {key step v : Value} (h : increment s key step = .ok (t, v)) :
    b.change s t := by
  unfold increment at h
  obtain ⟨recalled, _, h⟩ := Outcome.bind_eq_ok.mp h
  obtain ⟨sum, _, h⟩ := Outcome.bind_eq_ok.mp h
  obtain ⟨changed, hchanged, h⟩ := Outcome.bind_eq_ok.mp h
  cases h
  exact hremember _ _ _ _ hchanged

/-- Each function of sessions only looks at the session, or sets a cell, writes to the memory or
flattens cells. -/
theorem registry_within
    (hset : ∀ (s t : Session) content lines columns,
      s.setField content lines columns = .ok (some t) → b.change s t)
    (hremember : ∀ (s t : Session) key v, s.remember key v = .ok t → b.change s t)
    (hflatten : ∀ (s t : Session) count reducer,
      s.flatten count reducer = .ok t → b.change s t)
    (hrefusal : ∀ (s : Session) (e : Error) count reducer,
      s.flatten count reducer = .error e → b.failure e) :
    Jump.registry.Within b := by
  intro f hf env arguments
  simp only [Jump.registry, functions, List.mem_cons, List.not_mem_nil, or_false] at hf
  rcases hf with rfl | rfl | rfl | rfl | rfl | rfl | rfl | rfl | rfl | rfl
  · exact observer_within _ _ _ _
  -- writing a cell
  · refine action_within (fun s t v h => ?_) (fun s e h => failure_mapError h) env
    exact change_setField hset (Outcome.mapError_eq_ok.mp h)
  · exact observer_within _ _ _ _
  · exact observer_within _ _ _ _
  · exact observer_within _ _ _ _
  · exact observer_within _ _ _ _
  -- writing to the memory
  · refine action_within (fun s t v h => ?_) (fun s e h => ?_) env
    · split at h
      · obtain ⟨result, hresult, heq⟩ := Outcome.map_eq_ok.mp (Outcome.mapError_eq_ok.mp h)
        cases heq
        exact hremember _ _ _ _ hresult
      · cases h
    · split at h
      · exact failure_mapError h
      · cases h
        exact b.own rfl
  · exact observer_within _ _ _ _
  -- counting in the memory, by one or by a given step
  · refine action_within (fun s t v h => ?_) (fun s e h => ?_) env
    · split at h
      · exact change_increment hremember (Outcome.mapError_eq_ok.mp h)
      · exact change_increment hremember (Outcome.mapError_eq_ok.mp h)
      · cases h
    · split at h
      · exact failure_mapError h
      · exact failure_mapError h
      · cases h
        exact b.own rfl
  -- flattening cells, with or without a reduction of its own
  · refine action_within (fun s t v h => ?_) (fun s e h => ?_) env
    · split at h
      · obtain ⟨result, hresult, heq⟩ := Outcome.map_eq_ok.mp h
        cases heq
        exact hflatten _ _ _ _ hresult
      · obtain ⟨result, hresult, heq⟩ := Outcome.map_eq_ok.mp h
        cases heq
        exact hflatten _ _ _ _ hresult
      · cases h
    · split at h
      · exact hrefusal _ _ _ _ (Outcome.map_eq_error.mp h)
      · exact hrefusal _ _ _ _ (Outcome.map_eq_error.mp h)
      · cases h
        exact b.own rfl

end Functions

/-! ## Conditions -/

mutual

/-- All expressions of a condition have a property. -/
def Condition.Expressions (P : Expression Session → Prop) : Condition → Prop
  | .pattern .. => True
  | .place .. => True
  | .all conditions => expressionsOf P conditions
  | .any conditions => expressionsOf P conditions
  | .not condition => condition.Expressions P
  | .expression e => P e

/-- All expressions of several conditions have a property. -/
def expressionsOf (P : Expression Session → Prop) : List Condition → Prop
  | [] => True
  | c :: cs => c.Expressions P ∧ expressionsOf P cs

end

section Conditions

variable {b : Bounds Session}

mutual

/-- Testing a condition does no more than the functions that its expressions call. -/
theorem Condition.holds_within : (c : Condition) →
    c.Expressions (fun e => e.registry.Within b) → c.holds.Within b
  | .pattern .., _ => Eval.Within.get.bind fun _ => .ofFault _
  | .place .., _ => Eval.Within.get.bind fun _ => .pure _
  | .all conditions, h => allHold_within conditions h
  | .any conditions, h => anyHolds_within conditions h
  | .not condition, h => (condition.holds_within h).bind fun _ => .pure _
  | .expression _, h => Expression.isTrue_within h _

theorem allHold_within : (cs : List Condition) →
    expressionsOf (fun e => e.registry.Within b) cs → (allHold cs).Within b
  | [], _ => .pure _
  | c :: cs, h => (c.holds_within h.1).bind fun holds => by
      split
      · exact allHold_within cs h.2
      · exact .pure _

theorem anyHolds_within : (cs : List Condition) →
    expressionsOf (fun e => e.registry.Within b) cs → (anyHolds cs).Within b
  | [], _ => .pure _
  | c :: cs, h => (c.holds_within h.1).bind fun holds => by
      split
      · exact .pure _
      · exact anyHolds_within cs h.2

end

end Conditions

/-! ## Compiling -/

theorem ofOutcome_yields {α : Type} {P : α → Prop} {x : Except Error α}
    (hx : ∀ a, x = .ok a → P a) : (ofOutcome x).Yields P := by
  cases x with
  | ok a => exact .pure (hx a rfl)
  | error e => exact .throw e

theorem ofOutcome_within {α : Type} {b : Bounds Session} {x : Except Error α}
    (hx : ∀ e, x = .error e → b.failure e) : (ofOutcome x).Within b := by
  cases x with
  | ok a => exact .pure a
  | error e => exact .throw (hx e rfl)

theorem patternAt_expressions {P : Expression Session → Prop} {text : String}
    {lines columns : Int} {c : Condition} (h : patternAt text lines columns = .ok c) :
    c.Expressions P := by
  unfold patternAt at h
  split at h
  · cases h; trivial
  · cases h
  · cases h

theorem patternAt_own {text : String} {lines columns : Int} {e : Error}
    (h : patternAt text lines columns = .error e) : e.isOwn = true := by
  unfold patternAt at h
  split at h <;> cases h <;> rfl

theorem compileExpression_expressions {setting : Setting} {P : Expression Session → Prop}
    (hP : ∀ e, e.registry = Jump.registry ∨ e.registry = setting.registry → P e) {v : Value}
    {c : Condition} (h : compileExpression setting v = .ok c) : c.Expressions P := by
  unfold compileExpression at h
  cases hvalue : Expression.ofValue v registry setting.registry with
  | error e => rw [hvalue] at h; cases h
  | ok e =>
      rw [hvalue] at h
      cases h
      exact hP e (Expression.ofValue_registry hvalue)

theorem compileExpression_own {setting : Setting} {v : Value} {e : Error}
    (h : compileExpression setting v = .error e) : e.isOwn = true := by
  unfold compileExpression at h
  cases hvalue : Expression.ofValue v registry setting.registry with
  | error cause =>
      rw [hvalue] at h
      cases h
      exact Expression.ofValue_own hvalue
  | ok e => rw [hvalue] at h; cases h

theorem connect_expressions {P : Expression Session → Prop} {connective : Connective}
    {condition : Value} {parts : List Condition} {c : Condition} (hparts : expressionsOf P parts)
    (h : connect connective condition parts = .ok c) : c.Expressions P := by
  unfold connect at h
  split at h
  · cases h
  · cases h; exact hparts
  · cases h; exact hparts
  · cases h; exact hparts.1
  · cases h

theorem refuse_own (cause : Value → ParseError) (condition : Value) :
    (refuse cause condition).isOwn = true := by
  unfold refuse
  split <;> rfl

theorem connect_own {connective : Connective} {condition : Value} {parts : List Condition}
    {e : Error} (h : connect connective condition parts = .error e) : e.isOwn = true := by
  unfold connect at h
  split at h <;> cases h <;> exact refuse_own _ _

section Compile

variable (setting : Setting) (sense : Sense)

theorem compileAll_yields {P : Expression Session → Prop} {room : Nat}
    (hcompile : ∀ v, (compile setting sense room v).Yields (Condition.Expressions P))
    (parts : List Value) :
    (compileAll setting sense room parts).Yields (expressionsOf P) := by
  induction parts with
  | nil =>
      rw [compileAll]
      exact .pure trivial
  | cons part parts ih =>
      rw [compileAll]
      exact (hcompile part).bind_of fun c hc => ih.bind_of fun cs hcs => .pure ⟨hc, hcs⟩

/-- Compiling a condition makes expressions only of the registries at hand. -/
theorem compile_yields {P : Expression Session → Prop}
    (hP : ∀ e, e.registry = Jump.registry ∨ e.registry = setting.registry → P e) (room : Nat)
    (v : Value) : (compile setting sense room v).Yields (Condition.Expressions P) := by
  induction room generalizing v with
  | zero =>
      rw [compile]
      exact .throw _
  | succ room ih =>
      rw [compile]
      split
      · exact .throw _
      · exact ofOutcome_yields fun c => compileExpression_expressions hP
      · split
        -- the name of a preset, which takes one level, or a pattern
        · exact ih _
        · exact ofOutcome_yields fun c => patternAt_expressions
      · exact ofOutcome_yields fun c => patternAt_expressions
      · exact .bind fun s => .pure trivial
      · exact .bind fun part => ih part
      · exact ofOutcome_yields fun c => compileExpression_expressions hP
      · exact .throw _
      · exact (compileAll_yields setting sense ih _).bind_of fun cs hcs =>
          ofOutcome_yields fun c => connect_expressions hcs

theorem compileAll_within {b : Bounds Session} {room : Nat}
    (hcompile : ∀ v, (compile setting sense room v).Within b) (parts : List Value) :
    (compileAll setting sense room parts).Within b := by
  induction parts with
  | nil =>
      rw [compileAll]
      exact .pure _
  | cons part parts ih =>
      rw [compileAll]
      exact (hcompile part).bind fun _ => ih.bind fun _ => .pure _

variable {b : Bounds Session}
  (hturn : ∀ s key turn, b.change s { s with memory := Value.putEntry s.memory key (.int turn) })
include hturn

theorem takeTurn_within (sequence : Value) (parts : List Value) :
    (takeTurn sense sequence parts).Within b := by
  have hremember : ∀ (key : Value) (turn : Nat) (part : Value), Eval.Within b (do
      modify fun s => { s with memory := Value.putEntry s.memory key (.int turn) }
      return part) :=
    fun key turn _ => (Eval.Within.modify fun s => hturn s _ _).bind fun _ => .pure _
  refine Eval.Within.bind (.ofFault _) fun key => Eval.Within.get.bind fun s => ?_
  dsimp only
  split
  · refine Eval.Within.bind (.pure _) fun turn => ?_
    split
    · exact hremember key turn _
    · exact .throw (b.own rfl)
  · refine Eval.Within.bind (.ofFault _) fun turn => ?_
    split
    · exact hremember key turn _
    · exact .throw (b.own rfl)

/-- Compiling a condition does no more than let sequences take their turns. -/
theorem compile_within (room : Nat) (v : Value) : (compile setting sense room v).Within b := by
  induction room generalizing v with
  | zero =>
      rw [compile]
      exact .throw (b.own (refuse_own _ _))
  | succ room ih =>
      rw [compile]
      split
      · exact .throw (b.own (refuse_own _ _))
      · exact ofOutcome_within fun e he => b.own (compileExpression_own he)
      · split
        · exact ih _
        · exact ofOutcome_within fun e he => b.own (patternAt_own he)
      · exact ofOutcome_within fun e he => b.own (patternAt_own he)
      · exact Eval.Within.get.bind fun s => .pure _
      · exact (takeTurn_within sense hturn _ _).bind fun part => ih part
      · exact ofOutcome_within fun e he => b.own (compileExpression_own he)
      · exact .throw (b.own (refuse_own _ _))
      · exact (compileAll_within setting sense ih _).bind fun cs =>
          ofOutcome_within fun e he => b.own (connect_own he)

end Compile

/-! ## Steps -/

section Steps

variable (setting : Setting) (sense : Sense) (direction : Direction) {b : Bounds Session}

theorem search_within {grid : Grid} {test : Eval Session Bool}
    (hmove : ∀ s, b.change s { s with cursor := grid.move direction s.cursor })
    (htest : test.Within b) (count : Nat) : (search grid direction test count).Within b := by
  induction count with
  | zero => exact .pure _
  | succ count ih =>
      rw [search]
      refine (Eval.Within.modify hmove).bind fun _ => htest.bind fun found => ?_
      split
      · exact .pure _
      · exact ih

/-- A step moves the cursor, lets sequences take their turns, and for the rest does no more than the
functions of the registries at hand. -/
theorem step_within (hcursor : ∀ s cursor, b.change s { s with cursor })
    (hturn : ∀ s key turn,
      b.change s { s with memory := Value.putEntry s.memory key (.int turn) })
    (hstandard : Jump.registry.Within b) (hregistry : setting.registry.Within b) :
    (step setting sense direction).Within b := by
  have hP : ∀ e : Expression Session,
      e.registry = Jump.registry ∨ e.registry = setting.registry → e.registry.Within b := by
    rintro e (heq | heq)
    · rw [heq]; exact hstandard
    · rw [heq]; exact hregistry
  unfold step
  refine Eval.Within.get.bind fun s =>
    (compile_within setting sense hturn _ _).bind_of (compile_yields setting sense hP _ _)
      fun c hc => ?_
  split
  · exact (Eval.Within.modify fun s => hcursor s _).bind fun _ => .pure _
  · exact Eval.Within.get.bind fun s =>
      search_within direction (fun s => hcursor s _) (c.holds_within hc) _

theorem steps_within (hstep : (step setting sense direction).Within b) (count : Nat) :
    (steps setting sense direction count).Within b := by
  induction count with
  | zero => exact .pure _
  | succ count ih =>
      rw [steps]
      refine hstep.bind fun found => ?_
      split
      · exact ih
      · exact .pure _

end Steps

/-! ## Confinement -/

@[simp]
theorem restore_self (s : Session) : restore s s = s := rfl

/-- Changes of the table, the cursor and the memory only, and all errors but the refusal to jump
within a jump. -/
def confined : Bounds Session where
  change s t := restore s t = s
  failure e := e ≠ .precondition .nestedJump
  refl := restore_self
  trans := by
    intro s t u hst htu
    rw [← hst]
    nth_rewrite 2 [← htu]
    rfl
  own := by
    intro e he hnested
    rw [hnested] at he
    cases he

theorem ofValue_ne_nested {v : Value} {e : Error} (h : Reduction.ofValue v = .error e) :
    e ≠ .precondition .nestedJump := by
  unfold Reduction.ofValue at h
  split at h
  · split at h <;> cases h
    simp
  · cases h
    split <;> simp

theorem mapError_fault_ne_nested {α : Type} {x : Except Fault α} {e : Error}
    (h : x.mapError Error.fault = .error e) : e ≠ .precondition .nestedJump := by
  obtain ⟨cause, _, rfl⟩ := Outcome.mapError_eq_error.mp h
  simp

theorem flatten_ne_nested {s : Session} {count reducer : Value} {e : Error}
    (h : s.flatten count reducer = .error e) : e ≠ .precondition .nestedJump := by
  unfold Session.flatten Table.flattenColumn at h
  rcases Outcome.bind_eq_error.mp h with h | ⟨_, _, h⟩
  · rcases Outcome.bind_eq_error.mp h with h | ⟨_, _, h⟩
    · unfold Table.checkColumn at h
      split at h <;> cases h
      simp
    rcases Outcome.bind_eq_error.mp h with h | ⟨_, _, h⟩
    · obtain ⟨cause, _, rfl⟩ := Outcome.mapError_eq_error.mp h
      simp
    rcases Outcome.bind_eq_error.mp h with h | ⟨_, _, h⟩
    · unfold Table.resolveCount at h
      split at h
      · cases h
      · exact mapError_fault_ne_nested h
    rcases Outcome.bind_eq_error.mp h with h | ⟨_, _, h⟩
    · exact ofValue_ne_nested h
    rcases Outcome.bind_eq_error.mp h with h | ⟨_, _, h⟩
    · exact mapError_fault_ne_nested h
    · cases h
  · cases h

theorem registry_confined : Jump.registry.Within confined := by
  refine registry_within (fun s t _ _ _ h => ?_) (fun s t _ _ h => ?_) (fun s t _ _ h => ?_)
    fun s e _ _ h => flatten_ne_nested h
  · obtain ⟨table, rfl⟩ := Session.setField_ok h
    rfl
  · rw [Session.remember_ok h]
    rfl
  · obtain ⟨table, rfl⟩ := Session.flatten_ok h
    rfl

/-! ## Transactions -/

/-- Steps with the functions of sessions are confined, whatever presets they use. -/
theorem steps_confined (presets : Preset.Table) (sense : Sense) (direction : Direction)
    (count : Nat) : (steps { presets } sense direction count).Within confined :=
  steps_within { presets } sense direction (step_within { presets } sense direction
    (fun _ _ => rfl) (fun _ _ _ => rfl) registry_confined registry_confined) count

/-- Putting back the table, the cursor and the memory undoes confined changes. -/
theorem restore_eq_of_confined {s after : Session} (hrest : s.running = false)
    (hchange : confined.change { s with running := true } after) :
    restore s { after with running := false } = s := by
  calc restore s { after with running := false }
      = { restore { s with running := true } after with running := false } := rfl
    _ = { s with running := false } := by rw [hchange]
    _ = s := by rw [← hrest]

/-- A confined test that does not succeed leaves a session at rest as it was, but for a message. -/
theorem transact_undone {test : Eval Session Bool} (htest : test.Within confined) {s : Session}
    (hrest : s.running = false) (hfail : (transact test s).1 ≠ .ok true) :
    (transact test s).2 = s ∨
      (transact test s).2 = { s with reports := s.reports ++ [noMatch] } := by
  have hchange := (htest { s with running := true }).1
  revert hfail
  unfold transact
  rcases hrun : test.run { s with running := true } with ⟨_ | found, after⟩ <;> rw [hrun] at hchange
  · intro _
    exact .inl (restore_eq_of_confined hrest hchange)
  · cases found
    · intro _
      right
      dsimp only
      rw [restore_eq_of_confined hrest hchange]
    · intro hfail
      exact absurd rfl hfail

/-- A confined test does not end in a refusal to jump within a jump. -/
theorem transact_accepted {test : Eval Session Bool} (htest : test.Within confined) (s : Session) :
    (transact test s).1 ≠ .error (.precondition .nestedJump) := by
  have hfailure := (htest { s with running := true }).2
  unfold transact
  rcases hrun : test.run { s with running := true } with ⟨e | found, after⟩ <;>
    rw [hrun] at hfailure
  · intro h
    cases h
    exact hfailure _ rfl rfl
  · cases found <;> simp

/-! ## Jumps -/

/-- What a new condition and a new direction make of a session. -/
theorem configure_ok {s ready : Session} {condition direction : Value}
    (h : configure s condition direction = .ok ready) :
    ∃ c d, (c = s.condition ∨ c = condition.normalize) ∧
      (d = s.direction ∨ Direction.ofValue direction = .ok d) ∧
      ready = { s with condition := c, direction := d } := by
  have hcondition : (if condition.isNone then s.condition else condition.normalize) = s.condition ∨
      (if condition.isNone then s.condition else condition.normalize) = condition.normalize := by
    split
    · exact .inl rfl
    · exact .inr rfl
  simp only [configure] at h
  split at h
  · cases h
    exact ⟨_, _, hcondition, .inl rfl, rfl⟩
  · obtain ⟨d, hd, h⟩ := Outcome.bind_eq_ok.mp h
    cases h
    exact ⟨_, _, hcondition, .inr hd, rfl⟩

theorem configure_accepted {s : Session} {condition direction : Value} {e : Error}
    (h : configure s condition direction = .error e) : e ≠ .precondition .nestedJump := by
  simp only [configure] at h
  split at h
  · cases h
  · rcases Outcome.bind_eq_error.mp h with h | ⟨d, _, h⟩
    · unfold Direction.ofValue at h
      split at h
      · split at h <;> cases h
        simp
      · cases h
        simp
    · cases h

theorem checkStart_accepted {s : Session} {e : Error} (h : checkStart s = .error e) :
    e ≠ .precondition .nestedJump := by
  simp only [checkStart] at h
  split at h
  · cases h
    simp
  · split at h
    · cases h
      simp
    · split at h <;> cases h
      simp

/-- A session at rest accepts a jump: whatever it ends in, it is not the refusal to jump within a
jump. -/
theorem next_accepted (presets : Preset.Table) (count : Int) (condition direction : Value)
    {s : Session} (hrest : s.running = false) :
    (next { presets } count condition direction s).1 ≠ .error (.precondition .nestedJump) := by
  unfold next
  rw [hrest]
  split
  next h => cases h
  next =>
    split
    next e he =>
      intro h
      cases h
      exact configure_accepted he rfl
    next ready _ =>
      split
      next e he =>
        intro h
        cases h
        exact checkStart_accepted he rfl
      next => exact transact_accepted (steps_confined presets _ _ _) ready

/-- A session is what it was before a jump with a condition and a direction, its table, its cursor
and its memory included, and is at rest: only the condition and the direction may be those of the
jump, and a message may have been shown. -/
def Undone (condition direction : Value) (before after : Session) : Prop :=
  ∃ c d reports,
    after = { before with condition := c, direction := d, reports := reports, running := false } ∧
    (c = before.condition ∨ c = condition.normalize) ∧
    (d = before.direction ∨ Direction.ofValue direction = .ok d) ∧
    (reports = before.reports ∨ reports = before.reports ++ [noMatch])

/-- A session at rest is at rest again after a jump, whatever comes of it. -/
theorem next_rest (setting : Setting) (count : Int) (condition direction : Value) {s : Session}
    (hrest : s.running = false) : (next setting count condition direction s).2.running = false := by
  unfold next
  rw [if_neg (by simp [hrest])]
  split
  next => exact hrest
  next ready hready =>
    obtain ⟨c, d, -, -, rfl⟩ := configure_ok hready
    split
    next => exact hrest
    next =>
      dsimp only [transact]
      split <;> rfl

theorem next_undone (presets : Preset.Table) (count : Int) (condition direction : Value)
    {s : Session} (hrest : s.running = false)
    (hfail : (next { presets } count condition direction s).1 ≠ .ok true) :
    Undone condition direction s (next { presets } count condition direction s).2 := by
  revert hfail
  unfold next
  rw [if_neg (by simp [hrest])]
  split
  next e he =>
    intro _
    exact ⟨s.condition, s.direction, s.reports, by rw [← hrest], .inl rfl, .inl rfl, .inl rfl⟩
  next ready hready =>
    obtain ⟨c, d, hc, hd, rfl⟩ := configure_ok hready
    split
    next e he =>
      intro _
      exact ⟨c, d, s.reports, by rw [← hrest], hc, hd, .inl rfl⟩
    next =>
      intro hfail
      have hready : ({ s with condition := c, direction := d } : Session).running = false := hrest
      rcases transact_undone (steps_confined presets _ _ _) hready hfail with hsame | hsame <;>
        rw [hsame]
      · exact ⟨c, d, s.reports, by rw [← hrest], hc, hd, .inl rfl⟩
      · exact ⟨c, d, s.reports ++ [noMatch], by rw [← hrest], hc, hd, .inr rfl⟩

/-- A jump that finds no cell or ends in an error is undone, whatever its condition did in any of
its steps, and leaves a session that accepts another jump. -/
theorem failed_jump_undone (presets : Preset.Table) (count : Int) (condition direction : Value)
    (s : Session) (hrest : s.running = false)
    (hfail : (next { presets } count condition direction s).1 ≠ .ok true) :
    Undone condition direction s (next { presets } count condition direction s).2 ∧
      ∀ count' condition' direction',
        (next { presets } count' condition' direction'
          (next { presets } count condition direction s).2).1 ≠
            .error (.precondition .nestedJump) := by
  have hundone := next_undone presets count condition direction hrest hfail
  refine ⟨hundone, fun count' condition' direction' => ?_⟩
  obtain ⟨c, d, reports, hafter, -⟩ := hundone
  exact next_accepted presets count' condition' direction' (by rw [hafter])

/-- A sequence whose first turn moves the cursor and whose second turn finds nothing. -/
theorem failed_sequence_undone :
    ({ table := Table.ofCells [["x", "y"]] } : Session).running = false ∧
    (next {} 2 (.tuple [.text "jmpseq", .text "^y$", .text "^z$"]) .none
      { table := Table.ofCells [["x", "y"]] }).1 ≠ .ok true ∧
    Undone (.tuple [.text "jmpseq", .text "^y$", .text "^z$"]) .none
      { table := Table.ofCells [["x", "y"]] }
      (next {} 2 (.tuple [.text "jmpseq", .text "^y$", .text "^z$"]) .none
        { table := Table.ofCells [["x", "y"]] }).2 := by
  have hresult : (next {} 2 (.tuple [.text "jmpseq", .text "^y$", .text "^z$"]) .none
      { table := Table.ofCells [["x", "y"]] }).1.toOption = some false := by cbv
  have hfail : (next {} 2 (.tuple [.text "jmpseq", .text "^y$", .text "^z$"]) .none
      { table := Table.ofCells [["x", "y"]] }).1 ≠ .ok true := by
    intro h
    rw [h] at hresult
    cases hresult
  exact ⟨rfl, hfail, (failed_jump_undone Preset.builtin 2 _ .none _ rfl hfail).1⟩

end Jump

end PipeTable
