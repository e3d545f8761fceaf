import Mathlib
import PipeTable.Proofs.Addresses
import PipeTable.Proofs.Lines
import PipeTable.Proofs.Meaning
import PipeTable.Proofs.Sweep

/-! # Marking a cell

A condition may look for a cell and write to it: where its first parts hold, its last one sets the
cell.  Operands are evaluated only as far as the outcome depends on them, so that no other cell on
the way is written to.
-/

namespace PipeTable

/-! ## Setting a cell -/

namespace Table

variable {t : Table}

/-- Setting a cell of a rectangular table gives it a new content, and all other cells and the
separators stay as they are. -/
theorem exists_setCell (hrect : t.Rectangular) {place : Cursor}
    (hinside : t.grid.contains place = true) (content : String) :
    ∃ u, t.setCell place.line place.column content = .ok u ∧ u.shape = t.shape ∧
      u.content? place = some content ∧
      ∀ other, other ≠ place → u.content? other = t.content? other := by
  obtain ⟨old, hold⟩ : ∃ old, t.content? place = some old := by
    rw [← Option.ne_none_iff_exists', ne_eq, content?_eq_none_iff hrect, hinside]
    exact Bool.noConfusion
  obtain ⟨u, hset, hshape, hcell⟩ := exists_setCell_of_content? hold content
  exact ⟨u, hset, hshape, (hcell place).trans (if_pos rfl),
    fun other hother => (hcell other).trans (if_neg hother)⟩

end Table

theorem Expr.Expression.run_isTrue {σ : Type} (e : Expr.Expression σ) (env : Expr.Environment)
    (s : σ) :
    (e.isTrue env).run s =
      (let value := (e.formula.eval e.registry e.source env).run s
       ((value.1.mapError (explain e.source)).map Value.holds, value.2)) := by
  rw [isTrue, Eval.run_bind, evaluate, Eval.run_adapt]
  rcases (e.formula.eval e.registry e.source env).run s with ⟨_ | _, _⟩ <;> rfl

namespace Jump

open PipeTable.Expr (Eval Expression Formula Term callee evalAll evalList)

/-! ## Formulas without effects -/

/-- A computation depends on the table, the cursor and the memory only, and changes nothing. -/
def Looks {α : Type} (x : Eval Session α) : Prop :=
  ∀ s t, x.run (restore s t) = ((x.run s).1, restore s t)

theorem Looks.run {α : Type} {x : Eval Session α} (hx : Looks x) (s : Session) :
    x.run s = ((x.run s).1, s) := hx s s

theorem looks_closed : Eval.Closed (σ := Session) Looks where
  pure _ _ _ := rfl
  own _ _ _ _ := rfl
  bind := by
    intro α β x f hx hf s t
    have hs := hx.run s
    rcases hresult : (x.run s).1 with e | a
    · rw [hresult] at hs
      rw [Eval.run_bind_failed hs, Eval.run_bind_failed (by rw [hx s t, hresult])]
    · rw [hresult] at hs
      rw [Eval.run_bind_ok hs, Eval.run_bind_ok (by rw [hx s t, hresult])]
      exact hf a s t

/-- The functions that change cells or the memory. -/
def changing : List String :=
  [Expr.Signature.setField, .setVar, .incVar, .flatten].map Expr.Signature.name

theorem observer_looks (signature : Expr.Signature) {f : Session → List Value → Except Fault Value}
    (hf : ∀ s t arguments, f (restore s t) arguments = f s arguments) (env : Expr.Environment)
    (arguments : List Value) : Looks ((observer signature f).run env arguments) := by
  intro s t
  simp only [observer]
  rw [Eval.run_bind_ok (Eval.run_get s), Eval.run_bind_ok (Eval.run_get _), hf,
    Eval.run_ofFault, Eval.run_ofFault]

/-- The other functions only look at the session. -/
theorem function_looks {f : Expr.Function Session} (hf : f ∈ functions)
    (hname : f.signature.name ∉ changing) (env : Expr.Environment) (arguments : List Value) :
    Looks (f.run env arguments) := by
  simp only [functions, List.mem_cons, List.not_mem_nil, or_false] at hf
  rcases hf with rfl | rfl | rfl | rfl | rfl | rfl | rfl | rfl | rfl | rfl <;>
    first
    | exact observer_looks _ (fun _ _ _ => rfl) env arguments
    | exact absurd (by decide) hname

/-- A formula calls no function that changes cells or the memory. -/
def IsEffectFree (φ : Formula) : Prop := ∀ c ∈ φ.calls, c.1 ∉ changing

theorem IsEffectFree.eval_looks {φ : Formula} (h : IsEffectFree φ) (source : String)
    (env : Expr.Environment) : Looks (φ.eval Jump.registry source env) := by
  refine φ.eval_closed looks_closed source env fun c hc f hf vs => ?_
  have hname : f.signature.name = c.1 := by simpa using List.find?_some hf
  exact function_looks (List.mem_of_find?_eq_some hf) (hname ▸ h c hc) env vs

/-! ## Guarded marks -/

/-- Sets the cell at hand to the value of a formula where all guards hold. -/
def marking (guards : List Formula) (content : Formula) : Formula :=
  .all (guards ++ [.call "setfield" [content]])

/-- The value of a formula at a place of a session's table. -/
def valueAt (s : Session) (source : String) (φ : Formula) (place : Cursor) : Except Error Value :=
  ((φ.eval Jump.registry source {}).run { s with cursor := place }).1

theorem evalAll_append_one {registry : Expr.Registry Session} {source : String}
    {env : Expr.Environment} {guards : List Formula} (hguards : guards ≠ []) (ψ : Formula)
    (last : Value) :
    evalAll registry source env last (guards ++ [ψ]) = (do
      let v ← evalAll registry source env last guards
      if v.holds then ψ.eval registry source env else return v) := by
  induction guards generalizing last with
  | nil => exact absurd rfl hguards
  | cons φ guards ih =>
      rw [List.cons_append, evalAll, evalAll, bind_assoc]
      refine bind_congr fun v => ?_
      cases hv : v.holds with
      | false => simp [hv]
      | true =>
          by_cases hmore : guards = []
          · subst hmore
            simp [evalAll, hv]
          · simpa using ih hmore v

theorem find?_setField : Jump.registry.find? "setfield" =
    some (action .setField fun s arguments => (setField s arguments).mapError .fault) := rfl

section Test

variable {source : String} {guards : List Formula} {content : Formula} {s : Session}

/-- Where the guards do not hold, the test of a mark comes out false and changes nothing. -/
theorem marking_passes (hguards : guards ≠ []) {v : Value}
    (hguard : ((Formula.all guards).eval Jump.registry source {}).run s = (.ok v, s))
    (hholds : v.holds = false) :
    ((marking guards content).eval Jump.registry source {}).run s = (.ok v, s) := by
  rw [marking, Formula.eval, evalAll_append_one hguards,
    Eval.run_bind_ok (by rw [Formula.eval] at hguard; exact hguard), hholds]
  rfl

/-- Where the guards hold, the test of a mark sets the cell at the cursor, if the value can be
written. -/
theorem marking_sets (hguards : guards ≠ []) (hrect : s.table.Rectangular)
    (hinside : s.table.grid.contains s.cursor = true) {v w : Value}
    (hguard : ((Formula.all guards).eval Jump.registry source {}).run s = (.ok v, s))
    (hholds : v.holds = true)
    (hcontent : (content.eval Jump.registry source {}).run s = (.ok w, s)) :
    ∃ table, s.table.setCell s.cursor.line s.cursor.column w.cellText = .ok table ∧
      ((marking guards content).eval Jump.registry source {}).run s =
        if w.isWritable then (.ok (.bool true), { s with table })
        else (.error (.fault .badValue), s) := by
  obtain ⟨table, hset, -⟩ := Table.exists_setCell hrect hinside w.cellText
  have hplace : s.offset? 0 0 = some s.cursor := by
    simp only [Session.offset?, Int.add_zero]
    exact if_pos hinside
  have hfield : s.setField w.cellText 0 0 = .ok (some { s with table }) := by
    simp only [Session.setField, hplace, hset, bind, Except.bind, pure, Except.pure]
  have hmark : Jump.setField s [w] =
      if w.isWritable then .ok ({ s with table }, .bool true) else .error .badValue := by
    simp only [Jump.setField, offsetOf, bind, Except.bind, hfield]
    rfl
  refine ⟨table, hset, ?_⟩
  rw [marking, Formula.eval, evalAll_append_one hguards,
    Eval.run_bind_ok (by rw [Formula.eval] at hguard; exact hguard), hholds, if_pos rfl,
    Formula.eval, callee, find?_setField]
  dsimp only
  rw [pure_bind, evalList, evalList, Eval.run_bind_ok (by rw [Eval.run_bind_ok hcontent]; rfl)]
  simp only [action]
  rw [Eval.run_bind_ok (Eval.run_get s), hmark]
  cases w.isWritable <;> rfl

end Test

/-! ## Jumps -/

/-- A condition of an expression in a source. -/
def expressionIn (source : String) : Value := .tuple [.text "expr", .text source]

section Jump

variable {presets : Preset.Table} {source : String} {guards : List Formula} {content : Formula}
  {s : Session}

variable (source s) in
theorem IsEffectFree.run_at {φ : Formula} (h : IsEffectFree φ) {t : Session}
    (htable : t.table = s.table) (hmemory : t.memory = s.memory) (place : Cursor) :
    (φ.eval Jump.registry source {}).run { t with cursor := place } =
      (valueAt s source φ place, { t with cursor := place }) := by
  have hlooks := h.eval_looks source {} { s with cursor := place } { t with cursor := place }
  rwa [show restore { s with cursor := place } { t with cursor := place } =
    { t with cursor := place } by rw [restore, ← htable, ← hmemory]] at hlooks

variable (source s) in
theorem IsEffectFree.valueAt_eq {φ : Formula} (h : IsEffectFree φ) {t : Session}
    (htable : t.table = s.table) (hmemory : t.memory = s.memory) (place : Cursor) :
    valueAt t source φ place = valueAt s source φ place := by
  rw [valueAt, h.run_at source s htable hmemory place]

theorem compile_expressionIn {e : Expression Session}
    (hcompile : Expression.compile source Jump.registry = .ok e) (sense : Sense) (t : Session) :
    (compile { presets } sense (maxDepth + 1) (expressionIn source)).run t =
      (.ok (.expression e), t) := by
  have hshape : shape? (expressionIn source).normalize = some (.sources [.text source]) := rfl
  simp only [compile, hshape, compileExpression, Expression.ofValue, hcompile]
  rfl

section Search

variable {guard value : Cursor → Value} (hguards : guards ≠ [])
  (hguardsFree : IsEffectFree (.all guards))
  (hguard : ∀ place, s.table.grid.contains place = true →
    valueAt s source (.all guards) place = .ok (guard place))
include hguards hguardsFree hguard

/-- The test of a guarded mark comes out false where the guards do not hold. -/
theorem test_passes {place : Cursor} (hinside : s.table.grid.contains place = true)
    (hholds : (guard place).holds = false) :
    ((⟨source, Jump.registry, marking guards content⟩ : Expression Session).isTrue {}).run
      { s with cursor := place } = (.ok false, { s with cursor := place }) := by
  have hrun := hguardsFree.run_at source s (t := s) rfl rfl place
  rw [hguard place hinside] at hrun
  rw [Expression.run_isTrue, marking_passes hguards hrun hholds]
  simp only [Except.mapError, Except.map, hholds]

variable (hcontentFree : IsEffectFree content) (hrect : s.table.Rectangular)
  (hvalue : ∀ place, s.table.grid.contains place = true →
    valueAt s source content place = .ok (value place))
include hcontentFree hrect hvalue

/-- The test of a guarded mark sets the cell where the guards hold, or fails for a value that cannot
be written. -/
theorem test_sets {place : Cursor} (hinside : s.table.grid.contains place = true)
    (hholds : (guard place).holds = true) :
    ∃ table, s.table.setCell place.line place.column (value place).cellText = .ok table ∧
      ((⟨source, Jump.registry, marking guards content⟩ : Expression Session).isTrue {}).run
        { s with cursor := place } =
          if (value place).isWritable then (.ok true, { s with cursor := place, table })
          else (.error (.evaluation (.failed source .badValue)), { s with cursor := place }) := by
  have hrun := hguardsFree.run_at source s (t := s) rfl rfl place
  have hvalueRun := hcontentFree.run_at source s (t := s) rfl rfl place
  rw [hguard place hinside] at hrun
  rw [hvalue place hinside] at hvalueRun
  obtain ⟨table, hset, htest⟩ := marking_sets (s := { s with cursor := place }) hguards hrect
    hinside hrun hholds hvalueRun
  refine ⟨table, hset, ?_⟩
  rw [Expression.run_isTrue, htest]
  cases (value place).isWritable <;> rfl

variable (presets)
  (hcompile : Expression.compile source Jump.registry =
    .ok ⟨source, Jump.registry, marking guards content⟩)
  (hcursor : s.table.grid.contains s.cursor = true)
include hcompile hcursor

/-- A step with a guarded mark goes to the first cell of the circuit from the cursor where the
guards hold, and ends as the test does there; without such a cell it changes nothing. -/
theorem step_marks (hcondition : s.condition = expressionIn source) (sense : Sense)
    (direction : Direction) :
    (∀ place, (s.table.grid.circuit direction s.cursor).find? (fun place => (guard place).holds) =
        some place →
      ∃ table, s.table.setCell place.line place.column (value place).cellText = .ok table ∧
        (step { presets } sense direction).run s =
          if (value place).isWritable then (.ok true, { s with cursor := place, table })
          else (.error (.evaluation (.failed source .badValue)), { s with cursor := place })) ∧
    ((s.table.grid.circuit direction s.cursor).find? (fun place => (guard place).holds) = none →
      (step { presets } sense direction).run s = (.ok false, s)) := by
  let e : Expression Session := ⟨source, Jump.registry, marking guards content⟩
  have hcompiled : (compile { presets } sense (maxDepth + 1) s.condition).run s =
      (.ok (.expression e), s) := by
    rw [hcondition]
    exact compile_expressionIn hcompile sense s
  have hstep : (step { presets } sense direction).run s =
      (search s.table.grid direction (e.isTrue {}) s.table.grid.size).run s := by
    rw [step_eq_search { presets } sense direction hcompiled rfl, Session.grid_eq]
    rfl
  have hpass : ∀ place ∈ s.table.grid.circuit direction s.cursor, (guard place).holds = false →
      (e.isTrue {}).run { s with cursor := place } = (.ok false, { s with cursor := place }) :=
    fun place hplace =>
      test_passes hguards hguardsFree hguard ((Grid.mem_circuit _ _ _ _).mp hplace)
  have hmark : ∀ place ∈ s.table.grid.circuit direction s.cursor, (guard place).holds = true →
      ∃ table, s.table.setCell place.line place.column (value place).cellText = .ok table ∧
        (e.isTrue {}).run { s with cursor := place } =
          if (value place).isWritable then (.ok true, { s with cursor := place, table })
          else (.error (.evaluation (.failed source .badValue)), { s with cursor := place }) :=
    fun place hplace => test_sets hguards hguardsFree hguard hcontentFree hrect hvalue
      ((Grid.mem_circuit _ _ _ _).mp hplace)
  have hresult := hstep.trans <| search_circuit (s := s) direction (e.isTrue {})
    (fun place => (guard place).holds) hcursor hpass fun place hplace hholds => by
      obtain ⟨table, -, hrun⟩ := hmark place hplace hholds
      rw [hrun]
      cases (value place).isWritable <;> simp
  constructor
  · intro place hfind
    rw [hresult, hfind]
    exact hmark place (List.mem_of_find?_eq_some hfind) (by simpa using List.find?_some hfind)
  · intro hfind
    rw [hresult, hfind]

/-- A jump for a guarded mark goes to the first cell of the circuit where the guards hold and ends
with the test there, which fails and is undone if the value cannot be written. -/
theorem next_marks (hrest : s.running = false) (direction : Direction) :
    let jump := next { presets } 1 (expressionIn source) (.text direction.name) s
    let t : Session := { s with condition := expressionIn source, direction }
    (∀ place, (s.table.grid.circuit direction s.cursor).find? (fun place => (guard place).holds) =
        some place →
      ∃ table, s.table.setCell place.line place.column (value place).cellText = .ok table ∧
        jump = if (value place).isWritable then (.ok true, { t with cursor := place, table })
          else (.error (.evaluation (.failed source .badValue)), t)) ∧
    ((s.table.grid.circuit direction s.cursor).find? (fun place => (guard place).holds) = none →
      jump = (.ok false, { t with reports := t.reports ++ [noMatch] })) := by
  intro jump t
  have hjump : jump = transact (steps { presets } .onward direction 1) t :=
    next_eq_transact { presets } 1 rfl direction hrest hcursor
  have hresting : ({ t with running := false } : Session) = t := by rw [← hrest]
  -- the guards and the value do not depend on what a jump under way has set
  have hsame : ∀ {φ}, IsEffectFree φ → ∀ place,
      valueAt { t with running := true } source φ place = valueAt s source φ place :=
    fun h place => h.valueAt_eq source s (t := { t with running := true }) rfl rfl place
  obtain ⟨hfound, hnone⟩ := step_marks presets (s := { t with running := true }) hguards
    hguardsFree (fun place hplace => (hsame hguardsFree place).trans (hguard place hplace))
    hcontentFree hrect
    (fun place hplace => (hsame hcontentFree place).trans (hvalue place hplace)) hcompile hcursor
    rfl .onward direction
  rw [transact, steps_one] at hjump
  constructor
  · intro place hfind
    obtain ⟨table, hset, hstep⟩ := hfound place hfind
    refine ⟨table, hset, ?_⟩
    rw [hstep] at hjump
    cases hwritable : (value place).isWritable with
    | true =>
        rw [hwritable] at hjump
        exact hjump.trans (by rw [← hrest]; rfl)
    | false =>
        rw [hwritable] at hjump
        exact hjump.trans (congrArg (_, ·) hresting)
  · intro hfind
    rw [hnone hfind] at hjump
    refine hjump.trans ?_
    dsimp only
    rw [hresting, restore_self]

end Search

/-- A jump for a guarded mark goes to the first cell where the guards hold and sets this cell, and
no other, to the text of the value there.  If the value cannot be written, the jump fails and is
undone; if the guards hold nowhere, it does not succeed and changes nothing. -/
theorem next_marks_first (hrest : s.running = false) (hguards : guards ≠ [])
    (hcompile : Expression.compile source Jump.registry =
      .ok ⟨source, Jump.registry, marking guards content⟩)
    (hguardsFree : IsEffectFree (.all guards)) (hcontentFree : IsEffectFree content)
    (hrect : s.table.Rectangular) (hcursor : s.table.grid.contains s.cursor = true)
    {guard value : Cursor → Value}
    (hguard : ∀ place, s.table.grid.contains place = true →
      valueAt s source (.all guards) place = .ok (guard place))
    (hvalue : ∀ place, s.table.grid.contains place = true →
      valueAt s source content place = .ok (value place)) (direction : Direction) :
    let jump := next { presets } 1 (expressionIn source) (.text direction.name) s
    let t : Session := { s with condition := expressionIn source, direction }
    (∀ place, (s.table.grid.circuit direction s.cursor).find? (fun place => (guard place).holds) =
        some place →
      ((value place).isWritable = true →
        ∃ table, jump = (.ok true, { t with cursor := place, table }) ∧
          table.shape = s.table.shape ∧
          table.content? place = some (value place).cellText ∧
          ∀ other, other ≠ place → table.content? other = s.table.content? other) ∧
      ((value place).isWritable = false →
        jump = (.error (.evaluation (.failed source .badValue)), t))) ∧
    ((∀ place, s.table.grid.contains place = true → (guard place).holds = false) →
      jump = (.ok false, { t with reports := t.reports ++ [noMatch] })) := by
  intro jump t
  obtain ⟨hfound, hnone⟩ := next_marks presets hguards hguardsFree hguard hcontentFree hrect
    hvalue hcompile hcursor hrest direction
  refine ⟨fun place hfind => ?_, fun hnowhere => ?_⟩
  · obtain ⟨table, hset, hjump⟩ := hfound place hfind
    refine ⟨fun hwritable => ?_, fun hwritable => ?_⟩
    · have hinside := (Grid.mem_circuit _ _ _ _).mp (List.mem_of_find?_eq_some hfind)
      obtain ⟨u, hu, hshape, hhere, hothers⟩ :=
        Table.exists_setCell hrect hinside (value place).cellText
      cases hset.symm.trans hu
      exact ⟨table, by rw [if_pos hwritable] at hjump; exact hjump, hshape, hhere, hothers⟩
    · rw [if_neg (by simp [hwritable])] at hjump
      exact hjump
  · exact hnone (by simpa [List.find?_eq_none, Grid.mem_circuit] using hnowhere)

set_option maxRecDepth 2000 in
theorem read_filled : Term.read?
    (Text.unifyNewlinesChars (Text.stripChars "getfield() and setfield(line())".toList)) =
      some (.all [.call (.name "getfield") [] false,
        .call (.name "setfield") [.call (.name "line") [] false] false]) := by
  cbv

/-- The first cell after the cursor that is not empty gets its line number; it lies behind a
separator and an empty cell. -/
theorem next_marks_first_filled :
    let s : Session :=
      { table := ⟨[.data ["a", "b"], .separator, .data ["", "c"]]⟩, cursor := ⟨1, 2⟩ }
    let condition := expressionIn "getfield() and setfield(line())"
    ∃ table, next {} 1 condition (.text "right") s =
        (.ok true, { s with condition, direction := .right, cursor := ⟨2, 2⟩, table }) ∧
      table.shape = s.table.shape ∧ table.content? ⟨2, 2⟩ = some "2" ∧
      ∀ other, other ≠ ⟨2, 2⟩ → table.content? other = s.table.content? other := by
  intro s condition
  have hcompile : Expression.compile "getfield() and setfield(line())" Jump.registry =
      .ok ⟨"getfield() and setfield(line())", Jump.registry,
        marking [.call "getfield" []] (.call "line" [])⟩ := by
    simp only [Expression.compile, read_filled]
    rfl
  have hguard : ∀ place, s.table.grid.contains place = true →
      valueAt s "getfield() and setfield(line())" (.all [.call "getfield" []]) place =
        .ok (.text ((s.table.content? place).getD "")) := by
    rintro ⟨line, column⟩ hplace
    obtain ⟨hline, hline', hcolumn, hcolumn'⟩ :
        1 ≤ line ∧ line ≤ 2 ∧ 1 ≤ column ∧ column ≤ 2 := by
      rw [show s.table.grid = ⟨2, 2⟩ by decide] at hplace
      simpa [Grid.contains, and_assoc] using hplace
    interval_cases line <;> interval_cases column <;> rfl
  have hfree : IsEffectFree (.all [.call "getfield" []]) ∧ IsEffectFree (.call "line" []) := by
    simp only [IsEffectFree, Formula.calls, Expr.callsOf]
    decide
  have hvalue : ∀ place, s.table.grid.contains place = true →
      valueAt s "getfield() and setfield(line())" (.call "line" []) place =
        .ok (.int place.line) := fun _ _ => rfl
  exact ((next_marks_first rfl (by simp) hcompile hfree.1 hfree.2 (by decide) (by decide) hguard
    hvalue .right).1 ⟨2, 2⟩ (by decide)).1 (Text.isWritable_of_le (by decide))

/-! ### Values that cannot be written -/

/-- A session that remembers an integer. -/
def remembering (n : Int) : Session := { table := ⟨[.data ["a"]]⟩, memory := [(.none, .int n)] }

set_option maxRecDepth 2000 in
theorem read_remembered : Term.read?
    (Text.unifyNewlinesChars (Text.stripChars "True and setfield(getvar(None))".toList)) =
      some (.all [.constant (.bool true),
        .call (.name "setfield") [.call (.name "getvar") [.constant .none] false] false]) := by
  cbv

/-- Guards that hold and a value without a fault do not make a jump succeed: the value may be an
integer with too many digits to be written. -/
theorem next_marks_nothing :
    let n : Int := (10 ^ Text.maxIntegerDigits : Nat)
    let s := remembering n
    let source := "True and setfield(getvar(None))"
    let guards : List Formula := [.constant (.bool true)]
    let content : Formula := .call "getvar" [.constant .none]
    s.running = false ∧ s.table.Rectangular ∧ s.table.grid.contains s.cursor = true ∧
      Expression.compile source Jump.registry =
        .ok ⟨source, Jump.registry, marking guards content⟩ ∧
      IsEffectFree (.all guards) ∧ IsEffectFree content ∧
      (∀ place, valueAt s source (.all guards) place = .ok (.bool true)) ∧
      (∀ place, valueAt s source content place = .ok (.int n)) ∧
      next {} 1 (expressionIn source) (.text "right") s =
        (.error (.evaluation (.failed source .badValue)),
          { s with condition := expressionIn source }) := by
  intro n s source guards content
  have hlong : Text.isWritable n = false := Text.not_isWritable_pow rfl
  clear_value n
  have hcompile : Expression.compile source Jump.registry =
      .ok ⟨source, Jump.registry, marking guards content⟩ := by
    simp only [source, Expression.compile, read_remembered]
    rfl
  have hfree : IsEffectFree (.all guards) ∧ IsEffectFree content := by
    simp only [guards, content, IsEffectFree, Formula.calls, Expr.callsOf]
    decide
  have hguard : ∀ place, valueAt s source (.all guards) place = .ok (.bool true) := fun _ => rfl
  have hvalue : ∀ place, valueAt s source content place = .ok (.int n) := fun _ => rfl
  have hrect : s.table.Rectangular := show Table.Rectangular ⟨[.data ["a"]]⟩ by decide
  have hcursor : s.table.grid.contains s.cursor = true :=
    show (Table.grid ⟨[.data ["a"]]⟩).contains ⟨1, 1⟩ = true by decide
  have hfirst : ((Table.grid ⟨[.data ["a"]]⟩).circuit .right ⟨1, 1⟩).find?
      (fun _ => (Value.bool true).holds) = some ⟨1, 1⟩ := by decide
  obtain ⟨_, -, hjump⟩ := (next_marks Preset.builtin (List.cons_ne_nil _ _) hfree.1
    (fun place _ => hguard place) hfree.2 hrect (fun place _ => hvalue place) hcompile hcursor rfl
    .right).1 ⟨1, 1⟩ hfirst
  rw [if_neg (by simp [Value.isWritable, hlong])] at hjump
  exact ⟨rfl, hrect, hcursor, hcompile, hfree.1, hfree.2, hguard, hvalue, hjump⟩

end Jump

end Jump

end PipeTable
