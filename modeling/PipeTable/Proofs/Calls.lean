import Mathlib
import PipeTable.Proofs.Sweep

/-! # Calls of a session

Whatever a session is asked to do, its cursor stays on a cell, its table keeps its shape, and it is
ready for the next call.  Jumps may wrap around the grid, go straight to a place, edit cells and be
undone; none of this leaves the grid, since a place is counted within the grid and every function
that a condition can call keeps the shape of the table.
-/

namespace PipeTable

namespace Selection

theorem resolveIndex_mem {length : Nat} (hlength : 0 < length) (index : Int) :
    1 ≤ resolveIndex index length ∧ resolveIndex index length ≤ length := by
  simp only [resolveIndex]
  omega

end Selection

/-- The cursor stands on a cell of a table with a given shape. -/
structure Session.OnGrid (shape : List (Option Nat)) (s : Session) : Prop where
  shape : s.table.shape = shape
  inside : s.grid.contains s.cursor = true

/-- The cursor stands on a cell, and no jump is under way. -/
structure Session.AtRest (shape : List (Option Nat)) (s : Session) : Prop
    extends s.OnGrid shape where
  rest : s.running = false

theorem Session.OnGrid.moveTo {shape : List (Option Nat)} {s : Session} (hs : s.OnGrid shape)
    {cursor : Cursor} (hcursor : s.grid.contains cursor = true) :
    ({ s with cursor } : Session).OnGrid shape :=
  ⟨hs.shape, hcursor⟩

namespace Jump

open PipeTable.Expr (Bounds Eval)

/-! ## Places -/

section Places

variable {setting : Setting} {sense : Sense}

theorem ofOutcome_eq_ok {α : Type} {x : Except Error α} {s t : Session} {a : α}
    (h : (ofOutcome x).run s = (.ok a, t)) : x = .ok a := by
  cases x <;> cases h
  rfl

theorem patternAt_isPlace {text : String} {lines columns : Int} {c : Condition}
    (h : patternAt text lines columns = .ok c) : c.isPlace = false := by
  unfold patternAt at h
  split at h <;> cases h
  rfl

theorem compileExpression_isPlace {v : Value} {c : Condition}
    (h : compileExpression setting v = .ok c) : c.isPlace = false := by
  obtain ⟨e, -, rfl⟩ := Outcome.map_eq_ok.mp h
  rfl

theorem connect_isPlace {connective : Connective} {condition : Value} {parts : List Condition}
    {c : Condition} (h : connect connective condition parts = .ok c) : c.isPlace = false := by
  unfold connect at h
  split at h <;> cases h <;> rfl

/-- Where compiling ends in a place, its coordinates are counted within the grid. -/
theorem place_of_compile {room : Nat} {v : Value} {s t : Session} {line column : Option Int}
    (h : (compile setting sense room v).run s = (.ok (.place line column), t)) :
    ∃ l c, line = Option.map (Selection.resolveIndex · s.grid.height) l ∧
      column = Option.map (Selection.resolveIndex · s.grid.width) c := by
  induction room generalizing v s with
  | zero =>
      rw [compile] at h
      cases h
  | succ room ih =>
      rw [compile] at h
      split at h
      · cases h
      · cases compileExpression_isPlace (ofOutcome_eq_ok h)
      · split at h
        · exact ih h
        · cases patternAt_isPlace (ofOutcome_eq_ok h)
      · cases patternAt_isPlace (ofOutcome_eq_ok h)
      · cases h
        exact ⟨_, _, rfl, rfl⟩
      next parts _ =>
        obtain ⟨part, u, hturn, h⟩ := Eval.run_bind_eq_ok h
        -- the turn is remembered in a session with the same grid
        obtain ⟨memory, rfl⟩ : ∃ memory, u = { s with memory } := by
          have hchange := (takeTurn_recalling sense v.normalize parts s).1
          rwa [hturn] at hchange
        exact ih (s := { s with memory }) h
      · cases compileExpression_isPlace (ofOutcome_eq_ok h)
      · cases h
      · obtain ⟨parts, u, -, h⟩ := Eval.run_bind_eq_ok h
        cases connect_isPlace (ofOutcome_eq_ok h)

end Places

/-! ## Steps -/

/-- Changes that keep the cursor on a cell of a table with a given shape. -/
def onGrid (shape : List (Option Nat)) : Bounds Session where
  change s t := s.OnGrid shape → t.OnGrid shape
  failure _ := True
  refl _ := id
  trans hst htu := htu ∘ hst
  own _ := trivial

variable {shape : List (Option Nat)}

/-- What leaves the cursor and the shape as they are keeps the cursor on a cell. -/
theorem within_onGrid {α : Type} {x : Eval Session α} (hx : x.Within still) :
    x.Within (onGrid shape) := by
  refine hx.mono (fun s t hst hs => ?_) fun _ _ => trivial
  obtain ⟨hcursor, hshape⟩ := hst
  have hgrid : t.grid = s.grid := Table.grid_eq_of_shape hshape
  exact ⟨hshape.trans hs.shape, by rw [hgrid, hcursor]; exact hs.inside⟩

theorem contains_place {g : Grid} {here : Cursor} (hinside : g.contains here = true)
    (l c : Option Int) :
    g.contains ⟨(l.map (Selection.resolveIndex · g.height)).getD here.line,
      (c.map (Selection.resolveIndex · g.width)).getD here.column⟩ = true := by
  rw [Grid.contains_iff] at hinside ⊢
  -- the cell at hand shows that the grid has lines and columns
  have hline : ∀ n, 1 ≤ Selection.resolveIndex n g.height ∧
      Selection.resolveIndex n g.height ≤ g.height := Selection.resolveIndex_mem (by omega)
  have hcolumn : ∀ n, 1 ≤ Selection.resolveIndex n g.width ∧
      Selection.resolveIndex n g.width ≤ g.width := Selection.resolveIndex_mem (by omega)
  cases l <;> cases c <;> simp_all

section Steps

variable {setting : Setting} (hregistry : setting.registry.Within still) (sense : Sense)
  (direction : Direction)
include hregistry

theorem step_onGrid : (step setting sense direction).Within (onGrid shape) := by
  refine fun s => ⟨fun hs => ?_, fun _ _ => trivial⟩
  have hready := (within_onGrid (compile_still setting sense (maxDepth + 1) s.condition) s).1 hs
  rcases hcompile : (compile setting sense (maxDepth + 1) s.condition).run s with
    ⟨e | c, ready⟩ <;> rw [hcompile] at hready
  · rw [step, Eval.run_bind_ok (Eval.run_get s), Eval.run_bind, hcompile]
    exact hready
  by_cases hplace : c.isPlace = true
  · cases c with
    | place line column =>
        obtain ⟨l, c, rfl, rfl⟩ := place_of_compile hcompile
        obtain ⟨memory, rfl⟩ : ∃ memory, ready = { s with memory } := by
          have hchange := (compile_recalling setting sense (maxDepth + 1) s.condition s).1
          rwa [hcompile] at hchange
        rw [step, Eval.run_bind_ok (Eval.run_get s), Eval.run_bind_ok hcompile]
        exact hready.moveTo (contains_place hready.inside l c)
    | _ => cases hplace
  · rw [step_eq_search setting sense direction hcompile (by simpa using hplace)]
    have hmove : ∀ t, (onGrid shape).change t
        { t with cursor := ready.grid.move direction t.cursor } := by
      intro t ht
      have hgrid : t.grid = ready.grid :=
        Table.grid_eq_of_shape (ht.shape.trans hready.shape.symm)
      refine ht.moveTo ?_
      rw [← hgrid]
      exact Grid.contains_move _ _ ht.inside
    have htest : c.holds.Within (onGrid shape) :=
      within_onGrid (holds_still_of hregistry hcompile)
    exact (search_within direction hmove htest _ ready).1 hready

theorem steps_onGrid (count : Nat) :
    (steps setting sense direction count).Within (onGrid shape) :=
  steps_within setting sense direction (step_onGrid hregistry sense direction) count

end Steps

/-! ## Calls -/

/-- What a session can be asked to do. -/
inductive Call where
  | next (count : Int) (condition direction : Value)
  | previous (count : Int) (condition direction : Value)
  | reset

/-- The session after a call, whatever its outcome. -/
def Call.perform (presets : Preset.Table) : Call → Session → Session
  | .next count condition direction, s => (Jump.next { presets } count condition direction s).2
  | .previous count condition direction, s =>
    (Jump.previous { presets } count condition direction s).2
  | .reset, s => s.reset

variable (presets : Preset.Table)

theorem transact_onGrid {test : Eval Session Bool} (htest : test.Within (onGrid shape))
    {s : Session} (hs : s.OnGrid shape) : (transact test s).2.OnGrid shape := by
  have hafter := (htest { s with running := true }).1 ⟨hs.shape, hs.inside⟩
  unfold transact
  rcases hrun : test.run { s with running := true } with ⟨e | found, after⟩ <;> rw [hrun] at hafter
  · exact ⟨hs.shape, hs.inside⟩
  · cases found
    · exact ⟨hs.shape, hs.inside⟩
    · exact ⟨hafter.shape, hafter.inside⟩

theorem next_onGrid (count : Int) (condition direction : Value) {s : Session}
    (hs : s.OnGrid shape) : (next { presets } count condition direction s).2.OnGrid shape := by
  unfold next
  split
  · exact hs
  split
  · exact hs
  next ready hready =>
    obtain ⟨c, d, -, -, rfl⟩ := configure_ok hready
    split
    · exact ⟨hs.shape, hs.inside⟩
    · exact transact_onGrid (steps_onGrid registry_still _ _ _) ⟨hs.shape, hs.inside⟩

theorem perform_atRest (call : Call) {s : Session} (hs : s.AtRest shape) :
    (call.perform presets s).AtRest shape := by
  cases call with
  | next count condition direction =>
      exact ⟨next_onGrid presets count condition direction hs.toOnGrid,
        next_rest { presets } count condition direction hs.rest⟩
  | previous count condition direction =>
      exact ⟨next_onGrid presets (-count) condition direction hs.toOnGrid,
        next_rest { presets } (-count) condition direction hs.rest⟩
  | reset => exact ⟨⟨hs.shape, hs.inside⟩, hs.rest⟩

theorem foldl_perform_atRest (calls : List Call) {s : Session} (hs : s.AtRest shape) :
    (calls.foldl (fun s call => call.perform presets s) s).AtRest shape := by
  induction calls generalizing s with
  | nil => exact hs
  | cons call calls ih => exact ih (perform_atRest presets call hs)

/-- After any calls, the cursor stands on a cell, the direction is one of the four, no jump is under
way, and the rows of the table are separators and rows of as many cells as at the start. -/
theorem calls_keep_session (calls : List Call) {s : Session} (hrest : s.running = false)
    (hcursor : s.grid.contains s.cursor = true) :
    let t := calls.foldl (fun s call => call.perform presets s) s
    t.grid.contains t.cursor = true ∧
      t.direction.name ∈ ["up", "down", "left", "right"] ∧
      t.running = false ∧ t.table.shape = s.table.shape := by
  intro t
  have ht : t.AtRest s.table.shape := foldl_perform_atRest presets calls ⟨⟨rfl, hcursor⟩, hrest⟩
  refine ⟨ht.inside, ?_, ht.rest, ht.shape⟩
  cases t.direction <;> simp [Direction.name]

/-- A flattening, a jump past the end of the table, a jump that fails and a reset. -/
theorem calls_keep_headed_table :
    let s : Session :=
      { table := ⟨[.data ["a", "b"], .separator, .data ["c", ""], .data ["", "d"]]⟩,
        cursor := ⟨2, 1⟩ }
    let calls : List Call :=
      [.next 1 (.tuple [.text "expr", .text "flatten(None)"]) (.text "down"),
        .next 1 (.tuple [.int 9, .int (-5)]) .none, .previous 2 (.text "z") .none, .reset]
    s.running = false ∧ s.grid.contains s.cursor = true ∧
      let t := calls.foldl (fun s call => call.perform Preset.builtin s) s
      t.grid.contains t.cursor = true ∧
        t.direction.name ∈ ["up", "down", "left", "right"] ∧ t.running = false ∧
        t.table.shape = [some 2, none, some 2, some 2] := by
  intro s calls
  have hcursor : s.grid.contains s.cursor = true := by decide
  exact ⟨rfl, hcursor, calls_keep_session Preset.builtin calls rfl hcursor⟩

end Jump

end PipeTable
