import Mathlib
import PipeTable.Proofs.Shape

/-! # Sweeps over the grid

A step tests its condition at one cell after the other.  Tests may have effects, so it matters where
and how often they run: each test runs in the session that the one before it left, at no cell twice,
and a step that fails has run it at all cells.
-/

namespace PipeTable

namespace Jump

open PipeTable.Expr (Bounds Eval Expression Term)

/-- A condition that is a place is not tested: a step goes straight there. -/
def Condition.isPlace : Condition → Bool
  | .place .. => true
  | _ => false

/-- The test leaves the cursor where it is. -/
def Stays (test : Eval Session Bool) : Prop := ∀ s, (test.run s).2.cursor = s.cursor

/-- A test runs at one cell after the other, each time in the session that it left before, until it
succeeds or ends in an error, or the cells are used up. -/
inductive Sweeps (test : Eval Session Bool) :
    List Cursor → Session → Except Error Bool → Session → Prop where
  | exhausted (s : Session) : Sweeps test [] s (.ok false) s
  | stops {cursor : Cursor} {s t : Session} {outcome : Except Error Bool}
      (hrun : test.run { s with cursor } = (outcome, t)) (hstop : outcome ≠ .ok false) :
      Sweeps test [cursor] s outcome t
  | passes {cursor : Cursor} {cursors : List Cursor} {s t u : Session}
      {outcome : Except Error Bool} (hrun : test.run { s with cursor } = (.ok false, t))
      (h : Sweeps test cursors t outcome u) : Sweeps test (cursor :: cursors) s outcome u

variable {test : Eval Session Bool}

/-- A test that records where it runs has recorded the cells of the sweep and no others. -/
theorem Sweeps.recorded {record : Session → List Cursor}
    (hrecord : ∀ s cursor, record (test.run { s with cursor }).2 = record s ++ [cursor])
    {cursors : List Cursor} {s t : Session} {outcome : Except Error Bool}
    (h : Sweeps test cursors s outcome t) : record t = record s ++ cursors := by
  induction h with
  | exhausted s => rw [List.append_nil]
  | @stops cursor s t outcome hrun hstop =>
      have hlast := hrecord s cursor
      rwa [hrun] at hlast
  | @passes cursor cursors s t u outcome hrun h ih =>
      have hfirst := hrecord s cursor
      rw [hrun] at hfirst
      rw [ih, hfirst, List.append_assoc, List.singleton_append]

/-! ## Searching -/

/-- A search sweeps over the cells that its moves lead to, all of them if it fails. -/
theorem search_sweeps (grid : Grid) (direction : Direction) (hstay : Stays test) (count : Nat)
    (s : Session) :
    ∃ visited outcome after, (search grid direction test count).run s = (outcome, after) ∧
      visited <+: List.iterate (grid.move direction) (grid.move direction s.cursor) count ∧
      Sweeps test visited s outcome after ∧
      (outcome = .ok false →
        visited = List.iterate (grid.move direction) (grid.move direction s.cursor) count) := by
  induction count generalizing s with
  | zero => exact ⟨[], .ok false, s, rfl, List.nil_prefix, .exhausted s, fun _ => rfl⟩
  | succ count ih =>
      rw [search, Eval.run_bind_ok (Eval.run_modify _ _), List.iterate]
      rcases hrun : test.run { s with cursor := grid.move direction s.cursor } with ⟨outcome, t⟩
      by_cases hstop : outcome = .ok false
      · -- the cells that follow are those of the search that goes on from here
        subst hstop
        have ht : t.cursor = grid.move direction s.cursor := by
          have := hstay { s with cursor := grid.move direction s.cursor }
          rwa [hrun] at this
        obtain ⟨visited, outcome, after, hsearch, hprefix, hsweep, hall⟩ := ih t
        rw [ht] at hprefix hall
        refine ⟨grid.move direction s.cursor :: visited, outcome, after, ?_, ?_, .passes hrun hsweep,
          fun hfail => by rw [hall hfail]⟩
        · rw [Eval.run_bind_ok hrun]
          exact hsearch
        · exact List.prefix_cons_inj _ |>.mpr hprefix
      · refine ⟨[grid.move direction s.cursor], outcome, t, ?_, ?_, .stops hrun hstop,
          fun hfail => absurd hfail hstop⟩
        · rw [Eval.run_bind, hrun]
          rcases outcome with e | found
          · rfl
          · cases found
            · exact absurd rfl hstop
            · rfl
        · exact List.prefix_cons_inj _ |>.mpr List.nil_prefix

/-! ## Steps -/

/-- Changes of the memory alone. -/
def recalling : Bounds Session where
  change s t := ∃ memory, t = { s with memory }
  failure _ := True
  refl s := ⟨s.memory, rfl⟩
  trans := by
    rintro s _ _ ⟨_, rfl⟩ ⟨memory, rfl⟩
    exact ⟨memory, rfl⟩
  own _ := trivial

variable (setting : Setting) (sense : Sense) (direction : Direction)

theorem takeTurn_recalling (sequence : Value) (parts : List Value) :
    (takeTurn sense sequence parts).Within recalling :=
  takeTurn_within (b := recalling) sense (fun _ _ _ => ⟨_, rfl⟩) sequence parts

/-- A sequence is compiled as the part whose turn it is. -/
theorem compile_turns {room : Nat} {v part : Value} {parts : List Value} {s t : Session}
    (hshape : shape? v.normalize = some (.turns parts))
    (hturn : (takeTurn sense v.normalize parts).run s = (.ok part, t)) :
    (compile setting sense (room + 1) v).run s = (compile setting sense room part).run t := by
  simp only [compile, hshape]
  exact Eval.run_bind_ok hturn

theorem compile_recalling (room : Nat) (v : Value) :
    (compile setting sense room v).Within recalling :=
  compile_within (b := recalling) setting sense (fun _ _ _ => ⟨_, rfl⟩) room v

variable {s ready : Session} {c : Condition}

/-- A step whose condition is no place searches the grid for a cell where it holds. -/
theorem step_eq_search
    (hcompile : (compile setting sense (maxDepth + 1) s.condition).run s = (.ok c, ready))
    (hplace : c.isPlace = false) :
    (step setting sense direction).run s =
      (search ready.grid direction c.holds ready.grid.size).run ready := by
  rw [step, Eval.run_bind_ok (Eval.run_get s), Eval.run_bind_ok hcompile]
  cases c with
  | place line column => cases hplace
  | pattern p lines columns => rfl
  | all conditions => rfl
  | any conditions => rfl
  | not condition => rfl
  | expression e => rfl

/-- A step tests its condition at successive cells of the circuit from the cursor, which passes
through every cell of the grid once and comes to the cursor's own cell last.  Each test runs in the
session that the one before it left, the step stops at the first that succeeds or ends in an error,
and it fails only after a test at every cell. -/
theorem step_sweeps_circuit (hcursor : s.table.grid.contains s.cursor = true)
    (hcompile : (compile setting sense (maxDepth + 1) s.condition).run s = (.ok c, ready))
    (hplace : c.isPlace = false) (hstay : Stays c.holds) :
    let circuit := s.table.grid.circuit direction s.cursor
    (circuit.Nodup ∧ circuit.length = s.table.height * s.table.columnCount ∧
      circuit.getLast? = some s.cursor ∧
      ∀ place, place ∈ circuit ↔ s.table.grid.contains place = true) ∧
    (∃ memory, ready = { s with memory }) ∧
    ∃ visited outcome after, (step setting sense direction).run s = (outcome, after) ∧
      visited <+: circuit ∧ Sweeps c.holds visited ready outcome after ∧
      (outcome = .ok false → visited = circuit) := by
  intro circuit
  have hready : ∃ memory, ready = { s with memory } := by
    have hchange := (compile_recalling setting sense (maxDepth + 1) s.condition s).1
    rwa [hcompile] at hchange
  refine ⟨⟨Grid.nodup_circuit _ _ _, Grid.length_circuit _ _ _, Grid.getLast?_circuit _ _ hcursor,
    Grid.mem_circuit _ _ _⟩, hready, ?_⟩
  rw [step_eq_search setting sense direction hcompile hplace]
  obtain ⟨memory, rfl⟩ := hready
  have hsweep := search_sweeps s.table.grid direction hstay s.table.grid.size { s with memory }
  rwa [Grid.iterate_eq_circuit _ _ hcursor] at hsweep

/-- An expression that overwrites each cell it is tested at and never holds. -/
theorem step_sweeps_square :
    let s : Session :=
      { table := Table.ofCells [["a", "b"], ["c", "d"]], cursor := ⟨1, 2⟩,
        condition := .tuple [.text "expr", .text "not setfield('x')"] }
    ∃ c ready, s.table.grid.contains s.cursor = true ∧
      (compile {} .onward (maxDepth + 1) s.condition).run s = (.ok c, ready) ∧
      c.isPlace = false ∧ Stays c.holds ∧
      ∃ after, (step {} .onward .down).run s = (.ok false, after) ∧
        Sweeps c.holds [⟨2, 2⟩, ⟨1, 1⟩, ⟨2, 1⟩, ⟨1, 2⟩] ready (.ok false) after ∧
        after.table = Table.ofCells [["x", "x"], ["x", "x"]] := by
  intro s
  let e : Expression Session := ⟨"not setfield('x')", Jump.registry,
    .not (.call "setfield" [.constant (.text "x")])⟩
  have hread : Term.read? (Text.unifyNewlinesChars (Text.stripChars "not setfield('x')".toList)) =
      some (.unary .not (.call (.name "setfield") [.constant (.text "x")] false)) := by cbv
  have hexpression : Expression.compile "not setfield('x')" Jump.registry = .ok e := by
    simp only [Expression.compile, hread]
    rfl
  have hvalue : compileExpression {} (.text "not setfield('x')") = .ok (.expression e) := by
    rw [compileExpression, Expression.ofValue, hexpression]
    rfl
  have hcompile : (compile {} .onward (maxDepth + 1) s.condition).run s =
      (.ok (.expression e), s) := by
    rw [compile]
    change (ofOutcome (compileExpression {} (.text "not setfield('x')"))).run s = _
    rw [hvalue]
    rfl
  have hstay : Stays (Condition.expression e).holds :=
    fun t => (holds_still Preset.builtin .onward hcompile t).1.1
  have hcursor : s.table.grid.contains s.cursor = true := by decide
  have hcircuit : s.table.grid.circuit .down s.cursor = [⟨2, 2⟩, ⟨1, 1⟩, ⟨2, 1⟩, ⟨1, 2⟩] := by
    decide
  obtain ⟨-, -, visited, outcome, after, hstep, -, hsweep, hall⟩ :=
    step_sweeps_circuit {} .onward .down hcursor hcompile rfl hstay
  have hresult : (((step {} .onward .down).run s).1.toOption,
      ((step {} .onward .down).run s).2.table) =
        (some false, Table.ofCells [["x", "x"], ["x", "x"]]) := by
    rw [step_eq_search {} .onward .down hcompile rfl]
    rfl
  rw [hstep] at hresult
  obtain ⟨hfail, hafter⟩ := Prod.mk.inj hresult
  obtain rfl : outcome = .ok false := by
    cases outcome with
    | error e => cases hfail
    | ok found => rw [Option.some.inj hfail]
  rw [hall rfl, hcircuit] at hsweep
  exact ⟨_, _, hcursor, hcompile, rfl, hstay, after, hstep, hsweep, hafter⟩

end Jump

end PipeTable
