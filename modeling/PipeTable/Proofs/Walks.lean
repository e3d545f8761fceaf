import Mathlib
import PipeTable.Proofs.Return
import PipeTable.Proofs.Sweep

/-! # Walks of a test without effects

A condition that compiles the same at every cursor, and whose test only tells whether a predicate
holds there, makes a jump a walk: each step goes to the first cell of the circuit where the
predicate holds.  Conditions that test the same predicate lead a jump through the same cells.
-/

namespace PipeTable

/-- Where a number of steps leads that each go to the next cell of the circuit with a property, and
whether every step finds one. -/
def Grid.walk (g : Grid) (d : Direction) (holds : Cursor → Bool) : Nat → Cursor → Bool × Cursor
  | 0, c => (true, c)
  | count + 1, c =>
    match (g.circuit d c).find? holds with
    | some place => g.walk d holds count place
    | none => (false, c)

namespace Jump

open PipeTable.Expr (Eval)

variable {setting : Setting} {sense : Sense} {direction : Direction} {s : Session}
  {c : Condition} {holds : Cursor → Bool}

/-- A condition that is no place and tests a predicate wherever the cursor stands. -/
structure Tests (setting : Setting) (sense : Sense) (s : Session) (c : Condition)
    (holds : Cursor → Bool) : Prop where
  compiles : ∀ cursor, (compile setting sense (maxDepth + 1) s.condition).run { s with cursor } =
    (.ok c, { s with cursor })
  isPlace : c.isPlace = false
  tells : ∀ cursor, c.holds.run { s with cursor } = (.ok (holds cursor), { s with cursor })

/-- A condition that compiles to the test for a query other than a place tests the query. -/
theorem Tests.of_query {condition : Value} {q : Query} (hrect : s.table.Rectangular)
    (hplace : (q.compiled s.grid).isPlace = false)
    (hcompile : ∀ t, (compile setting sense (maxDepth + 1) condition).run t =
      (.ok (q.compiled t.grid), t)) :
    Tests setting sense { s with condition := condition.normalize, direction, running := true }
      (q.compiled s.grid) (q.holdsAt s.table) := by
  refine ⟨fun cursor => ?_, hplace, fun cursor => ?_⟩
  · rw [compile_normalize]
    exact hcompile _
  · exact Query.holds_compiled (s := { s with
      condition := condition.normalize, direction, running := true, cursor }) hrect q

variable (direction) in
/-- A step goes to the first cell of the circuit from the cursor where the predicate holds. -/
theorem Tests.run_step (h : Tests setting sense s c holds) {cursor : Cursor}
    (hcursor : s.table.grid.contains cursor = true) :
    (step setting sense direction).run { s with cursor } =
      match (s.table.grid.circuit direction cursor).find? holds with
      | some place => (.ok true, { s with cursor := place })
      | none => (.ok false, { s with cursor }) := by
  rw [step_eq_search setting sense direction (h.compiles cursor) h.isPlace]
  exact search_find direction h.tells hcursor

variable (direction) in
theorem Tests.run_steps (h : Tests setting sense s c holds) (count : Nat) {cursor : Cursor}
    (hcursor : s.table.grid.contains cursor = true) :
    (steps setting sense direction count).run { s with cursor } =
      (.ok (s.table.grid.walk direction holds count cursor).1,
        { s with cursor := (s.table.grid.walk direction holds count cursor).2 }) := by
  induction count generalizing cursor with
  | zero => rfl
  | succ count ih =>
      have hstep := h.run_step direction hcursor
      rw [steps, Grid.walk]
      cases hfind : (s.table.grid.circuit direction cursor).find? holds with
      | none =>
          rw [hfind] at hstep
          rw [Eval.run_bind_ok hstep]
          rfl
      | some place =>
          rw [hfind] at hstep
          rw [Eval.run_bind_ok hstep]
          exact ih ((Grid.mem_circuit _ _ _ _).mp (List.mem_of_find?_eq_some hfind))

/-- A jump from a cell of the table walks, and stays where it was unless every step finds a cell. -/
theorem Tests.next_eq {count : Int} {condition way : Value} (hrest : s.running = false)
    (hcursor : s.table.grid.contains s.cursor = true) (hnone : condition.isNone = false)
    (hway : way = .text direction.name ∨ way = .none ∧ s.direction = direction)
    (h : Tests setting (senseOf count)
      { s with condition := condition.normalize, direction, running := true } c holds) :
    let walked := s.table.grid.walk (headingOf count direction) holds count.natAbs s.cursor
    next setting count condition way s =
      (.ok walked.1, { s with
        condition := condition.normalize, direction
        cursor := if walked.1 then walked.2 else s.cursor
        reports := if walked.1 then s.reports else s.reports ++ [noMatch] }) := by
  intro walked
  have hsteps : (steps setting (senseOf count) (headingOf count direction) count.natAbs).run
      { s with condition := condition.normalize, direction, running := true } =
        (.ok walked.1, { s with
          condition := condition.normalize, direction, running := true, cursor := walked.2 }) :=
    h.run_steps (headingOf count direction) count.natAbs hcursor
  rw [next_eq_transact_to setting count hrest hcursor hnone (.inl rfl) hway]
  unfold transact
  dsimp only
  rw [hsteps]
  clear_value walked
  obtain ⟨found, place⟩ := walked
  cases found <;> simp [hrest, restore]

end Jump

end PipeTable
