import Mathlib
import PipeTable.Proofs.Meaning
import PipeTable.Proofs.Stages

/-! # There and back

Moving in the opposite direction meets the same cells in reverse order.  If a condition holds at a
cell, then the last cell at which it held before the next one is this cell itself, so that a jump
back takes the steps of a jump onward away again, one after the other, however often these went
around the grid.
-/

namespace PipeTable

namespace Grid

variable (g : Grid) (d : Direction) {c : Cursor} (hc : g.contains c = true)
include hc

theorem contains_iterate_move (n : Nat) : g.contains ((g.move d)^[n] c) = true := by
  induction n with
  | zero => exact hc
  | succ n ih =>
      rw [Function.iterate_succ_apply']
      exact g.contains_move d ih

theorem iterate_move_opposite (k n : Nat) :
    (g.move d.opposite)^[k] ((g.move d)^[k + n] c) = (g.move d)^[n] c := by
  induction k with
  | zero => rw [Nat.zero_add, Function.iterate_zero, id]
  | succ k ih =>
      rw [Function.iterate_succ_apply, Nat.add_right_comm, Function.iterate_succ_apply',
        g.move_opposite d (g.contains_iterate_move d hc _), ih]

theorem find?_circuit_eq_some_iff {holds : Cursor → Bool} {place : Cursor} :
    (g.circuit d c).find? holds = some place ↔
      holds place = true ∧ ∃ n < g.size, (g.move d)^[n + 1] c = place ∧
        ∀ k < n, holds ((g.move d)^[k + 1] c) = false := by
  rw [← g.iterate_eq_circuit d hc, List.find?_eq_some_iff_getElem]
  simp only [List.getElem_iterate, List.length_iterate, Bool.not_eq_true',
    Function.iterate_succ_apply, exists_prop]

/-- Where a condition holds, the next cell at which it holds leads back to this cell. -/
theorem find?_circuit_back (holds : Cursor → Bool) (hhere : holds c = true) :
    ∃ place, (g.circuit d c).find? holds = some place ∧
      (g.circuit d.opposite place).find? holds = some c := by
  -- the circuit ends with the cell that it starts from, so that there is a next one
  obtain ⟨place, hnext⟩ : ∃ place, (g.circuit d c).find? holds = some place := by
    rw [← Option.isSome_iff_exists, List.find?_isSome]
    exact ⟨c, (g.mem_circuit d c c).mpr hc, hhere⟩
  obtain ⟨-, n, hn, rfl, hbetween⟩ := (g.find?_circuit_eq_some_iff d hc).mp hnext
  refine ⟨_, hnext, ?_⟩
  apply (g.find?_circuit_eq_some_iff d.opposite (g.contains_iterate_move d hc _)).mpr
  refine ⟨hhere, n, hn, g.iterate_move_opposite d hc (n + 1) 0, ?_⟩
  intro k hk
  -- the moves back lead through the cells in between only
  have hsplit : n + 1 = (k + 1) + (n - 1 - k + 1) := by omega
  rw [hsplit, g.iterate_move_opposite d hc]
  exact hbetween _ (by omega)

end Grid

namespace Jump

open PipeTable.Expr (Eval)

section Steps

variable {setting : Setting} {s : Session} {condition : Value} {q : Query}

theorem steps_there_and_back (hrect : s.table.Rectangular)
    (hcursor : s.table.grid.contains s.cursor = true)
    (hcondition : s.condition = condition.normalize)
    (hreads : Reads setting.presets (maxDepth + 1) condition q) (hplace : q.isPlace = false)
    (hhere : q.holdsAt s.table s.cursor = true) (direction : Direction) (count : Nat) :
    ∃ place, s.table.grid.contains place = true ∧ q.holdsAt s.table place = true ∧
      (steps setting .onward direction count).run s = (.ok true, { s with cursor := place }) ∧
      (steps setting .back direction.opposite count).run { s with cursor := place } =
        (.ok true, s) := by
  induction count with
  | zero => exact ⟨s.cursor, hcursor, hhere, rfl, rfl⟩
  | succ count ih =>
      obtain ⟨place, hinside, hholds, honward, hback⟩ := ih
      obtain ⟨next, hnext, hreturn⟩ :=
        s.table.grid.find?_circuit_back direction hinside (q.holdsAt s.table) hholds
      have hstep := step_of_reads setting .onward direction (s := { s with cursor := place })
        hrect hinside hcondition hreads hplace
      rw [hnext] at hstep
      have hfound := List.find?_some hnext
      have hnextInside := (Grid.mem_circuit _ _ _ _).mp (List.mem_of_find?_eq_some hnext)
      have hstepBack := step_of_reads setting .back direction.opposite
        (s := { s with cursor := next }) hrect hnextInside hcondition hreads hplace
      rw [hreturn] at hstepBack
      refine ⟨next, hnextInside, hfound, ?_, ?_⟩
      · apply (steps_add_eq_true setting .onward direction count 1 _ _).mpr
        exact ⟨_, honward, by rw [steps_one, hstep]⟩
      · apply (steps_succ_eq_true setting .back direction.opposite count _ _).mpr
        exact ⟨_, hstepBack, hback⟩

/-! ## Jumps -/

theorem stepsBy_neg {setting : Setting} {direction : Direction} (count : Nat) {s t : Session}
    (h : (steps setting .back direction.opposite count).run s = (.ok true, t)) :
    (stepsBy setting direction (-count)).run s = (.ok true, t) := by
  cases count with
  | zero => exact h
  | succ count =>
      have hneg : ¬ 0 ≤ (-((count + 1 : Nat) : Int)) := by omega
      rw [stepsBy, if_neg hneg, if_neg hneg, Int.natAbs_neg, Int.natAbs_natCast]
      exact h

/-- A condition and a direction are given or remembered. -/
theorem configure_to {direction : Direction} {given way : Value}
    (hnone : condition.isNone = false)
    (hgiven : given = condition ∨ given = .none ∧ s.condition = condition.normalize)
    (hway : way = .text direction.name ∨ way = .none ∧ s.direction = direction) :
    configure s given way = .ok { s with condition := condition.normalize, direction } := by
  have hcondition : (if given.isNone then s.condition else given.normalize) =
      condition.normalize := by
    rcases hgiven with rfl | ⟨rfl, hgiven⟩
    · rw [hnone, if_neg Bool.false_ne_true]
    · exact hgiven
  rcases hway with rfl | ⟨rfl, rfl⟩
  · simp only [configure, ofValue_name, hcondition]
    rfl
  · simp only [configure, hcondition]
    rfl

/-- The sense in which the steps of a jump are taken. -/
def senseOf (count : Int) : Sense := if 0 ≤ count then .onward else .back

/-- The direction in which the steps of a jump go. -/
def headingOf (count : Int) (direction : Direction) : Direction :=
  if 0 ≤ count then direction else direction.opposite

theorem transact_fst (test : Eval Session Bool) (s : Session) :
    (transact test s).1 = (test.run { s with running := true }).1 := by
  unfold transact
  split <;> next h => rw [h]

/-- A jump from a cell of the table runs its steps as a transaction, with the condition in its
normal form. -/
theorem next_eq_transact_to (setting : Setting) (count : Int) (hrest : s.running = false)
    (hcursor : s.table.grid.contains s.cursor = true) (hnone : condition.isNone = false)
    {direction : Direction} {given way : Value}
    (hgiven : given = condition ∨ given = .none ∧ s.condition = condition.normalize)
    (hway : way = .text direction.name ∨ way = .none ∧ s.direction = direction) :
    next setting count given way s =
      transact (steps setting (senseOf count) (headingOf count direction) count.natAbs)
        { s with condition := condition.normalize, direction } := by
  have hnormal : condition.normalize.isNone = false := by
    rw [Value.isNone_normalize, hnone]
  have hsize : s.grid.size ≠ 0 := by
    obtain ⟨i, hi, -⟩ := Grid.exists_nthCell _ direction hcursor
    exact Nat.ne_zero_of_lt hi
  have hstart := (checkStart_eq_ok
    (s := { s with condition := condition.normalize, direction })).mpr ⟨hnormal, hsize, hcursor⟩
  unfold next
  rw [if_neg (by simp [hrest]), configure_to hnone hgiven hway]
  simp only [hstart]
  rfl

/-- A jump of any number of steps from a cell where its condition holds succeeds, and a jump of as
many steps back leads to this cell again.  The condition and the direction are given or remembered
at the first jump, and the same or none at the second. -/
theorem previous_undoes_next (hrest : s.running = false) (hrect : s.table.Rectangular)
    (hcursor : s.table.grid.contains s.cursor = true) {direction : Direction}
    (hreads : Reads setting.presets (maxDepth + 1) condition q) (hplace : q.isPlace = false)
    (hhere : q.holdsAt s.table s.cursor = true) {given way again back : Value}
    (hgiven : given = condition ∨ given = .none ∧ s.condition = condition.normalize)
    (hway : way = .text direction.name ∨ way = .none ∧ s.direction = direction)
    (hagain : again = condition ∨ again = .none)
    (hback : back = .text direction.name ∨ back = .none) (count : Nat) :
    ∃ place, q.holdsAt s.table place = true ∧
      next setting count given way s =
        (.ok true, { s with condition := condition.normalize, direction, cursor := place }) ∧
      previous setting count again back
          { s with condition := condition.normalize, direction, cursor := place } =
        (.ok true, { s with condition := condition.normalize, direction }) := by
  obtain ⟨place, hinside, hholds, honward, hreturn⟩ := steps_there_and_back
    (s := { s with condition := condition.normalize, direction, running := true })
    hrect hcursor rfl hreads hplace hhere direction count
  have hnone := hreads.isNone_eq_false
  have hnormal : condition.normalize.isNone = false := by
    rw [Value.isNone_normalize, hnone]
  have hsize : s.grid.size ≠ 0 := by
    obtain ⟨i, hi, -⟩ := Grid.exists_nthCell _ direction hcursor
    exact Nat.ne_zero_of_lt hi
  refine ⟨place, hholds, next_eq_true.mpr ?_, next_eq_true.mpr ?_⟩
  · exact ⟨hrest, _, configure_to hnone hgiven hway,
      checkStart_eq_ok.mpr ⟨hnormal, hsize, hcursor⟩, _, honward, by rw [← hrest]⟩
  · have hready := configure_to hnone
      (s := { s with condition := condition.normalize, direction, cursor := place })
      (hagain.imp_right fun hagain => ⟨hagain, rfl⟩) (hback.imp_right fun hback => ⟨hback, rfl⟩)
    exact ⟨hrest, _, hready, checkStart_eq_ok.mpr ⟨hnormal, hsize, hinside⟩, _,
      stepsBy_neg count hreturn, by rw [← hrest]⟩

/-- Three of the cells are filled, and seven steps pass by each of them more than once. -/
theorem previous_undoes_next_around :
    let s : Session :=
      { table := ⟨[.data ["a", "", "c"], .separator, .data ["", "", "f"]]⟩, cursor := ⟨1, 3⟩ }
    let condition : Value := .tuple [.text "or", .text "nonempty", .tuple [.int 1, .int 1]]
    let t : Session := { s with condition := condition.normalize, direction := .up }
    (s.running = false ∧ s.table.Rectangular ∧ s.table.grid.contains s.cursor = true ∧
      ∃ q, Reads Preset.builtin (maxDepth + 1) condition q ∧ q.isPlace = false ∧
        q.holdsAt s.table s.cursor = true) ∧
      ∃ place, next {} 7 condition (.text Direction.up.name) s =
          (.ok true, { t with cursor := place }) ∧
        previous {} 7 .none .none { t with cursor := place } = (.ok true, t) := by
  intro s condition t
  have hstill : s.running = false := rfl
  have hrect : s.table.Rectangular := by decide
  have hcursor : s.table.grid.contains s.cursor = true := by decide
  let filled : Query := .occurs ⟨.sequence [.oneOf false [.category .blank true]], {}⟩ 0 0
  let q : Query := .any [filled, .standsAt (some 1) (some 1)]
  have hfilled : Reads Preset.builtin maxDepth (.text "nonempty") filled :=
    .preset (by cbv) (.pattern (by cbv) (by cbv))
  have hreads : Reads (Setting.presets {}) (maxDepth + 1) condition q :=
    .any rfl (.cons hfilled (.cons (.place rfl rfl rfl) .nil))
  have hhere : q.holdsAt s.table s.cursor = true := by decide +kernel
  obtain ⟨place, -, hnext, hprevious⟩ := previous_undoes_next hstill hrect hcursor hreads rfl hhere
    (.inl rfl) (.inl rfl) (.inr rfl) (.inr rfl) 7
  exact ⟨⟨hstill, hrect, hcursor, q, hreads, rfl, hhere⟩, place, hnext, hprevious⟩

end Steps

end Jump

end PipeTable
