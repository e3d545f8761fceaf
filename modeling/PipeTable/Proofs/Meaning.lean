import Mathlib
import PipeTable.Jump.Traversal
import PipeTable.Proofs.Cells
import PipeTable.Proofs.Effects

/-! # The meaning of conditions

Conditions without effects ask something of a cell: that a pattern occurs near it, that it stands at
a place, or a combination of such questions.  Compiling a value that reads as a query gives a test
for this query, and a step stops at the first cell of the circuit from the cursor where the query
holds.
-/

namespace PipeTable

/-! ## Fields -/

namespace Session

@[simp]
theorem grid_eq (s : Session) : s.grid = s.table.grid := rfl

/-- On a rectangular table the field at an offset is the content of the cell there. -/
theorem field_eq {s : Session} (hrect : s.table.Rectangular) (lines columns : Int) :
    s.field lines columns =
      .ok (s.table.content? ⟨s.cursor.line + lines, s.cursor.column + columns⟩) := by
  simp only [field, offset?, grid_eq]
  cases hcontent : s.table.content? ⟨s.cursor.line + lines, s.cursor.column + columns⟩ with
  | none =>
      rw [Table.content?_eq_none_iff hrect] at hcontent
      simp [hcontent]
  | some content =>
      have hinside : s.table.grid.contains
          ⟨s.cursor.line + lines, s.cursor.column + columns⟩ = true := by
        by_contra hinside
        rw [Bool.not_eq_true, ← Table.content?_eq_none_iff hrect, hcontent] at hinside
        cases hinside
      have hcell := Table.cell_of_content? hcontent
      simp only [hinside, if_true]
      rw [hcell]
      rfl

end Session

namespace Jump

open PipeTable.Expr (Eval)

/-! ## Queries -/

/-- What a condition without effects asks of a cell. -/
inductive Query where
  /-- A pattern occurs in the stripped cell at an offset. -/
  | occurs (p : Pattern.Compiled) (lines columns : Int)
  /-- The cell stands on a line and in a column, where they are given. -/
  | standsAt (line column : Option Int)
  | all (queries : List Query)
  | any (queries : List Query)
  | not (query : Query)

mutual

/-- Whether a query holds at a cell of a table.  A pattern does not occur outside the table, and
lines and columns are counted as selectors count them. -/
def Query.holdsAt (t : Table) (here : Cursor) : Query → Bool
  | .occurs p lines columns =>
    (t.content? ⟨here.line + lines, here.column + columns⟩).any fun content =>
      p.search (Text.strip content)
  | .standsAt line column =>
    (line.all fun n => Selection.resolveIndex n t.height = here.line) &&
      column.all fun n => Selection.resolveIndex n t.columnCount = here.column
  | .all queries => allHoldAt t here queries
  | .any queries => anyHoldsAt t here queries
  | .not query => !query.holdsAt t here

/-- Whether all queries hold at a cell. -/
def allHoldAt (t : Table) (here : Cursor) : List Query → Bool
  | [] => true
  | q :: qs => q.holdsAt t here && allHoldAt t here qs

/-- Whether any query holds at a cell. -/
def anyHoldsAt (t : Table) (here : Cursor) : List Query → Bool
  | [] => false
  | q :: qs => q.holdsAt t here || anyHoldsAt t here qs

end

/-- Whether the query asks for a place and nothing else, which makes it a direct jump. -/
def Query.isPlace : Query → Bool
  | .standsAt .. => true
  | _ => false

/-! ## Reading -/

end Jump

/-- The parts of a value that is written as a list or as a tuple. -/
def Value.parts? : Value → Option (List Value)
  | .list parts => some parts
  | .tuple parts => some parts
  | _ => Option.none

namespace Jump

mutual

/-- A value means a query, its presets unfolded and its connectives nested on no more than a number
of levels. -/
inductive Reads (presets : Preset.Table) : Nat → Value → Query → Prop where
  | preset {levels : Nat} {name : String} {condition : Value} {q : Query}
      (hname : presets.find? name = some condition) (h : Reads presets levels condition q) :
      Reads presets (levels + 1) (.text name) q
  | pattern {levels : Nat} {text : String} {p : Pattern.Compiled}
      (hname : presets.find? text = none) (hp : Pattern.Compiled.ofText text = .ok p) :
      Reads presets (levels + 1) (.text text) (.occurs p 0 0)
  | offset {levels : Nat} {v : Value} {text : String} {lines columns : Int} {p : Pattern.Compiled}
      (hparts : v.parts? = some [.text text, .int lines, .int columns])
      (hp : Pattern.Compiled.ofText text = .ok p) :
      Reads presets (levels + 1) v (.occurs p lines columns)
  | place {levels : Nat} {v line column : Value} {l c : Option Int}
      (hparts : v.parts? = some [line, column]) (hline : coordinate? line = some l)
      (hcolumn : coordinate? column = some c) : Reads presets (levels + 1) v (.standsAt l c)
  | all {levels : Nat} {v part : Value} {parts : List Value} {qs : List Query}
      (hparts : v.parts? = some (.text "and" :: part :: parts))
      (h : ReadsAll presets levels (part :: parts) qs) : Reads presets (levels + 1) v (.all qs)
  | any {levels : Nat} {v part : Value} {parts : List Value} {qs : List Query}
      (hparts : v.parts? = some (.text "or" :: part :: parts))
      (h : ReadsAll presets levels (part :: parts) qs) : Reads presets (levels + 1) v (.any qs)
  | not {levels : Nat} {v part : Value} {q : Query}
      (hparts : v.parts? = some [.text "not", part]) (h : Reads presets levels part q) :
      Reads presets (levels + 1) v (.not q)

/-- Values mean queries one by one. -/
inductive ReadsAll (presets : Preset.Table) : Nat → List Value → List Query → Prop where
  | nil {levels : Nat} : ReadsAll presets levels [] []
  | cons {levels : Nat} {v : Value} {vs : List Value} {q : Query} {qs : List Query}
      (h : Reads presets levels v q) (hs : ReadsAll presets levels vs qs) :
      ReadsAll presets levels (v :: vs) (q :: qs)

end

/-! ## Compiling -/

end Jump

namespace Value

theorem normalizeItems_eq_map (vs : List Value) :
    normalize.normalizeItems vs = vs.map normalize := by
  induction vs with
  | nil => rfl
  | cons v vs ih => rw [normalize.normalizeItems, ih, List.map_cons]

mutual

/-- A value in normal form is its own normal form. -/
theorem normalize_idem : (v : Value) → v.normalize.normalize = v.normalize
  | .list items => congrArg Value.tuple (normalizeItems_idem items)
  | .tuple items => congrArg Value.tuple (normalizeItems_idem items)
  | .none | .bool _ | .int _ | .float _ | .complex .. | .text _ | .bytes _ | .ellipsis | .set _
  | .dict _ | .slice .. | .expression .. => rfl

theorem normalizeItems_idem : (vs : List Value) →
    normalize.normalizeItems (normalize.normalizeItems vs) = normalize.normalizeItems vs
  | [] => rfl
  | v :: vs => congrArg₂ List.cons (normalize_idem v) (normalizeItems_idem vs)

end

theorem normalize_of_parts? {v : Value} {parts : List Value} (h : v.parts? = some parts) :
    v.normalize = .tuple (parts.map normalize) := by
  unfold parts? at h
  split at h <;> cases h <;> rw [normalize, normalizeItems_eq_map]

theorem isNone_normalize (v : Value) : v.normalize.isNone = v.isNone := by
  cases v <;> rfl

theorem isNone_of_parts? {v : Value} {parts : List Value} (h : v.parts? = some parts) :
    v.isNone = false := by
  unfold parts? at h
  split at h <;> cases h <;> rfl

end Value

namespace Jump

open PipeTable.Expr (Eval)

mutual

/-- The test for a query on a grid. -/
def Query.compiled (g : Grid) : Query → Condition
  | .occurs p lines columns => .pattern p lines columns
  | .standsAt line column => placeOn g line column
  | .all queries => .all (compiledAll g queries)
  | .any queries => .any (compiledAll g queries)
  | .not query => .not (query.compiled g)

/-- The tests for several queries. -/
def compiledAll (g : Grid) : List Query → List Condition
  | [] => []
  | q :: qs => q.compiled g :: compiledAll g qs

end

variable {setting : Setting} {sense : Sense}

/-- A condition is compiled in its normal form. -/
theorem compile_normalize (levels : Nat) (v : Value) :
    compile setting sense (levels + 1) v.normalize = compile setting sense (levels + 1) v := by
  rw [compile, compile, v.normalize_idem]

theorem patternAt_ok {text : String} {p : Pattern.Compiled}
    (hp : Pattern.Compiled.ofText text = .ok p) (lines columns : Int) :
    patternAt text lines columns = .ok (.pattern p lines columns) := by
  rw [patternAt, hp]

/-- A value that means something is no number. -/
theorem Reads.ne_int {presets : Preset.Table} {levels : Nat} {n : Int} {q : Query}
    (h : Reads presets levels (.int n) q) : False := by
  cases h <;> simp_all [Value.parts?]

theorem Reads.pos {presets : Preset.Table} {levels : Nat} {v : Value} {q : Query}
    (h : Reads presets levels v q) : ∃ below, levels = below + 1 := by
  cases h <;> exact ⟨_, rfl⟩

theorem coordinate?_normalize {v : Value} {n : Option Int} (h : coordinate? v = some n) :
    v.normalize = v := by
  unfold coordinate? at h
  split at h
  · rfl
  · rfl
  · cases h

theorem shape?_place {line column : Value} {l c : Option Int} (hline : coordinate? line = some l)
    (hcolumn : coordinate? column = some c) :
    shape? (.tuple [line, column]) = some (.place l c) := by
  cases line <;> simp only [coordinate?, Option.some.injEq, reduceCtorEq] at hline <;>
    cases column <;> simp only [coordinate?, Option.some.injEq, reduceCtorEq] at hcolumn <;>
    subst hline hcolumn <;> rfl

theorem shape?_offset {v : Value} {text : String} {lines columns : Int}
    (hparts : v.parts? = some [.text text, .int lines, .int columns]) :
    shape? v.normalize = some (.pattern text lines columns) := by
  rw [Value.normalize_of_parts? hparts]
  rfl

theorem shape?_of_word {head : String} {parts : List Value}
    (hint : ∀ lines columns, parts ≠ [.int lines, .int columns]) :
    shape? (.tuple (.text head :: parts)) = wordShape? head parts := by
  unfold shape?
  split <;> simp_all
  next htext heq => exact (htext _ _ heq.symm).elim

theorem shape?_connective (c : Connective) {parts : List Value}
    (hint : ∀ lines columns, parts ≠ [.int lines, .int columns]) :
    shape? (.tuple (.text c.name :: parts)) = some (.connective c parts) := by
  rw [shape?_of_word hint]
  cases c <;> rfl

/-- Values that mean something are not the offset of a pattern. -/
theorem ReadsAll.ne_offset {presets : Preset.Table} {levels : Nat} {vs : List Value}
    {qs : List Query} (h : ReadsAll presets levels vs qs) (lines columns : Int) :
    vs.map Value.normalize ≠ [.int lines, .int columns] := by
  intro heq
  cases h with
  | nil => cases heq
  | @cons _ v _ _ _ h _ =>
      have hv : v.normalize = .int lines := (List.cons.inj heq).1
      cases v <;> simp only [Value.normalize, reduceCtorEq] at hv
      exact h.ne_int

theorem compile_connective {s : Session} {levels : Nat} {v : Value} {c : Connective}
    {parts : List Value} {compiled : List Condition} {condition : Condition}
    (hparts : v.parts? = some (.text c.name :: parts))
    (hne : ∀ lines columns, parts.map Value.normalize ≠ [.int lines, .int columns])
    (hall : (compileAll setting sense levels (parts.map Value.normalize)).run s = (.ok compiled, s))
    (hconnect : connect c v.normalize compiled = .ok condition) :
    (compile setting sense (levels + 1) v).run s = (.ok condition, s) := by
  have hnormal := Value.normalize_of_parts? hparts
  rw [List.map_cons, show (Value.text c.name).normalize = .text c.name from rfl] at hnormal
  have hshape := shape?_connective c hne
  rw [← hnormal] at hshape
  simp only [compile, hshape]
  rw [Eval.run_bind_ok hall, hconnect]
  rfl

theorem compileAll_nil {s : Session} (levels : Nat) :
    (compileAll setting sense levels []).run s = (.ok [], s) := by
  rw [compileAll]
  rfl

theorem compileAll_cons {s : Session} {levels : Nat} {v : Value} {vs : List Value} {q : Query}
    {c : Condition} {cs : List Condition} (h : Reads setting.presets levels v q)
    (hcompile : (compile setting sense levels v).run s = (.ok c, s))
    (hcompileAll : (compileAll setting sense levels vs).run s = (.ok cs, s)) :
    (compileAll setting sense levels (v.normalize :: vs)).run s = (.ok (c :: cs), s) := by
  obtain ⟨below, rfl⟩ := h.pos
  rw [compileAll, compile_normalize, Eval.run_bind_ok hcompile, Eval.run_bind_ok hcompileAll]
  rfl

mutual

/-- A value that means a query compiles to the test for this query and leaves the session as it
is. -/
theorem compile_of_reads {s : Session} : {levels : Nat} → {v : Value} → {q : Query} →
    Reads setting.presets levels v q →
    (compile setting sense levels v).run s = (.ok (q.compiled s.grid), s)
  | _, _, _, .preset hname h => by
      simp only [compile, Value.normalize, shape?, hname]
      exact compile_of_reads h
  | _, _, _, .pattern hname hp => by
      simp only [compile, Value.normalize, shape?, hname, patternAt_ok hp]
      rfl
  | _, _, _, .offset hparts hp => by
      simp only [compile, shape?_offset hparts, patternAt_ok hp]
      rfl
  | _, _, _, .place hparts hline hcolumn => by
      have hnormal := Value.normalize_of_parts? hparts
      simp only [List.map_cons, List.map_nil, coordinate?_normalize hline,
        coordinate?_normalize hcolumn] at hnormal
      simp only [compile, hnormal, shape?_place hline hcolumn]
      rfl
  | _, _, _, .all hparts h => by
      refine compile_connective (c := .all) hparts h.ne_offset (compileAll_of_reads h) ?_
      cases h
      rfl
  | _, _, _, .any hparts h => by
      refine compile_connective (c := .any) hparts h.ne_offset (compileAll_of_reads h) ?_
      cases h
      rfl
  | _, _, _, .not hparts h => by
      have hpart := compile_of_reads (s := s) h
      have hall := compileAll_cons h hpart (compileAll_nil _)
      exact compile_connective (c := .not) hparts (ReadsAll.cons h .nil).ne_offset hall rfl

theorem compileAll_of_reads {s : Session} : {levels : Nat} → {vs : List Value} →
    {qs : List Query} → ReadsAll setting.presets levels vs qs →
    (compileAll setting sense levels (vs.map Value.normalize)).run s =
      (.ok (compiledAll s.grid qs), s)
  | _, _, _, .nil => compileAll_nil _
  | _, _, _, .cons h hs => compileAll_cons h (compile_of_reads h) (compileAll_of_reads hs)

end

/-! ## Testing -/

theorem occursAt_eq {s : Session} (hrect : s.table.Rectangular) (p : Pattern.Compiled)
    (lines columns : Int) :
    occursAt p lines columns s =
      .ok ((Query.occurs p lines columns).holdsAt s.table s.cursor) := by
  rw [occursAt, Session.field_eq hrect, Query.holdsAt]
  cases s.table.content? ⟨s.cursor.line + lines, s.cursor.column + columns⟩ <;>
    simp only [bind, Except.bind, pure, Except.pure, Option.any]

mutual

/-- The test for a query tells whether the query holds at the cursor, and changes nothing. -/
theorem Query.holds_compiled {s : Session} (hrect : s.table.Rectangular) : (q : Query) →
    (q.compiled s.grid).holds.run s = (.ok (q.holdsAt s.table s.cursor), s)
  | .occurs p lines columns => by
      rw [Query.compiled, Condition.holds, Eval.run_bind_ok (Eval.run_get s), Eval.run_ofFault,
        occursAt_eq hrect]
      rfl
  | .standsAt line column => by
      rw [Query.compiled, placeOn, Condition.holds, Eval.run_bind_ok (Eval.run_get s),
        Query.holdsAt]
      cases line <;> cases column <;> rfl
  | .all queries => allHold_compiled hrect queries
  | .any queries => anyHolds_compiled hrect queries
  | .not query => by
      rw [Query.compiled, Condition.holds, Eval.run_bind_ok (query.holds_compiled hrect),
        Query.holdsAt]
      rfl

theorem allHold_compiled {s : Session} (hrect : s.table.Rectangular) : (qs : List Query) →
    (allHold (compiledAll s.grid qs)).run s = (.ok (allHoldAt s.table s.cursor qs), s)
  | [] => rfl
  | q :: qs => by
      rw [compiledAll, allHold, Eval.run_bind_ok (q.holds_compiled hrect), allHoldAt]
      cases q.holdsAt s.table s.cursor
      · rfl
      · exact allHold_compiled hrect qs

theorem anyHolds_compiled {s : Session} (hrect : s.table.Rectangular) : (qs : List Query) →
    (anyHolds (compiledAll s.grid qs)).run s = (.ok (anyHoldsAt s.table s.cursor qs), s)
  | [] => rfl
  | q :: qs => by
      rw [compiledAll, anyHolds, Eval.run_bind_ok (q.holds_compiled hrect), anyHoldsAt]
      cases q.holdsAt s.table s.cursor
      · exact anyHolds_compiled hrect qs
      · rfl

end

/-! ## Searching -/

/-- A search stops at the first of the visited cells where the test does not come out false, and
ends as the test does there.  The cells before this one it leaves as they are. -/
theorem search_until {s : Session} (grid : Grid) (direction : Direction) (test : Eval Session Bool)
    (stops : Cursor → Bool) (count : Nat) (cursor : Cursor)
    (hpass : ∀ place ∈ List.iterate (grid.move direction) (grid.move direction cursor) count,
      stops place = false →
        test.run { s with cursor := place } = (.ok false, { s with cursor := place }))
    (hstop : ∀ place ∈ List.iterate (grid.move direction) (grid.move direction cursor) count,
      stops place = true → (test.run { s with cursor := place }).1 ≠ .ok false) :
    (search grid direction test count).run { s with cursor } =
      match (List.iterate (grid.move direction) (grid.move direction cursor) count).find? stops with
      | some place => test.run { s with cursor := place }
      | none => (.ok false, { s with cursor := (grid.move direction)^[count] cursor }) := by
  induction count generalizing cursor with
  | zero => rfl
  | succ count ih =>
      rw [List.iterate] at hpass hstop
      obtain ⟨hpassHere, hpass⟩ := List.forall_mem_cons.mp hpass
      obtain ⟨hstopHere, hstop⟩ := List.forall_mem_cons.mp hstop
      rw [search, Eval.run_bind_ok (Eval.run_modify _ _), List.iterate, List.find?_cons]
      cases hhere : stops (grid.move direction cursor) with
      | false =>
          rw [Eval.run_bind_ok (hpassHere hhere)]
          exact ih (grid.move direction cursor) hpass hstop
      | true =>
          have hresult := hstopHere hhere
          dsimp only
          rw [Eval.run_bind]
          rcases hrun : test.run { s with cursor := grid.move direction cursor } with ⟨e | found, t⟩
          · rfl
          · rw [hrun] at hresult
            cases found
            · exact absurd rfl hresult
            · rfl

/-- A search of a whole grid from one of its cells stops in the circuit from there. -/
theorem search_circuit {s : Session} {grid : Grid} (direction : Direction)
    (test : Eval Session Bool) (stops : Cursor → Bool) {cursor : Cursor}
    (hcursor : grid.contains cursor = true)
    (hpass : ∀ place ∈ grid.circuit direction cursor, stops place = false →
      test.run { s with cursor := place } = (.ok false, { s with cursor := place }))
    (hstop : ∀ place ∈ grid.circuit direction cursor, stops place = true →
      (test.run { s with cursor := place }).1 ≠ .ok false) :
    (search grid direction test grid.size).run { s with cursor } =
      match (grid.circuit direction cursor).find? stops with
      | some place => test.run { s with cursor := place }
      | none => (.ok false, { s with cursor }) := by
  have hsearch := search_until (s := s) grid direction test stops grid.size cursor
  rw [Grid.iterate_eq_circuit _ _ hcursor, Grid.iterate_move_size _ _ hcursor] at hsearch
  exact hsearch hpass hstop

/-- A test that changes nothing stops the search at the first cell of the circuit where it succeeds
or fails to tell. -/
theorem search_stops {s : Session} {grid : Grid} (direction : Direction) {test : Eval Session Bool}
    {verdict : Cursor → Except Error Bool} {stops : Cursor → Bool}
    (htest : ∀ cursor, test.run { s with cursor } = (verdict cursor, { s with cursor }))
    (hstops : ∀ cursor, stops cursor = false ↔ verdict cursor = .ok false) {cursor : Cursor}
    (hcursor : grid.contains cursor = true) :
    (search grid direction test grid.size).run { s with cursor } =
      match (grid.circuit direction cursor).find? stops with
      | some place => (verdict place, { s with cursor := place })
      | none => (.ok false, { s with cursor }) := by
  rw [search_circuit direction test stops hcursor (fun place _ hstop => ?_)
    fun place _ hstop => ?_]
  · split <;> simp only [htest]
  · rw [htest, (hstops place).mp hstop]
  · rw [htest]
    intro hfalse
    rw [(hstops place).mpr hfalse] at hstop
    cases hstop

theorem search_find {s : Session} {grid : Grid} (direction : Direction) {test : Eval Session Bool}
    {holds : Cursor → Bool}
    (htest : ∀ cursor, test.run { s with cursor } = (.ok (holds cursor), { s with cursor }))
    {cursor : Cursor} (hcursor : grid.contains cursor = true) :
    (search grid direction test grid.size).run { s with cursor } =
      match (grid.circuit direction cursor).find? holds with
      | some place => (.ok true, { s with cursor := place })
      | none => (.ok false, { s with cursor }) := by
  have hstops : ∀ place, holds place = false ↔
      (.ok (holds place) : Except Error Bool) = .ok false := by simp
  rw [search_stops direction htest hstops hcursor]
  split
  next place hfind => rw [List.find?_some hfind]
  next => rfl

/-- A step with a condition that means a query, and no direct jump, goes to the first cell of the
circuit from the cursor where the query holds. -/
theorem step_of_reads (setting : Setting) (sense : Sense) (direction : Direction) {s : Session}
    {condition : Value} {q : Query}
    (hrect : s.table.Rectangular) (hcursor : s.table.grid.contains s.cursor = true)
    (hcondition : s.condition = condition.normalize)
    (hreads : Reads setting.presets (maxDepth + 1) condition q) (hplace : q.isPlace = false) :
    (step setting sense direction).run s =
      match (s.table.grid.circuit direction s.cursor).find? (q.holdsAt s.table) with
      | some place => (.ok true, { s with cursor := place })
      | none => (.ok false, s) := by
  have htest : ∀ cursor, (q.compiled s.table.grid).holds.run { s with cursor } =
      (.ok (q.holdsAt s.table cursor), { s with cursor }) :=
    fun cursor => Query.holds_compiled (s := { s with cursor }) hrect q
  have hsearch := search_find direction htest hcursor
  have hcompile : (compile setting sense (maxDepth + 1) s.condition).run s =
      (.ok (q.compiled s.grid), s) := by
    rw [hcondition, compile_normalize]
    exact compile_of_reads hreads
  rw [step, Eval.run_bind_ok (Eval.run_get s), Eval.run_bind_ok hcompile]
  cases q with
  | standsAt line column => cases hplace
  | occurs p lines columns => exact hsearch
  | all queries => exact hsearch
  | any queries => exact hsearch
  | not query => exact hsearch

/-! ## Jumping -/

theorem steps_one {direction : Direction} (s : Session) :
    (steps setting sense direction 1).run s = (step setting sense direction).run s := by
  rw [steps, Eval.run_bind]
  rcases (step setting sense direction).run s with ⟨e | found, t⟩
  · rfl
  · cases found <;> rfl

theorem ofValue_name (d : Direction) : Direction.ofValue (.text d.name) = .ok d := by
  cases d <;> rfl

/-- A jump from a cell of the table, with a condition and a direction given, runs its steps as a
transaction. -/
theorem next_eq_transact (setting : Setting) (count : Int) {condition : Value}
    (hcondition : condition.isNone = false) (direction : Direction) {s : Session}
    (hrest : s.running = false) (hcursor : s.table.grid.contains s.cursor = true) :
    next setting count condition (.text direction.name) s =
      transact
        (steps setting (if 0 ≤ count then .onward else .back)
          (if 0 ≤ count then direction else direction.opposite) count.natAbs)
        { s with condition := condition.normalize, direction } := by
  have hconfigure : configure s condition (.text direction.name) =
      .ok { s with condition := condition.normalize, direction } := by
    simp only [configure, ofValue_name, hcondition]
    rfl
  have hnormal : condition.normalize.isNone = false := by
    rw [Value.isNone_normalize, hcondition]
  have hsize : s.table.grid.size ≠ 0 := by
    intro hzero
    rw [Grid.contains_iff] at hcursor
    rcases Nat.mul_eq_zero.mp hzero with h | h <;> omega
  have hstart : checkStart { s with condition := condition.normalize, direction } = .ok () := by
    simp only [checkStart, hnormal, Session.grid_eq, hsize, hcursor]
    rfl
  unfold next
  rw [if_neg (by simp [hrest]), hconfigure]
  dsimp only
  rw [hstart]

theorem Reads.isNone_eq_false {presets : Preset.Table} {levels : Nat} {v : Value} {q : Query}
    (h : Reads presets levels v q) : v.isNone = false := by
  cases h <;> first | rfl | exact Value.isNone_of_parts? (by assumption)

/-- A jump of one step, with a condition that means a query other than a place, goes to the first
cell where the query holds in the cyclic order of the direction that starts just after the cursor
and ends with its own cell.  It fails, with the cursor where it was, exactly if no cell satisfies
the query. -/
theorem next_goes_to_first (setting : Setting) (s : Session) (hrest : s.running = false)
    (hrect : s.table.Rectangular) (hcursor : s.table.grid.contains s.cursor = true)
    (direction : Direction) {condition : Value} {q : Query}
    (hreads : Reads setting.presets (maxDepth + 1) condition q) (hplace : q.isPlace = false) :
    (∀ place, (s.table.grid.circuit direction s.cursor).find? (q.holdsAt s.table) = some place →
      next setting 1 condition (.text direction.name) s =
        (.ok true, { s with condition := condition.normalize, direction, cursor := place })) ∧
    ((∀ place, s.table.grid.contains place = true → q.holdsAt s.table place = false) ↔
      (next setting 1 condition (.text direction.name) s).1 = .ok false) ∧
    ((next setting 1 condition (.text direction.name) s).1 = .ok false →
      (next setting 1 condition (.text direction.name) s).2.cursor = s.cursor) := by
  have hnone : (∀ place, s.table.grid.contains place = true → q.holdsAt s.table place = false) ↔
      (s.table.grid.circuit direction s.cursor).find? (q.holdsAt s.table) = none := by
    simp only [List.find?_eq_none, Grid.mem_circuit, Bool.not_eq_true]
  have hstep := step_of_reads setting .onward direction
    (s := { s with condition := condition.normalize, direction, running := true })
    hrect hcursor rfl hreads hplace
  rw [hnone, next_eq_transact setting 1 hreads.isNone_eq_false direction hrest hcursor, transact]
  simp only [Int.natAbs_one, Int.one_nonneg, if_true]
  rw [steps_one, hstep]
  dsimp only
  cases (s.table.grid.circuit direction s.cursor).find? (q.holdsAt s.table) with
  | none =>
      exact ⟨fun _ h => (nomatch h), ⟨fun _ => rfl, fun _ => rfl⟩, fun _ => rfl⟩
  | some first =>
      refine ⟨fun place hfirst => ?_, ⟨fun h => (nomatch h), fun h => (nomatch h)⟩,
        fun h => (nomatch h)⟩
      cases hfirst
      rw [← hrest]

/-- From the last cell of a small table the search starts over at the first one; of the cells with
content other than `a`, the first in the first column stands on the second line. -/
theorem next_goes_to_first_from_end :
    let s : Session :=
      { table := ⟨[.data ["a", "b", "c"], .separator, .data ["d", "", "f"]]⟩, cursor := ⟨2, 3⟩ }
    let condition : Value := .tuple [.text "and", .text "nonempty",
      .tuple [.text "not", .text "^a$"], .tuple [.none, .int 1]]
    s.running = false ∧ s.table.Rectangular ∧ s.table.grid.contains s.cursor = true ∧
      (∃ q, Reads Preset.builtin (maxDepth + 1) condition q ∧ q.isPlace = false) ∧
      next {} 1 condition (.text Direction.right.name) s =
        (.ok true, { s with condition := condition.normalize, direction := .right,
                            cursor := ⟨2, 1⟩ }) := by
  intro s condition
  have hrect : s.table.Rectangular := by decide
  have hcursor : s.table.grid.contains s.cursor = true := by decide
  let filled : Query := .occurs ⟨.sequence [.oneOf false [.category .blank true]], {}⟩ 0 0
  let letter : Query := .occurs ⟨.sequence [.anchor .caret, .point 97, .anchor .dollar], {}⟩ 0 0
  have hfilled : Reads Preset.builtin maxDepth (.text "nonempty") filled :=
    .preset (by cbv) (.pattern (by cbv) (by cbv))
  have hletter : Reads Preset.builtin maxDepth (.tuple [.text "not", .text "^a$"]) (.not letter) :=
    .not rfl (.pattern (by cbv) (by cbv))
  have hreads : Reads Preset.builtin (maxDepth + 1) condition
      (.all [filled, .not letter, .standsAt none (some 1)]) :=
    .all rfl (.cons hfilled (.cons hletter (.cons (.place rfl rfl rfl) .nil)))
  have hfirst : (s.table.grid.circuit .right s.cursor).find?
      ((Query.all [filled, .not letter, .standsAt none (some 1)]).holdsAt s.table) =
        some ⟨2, 1⟩ := by
    decide +kernel
  exact ⟨rfl, hrect, hcursor, ⟨_, hreads, rfl⟩,
    (next_goes_to_first {} s rfl hrect hcursor .right hreads rfl).1 _ hfirst⟩

end Jump

end PipeTable
