import Mathlib
import PipeTable.Proofs.Ragged
import PipeTable.Proofs.Return

/-! # Commands that end with a status

A command that works on a table ends with the status of success, or with that of a failure when an
operation refuses what it is asked for or a file cannot be read.  Anything else would be a break,
and it comes from the document: a reference to a position that is no number, or a row that is read
further than it reaches.  A search reads one cell after the other, so whether it breaks depends on
what it finds before it comes to a gap.
-/

namespace PipeTable

open PipeTable.CommandLine (Output)
open Outcome

/-! ## Searching a pattern -/

namespace Table

variable {t : Table} {p : Pattern.Compiled} {d : Direction}

/-- Where a search for a pattern from a cursor stops: at the first place of the circuit whose cell
the pattern occurs in, or which has no cell. -/
def stop? (t : Table) (p : Pattern.Compiled) (d : Direction) (c : Cursor) : Option Cursor :=
  (t.grid.circuit d c).find? fun place =>
    (t.content? place).all fun content => p.search (Text.strip content)

variable (t p d) in
/-- One of several searches, each from where the one before it has stopped, stops where there is no
cell. -/
inductive Stumbles : Nat → Cursor → Prop
  | now {count : Nat} {c place : Cursor} (hstop : t.stop? p d c = some place)
      (hgap : t.content? place = none) : Stumbles (count + 1) c
  | later {count : Nat} {c place : Cursor} {content : String}
      (hstop : t.stop? p d c = some place) (hcell : t.content? place = some content)
      (h : Stumbles count place) : Stumbles (count + 1) c

theorem Stumbles.add {count : Nat} {c : Cursor} (h : t.Stumbles p d count c) (more : Nat) :
    t.Stumbles p d (count + more) c := by
  induction h with
  | now hstop hgap =>
      rw [Nat.add_right_comm]
      exact .now hstop hgap
  | later hstop hcell _ ih =>
      rw [Nat.add_right_comm]
      exact .later hstop hcell ih

theorem contains_stop? {c place : Cursor} (h : t.stop? p d c = some place) :
    t.grid.contains place = true :=
  (Grid.mem_circuit _ _ _ _).mp (List.mem_of_find?_eq_some h)

theorem not_stumbles_of_stop?_eq_none {c : Cursor} (h : t.stop? p d c = none) (count : Nat) :
    ¬ t.Stumbles p d count c := by
  intro hstumbles
  cases hstumbles with
  | now hstop => cases h.symm.trans hstop
  | later hstop => cases h.symm.trans hstop

theorem stumbles_succ_iff {c place : Cursor} {content : String} (hstop : t.stop? p d c = some place)
    (hcell : t.content? place = some content) (count : Nat) :
    t.Stumbles p d (count + 1) c ↔ t.Stumbles p d count place := by
  refine ⟨fun h => ?_, .later hstop hcell⟩
  cases h with
  | now hstop' hgap =>
      cases hstop.symm.trans hstop'
      cases hcell.symm.trans hgap
  | later hstop' _ h =>
      cases hstop.symm.trans hstop'
      exact h

/-- Only on a table with a row that is shorter than the first one a search stumbles. -/
theorem Stumbles.short {count : Nat} {c : Cursor} (h : t.Stumbles p d count c) :
    t.Short t.columnCount := by
  induction h with
  | @now count c place hstop hgap =>
      obtain ⟨hline, hheight, hcolumn, hwidth⟩ := (Grid.contains_iff _ _).mp (contains_stop? hstop)
      unfold content? at hgap
      cases hrow : nth? t.dataRows place.line with
      | none =>
          rw [nth?_eq_none_iff] at hrow
          exact absurd ⟨hline, hheight⟩ hrow
      | some row =>
          rw [hrow, Option.bind_some, nth?_eq_none_iff] at hgap
          have hwidth : place.column ≤ t.columnCount := hwidth
          exact ⟨row, mem_of_nth? hrow, by omega⟩
  | later _ _ _ ih => exact ih

theorem cell_of_content?_eq_none {place : Cursor} (h : t.content? place = none) :
    ∃ fault, t.cell place.line place.column = .error fault := by
  unfold content? at h
  cases hrow : nth? t.dataRows place.line with
  | none => exact ⟨_, by rw [cell, dataRow, hrow]; rfl⟩
  | some row =>
      rw [hrow, Option.bind_some] at h
      exact ⟨.noColumn place.column row.length, by
        rw [cell, dataRow, hrow]
        simp only [bind, Except.bind, h]⟩

end Table

namespace Jump

open PipeTable.Expr (Eval)

variable {presets : Preset.Table} {sense : Sense} {d : Direction} {p : Pattern.Compiled}
  {s : Session}

/-- The session searches for a pattern: its condition is a text that spells the pattern and names no
preset. -/
structure Searches (presets : Preset.Table) (p : Pattern.Compiled) (s : Session) : Prop where
  inside : s.table.grid.contains s.cursor = true
  condition : ∃ text, s.condition = .text text ∧ presets.find? text = none ∧
    Pattern.Compiled.ofText text = .ok p

theorem occursAt_here (hinside : s.table.grid.contains s.cursor = true) (p : Pattern.Compiled) :
    occursAt p 0 0 s = (s.table.cell s.cursor.line s.cursor.column).map fun content =>
      p.search (Text.strip content) := by
  have hplace : s.offset? 0 0 = some s.cursor := by
    simp only [Session.offset?, Int.add_zero]
    exact if_pos hinside
  rw [occursAt, Session.field, hplace]
  dsimp only
  cases s.table.cell s.cursor.line s.cursor.column <;> rfl

/-- What the test of a search tells at a place. -/
def verdict (p : Pattern.Compiled) (s : Session) (place : Cursor) : Except Error Bool :=
  (occursAt p 0 0 { s with cursor := place }).mapError .fault

/-- Whether this is anything but that the pattern does not occur. -/
def stops (p : Pattern.Compiled) (s : Session) (place : Cursor) : Bool :=
  match verdict p s place with
  | .ok found => found
  | .error _ => true

theorem verdict_of_content? {place : Cursor} {content : String}
    (hinside : s.table.grid.contains place = true) (h : s.table.content? place = some content) :
    verdict p s place = .ok (p.search (Text.strip content)) := by
  rw [verdict, occursAt_here (s := { s with cursor := place }) hinside,
    Table.cell_of_content? h]
  rfl

theorem verdict_of_gap {place : Cursor} (hinside : s.table.grid.contains place = true)
    (h : s.table.content? place = none) : ∃ fault, verdict p s place = .error (.fault fault) := by
  obtain ⟨fault, hfault⟩ := Table.cell_of_content?_eq_none h
  refine ⟨fault, ?_⟩
  rw [verdict, occursAt_here (s := { s with cursor := place }) hinside, hfault]
  rfl

theorem find?_stops (p : Pattern.Compiled) (s : Session) (d : Direction) :
    (s.table.grid.circuit d s.cursor).find? (stops p s) = s.table.stop? p d s.cursor := by
  refine List.find?_congr fun place hplace => ?_
  have hinside := (Grid.mem_circuit _ _ _ _).mp hplace
  cases hcell : s.table.content? place with
  | some content =>
      simp only [stops, verdict_of_content? hinside hcell, Option.all_some]
  | none =>
      obtain ⟨fault, hfault⟩ := verdict_of_gap (p := p) hinside hcell
      simp only [stops, hfault, Option.all_none]

variable (sense d) in
theorem run_step_searches (h : Searches presets p s) :
    (step { presets } sense d).run s =
      match s.table.stop? p d s.cursor with
      | some place => (verdict p s place, { s with cursor := place })
      | none => (.ok false, s) := by
  obtain ⟨text, hcondition, hname, hp⟩ := h.condition
  have hcompile : (compile { presets } sense (maxDepth + 1) s.condition).run s =
      (.ok (.pattern p 0 0), s) := by
    rw [hcondition]
    exact compile_of_reads (.pattern hname hp)
  have htest : ∀ cursor, (Condition.pattern p 0 0).holds.run { s with cursor } =
      (verdict p s cursor, { s with cursor }) := by
    intro cursor
    rw [Condition.holds, Eval.run_bind_ok (Eval.run_get _), verdict]
    cases occursAt p 0 0 { s with cursor } <;> rfl
  have hstops : ∀ place, stops p s place = false ↔ verdict p s place = .ok false := by
    intro place
    rw [stops]
    cases verdict p s place <;> simp
  have hsearch := search_stops d htest hstops h.inside
  rw [find?_stops] at hsearch
  rw [step, Eval.run_bind_ok (Eval.run_get s), Eval.run_bind_ok hcompile]
  exact hsearch

theorem Searches.move {place : Cursor} (h : Searches presets p s)
    (hplace : s.table.grid.contains place = true) :
    Searches presets p { s with cursor := place } :=
  ⟨hplace, h.condition⟩

variable (sense d) in
/-- Several steps of a search break if one of them stumbles.  Else they lead to the place from where
the search would go on, or one of them finds nothing, and then no search from here stumbles. -/
theorem steps_searches (h : Searches presets p s) (count : Nat) :
    (s.table.Stumbles p d count s.cursor ∧
        ∃ fault, ((steps { presets } sense d count).run s).1 = .error (.fault fault)) ∨
      (∃ place, s.table.grid.contains place = true ∧
        (steps { presets } sense d count).run s = (.ok true, { s with cursor := place }) ∧
        ∀ more, s.table.Stumbles p d (count + more) s.cursor ↔ s.table.Stumbles p d more place) ∨
      (∃ place, (steps { presets } sense d count).run s = (.ok false, { s with cursor := place })) ∧
        ∀ more, ¬ s.table.Stumbles p d more s.cursor := by
  induction count generalizing s with
  | zero =>
      exact .inr (.inl ⟨s.cursor, h.inside, rfl, fun more => by rw [Nat.zero_add]⟩)
  | succ count ih =>
      have hstep := run_step_searches sense d h
      cases hstop : s.table.stop? p d s.cursor with
      | none =>
          rw [hstop] at hstep
          refine .inr (.inr ⟨⟨s.cursor, ?_⟩, Table.not_stumbles_of_stop?_eq_none hstop⟩)
          rw [steps, Eval.run_bind_ok hstep]
          rfl
      | some place =>
          have hplace := Table.contains_stop? hstop
          rw [hstop] at hstep
          dsimp only at hstep
          cases hcell : s.table.content? place with
          | none =>
              obtain ⟨fault, hfault⟩ := verdict_of_gap (p := p) hplace hcell
              rw [hfault] at hstep
              refine .inl ⟨.now hstop hcell, fault, ?_⟩
              rw [steps, Eval.run_bind_failed hstep]
          | some content =>
              have hfound : p.search (Text.strip content) = true := by
                have := List.find?_some hstop
                rwa [hcell, Option.all_some] at this
              rw [verdict_of_content? hplace hcell, hfound] at hstep
              have hrun : (steps { presets } sense d (count + 1)).run s =
                  (steps { presets } sense d count).run { s with cursor := place } := by
                rw [steps, Eval.run_bind_ok hstep]
                rfl
              rw [hrun]
              have hnext := Table.stumbles_succ_iff hstop hcell
              rcases ih (h.move hplace) with ⟨hstumbles, hfault⟩ |
                ⟨last, hlast, hsteps, hmore⟩ | ⟨hnone, hmore⟩
              · exact .inl ⟨.later hstop hcell hstumbles, hfault⟩
              · refine .inr (.inl ⟨last, hlast, hsteps, fun more => ?_⟩)
                rw [Nat.add_right_comm, hnext, hmore]
              · refine .inr (.inr ⟨hnone, fun more hstumbles => ?_⟩)
                cases more with
                | zero => cases hstumbles
                | succ more => exact hmore more ((hnext more).mp hstumbles)

/-- A jump that goes on with the condition and the direction of a search breaks if one of its steps
stumbles.  Else it leads to the place from where the search would go on, or it finds nothing and no
search from here stumbles. -/
theorem next_searches (h : Searches presets p s) (hrest : s.running = false) (count : Int) :
    let jump := next { presets } count .none .none s
    let d := headingOf count s.direction
    (s.table.Stumbles p d count.natAbs s.cursor ∧ ∃ fault, jump.1 = .error (.fault fault)) ∨
      (∃ place, s.table.grid.contains place = true ∧ jump = (.ok true, { s with cursor := place }) ∧
        ∀ more, s.table.Stumbles p d (count.natAbs + more) s.cursor ↔
          s.table.Stumbles p d more place) ∨
      (∃ reports, jump = (.ok false, { s with reports })) ∧
        ∀ more, ¬ s.table.Stumbles p d more s.cursor := by
  intro jump d
  obtain ⟨text, hcondition, -, -⟩ := h.condition
  have hnormal : s.condition = (Value.text text).normalize := hcondition
  have hnone : (Value.text text).isNone = false := rfl
  have hjump : jump = transact (steps { presets } (senseOf count) d count.natAbs) s := by
    have hnext := next_eq_transact_to { presets } count hrest h.inside hnone
      (.inr ⟨rfl, hnormal⟩) (.inr ⟨rfl, rfl⟩)
    rwa [← hnormal] at hnext
  have hready : Searches presets p { s with running := true } := ⟨h.inside, h.condition⟩
  rw [hjump]
  rcases steps_searches (senseOf count) d hready count.natAbs with
    ⟨hstumbles, fault, hfault⟩ | ⟨place, hplace, hsteps, hmore⟩ | ⟨⟨place, hsteps⟩, hmore⟩
  · exact .inl ⟨hstumbles, fault, (transact_fst _ _).trans hfault⟩
  · refine .inr (.inl ⟨place, hplace, ?_, hmore⟩)
    rw [transact, hsteps, ← hrest]
  · refine .inr (.inr ⟨⟨s.reports ++ [noMatch], ?_⟩, hmore⟩)
    rw [transact, hsteps]
    simp only [restore]
    rw [← hrest]

end Jump

/-! ## Jumps one after the other -/

namespace CommandLine

open Jump

variable {presets : Preset.Table} {p : Pattern.Compiled} {s : Session}

theorem jumps_failed {setting : Setting} {steps : Int} {e : Error}
    (h : (next setting steps .none .none s).1 = .error e) (count : Nat) :
    jumps setting steps (count + 1) s = ([], .error e) := by
  rw [jumps]
  rcases hjump : next setting steps .none .none s with ⟨outcome, after⟩
  rw [hjump] at h
  obtain rfl : outcome = .error e := h
  rfl

/-- Searches one after the other break exactly if one of their steps stumbles. -/
theorem jumps_ends_iff (h : Searches presets p s) (hrest : s.running = false) (steps : Int)
    (count : Nat) :
    Ends (jumps { presets } steps count s).2 ↔
      ¬ s.table.Stumbles p (headingOf steps s.direction) (count * steps.natAbs) s.cursor := by
  induction count generalizing s with
  | zero =>
      rw [Nat.zero_mul]
      exact iff_of_true (ends_ok s) nofun
  | succ count ih =>
      rw [Nat.succ_mul, Nat.add_comm (count * steps.natAbs)]
      rcases next_searches h hrest steps with
        ⟨hstumbles, fault, hfault⟩ | ⟨place, hplace, hjump, hmore⟩ | ⟨⟨reports, hjump⟩, hmore⟩
      · rw [jumps_failed hfault]
        exact iff_of_false (fun hends => nomatch hends _ rfl) (not_not_intro (hstumbles.add _))
      · rw [jumps, hjump, hmore]
        exact ih (h.move hplace) hrest
      · rw [jumps, hjump, iff_true_right (hmore _)]
        exact (ih (s := { s with reports }) ⟨h.inside, h.condition⟩ hrest).mpr (hmore _)

theorem next_outside (setting : Setting) (count : Int) (hrest : s.running = false)
    (houtside : s.table.grid.contains s.cursor = false) :
    ∃ cause, (next setting count .none .none s).1 = .error (.precondition cause) := by
  have hstart : ∃ cause, checkStart s = .error (.precondition cause) := by
    unfold checkStart
    by_cases hcondition : s.condition.isNone = true
    · exact ⟨_, by rw [if_pos hcondition]; rfl⟩
    rw [if_neg hcondition]
    by_cases hsize : s.grid.size = 0
    · exact ⟨_, by rw [if_pos hsize]; rfl⟩
    rw [if_neg hsize, Session.grid_eq, houtside]
    exact ⟨_, rfl⟩
  obtain ⟨cause, hcause⟩ := hstart
  have hconfigure : configure s .none .none = .ok s := rfl
  refine ⟨cause, ?_⟩
  unfold next
  rw [if_neg (by simp [hrest]), hconfigure]
  simp only [hcause]

theorem jumps_outside (presets : Preset.Table) (steps : Int) (count : Nat)
    (hrest : s.running = false) (houtside : s.table.grid.contains s.cursor = false) :
    Ends (jumps { presets } steps count s).2 := by
  cases count with
  | zero => exact ends_ok s
  | succ count =>
      obtain ⟨cause, hcause⟩ := next_outside { presets } steps hrest houtside
      rw [jumps_failed hcause]
      exact ends_error_iff.mpr rfl

/-! ## Runs -/

/-- The run ends with the status of success or with that of a failure. -/
def Output.HasStatus (o : Output) : Prop := o.status? = some 0 ∨ o.status? = some 1

theorem Output.hasStatus_iff {o : Output} :
    o.HasStatus ↔ ∀ e, o.failure = some e → Output.isExpected e = true := by
  unfold Output.HasStatus Output.status?
  cases o.failure with
  | none => simp
  | some e => cases he : Output.isExpected e <;> simp [he]

theorem Output.hasStatus_ofTable {x : Except Error Table} :
    (Output.ofTable x).HasStatus ↔ Ends x := by
  rw [Output.hasStatus_iff]
  cases x with
  | ok t => exact iff_of_true nofun (ends_ok t)
  | error e => simp [Output.ofTable, ends_error_iff]

theorem startSession_of_text (t : Table) (start : Cursor) (direction : String)
    {condition text : String} (hcondition : Preset.readCondition condition = .ok (.text text)) :
    startSession t start condition direction =
      match Direction.ofName? direction with
      | some d => .ok { table := t, cursor := start, condition := .text text, direction := d }
      | none => .error (.badDirection (.text direction)) := by
  rw [startSession, hcondition, Direction.ofValue]
  cases Direction.ofName? direction <;> rfl

/-- Where the session of a jump can be prepared, its jumps decide how the run ends. -/
theorem runJump_hasStatus (settings : Config.Settings) {t : Table} {start : Cursor} {steps : Int}
    {condition direction : String} (repetitions : Int)
    (hpresets : Preset.tableOf (settings.presets.map .text) = .ok presets)
    (hstart : startSession t start condition direction = .ok s) :
    (runJump settings t start condition steps direction repetitions).HasStatus ↔
      Ends (jumps { presets } steps (max 1 repetitions).toNat s).2 := by
  unfold runJump
  rw [hpresets, hstart, Output.hasStatus_iff]
  simp only [Except.mapError, bind, Except.bind, pure, Except.pure]
  rcases jumps { presets } steps (max 1 repetitions).toNat s with ⟨places, e | after⟩
  · simp [ends_error_iff]
  · exact iff_of_true nofun (ends_ok after)

/-- A jump with a pattern breaks if the presets cannot be read or one of its steps stumbles. -/
theorem runJump_hasStatus_iff (settings : Config.Settings) (t : Table) (start : Cursor)
    (steps : Int) (direction : String) (repetitions : Int) {condition text : String}
    (hcondition : Preset.readCondition condition = .ok (.text text))
    (hname : ∀ presets, Preset.tableOf (settings.presets.map .text) = .ok presets →
      presets.find? text = none)
    (hp : Pattern.Compiled.ofText text = .ok p) :
    (runJump settings t start condition steps direction repetitions).HasStatus ↔
      ¬ ((∃ fault, Preset.tableOf (settings.presets.map .text) = .error fault) ∨
        ∃ d, Direction.ofName? direction = some d ∧ t.grid.contains start = true ∧
          t.Stumbles p (headingOf steps d) ((max 1 repetitions).toNat * steps.natAbs) start) := by
  have hsession := startSession_of_text t start direction hcondition
  cases hpresets : Preset.tableOf (settings.presets.map .text) with
  | error fault =>
      refine iff_of_false (fun h => ?_) (not_not_intro (.inl ⟨fault, rfl⟩))
      have hfailure : (runJump settings t start condition steps direction repetitions).failure =
          some (.fault fault) := by
        unfold runJump
        rw [hpresets]
        rfl
      cases Output.hasStatus_iff.mp h _ hfailure
  | ok presets =>
      cases hdirection : Direction.ofName? direction with
      | none =>
          rw [hdirection] at hsession
          refine iff_of_true (Output.hasStatus_iff.mpr fun e he => ?_) (by simp)
          unfold runJump at he
          rw [hpresets, hsession] at he
          cases he
          rfl
      | some d =>
          rw [hdirection] at hsession
          refine (runJump_hasStatus settings repetitions hpresets hsession).trans ?_
          simp only [reduceCtorEq, exists_false, false_or, Option.some.injEq, exists_eq_left']
          cases hinside : t.grid.contains start with
          | false => exact iff_of_true (jumps_outside presets steps _ rfl hinside) (by simp)
          | true =>
              have hsearches : Searches presets p
                  { table := t, cursor := start, condition := .text text, direction := d } :=
                ⟨hinside, text, rfl, hname presets hpresets, hp⟩
              refine (jumps_ends_iff hsearches rfl steps _).trans ?_
              simp

/-! ## Commands -/

theorem isExpected_of_isRefusal {e : Error} (h : e.isRefusal = true) :
    Output.isExpected e = true := by
  cases e <;> first | rfl | cases h

theorem tableOf_ends_iff (source reference : String) :
    Ends (tableOf source reference) ↔ ¬ Document.IsUnreadable reference := by
  constructor
  · intro h hunreadable
    cases h _ (Document.fetchTable_unreadable _ hunreadable)
  · intro h e he
    rw [← Document.fetchTable_answers_iff (Text.unifyNewlines source) reference, ← tableOf, he] at h
    exact isExpected_of_isRefusal h

/-- The optimizer of the settings answers with the extents asked for or with a refusal. -/
theorem answer_ends {settings : Config.Settings} {program : Narrow.Program}
    (hprogram : settings.optimizer.program? = some program) (request : Narrow.Request)
    (outcome : Narrow.Outcome) :
    Ends (program.answer request outcome) ∧
      ∀ response, program.answer request outcome = .ok response →
        response.widths.length = request.columns ∧ response.rows.length = request.rows := by
  obtain ⟨words, hwords, rfl⟩ := Option.map_eq_some_iff.mp hprogram
  -- the settings look for a text on the error output, or for nothing
  have hmarker (errors : String) : ∃ found, Narrow.Program.reportsSuccess
      (.make words settings.optimizer.timeout (settings.optimizer.marker.elim .none .text))
      errors = .ok found := by
    cases settings.optimizer.marker with
    | none => exact ⟨true, rfl⟩
    | some mark =>
        unfold Narrow.Program.reportsSuccess
        split
        · exact ⟨_, rfl⟩
        · exact ⟨true, rfl⟩
  unfold Narrow.Program.answer
  split
  next => exact ⟨ends_error_iff.mpr rfl, nofun⟩
  next executable more _ =>
    cases outcome with
    | notFound => exact ⟨ends_error_iff.mpr rfl, nofun⟩
    | notAllowed => exact ⟨ends_error_iff.mpr rfl, nofun⟩
    | timedOut errors => exact ⟨ends_error_iff.mpr rfl, nofun⟩
    | finished status output errors =>
        dsimp only
        by_cases hstatus : status ≠ 0
        · rw [if_pos hstatus]
          exact ⟨ends_error_iff.mpr rfl, nofun⟩
        rw [if_neg hstatus]
        obtain ⟨found, hfound⟩ := hmarker (Text.unifyNewlines errors)
        rw [hfound]
        cases found with
        | false => exact ⟨ends_error_iff.mpr rfl, nofun⟩
        | true =>
            exact ⟨fun e he => Narrow.isExpected_of_isNarrowing (Narrow.parse_error he),
              fun response => Narrow.parse_ok⟩

/-- The reference by which a command asks for a table. -/
def Command.reference? : Command → Option String
  | .transpose _ reference | .wrapColumn _ reference .. | .narrow _ reference ..
  | .flatten _ reference .. | .jump _ reference .. => some reference
  | .filter .. | .importCsv .. => none

/-- The command works on a single table.  The condition of a jump is a text that spells a pattern
and names no preset. -/
inductive Command.WorksOnTable (settings : Config.Settings) : Command → Prop
  | transpose (document reference : String) : WorksOnTable settings (.transpose document reference)
  | wrapColumn (document reference : String) (column width : Int) (separators : Bool) :
      WorksOnTable settings (.wrapColumn document reference column width separators)
  | narrow (document reference : String) (width : Int) (fixed : List Int) (separators : Bool) :
      WorksOnTable settings (.narrow document reference width fixed separators)
  | flatten (document reference : String) (start : Cursor) (counts : List Int)
      (columns : Option Int) (reduction : Reduction) (repetitions : Int) :
      WorksOnTable settings
        (.flatten document reference start counts columns reduction repetitions)
  | jump (document reference : String) (start : Cursor) (steps : Int) (direction : String)
      (repetitions : Int) {condition text : String} {p : Pattern.Compiled}
      (hcondition : Preset.readCondition condition = .ok (.text text))
      (hname : ∀ presets, Preset.tableOf (settings.presets.map .text) = .ok presets →
        presets.find? text = none)
      (hp : Pattern.Compiled.ofText text = .ok p) :
      WorksOnTable settings
        (.jump document reference start condition steps direction repetitions)

/-- What a command breaks on in a table: a row that it reads further than the row reaches, and, with
the settings for it, a planning that breaks or a preset that cannot be read. -/
def Command.BreaksOn (settings : Config.Settings) (ask : Runner) (t : Table) : Command → Prop
  | .transpose .. => t.Short t.columnCount
  | .wrapColumn _ _ column width _ =>
    1 ≤ column ∧ column ≤ t.columnCount ∧ 1 ≤ width ∧ t.Short column.toNat
  | .narrow _ _ width fixed _ =>
    ∃ program, settings.optimizer.program? = some program ∧ t.dataRows ≠ [] ∧
      Narrow.Collapses t width fixed fun request => program.answer request (ask program request)
  | .flatten _ _ start counts columns reduction repetitions =>
    t.FlatteningShort start.line start.column (countsValue counts) columns reduction.apply
      repetitions
  | .jump _ _ start condition steps direction repetitions =>
    (∃ fault, Preset.tableOf (settings.presets.map .text) = .error fault) ∨
      ∃ text p d, Preset.readCondition condition = .ok (.text text) ∧
        Pattern.Compiled.ofText text = .ok p ∧ Direction.ofName? direction = some d ∧
        t.grid.contains start = true ∧
        t.Stumbles p (headingOf steps d) ((max 1 repetitions).toNat * steps.natAbs) start
  | .filter .. | .importCsv .. => False

/-- A command breaks on a reference that asks for a position in digits which are not those of a
number, or on the table that it asks for. -/
def Command.Breaks (settings : Config.Settings) (ask : Runner) (source : String) (c : Command) :
    Prop :=
  ∃ reference, c.reference? = some reference ∧ (Document.IsUnreadable reference ∨
    ∃ t, tableOf source reference = .ok t ∧ c.BreaksOn settings ask t)

section Commands

variable {settings : Config.Settings} {ask : Runner} {source : String}

theorem Command.not_breaks_iff {c : Command} {reference : String}
    (hreference : c.reference? = some reference) :
    ¬ c.Breaks settings ask source ↔ ¬ Document.IsUnreadable reference ∧
      ∀ t, tableOf source reference = .ok t → ¬ c.BreaksOn settings ask t := by
  simp [Command.Breaks, hreference]

/-- A command that fetches a table and makes another one of it. -/
theorem hasStatus_fetch_iff (source reference : String) (f : Table → Except Error Table) :
    Output.HasStatus (.ofTable do f (← tableOf source reference)) ↔
      ¬ Document.IsUnreadable reference ∧
        ∀ t, tableOf source reference = .ok t → Ends (f t) :=
  Output.hasStatus_ofTable.trans (ends_bind.trans (and_congr_left' (tableOf_ends_iff _ _)))

theorem isCount_of_spanCounts (counts : List Int) (columns : Nat) (given : List Value)
    (h : Table.spanCounts columns (countsValue counts) = .ok given) :
    ∀ count ∈ given, Table.IsCount count := by
  obtain _ | ⟨count, _ | ⟨other, more⟩⟩ := counts
  · cases h
    intro count hcount
    exact .inl (List.eq_of_mem_replicate hcount)
  · cases h
    intro count' hcount
    exact .inr ⟨count, List.eq_of_mem_replicate hcount⟩
  · unfold Table.spanCounts countsValue at h
    dsimp only at h
    split at h
    · cases h
      intro count' hcount
      obtain ⟨n, -, rfl⟩ := List.mem_map.mp hcount
      exact .inr ⟨n, rfl⟩
    · cases h

theorem narrow_ends_iff_of_settings (settings : Config.Settings) (ask : Runner) (t : Table)
    (width : Int) (fixed : List Int) (separators : Bool) :
    Ends (t.narrow width fixed separators
        (settings.optimizer.program?.map fun p request => p.answer request (ask p request))) ↔
      ¬ ∃ program, settings.optimizer.program? = some program ∧ t.dataRows ≠ [] ∧
        Narrow.Collapses t width fixed fun request =>
          program.answer request (ask program request) := by
  cases hprogram : settings.optimizer.program? with
  | none => exact iff_of_true (ends_error_iff.mpr rfl) (by simp)
  | some program =>
      have hanswer := fun request => answer_ends hprogram request (ask program request)
      refine (t.narrow_ends_iff width fixed separators (fun request => (hanswer request).1)
        fun request => (hanswer request).2).trans ?_
      simp

theorem Command.runOn_hasStatus_iff {c : Command} (hc : c.WorksOnTable settings) :
    (c.runOn settings ask source).HasStatus ↔ ¬ c.Breaks settings ask source := by
  cases hc with
  | transpose document reference =>
      rw [Command.not_breaks_iff rfl, Command.runOn, hasStatus_fetch_iff]
      refine and_congr_right' ?_
      exact forall₂_congr fun t _ => t.transpose_ends_iff
  | wrapColumn document reference column width separators =>
      rw [Command.not_breaks_iff rfl, Command.runOn, hasStatus_fetch_iff]
      refine and_congr_right' ?_
      exact forall₂_congr fun t _ => t.narrowColumn_ends_iff column width separators
  | narrow document reference width fixed separators =>
      rw [Command.not_breaks_iff rfl, Command.runOn, hasStatus_fetch_iff]
      refine and_congr_right' ?_
      exact forall₂_congr fun t _ =>
        narrow_ends_iff_of_settings settings ask t width fixed separators
  | flatten document reference start counts columns reduction repetitions =>
      rw [Command.not_breaks_iff rfl, Command.runOn, hasStatus_fetch_iff]
      refine and_congr_right' ?_
      refine forall₂_congr fun t _ => t.flattenColumns_ends_iff start.line start.column ?_ columns
        reduction.apply repetitions
      exact isCount_of_spanCounts counts
  | @jump document reference start steps direction repetitions condition text p hcondition hname
      hp =>
      rw [Command.not_breaks_iff rfl, ← tableOf_ends_iff source reference]
      cases htable : tableOf source reference with
      | error e =>
          have hrun : Command.runOn settings ask source (.jump document reference start condition
              steps direction repetitions) = { failure := some e } := by
            rw [Command.runOn, htable]
          rw [hrun, Output.hasStatus_iff, ends_error_iff]
          simp
      | ok t =>
          have hrun : Command.runOn settings ask source (.jump document reference start condition
              steps direction repetitions) =
                runJump settings t start condition steps direction repetitions := by
            rw [Command.runOn, htable]
          rw [hrun]
          refine (runJump_hasStatus_iff settings t start steps direction repetitions hcondition
            hname hp).trans ?_
          simp [Command.BreaksOn, hcondition, hp, ends_ok]

/-- Unless the settings have an optimizer or a preset that cannot be read, a command breaks only on
a table with a row that is shorter than the first one. -/
theorem Command.BreaksOn.short {c : Command} {t : Table} (h : c.BreaksOn settings ask t)
    (hoptimizer : settings.optimizer.program? = none)
    (hpresets : ∃ presets, Preset.tableOf (settings.presets.map .text) = .ok presets) :
    t.Short t.columnCount := by
  cases c with
  | transpose => exact h
  | wrapColumn =>
      obtain ⟨hfirst, hlast, -, row, hrow, hshort⟩ := h
      exact ⟨row, hrow, by omega⟩
  | narrow =>
      obtain ⟨program, hprogram, -⟩ := h
      cases hoptimizer.symm.trans hprogram
  | flatten => exact Table.FlatteningShort.short h
  | jump =>
      obtain ⟨presets, hpresets⟩ := hpresets
      rcases h with ⟨fault, hfault⟩ | ⟨text, p, d, -, -, -, -, h⟩
      · cases hpresets.symm.trans hfault
      · exact Table.Stumbles.short h
  | filter => exact h.elim
  | importCsv => exact h.elim

/-- What is wrong with the file of the settings does not change the status. -/
theorem status?_runConfigured (ask : Runner) (files : Files) (path : String) (c : Command) :
    (c.runConfigured ask files path).status? =
      (c.run (settingsAt files path).1 ask files).status? := rfl

/-- Whatever files there are, a command that works on a table ends with the status of success or
with that of a failure, unless it breaks on the document. -/
theorem Command.runConfigured_status_iff (ask : Runner) (files : Files) (path : String)
    {c : Command} (hc : c.WorksOnTable (settingsAt files path).1) :
    let status := (c.runConfigured ask files path).status?
    (status = some 0 ∨ status = some 1) ↔
      ¬ ∃ source, files c.path = .ok source ∧ c.Breaks (settingsAt files path).1 ask source := by
  intro status
  unfold status
  rw [status?_runConfigured, Command.run]
  cases hsource : files c.path with
  | error fault => exact iff_of_true (.inr rfl) (by simp)
  | ok source =>
      refine (Command.runOn_hasStatus_iff hc).trans ?_
      simp

/-- A document with a table whose second row is shorter than the first one, and no other file. -/
def shortRow : Files := fun path =>
  if path = "doc.org" then .ok "#+NAME: t\n| a | b |\n| c |\n" else .error .missing

theorem settingsAt_shortRow : settingsAt shortRow "config.json" = ({}, []) := rfl

theorem source_shortRow : shortRow "doc.org" = .ok "#+NAME: t\n| a | b |\n| c |\n" := rfl

theorem tableOf_shortRow :
    tableOf "#+NAME: t\n| a | b |\n| c |\n" "t" = .ok ⟨[.data ["a", "b"], .data ["c"]]⟩ := rfl

/-- A jump to the end of the first row does not come to the gap in the second one. -/
theorem jump_ends_before_gap :
    let ask : Runner := fun _ _ => .notFound
    let c := Command.jump "doc.org" "t" ⟨1, 1⟩ "^b$" 1 "right" 1
    let settings := (settingsAt shortRow "config.json").1
    let status := (c.runConfigured ask shortRow "config.json").status?
    c.WorksOnTable settings ∧ (status = some 0 ∨ status = some 1) ∧
      ¬ ∃ source, shortRow c.path = .ok source ∧ c.Breaks settings ask source := by
  have hcondition : Preset.readCondition "^b$" = .ok (.text "^b$") := by cbv
  have hname : ∀ presets, Preset.tableOf (({} : Config.Settings).presets.map .text) = .ok presets →
      presets.find? "^b$" = none := by
    intro presets h
    cases h
    cbv
  obtain ⟨p, hp⟩ : ∃ p, Pattern.Compiled.ofText "^b$" = .ok p := ⟨_, rfl⟩
  have hfound : (Jump.next {} 1 .none .none
      { table := ⟨[.data ["a", "b"], .data ["c"]]⟩, condition := .text "^b$" }).1 = .ok true := by
    cbv
  have hends : Ends (jumps {} 1 1
      { table := ⟨[.data ["a", "b"], .data ["c"]]⟩, condition := .text "^b$" }).2 := by
    rw [jumps]
    rcases hjump : Jump.next {} 1 .none .none _ with ⟨outcome, after⟩
    rw [hjump] at hfound
    obtain rfl : outcome = .ok true := hfound
    exact ends_ok after
  have hrun := (runJump_hasStatus {} 1 rfl
    (startSession_of_text ⟨[.data ["a", "b"], .data ["c"]]⟩ ⟨1, 1⟩ "right" hcondition)).mpr hends
  intro ask c settings status
  have hc : c.WorksOnTable settings := .jump _ _ _ _ _ _ hcondition hname hp
  have hstatus : status = some 0 ∨ status = some 1 := by
    have hsource : shortRow c.path = _ := source_shortRow
    unfold status
    rw [status?_runConfigured, settingsAt_shortRow, Command.run, hsource]
    dsimp only
    unfold c
    rw [Command.runOn, tableOf_shortRow]
    exact hrun
  exact ⟨hc, hstatus, (Command.runConfigured_status_iff ask shortRow "config.json" hc).mp hstatus⟩

/-- A flattening of the second column comes to the gap in the second row. -/
theorem flatten_breaks_on_gap :
    let ask : Runner := fun _ _ => .notFound
    let c := Command.flatten "doc.org" "t" ⟨1, 2⟩ [] none .join 1
    let output := c.runConfigured ask shortRow "config.json"
    output.failure = some (.fault .outOfRange) ∧ output.status? = none := by
  have hflatten : (⟨[.data ["a", "b"], .data ["c"]]⟩ : Table).flattenColumns 1 2 .none none
      (.ok Reduction.join.apply) 1 = .error (.fault .outOfRange) := by
    cbv
  intro ask c output
  have hfailure : output.failure = some (.fault .outOfRange) := by
    have houtput : output.failure = (Output.ofTable do
        (← tableOf "#+NAME: t\n| a | b |\n| c |\n" "t").flattenColumns 1 2 .none none
          (.ok Reduction.join.apply) 1).failure := rfl
    rw [houtput, tableOf_shortRow]
    simp only [bind, Except.bind, hflatten]
    rfl
  refine ⟨hfailure, ?_⟩
  rw [Output.status?, hfailure]
  rfl

end Commands

end CommandLine

end PipeTable
