import Mathlib
import PipeTable.CommandLine.Run
import PipeTable.Proofs.Flattening
import PipeTable.Proofs.Joining
import PipeTable.Proofs.Narrowing
import PipeTable.Proofs.Requests

/-! # Tables with short rows

The first row of a table says how many columns there are, and nothing makes the other rows reach as
far.  For each operation on a whole table, the rows that it reads and the columns that it reads them
in decide whether it ends as it should: with a table, or with an error that a command reports.
-/

namespace PipeTable

open PipeTable.CommandLine (Output)

/-! ## Ends -/

namespace Outcome

variable {α β : Type}

/-- The outcome is a result or an error that a command reports. -/
def Ends (x : Except Error α) : Prop := ∀ e, x = .error e → Output.isExpected e = true

theorem ends_ok (a : α) : Ends (.ok a : Except Error α) := nofun

theorem ends_error_iff {e : Error} :
    Ends (.error e : Except Error α) ↔ Output.isExpected e = true := by
  refine ⟨fun h => h e rfl, fun h _ he => ?_⟩
  cases he
  exact h

theorem ends_bind {x : Except Error α} {f : α → Except Error β} :
    Ends (x >>= f) ↔ Ends x ∧ ∀ a, x = .ok a → Ends (f a) := by
  cases x with
  | ok a =>
      refine ⟨fun h => ⟨ends_ok a, ?_⟩, fun h => h.2 a rfl⟩
      rintro _ ⟨⟩
      exact h
  | error e =>
      have hbind : (.error e >>= f : Except Error β) = .error e := rfl
      rw [hbind, ends_error_iff, ends_error_iff]
      exact ⟨fun h => ⟨h, nofun⟩, And.left⟩

theorem Ends.bind {x : Except Error α} {f : α → Except Error β} (hx : Ends x)
    (hf : ∀ a, x = .ok a → Ends (f a)) : Ends (x >>= f) :=
  ends_bind.mpr ⟨hx, hf⟩

/-- A step with the result at hand decides nothing. -/
theorem ends_bind_ok {x : Except Error α} {f : α → Except Error β} {a : α} (h : x = .ok a) :
    Ends (x >>= f) ↔ Ends (f a) := by
  rw [h]
  rfl

theorem ends_map {x : Except Error α} (f : α → β) :
    Ends (do return f (← x)) ↔ Ends x :=
  ends_bind.trans (and_iff_left fun _ _ => ends_ok _)

theorem ends_mapError_fault {x : Except Fault α} :
    Ends (x.mapError Error.fault) ↔ ∃ a, x = .ok a := by
  cases x with
  | ok a => exact ⟨fun _ => ⟨a, rfl⟩, fun _ => ends_ok a⟩
  | error fault => exact ⟨fun h => (nomatch h _ rfl), fun ⟨_, h⟩ => (nomatch h)⟩

/-- What is missing for one item is missing for all of them. -/
theorem mapM_eq_none {f : α → Option β} {items : List α} {a : α} (ha : a ∈ items)
    (h : f a = none) : items.mapM f = none := by
  induction items with
  | nil => cases ha
  | cons first items ih =>
      rw [List.mapM_cons]
      rcases List.mem_cons.mp ha with rfl | ha
      · rw [h]
        rfl
      · rw [ih ha]
        cases f first <;> rfl

end Outcome

open Outcome

namespace Table

variable {t u : Table}

/-- Some row has fewer cells than a number. -/
def Short (t : Table) (width : Nat) : Prop := ∃ row ∈ t.dataRows, row.length < width

/-! ## Transposing -/

/-- Transposing reads every row up to the end of the first one. -/
theorem transpose_ends_iff (t : Table) : Ends t.transpose ↔ ¬ t.Short t.columnCount := by
  constructor
  · rintro h ⟨row, hrow, hshort⟩
    have hnone : ((List.range t.columnCount).mapM fun c => t.dataRows.mapM fun row => row[c]?) =
        none :=
      mapM_eq_none (List.mem_range.mpr hshort) (mapM_eq_none hrow (List.getElem?_eq_none le_rfl))
    have hfault : t.transpose = .error (.fault .outOfRange) := by
      unfold columnCount at hnone
      unfold transpose
      split
      next hdata =>
        rw [hdata] at hrow
        cases hrow
      next first rest hdata =>
        rw [hdata] at hnone ⊢
        dsimp only at hnone ⊢
        rw [hnone]
    cases h _ hfault
  · intro h
    by_cases hdata : t.dataRows = []
    · rw [transpose, hdata]
      exact ends_error_iff.mpr rfl
    · rw [transpose_eq hdata fun row hrow => not_lt.mp fun hlt => h ⟨row, hrow, hlt⟩]
      exact ends_ok _

/-! ## Wrapping a column -/

/-- Where a row is expanded or breaks, depending on what it is like, rows are expanded if all of
them are like this. -/
theorem expandRows_ends_iff (separators : Bool)
    {expand : List String → Except Error (List (List String))} {P : List String → Prop}
    (hexpand : ∀ cells, P cells → ∃ group, expand cells = .ok group)
    (hfault : ∀ cells, ¬ P cells → ∃ fault, expand cells = .error (.fault fault))
    {rows : List Row} :
    Ends (expandRows separators expand rows) ↔ ∀ cells, Row.data cells ∈ rows → P cells := by
  induction rows with
  | nil => exact ⟨fun _ => nofun, fun _ => ends_ok _⟩
  | cons row rows ih =>
      cases row with
      | separator =>
          rw [expandRows, ends_map, ih]
          simp
      | data given =>
          rw [expandRows]
          by_cases hgiven : P given
          · obtain ⟨group, hgroup⟩ := hexpand given hgiven
            rw [ends_bind_ok hgroup, ends_map, ih]
            simp [hgiven]
          · obtain ⟨fault, hgroup⟩ := hfault given hgiven
            rw [hgroup]
            exact iff_of_false (fun h => nomatch h _ rfl) fun h =>
              hgiven (h given List.mem_cons_self)

/-- Wrapping a column reads every row up to this column, unless it refuses the column or the
width. -/
theorem narrowColumn_ends_iff (t : Table) (column width : Int) (separators : Bool) :
    Ends (t.narrowColumn column width separators) ↔
      ¬ (1 ≤ column ∧ column ≤ t.columnCount ∧ 1 ≤ width ∧ t.Short column.toNat) := by
  unfold narrowColumn
  by_cases hcolumn : column < 1 ∨ t.columnCount < column
  · rw [if_pos hcolumn]
    exact iff_of_true (ends_error_iff.mpr rfl) (by omega)
  rw [if_neg hcolumn]
  by_cases hwidth : width < 1
  · rw [if_pos hwidth]
    exact iff_of_true (ends_error_iff.mpr rfl) (by omega)
  rw [if_neg hwidth]
  refine (ends_map Table.mk).trans ((expandRows_ends_iff (P := fun cells =>
    column.toNat ≤ cells.length) separators (fun cells h => ?_) fun cells h => ?_).trans ?_)
  · split
    next => exact ⟨_, rfl⟩
    next hcell =>
      rw [nth?_eq_none_iff] at hcell
      omega
  · rw [nth?_eq_none_iff.mpr (by omega)]
    exact ⟨_, rfl⟩
  · simp only [Short, mem_dataRows]
    constructor
    · rintro h ⟨-, -, -, row, hrow, hshort⟩
      exact absurd (h row hrow) (not_le.mpr hshort)
    · intro h cells hcells
      by_contra hshort
      exact h ⟨by omega, by omega, by omega, cells, hcells, not_le.mp hshort⟩

/-! ## Flattening -/

/-- Reducing a run reads the column of it in every row that it takes. -/
theorem exists_flattenRun_iff {positions : List Nat} {column : Nat} (reduce : Reducer) :
    (∃ u, t.flattenRun positions column reduce = .ok u) ↔
      ∀ p ∈ positions, column < (t.rowAt p).length := by
  cases positions with
  | nil => exact ⟨fun _ => nofun, fun _ => ⟨t, rfl⟩⟩
  | cons start others =>
      constructor
      · rintro ⟨u, h⟩ p hp
        rw [flattenRun] at h
        obtain ⟨values, hvalues, -⟩ := Outcome.bind_eq_ok.mp h
        obtain ⟨cell, hcell⟩ := exists_mapM_iff.mp ⟨values, hvalues⟩ p
          ((List.mergeSort_perm _ _).mem_iff.mpr hp)
        by_contra hshort
        have hnone : ((t.rows[p]?.bind Row.cells?).getD [])[column]? = none :=
          List.getElem?_eq_none (not_lt.mp hshort)
        rw [hnone] at hcell
        cases hcell
      · intro h
        obtain ⟨u, hu, -⟩ := flattenRun_ok h reduce
        exact ⟨u, hu⟩

theorem exists_flattenRuns_iff {start : Nat} {reduce : Reducer} {runs : List (Nat × Int)} :
    (∃ result, flattenRuns start reduce t runs = .ok result) ↔
      ∀ run ∈ runs, ∀ p ∈ t.run start run.2, run.1 - 1 < (t.rowAt p).length := by
  induction runs generalizing t with
  | nil => exact ⟨fun _ => nofun, fun _ => ⟨(t, []), rfl⟩⟩
  | cons run runs ih =>
      obtain ⟨column, count⟩ := run
      rw [List.forall_mem_cons, ← exists_flattenRun_iff reduce]
      constructor
      · rintro ⟨result, h⟩
        rw [flattenRuns] at h
        obtain ⟨next, hnext, h⟩ := Outcome.bind_eq_ok.mp h
        obtain ⟨rest, hrest, -⟩ := Outcome.bind_eq_ok.mp h
        have hshape := shape_flattenRun hnext
        have hmore := ih.mp ⟨rest, hrest⟩
        simp only [run_of_shape hshape, length_rowAt_of_shape hshape] at hmore
        exact ⟨⟨next, hnext⟩, hmore⟩
      · rintro ⟨⟨next, hnext⟩, hmore⟩
        have hshape := shape_flattenRun hnext
        simp only [← run_of_shape hshape, ← length_rowAt_of_shape hshape] at hmore
        obtain ⟨⟨v, others⟩, hrest⟩ := ih.mpr hmore
        exact ⟨_, Outcome.bind_eq_ok.mpr ⟨next, hnext, Outcome.bind_eq_ok.mpr ⟨_, hrest, rfl⟩⟩⟩

/-- One of the runs from a position takes a row that does not reach as far as the column of the
run. -/
def RunsShort (t : Table) (columns : List Nat) (counts : List Value) (start : Nat) : Prop :=
  ∃ column count n, (column, count) ∈ columns.zip counts ∧ t.resolveCount start count = .ok n ∧
    ∃ p ∈ t.run start n, (t.rowAt p).length < column

section Steps

variable {columns : List Nat} {counts : List Value} {reduce : Reducer}

theorem flattenStep_ends_iff (hcolumns : ∀ column ∈ columns, 1 ≤ column)
    (hcounts : ∀ count ∈ counts, IsCount count) (start : Nat) :
    Ends (t.flattenStep columns counts start reduce) ↔ ¬ t.RunsShort columns counts start := by
  have hresolve : ∀ count ∈ counts, ∃ n, t.resolveCount start count = .ok n := by
    obtain ⟨resolved, hresolved⟩ := t.exists_mapM_resolveCount start hcounts
    exact exists_mapM_iff.mp ⟨resolved, hresolved⟩
  choose! resolved hresolved using hresolve
  unfold flattenStep
  rw [ends_bind_ok (Outcome.mapM_eq_ok hresolved)]
  refine (ends_bind.trans (and_iff_left fun _ _ => ends_ok _)).trans ?_
  rw [ends_mapError_fault, exists_flattenRuns_iff, List.zip_map_right]
  simp only [List.forall_mem_map, Prod.map_fst, Prod.map_snd, id_eq]
  constructor
  · rintro h ⟨column, count, n, hmem, hn, p, hp, hshort⟩
    rw [hresolved count (List.of_mem_zip hmem).2] at hn
    cases hn
    have := h _ hmem p hp
    omega
  · rintro h ⟨column, count⟩ hmem p hp
    by_contra hshort
    have hcolumn := hcolumns column (List.of_mem_zip hmem).1
    dsimp only at hshort
    exact h ⟨column, count, _, hmem, hresolved count (List.of_mem_zip hmem).2, p, hp, by omega⟩

variable (columns counts reduce) in
/-- A flattening comes to such a run, in its first step or in one of those after it. -/
inductive FlattensShort : Nat → Table → Nat → Prop
  | now {repetitions : Nat} {t : Table} {start : Nat} (h : t.RunsShort columns counts start) :
      FlattensShort (repetitions + 1) t start
  | later {repetitions : Nat} {t u : Table} {start next : Nat}
      (hstep : t.flattenStep columns counts start reduce = .ok (u, some next))
      (h : FlattensShort repetitions u next) : FlattensShort (repetitions + 1) t start

theorem flattenSteps_ends_iff (hcolumns : ∀ column ∈ columns, 1 ≤ column)
    (hcounts : ∀ count ∈ counts, IsCount count) (repetitions : Nat) (start : Nat) :
    Ends (flattenSteps columns counts reduce repetitions t start) ↔
      ¬ FlattensShort columns counts reduce repetitions t start := by
  induction repetitions generalizing t start with
  | zero => exact ⟨fun _ h => (nomatch h), fun _ => ends_ok _⟩
  | succ repetitions ih =>
      rw [flattenSteps, ends_bind, flattenStep_ends_iff hcolumns hcounts]
      constructor
      · rintro ⟨hnow, hlater⟩ h
        cases h with
        | now h => exact hnow h
        | later hstep h => exact (ih _).mp (hlater _ hstep) h
      · intro h
        refine ⟨fun hnow => h (.now hnow), ?_⟩
        rintro ⟨u, _ | next⟩ hstep
        · exact ends_ok _
        · exact (ih next).mpr fun hlater => h (.later hstep hlater)

end Steps

/-- A flattening that is not refused comes to a row that lacks one of its columns. -/
def FlatteningShort (t : Table) (line column : Int) (counts : Value) (columnCount : Option Int)
    (reduce : Reducer) (repetitions : Int) : Prop :=
  let columns := columnSpan column columnCount t.columnCount
  1 ≤ column ∧ column ≤ t.columnCount ∧
    ∃ given start, spanCounts columns.length counts = .ok given ∧ t.positionOf line = .ok start ∧
      FlattensShort columns given reduce (max 1 repetitions).toNat t start

theorem spanCounts_ends (columns : Nat) (counts : Value) : Ends (spanCounts columns counts) := by
  have hcheck (given : List Value) : Ends (if given.length = columns then .ok given
      else .error (.parse (.wrongCounts given.length columns counts)) :
        Except Error (List Value)) := by
    split
    · exact ends_ok _
    · exact ends_error_iff.mpr rfl
  unfold spanCounts
  split
  · exact hcheck _
  · exact hcheck _
  · exact ends_ok _

theorem shape_flattenRuns {start : Nat} {reduce : Reducer} {runs : List (Nat × Int)}
    {consumed : List Nat} (h : flattenRuns start reduce t runs = .ok (u, consumed)) :
    u.shape = t.shape := by
  induction runs generalizing t consumed with
  | nil =>
      cases h
      rfl
  | cons run runs ih =>
      rw [flattenRuns] at h
      obtain ⟨next, hnext, h⟩ := Outcome.bind_eq_ok.mp h
      obtain ⟨⟨v, others⟩, hrest, h⟩ := Outcome.bind_eq_ok.mp h
      cases h
      exact (ih hrest).trans (shape_flattenRun hnext)

/-- A flattening adds no short rows. -/
theorem short_of_flattenStep {columns : List Nat} {counts : List Value} {reduce : Reducer}
    {start width : Nat} {next : Option Nat}
    (hstep : t.flattenStep columns counts start reduce = .ok (u, next)) (h : u.Short width) :
    t.Short width := by
  obtain ⟨resolved, -, hstep⟩ := Outcome.bind_eq_ok.mp hstep
  obtain ⟨⟨flat, consumed⟩, hflat, hstep⟩ := Outcome.bind_eq_ok.mp hstep
  have hshape := shape_flattenRuns (Outcome.mapError_eq_ok.mp hflat)
  cases hstep
  obtain ⟨row, hrow, hshort⟩ := h
  rw [dataRows_dropRows] at hrow
  obtain ⟨p, hp, rfl⟩ := List.mem_map.mp hrow
  have hp := (List.mem_filter.mp hp).1
  rw [dataPositions_of_shape hshape] at hp
  rw [length_rowAt_of_shape hshape] at hshort
  exact ⟨t.rowAt p, rowAt_mem_dataRows hp, hshort⟩

theorem mem_dataPositions_of_mem_run {start p : Nat} {count : Int} (h : p ∈ t.run start count) :
    p ∈ t.dataPositions := by
  obtain ⟨above, body, below, hpositions, hperm⟩ := t.exists_run start count
  simp [hpositions, hperm.mem_iff.mp h]

theorem FlattensShort.short {columns : List Nat} {counts : List Value} {reduce : Reducer}
    {width repetitions start : Nat} (hcolumns : ∀ column ∈ columns, column ≤ width)
    (h : FlattensShort columns counts reduce repetitions t start) : t.Short width := by
  induction h with
  | now h =>
      obtain ⟨column, count, n, hmem, -, p, hp, hshort⟩ := h
      exact ⟨_, rowAt_mem_dataRows (mem_dataPositions_of_mem_run hp),
        hshort.trans_le (hcolumns column (List.of_mem_zip hmem).1)⟩
  | later hstep _ ih => exact short_of_flattenStep hstep ih

/-- Only a table with a row that is shorter than the first one fails to be flattened. -/
theorem FlatteningShort.short {line column : Int} {counts : Value} {columnCount : Option Int}
    {reduce : Reducer} {repetitions : Int}
    (h : t.FlatteningShort line column counts columnCount reduce repetitions) :
    t.Short t.columnCount := by
  obtain ⟨hfirst, hlast, given, start, -, -, h⟩ := h
  exact h.short fun c hc => (mem_columnSpan ⟨hfirst, hlast⟩ hc).2

/-- Flattening reads the columns of its runs in every row that these take, unless it refuses the
start or the counts. -/
theorem flattenColumns_ends_iff (t : Table) (line column : Int) {counts : Value}
    (hcounts : ∀ columns given, spanCounts columns counts = .ok given →
      ∀ count ∈ given, IsCount count)
    (columnCount : Option Int) (reduce : Reducer) (repetitions : Int) :
    Ends (t.flattenColumns line column counts columnCount (.ok reduce) repetitions) ↔
      ¬ t.FlatteningShort line column counts columnCount reduce repetitions := by
  unfold flattenColumns FlatteningShort
  by_cases hcolumn : 1 ≤ column ∧ column ≤ t.columnCount
  swap
  · rw [checkColumn, if_neg hcolumn]
    exact iff_of_true (ends_error_iff.mpr rfl) fun h => hcolumn ⟨h.1, h.2.1⟩
  rw [checkColumn, if_pos hcolumn, ends_bind_ok rfl]
  dsimp only
  cases hgiven : spanCounts (columnSpan column columnCount t.columnCount).length counts with
  | error e =>
      refine iff_of_true ?_ ?_
      · have := spanCounts_ends (columnSpan column columnCount t.columnCount).length counts
        rw [hgiven] at this
        exact ends_bind.mpr ⟨this, fun given h => by cases h⟩
      · rintro ⟨-, -, given, start, h, -⟩
        cases h
  | ok given =>
      rw [ends_bind_ok rfl, ends_bind_ok rfl, startPosition]
      cases hstart : t.positionOf line with
      | error fault =>
          refine iff_of_true (ends_error_iff.mpr rfl) ?_
          rintro ⟨-, -, given, start, -, h, -⟩
          cases h
      | ok start =>
          have hspan : ∀ c ∈ columnSpan column columnCount t.columnCount, 1 ≤ c :=
            fun c hc => (mem_columnSpan hcolumn hc).1
          refine (flattenSteps_ends_iff hspan (hcounts _ given hgiven) _ start).trans ?_
          simp [hcolumn]

end Table

/-! ## Narrowing -/

namespace Narrow

variable {t : Table} {maxWidth : Int} {fixedColumns : List Int} {solve : Solver} {p : Plan}

/-- What narrowing cannot cope with: a refusal that would state a fixed column of too many digits,
rows of different lengths, and a planning that breaks. -/
inductive Collapses (t : Table) (maxWidth : Int) (fixedColumns : List Int) (solve : Solver) : Prop
  | outside {c : Int}
      (hc : (ascending fixedColumns).find? (fun c => c < 1 ∨ (t.columnCount : Int) < c) = some c)
      (hlong : Unstatable [c])
  | uneven (hfixed : ∀ c ∈ fixedColumns, 1 ≤ c ∧ c ≤ t.columnCount) (h : ¬ t.Rectangular)
  | planning (hfixed : ∀ c ∈ fixedColumns, 1 ≤ c ∧ c ≤ t.columnCount) (hrect : t.Rectangular)
      (h : Breaks t maxWidth fixedColumns solve)

theorem isExpected_of_isNarrowing {e : Error} (h : e.isNarrowing = true) :
    Output.isExpected e = true := by
  cases e <;> first | rfl | cases h

theorem draft_outside (hdata : t.dataRows ≠ []) {c : Int}
    (hc : (ascending fixedColumns).find? (fun c => c < 1 ∨ (t.columnCount : Int) < c) = some c) :
    draft t maxWidth fixedColumns =
      .error (stating [c] (.precondition (.fixedOutside c t.columnCount))) := by
  have hrows : t.dataRows.isEmpty = false := by simpa using hdata
  unfold draft
  simp only [hrows, hc]
  rfl

theorem draft_uneven (hdata : t.dataRows ≠ [])
    (hfixed : ∀ c ∈ fixedColumns, 1 ≤ c ∧ c ≤ t.columnCount) (h : ¬ t.Rectangular) :
    draft t maxWidth fixedColumns = .error (.fault .badValue) := by
  have hrows : t.dataRows.isEmpty = false := by simpa using hdata
  have hlengths : cellLengths? t.dataRows t.columnCount = none := by
    rw [cellLengths?, if_neg]
    intro hall
    exact h fun row hrow => of_decide_eq_true (List.all_eq_true.mp hall row hrow)
  unfold draft
  simp only [hrows, find?_fixedOutside hfixed, hlengths]
  rfl

theorem plan_of_draft_error (solve : Solver) {e : Error}
    (h : draft t maxWidth fixedColumns = .error e) :
    plan t maxWidth fixedColumns (some solve) = .error e := by
  rw [plan, h]
  rfl

theorem Collapses.plan_eq (h : Collapses t maxWidth fixedColumns solve) (hdata : t.dataRows ≠ []) :
    ∃ fault, plan t maxWidth fixedColumns (some solve) = .error (.fault fault) := by
  cases h with
  | outside hc hlong =>
      refine ⟨.badValue, plan_of_draft_error solve ?_⟩
      rw [draft_outside hdata hc, stating_eq_fault _ hlong]
  | uneven hfixed huneven =>
      exact ⟨.badValue, plan_of_draft_error solve (draft_uneven hdata hfixed huneven)⟩
  | planning hfixed hrect hbreaks => exact plan_of_breaks hrect hdata hfixed hbreaks

/-- A plan that is accepted can be carried out. -/
theorem Accepted.exists_applyPlan (hrect : t.Rectangular)
    (h : Accepted t maxWidth fixedColumns solve p) (hcounts : t.dataRows.length ≤ p.rows.length)
    (separators : Bool) : ∃ result, t.applyPlan p separators = .ok result := by
  have hgroup : ∀ pair ∈ t.dataRows.zip p.rows,
      ∃ group, Table.planGroup p.widths pair.2 pair.1 = .ok group := by
    intro pair hpair
    obtain ⟨hrow, hlines⟩ := List.of_mem_zip hpair
    by_cases hone : pair.2 ≤ 1
    · exact ⟨_, Table.planGroup_of_le hone⟩
    · exact ⟨_, Table.planGroup_eq ((hrect _ hrow).trans h.length_widths.symm) (by omega)
        (h.widths_ne_nil _ hlines (by omega))⟩
  obtain ⟨out, hout⟩ := (Table.exists_layRows_iff separators hcounts).mpr hgroup
  exact ⟨⟨out⟩, by rw [Table.applyPlan, hout]; rfl⟩

/-- With a solver whose refusals a command reports and whose answers have the extents asked for,
planning ends as it should or makes a plan that can be carried out. -/
theorem plan_ends (hrect : t.Rectangular) (hdata : t.dataRows ≠ [])
    (hfixed : ∀ c ∈ fixedColumns, 1 ≤ c ∧ c ≤ t.columnCount)
    (hrefusal : ∀ request, Ends (solve request))
    (hextent : ∀ request response, solve request = .ok response →
      response.widths.length = request.columns ∧ response.rows.length = request.rows)
    (h : ¬ Breaks t maxWidth fixedColumns solve) :
    Ends (plan t maxWidth fixedColumns (some solve)) ∧
      ∀ p, plan t maxWidth fixedColumns (some solve) = .ok p →
        t.dataRows.length ≤ p.rows.length := by
  have hsettled (hplan : Settled t maxWidth (plan t maxWidth fixedColumns (some solve))) :
      Ends (plan t maxWidth fixedColumns (some solve)) ∧
        ∀ p, plan t maxWidth fixedColumns (some solve) = .ok p →
          t.dataRows.length ≤ p.rows.length := by
    constructor
    · intro e he
      rw [he] at hplan
      exact isExpected_of_isNarrowing hplan
    · intro p hp
      rw [hp] at hplan
      exact hplan.length_rows.ge
  by_cases hasks : Asks t maxWidth fixedColumns
  swap
  · exact hsettled (plan_settles_unasked hrect hdata hfixed hasks h)
  cases hanswer : solve (requestOf t maxWidth fixedColumns) with
  | error e =>
      have hends := hrefusal (requestOf t maxWidth fixedColumns)
      rw [plan_eq_of_asks hrect hdata hfixed hasks, hanswer]
      rw [hanswer] at hends
      exact ⟨hends.bind nofun, fun p hp => nomatch hp⟩
  | ok response =>
      obtain ⟨hwidths, hcounts⟩ := hextent _ _ hanswer
      exact hsettled
        (plan_settles_answered hrect hdata hfixed hasks hanswer hwidths hcounts h)

end Narrow

/-- Narrowing with such a solver reads all rows as far as the first one, and no further. -/
theorem Table.narrow_ends_iff (t : Table) (maxWidth : Int) (fixedColumns : List Int)
    (separators : Bool) {solve : Narrow.Solver} (hrefusal : ∀ request, Ends (solve request))
    (hextent : ∀ request response, solve request = .ok response →
      response.widths.length = request.columns ∧ response.rows.length = request.rows) :
    Ends (t.narrow maxWidth fixedColumns separators (some solve)) ↔
      ¬ (t.dataRows ≠ [] ∧ Narrow.Collapses t maxWidth fixedColumns solve) := by
  rw [narrow]
  by_cases hdata : t.dataRows = []
  · have hplan : Narrow.plan t maxWidth fixedColumns (some solve) =
        .error (.emptyTable "narrow_table") :=
      Narrow.plan_of_draft_error solve (by rw [Narrow.draft, hdata]; rfl)
    rw [hplan]
    exact iff_of_true (ends_error_iff.mpr rfl) fun h => h.1 hdata
  constructor
  · rintro h ⟨-, hcollapses⟩
    obtain ⟨fault, hfault⟩ := hcollapses.plan_eq hdata
    cases (ends_bind.mp h).1 _ hfault
  · intro h
    have hcopes : ¬ Narrow.Collapses t maxWidth fixedColumns solve := fun hc => h ⟨hdata, hc⟩
    cases hfind : (Narrow.ascending fixedColumns).find? fun c =>
        c < 1 ∨ (t.columnCount : Int) < c with
    | some c =>
        rw [Narrow.plan_of_draft_error solve (Narrow.draft_outside hdata hfind),
          Narrow.stating_eq_self _ fun hlong => hcopes (.outside hfind hlong)]
        exact ends_error_iff.mpr rfl
    | none =>
        have hfixed : ∀ c ∈ fixedColumns, 1 ≤ c ∧ c ≤ t.columnCount := by
          intro c hc
          have := List.find?_eq_none.mp hfind c (Narrow.mem_ascending.mpr hc)
          simp only [decide_eq_true_eq] at this
          omega
        have hrect : t.Rectangular := by
          by_contra huneven
          exact hcopes (.uneven hfixed huneven)
        obtain ⟨hplan, hcounts⟩ := Narrow.plan_ends hrect hdata hfixed hrefusal hextent
          fun hbreaks => hcopes (.planning hfixed hrect hbreaks)
        refine hplan.bind fun p hp => ?_
        obtain ⟨result, hresult⟩ := (Narrow.plan_ok hrect hp).2.2.exists_applyPlan hrect
          (hcounts p hp) separators
        rw [hresult]
        exact ends_ok result

end PipeTable
