import Mathlib
import PipeTable.Proofs.Folding

/-! # Runs of data rows flattened one by one

Separators cut a table into runs of data rows.  Flattening all columns without a count of rows folds
the run that it starts from into one row and goes on at the first row of the next run, so that with
enough repetitions every run becomes a single row and the separators stay where they are.
-/

namespace PipeTable.Table

/-! ## Runs -/

/-- The rows cut into separators, each alone, and longest runs of data rows. -/
def stretches (rows : List Row) : List (List Row) :=
  rows.splitBy fun above below => above.isData && below.isData

/-- The number of longest runs of data rows. -/
def countRuns (rows : List Row) : Nat :=
  (stretches rows).countP fun stretch => stretch.any Row.isData

/-- The rows with each longest run of data rows replaced by one row that is made of it. -/
def foldRuns (fold : List (List String) → List String) (rows : List Row) : List Row :=
  (stretches rows).map fun stretch => match stretch.filterMap Row.cells? with
    | [] => .separator
    | group => .data (fold group)

section Stretches

variable (fold : List (List String) → List String) {group : List (List String)}
  {rows after : List Row}

theorem stretches_separator (rows : List Row) :
    stretches (.separator :: rows) = [.separator] :: stretches rows :=
  List.splitBy_append (l := [Row.separator]) fun row hrow other _ => by
    obtain rfl : Row.separator = row := by simpa using hrow
    rfl

/-- A run that no data row follows is a stretch of its own. -/
theorem stretches_group (hne : group ≠ []) (hafter : ∀ row ∈ after.head?, row.isData = false) :
    stretches (group.map .data ++ after) = group.map .data :: stretches after := by
  have hchain : (group.map Row.data).IsChain fun above below => above.isData && below.isData :=
    (List.pairwise_map.mpr (List.pairwise_of_forall fun _ _ => rfl)).isChain
  rw [stretches, List.splitBy_append, List.splitBy_of_isChain (by simpa using hne) hchain]
  · rfl
  · intro row _ other hother
    rw [hafter other hother, Bool.and_false]

theorem foldRuns_separators (k : Nat) (rows : List Row) :
    foldRuns fold (List.replicate k .separator ++ rows) =
      List.replicate k .separator ++ foldRuns fold rows := by
  induction k with
  | zero => rfl
  | succ k ih =>
      rw [List.replicate_succ, List.cons_append, foldRuns, stretches_separator, List.map_cons]
      exact congrArg _ ih

theorem foldRuns_group (hne : group ≠ []) (hafter : ∀ row ∈ after.head?, row.isData = false) :
    foldRuns fold (group.map .data ++ after) = .data (fold group) :: foldRuns fold after := by
  obtain ⟨first, below, rfl⟩ := List.exists_cons_of_ne_nil hne
  rw [foldRuns, stretches_group hne hafter, List.map_cons, filterMap_cells_map_data]
  rfl

theorem countRuns_separators (k : Nat) (rows : List Row) :
    countRuns (List.replicate k .separator ++ rows) = countRuns rows := by
  induction k with
  | zero => rfl
  | succ k ih =>
      rw [List.replicate_succ, List.cons_append, countRuns, stretches_separator]
      exact ih

theorem countRuns_group (hne : group ≠ []) (hafter : ∀ row ∈ after.head?, row.isData = false) :
    countRuns (group.map .data ++ after) = countRuns after + 1 := by
  obtain ⟨first, below, rfl⟩ := List.exists_cons_of_ne_nil hne
  rw [countRuns, stretches_group hne hafter, List.countP_cons_of_pos rfl]
  rfl

/-- Rows are separators only, or separators up to a run of data rows. -/
theorem exists_run_ahead (rows : List Row) :
    (∃ k, rows = List.replicate k .separator) ∨
      ∃ k group after, group ≠ [] ∧ (∀ row ∈ after.head?, row.isData = false) ∧
        rows = List.replicate k .separator ++ (group.map .data ++ after) := by
  induction rows with
  | nil => exact .inl ⟨0, rfl⟩
  | cons row rows ih =>
      cases row with
      | separator =>
          refine ih.imp ?_ ?_
          · rintro ⟨k, rfl⟩
            exact ⟨k + 1, rfl⟩
          · rintro ⟨k, group, after, hne, hafter, rfl⟩
            exact ⟨k + 1, group, after, hne, hafter, rfl⟩
      | data cells =>
          refine .inr ?_
          rcases ih with ⟨k, rfl⟩ | ⟨k, group, after, hne, hafter, rfl⟩
          · refine ⟨0, [cells], _, List.cons_ne_nil _ _, fun row hrow => ?_, rfl⟩
            rw [List.eq_of_mem_replicate (List.mem_of_mem_head? hrow)]
            rfl
          · cases k with
            | zero => exact ⟨0, cells :: group, after, List.cons_ne_nil _ _, hafter, rfl⟩
            | succ k =>
                refine ⟨0, [cells], _, List.cons_ne_nil _ _, fun row hrow => ?_, rfl⟩
                obtain rfl : Row.separator = row := by simpa using hrow
                rfl

theorem positionsFrom_separators (start k : Nat) (rows : List Row) :
    positionsFrom start (List.replicate k .separator ++ rows) = positionsFrom (start + k) rows := by
  induction k generalizing start with
  | zero => rfl
  | succ k ih =>
      rw [List.replicate_succ, List.cons_append, positionsFrom, ih, Nat.add_assoc, Nat.add_comm 1]

end Stretches

/-! ## Going from run to run -/

section Steps

variable {reduce : Reducer} {width : Nat} {fold : List (List String) → List String}

/-- Down to the separator or the end after a run there are the rows of the run. -/
theorem resolveCount_run (before : List Row) {group : List (List String)} {after : List Row}
    (hafter : ∀ row ∈ after.head?, row.isData = false) :
    resolveCount ⟨before ++ group.map Row.data ++ after⟩ before.length .none =
      .ok group.length := by
  have hall : ∀ row ∈ group.map Row.data, row.isData = true := by
    intro row hrow
    obtain ⟨cells, -, rfl⟩ := List.mem_map.mp hrow
    rfl
  have hstop : after.takeWhile Row.isData = [] := by
    cases after with
    | nil => rfl
    | cons row after => exact List.takeWhile_cons_of_neg (by simp [hafter row rfl])
  have hrows : rowsUntilSeparator ⟨before ++ group.map Row.data ++ after⟩ before.length =
      group.length := by
    rw [rowsUntilSeparator, List.append_assoc, List.drop_left, List.takeWhile_append_of_pos hall,
      hstop, List.append_nil, List.length_map]
  rw [resolveCount, hrows]
  rfl

/-- From the first row of a run on, the run and all runs below it are folded, if there are as many
repetitions. -/
theorem flattenSteps_runs (hpos : 0 < width)
    (hfold : ∀ group, (∀ row ∈ group, row.length = width) →
      (fold group).length = width ∧ Folds reduce (fold group) group)
    (repetitions : Nat) (before : List Row) {group : List (List String)} {after : List Row}
    (hne : group ≠ []) (hafter : ∀ row ∈ after.head?, row.isData = false)
    (hwide : ∀ cells, Row.data cells ∈ group.map .data ++ after → cells.length = width)
    (hcount : countRuns (group.map .data ++ after) ≤ repetitions) :
    flattenSteps ((List.range width).map (· + 1)) (List.replicate width .none) reduce repetitions
        ⟨before ++ group.map Row.data ++ after⟩ before.length =
      .ok ⟨before ++ foldRuns fold (group.map .data ++ after)⟩ := by
  rw [countRuns_group hne hafter] at hcount
  -- the rows that are done already move into the part before
  induction repetitions generalizing before group after with
  | zero => omega
  | succ repetitions ih =>
      obtain ⟨first, below, rfl⟩ := List.exists_cons_of_ne_nil hne
      obtain ⟨hlength, hfolds⟩ := hfold (first :: below) fun row hrow =>
        hwide row (List.mem_append_left _ (List.mem_map_of_mem hrow))
      have hstep := flattenStep_group before after hfolds (by omega)
        (resolveCount_run before hafter)
      rw [hlength] at hstep
      rw [foldRuns_group fold hne hafter]
      rcases exists_run_ahead after with ⟨k, rfl⟩ | ⟨k, next, rest, hnext, hrest, rfl⟩
      · -- only separators are left
        have hpositions := positionsFrom_separators (before.length + 1) k []
        have hseparators := foldRuns_separators fold k []
        rw [List.append_nil] at hpositions hseparators
        rw [hpositions] at hstep
        rw [flattenSteps_last hstep, hseparators, show foldRuns fold [] = [] from rfl,
          List.append_nil]
      · -- the next run starts past the row that this one has become and the separators
        have hhead : (positionsFrom (before.length + 1)
            (List.replicate k .separator ++ (next.map .data ++ rest))).head? =
              some (before.length + 1 + k) := by
          obtain ⟨head, tail, rfl⟩ := List.exists_cons_of_ne_nil hnext
          rw [positionsFrom_separators]
          rfl
        rw [countRuns_separators, countRuns_group hnext hrest] at hcount
        have hlater := ih
          (before ++ .data (fold (first :: below)) :: List.replicate k .separator) hnext hrest
          (fun cells hcells => hwide cells (by simp [hcells])) (by omega)
        rw [hhead] at hstep
        rw [flattenSteps_next hstep, foldRuns_separators]
        simpa [Nat.add_assoc, Nat.add_comm 1] using hlater

end Steps

/-! ## From the first line on -/

variable {t : Table} {reduce : Reducer} {fold : List (List String) → List String}

/-- A table that has columns has a first run, below separators only. -/
theorem exists_first_run (hcolumns : 0 < t.columnCount) :
    ∃ k group after, group ≠ [] ∧ (∀ row ∈ after.head?, row.isData = false) ∧
      t.rows = List.replicate k .separator ++ (group.map .data ++ after) := by
  rcases exists_run_ahead t.rows with ⟨k, hrows⟩ | hrun
  · have hnone : t.dataRows = [] := by
      rw [dataRows, hrows, List.filterMap_replicate_of_none rfl]
    rw [columnCount, hnone] at hcolumns
    exact absurd hcolumns (Nat.lt_irrefl 0)
  · exact hrun

/-- Flattening all columns from the first line without a count of rows folds every run of data rows,
if it is repeated for each of them. -/
theorem flattenColumns_folds (hrect : t.Rectangular) (hcolumns : 0 < t.columnCount)
    (hfold : ∀ group, (∀ row ∈ group, row.length = t.columnCount) →
      (fold group).length = t.columnCount ∧ Folds reduce (fold group) group)
    {columns : Option Int} (hall : ∀ n ∈ columns, (t.columnCount : Int) ≤ n) {repetitions : Int}
    (hcount : (countRuns t.rows : Int) ≤ repetitions) :
    t.flattenColumns 1 1 .none columns (.ok reduce) repetitions = .ok ⟨foldRuns fold t.rows⟩ := by
  obtain ⟨k, group, after, hne, hafter, hrows⟩ := exists_first_run hcolumns
  have htable : (⟨List.replicate k .separator ++ group.map Row.data ++ after⟩ : Table) = t := by
    rw [List.append_assoc, ← hrows]
  have hgiven : spanCounts (columnSpan 1 columns t.columnCount).length .none =
      .ok (List.replicate t.columnCount .none) := by
    rw [columnSpan_all hall, List.length_map, List.length_range]
    rfl
  have hstart : t.startPosition "flatten_columns" 1 = .ok k := by
    have hmiddle := startPosition_middle (List.replicate k .separator) after group
      "flatten_columns" hne
    rw [htable, List.filterMap_replicate_of_none rfl, List.length_replicate] at hmiddle
    exact hmiddle
  have hsteps := flattenSteps_runs hcolumns hfold (max 1 repetitions).toNat
    (List.replicate k .separator) hne hafter
    (fun cells hcells => hrect cells (mem_dataRows.mpr (hrows ▸ List.mem_append_right _ hcells)))
    (by
      rw [hrows, countRuns_separators] at hcount
      omega)
  rw [htable, List.length_replicate, ← foldRuns_separators, ← hrows] at hsteps
  rw [flattenColumns_eq (by omega) hgiven hstart, columnSpan_all hall, hsteps]

/-- The cells of some rows joined column by column: those that are not empty when they are stripped,
with single blanks between them. -/
def joinedCells (width : Nat) (group : List (List String)) : List String :=
  (List.range width).map fun c =>
    " ".intercalate ((group.map fun row => Text.strip (row.getD c "")).filter (· != ""))

theorem joinedCells_folds {width : Nat} {group : List (List String)}
    (hwide : ∀ row ∈ group, row.length = width) :
    (joinedCells width group).length = width ∧
      Folds Reduction.join.apply (joinedCells width group) group := by
  have hlength : (joinedCells width group).length = width := by simp [joinedCells]
  refine ⟨hlength, fun row hrow => (hwide row hrow).trans hlength.symm, fun c hc => ?_⟩
  rw [List.getD_eq_getElem _ _ hc]
  simp only [joinedCells, List.getElem_map, List.getElem_range]
  rfl

/-- Flattening all columns with `join` from the first line on, without a count of rows and at least as
often as there are runs of data rows, replaces each run by one row with its cells joined column by
column, and leaves all separators where they are. -/
theorem flattenColumns_joins_runs (hrect : t.Rectangular) (hcolumns : 0 < t.columnCount)
    {columns : Option Int} (hall : ∀ n ∈ columns, (t.columnCount : Int) ≤ n) {repetitions : Int}
    (hcount : (countRuns t.rows : Int) ≤ repetitions) :
    t.flattenColumns 1 1 .none columns (Reduction.ofValue (.text "join")) repetitions =
      .ok ⟨foldRuns (joinedCells t.columnCount) t.rows⟩ :=
  flattenColumns_folds hrect hcolumns (fun _ hwide => joinedCells_folds hwide) hall hcount

/-- Runs of two rows, of a blank one and of three, below and between separators. -/
theorem flattenColumns_joins_uneven_runs :
    let t : Table := ⟨[.separator, .data ["a ", "1"], .data [" b", ""], .separator, .separator,
      .data ["", " "], .separator, .data ["c", "2"], .data ["", "3"], .data ["d  e", ""]]⟩
    (t.Rectangular ∧ 0 < t.columnCount ∧ (∀ n ∈ (none : Option Int), (t.columnCount : Int) ≤ n) ∧
      (countRuns t.rows : Int) ≤ 3) ∧
    t.flattenColumns 1 1 .none none (Reduction.ofValue (.text "join")) 3 =
      .ok ⟨[.separator, .data ["a b", "1"], .separator, .separator, .data ["", ""], .separator,
        .data ["c d  e", "2 3"]]⟩ := by
  intro t
  have hrect : t.Rectangular := by decide
  have hcolumns : 0 < t.columnCount := by decide
  have hall : ∀ n ∈ (none : Option Int), (t.columnCount : Int) ≤ n := nofun
  have hcount : (countRuns t.rows : Int) ≤ 3 := by decide
  exact ⟨⟨hrect, hcolumns, hall, hcount⟩, flattenColumns_joins_runs hrect hcolumns hall hcount⟩

end PipeTable.Table
