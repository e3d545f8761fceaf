import Mathlib
import PipeTable.Proofs.Positions
import PipeTable.Proofs.Words

/-! # Flattening keeps what a column says

A reading of cells gives each of them a list: its words, or its characters without the blanks at the
ends.  If the reading of what a reducer makes of a run is that of the run from top to bottom, then
flattening keeps the reading of every column, whichever way its runs go and however often it is
repeated.
-/

namespace PipeTable

/-- The reading of what the reducer makes of stripped cells is that of the cells one after the
other, and blanks are not read. -/
structure Reducer.Keeps {α : Type} (reduce : Reducer) (reading : String → List α) : Prop where
  empty : reading "" = []
  strip : ∀ cell, reading (Text.strip cell) = reading cell
  reduced : ∀ cells : List String,
    reading (reduce (cells.map Text.strip)).shown = cells.flatMap reading

namespace Table

variable {α : Type} {t u : Table} {reduce : Reducer} {reading : String → List α}

/-- The reading of the cells of a column, counted from zero, from top to bottom. -/
def readColumn (t : Table) (reading : String → List α) (column : Nat) : List α :=
  t.dataRows.flatMap fun row => reading (row.getD column "")

theorem readColumn_eq (t : Table) (reading : String → List α) (column : Nat) :
    t.readColumn reading column =
      t.dataPositions.flatMap fun p => reading ((t.rowAt p).getD column "") := by
  rw [readColumn, dataRows_eq_map, List.flatMap_map]

/-! ## Runs -/

/-- An ascending list is cut in two by a condition that only its first items meet. -/
theorem filter_append_filter_not {items : List Nat} {p q : Nat → Bool} (hnot : ∀ a, q a = !p a)
    (hp : ∀ a b, a < b → p b = true → p a = true) (hsorted : items.Pairwise (· < ·)) :
    items.filter p ++ items.filter q = items := by
  obtain rfl : q = fun a => !p a := funext hnot
  induction items with
  | nil => rfl
  | cons a items ih =>
      obtain ⟨ha, hsorted⟩ := List.pairwise_cons.mp hsorted
      by_cases hpa : p a = true
      · simp [hpa, ih hsorted]
      · -- what comes after the first item that fails the condition fails it too
        have hnone : ∀ b ∈ items, p b = false := by
          intro b hb
          by_contra hpb
          exact hpa (hp a b (ha b hb) (by simpa using hpb))
        have hfirst : items.filter p = [] := by
          simpa [List.filter_eq_nil_iff] using hnone
        have hlast : (items.filter fun b => !p b) = items := by
          simpa [List.filter_eq_self] using hnone
        simp [hpa, hfirst, hlast]

/-- A run takes neighbouring data rows. -/
theorem exists_run (t : Table) (start : Nat) (count : Int) :
    ∃ above body below, t.dataPositions = above ++ body ++ below ∧
      (t.run start count).Perm body := by
  have hsorted := t.pairwise_dataPositions
  unfold run
  split
  · have hcut := filter_append_filter_not (p := fun p => p < start) (q := fun p => start ≤ p)
      (fun _ => by simp [← decide_not]) (fun _ _ => by simp; omega) hsorted
    refine ⟨t.dataPositions.filter fun p => p < start, _,
      (t.dataPositions.filter fun p => start ≤ p).drop (max 1 count.natAbs), ?_, .refl _⟩
    rw [List.append_assoc, List.take_append_drop, hcut]
  · -- an upward run takes its rows from the start on, so its order is the reverse of the table's
    have hcut := filter_append_filter_not (p := fun p => p ≤ start) (q := fun p => start < p)
      (fun _ => by simp [← decide_not]) (fun _ _ => by simp; omega) hsorted
    refine ⟨((t.dataPositions.filter fun p => p ≤ start).reverse.drop (max 1 count.natAbs)).reverse,
      _, t.dataPositions.filter fun p => start < p, ?_, (List.reverse_perm _).symm⟩
    rw [← List.reverse_append, List.take_append_drop, List.reverse_reverse, hcut]

/-- The item before which no other comes is the first one. -/
theorem exists_cons_of_first {r : Nat → Nat → Prop} {items : List Nat} (first : Nat)
    (hordered : items.Pairwise r) (hmem : first ∈ items) (hfirst : ∀ a ∈ items, ¬ r a first) :
    ∃ more, items = first :: more := by
  cases items with
  | nil => cases hmem
  | cons a items =>
      rcases List.mem_cons.mp hmem with rfl | hmem
      · exact ⟨items, rfl⟩
      · exact absurd ((List.pairwise_cons.mp hordered).1 first hmem)
          (hfirst a List.mem_cons_self)

/-- The positions that a run takes depend on the shape only. -/
theorem run_of_shape (h : u.shape = t.shape) (start : Nat) (count : Int) :
    u.run start count = t.run start count := by
  rw [run, run, dataPositions_of_shape h]

/-- A run from a data row starts with this row. -/
theorem exists_run_cons {start : Nat} (hstart : start ∈ t.dataPositions) (count : Int) :
    ∃ others, t.run start count = start :: others := by
  have hsorted := t.pairwise_dataPositions
  obtain ⟨n, hn⟩ : ∃ n, max 1 count.natAbs = n + 1 :=
    Nat.exists_eq_add_of_le' (Nat.le_max_left 1 _)
  unfold run
  rw [hn]
  split
  · obtain ⟨more, hmore⟩ := exists_cons_of_first start
      (hsorted.filter fun p => start ≤ p) (by simpa using hstart) (by simp)
    exact ⟨more.take n, by rw [hmore]; rfl⟩
  · obtain ⟨more, hmore⟩ := exists_cons_of_first start
      (List.pairwise_reverse.mpr (hsorted.filter fun p => p ≤ start)) (by simpa using hstart)
      (by simp)
    exact ⟨more.take n, by rw [hmore]; rfl⟩

/-- The cells of one column of a run, in the order of the rows. -/
theorem cellsAt_eq (positions : List Nat) (column : Nat)
    (h : ∀ p ∈ positions, column < (t.rowAt p).length) :
    t.cellsAt positions column =
      .ok (positions.map fun p => Text.strip ((t.rowAt p).getD column "")) := by
  apply Outcome.mapM_eq_ok
  intro p hp
  have hcell : ((t.rows[p]?.bind Row.cells?).getD [])[column]? =
      some ((t.rowAt p).getD column "") := by
    rw [List.getD_eq_getElem _ _ (h p hp)]
    exact List.getElem?_eq_getElem (h p hp)
  rw [hcell]

/-- What the reduction of a run makes of each cell. -/
theorem flattenRun_ok {start : Nat} {others : List Nat} {column : Nat}
    (h : ∀ p ∈ start :: others, column < (t.rowAt p).length) (reduce : Reducer) :
    ∃ u, t.flattenRun (start :: others) column reduce = .ok u ∧
      ∀ q c, (u.rowAt q).getD c "" =
        if c = column ∧ q ∈ start :: others then
          if q = start then
            (reduce (((start :: others).mergeSort (· ≤ ·)).map fun p =>
              Text.strip ((t.rowAt p).getD column ""))).shown
          else ""
        else (t.rowAt q).getD c "" := by
  have hcells := cellsAt_eq ((start :: others).mergeSort (· ≤ ·)) column fun p hp =>
    h p ((List.mergeSort_perm _ _).mem_iff.mp hp)
  refine ⟨_, by rw [flattenRun, hcells]; rfl, fun q c => ?_⟩
  -- the start is written after the others are emptied, so it is the outer of the two changes
  rw [rowAt_modifyRow List.set_nil, rowAt_foldl_modifyRow List.set_nil (by simp)]
  by_cases hq : q ∈ start :: others
  · have hinside := h q hq
    by_cases hstart : q = start
    · rw [if_pos hstart, getD_set (by split <;> simpa using hinside)]
      by_cases hc : c = column
      · rw [if_pos hc, if_pos ⟨hc, hq⟩, if_pos hstart]
      · rw [if_neg hc, if_neg (not_and_of_not_left _ hc)]
        split
        · rw [getD_set hinside, if_neg hc]
        · rfl
    · have hothers : q ∈ others := (List.mem_cons.mp hq).resolve_left hstart
      rw [if_neg hstart, if_pos hothers, getD_set hinside, if_neg hstart]
      simp only [hq, and_true]
  · obtain ⟨hstart, hothers⟩ := not_or.mp (mt List.mem_cons.mpr hq)
    rw [if_neg hstart, if_neg hothers, if_neg (not_and_of_not_right _ hq)]

/-- A list without repetitions, read as one item says and nothing else. -/
theorem flatMap_ite_eq {items : List Nat} (hnodup : items.Nodup) {start : Nat}
    (hstart : start ∈ items) (xs : List α) :
    (items.flatMap fun p => if p = start then xs else []) = xs := by
  induction items with
  | nil => cases hstart
  | cons p items ih =>
      obtain ⟨hp, hnodup⟩ := List.nodup_cons.mp hnodup
      rw [List.flatMap_cons]
      by_cases hfirst : p = start
      · have hrest : (items.flatMap fun q => if q = start then xs else []) = [] := by
          rw [List.flatMap_eq_nil_iff]
          intro q hq
          rw [if_neg]
          rintro rfl
          exact hp (hfirst ▸ hq)
        rw [if_pos hfirst, hrest, List.append_nil]
      · rw [if_neg hfirst, ih hnodup ((List.mem_cons.mp hstart).resolve_left (Ne.symm hfirst)),
          List.nil_append]

theorem mergeSort_eq_of_perm {positions sorted : List Nat} (hperm : positions.Perm sorted)
    (hsorted : sorted.Pairwise (· < ·)) : positions.mergeSort (· ≤ ·) = sorted := by
  have hmerged : (positions.mergeSort (· ≤ ·)).Pairwise fun a b => decide (a ≤ b) = true :=
    List.pairwise_mergeSort (by simpa using fun _ _ _ => Nat.le_trans)
      (by simpa using Nat.le_total) positions
  have hordered : sorted.Pairwise fun a b => decide (a ≤ b) = true :=
    hsorted.imp fun hab => by simpa using Nat.le_of_lt hab
  exact ((List.mergeSort_perm _ _).trans hperm).eq_of_pairwise
    (fun a b _ _ hab hba => Nat.le_antisymm (by simpa using hab) (by simpa using hba))
    hmerged hordered

/-- A run is reduced into its start without failing, and every column keeps its reading. -/
theorem flattenRun_keeps (hreduce : reduce.Keeps reading) {start : Nat}
    (hstart : start ∈ t.dataPositions) (count : Int) (column : Nat)
    (hwide : ∀ row ∈ t.dataRows, column < row.length) :
    ∃ u, t.flattenRun (t.run start count) column reduce = .ok u ∧ u.shape = t.shape ∧
      ∀ c, u.readColumn reading c = t.readColumn reading c := by
  -- the run, in whichever order, takes the place of the body between rows that it leaves alone
  obtain ⟨above, body, below, hpositions, hperm⟩ := t.exists_run start count
  obtain ⟨others, hrun⟩ := exists_run_cons hstart count
  rw [hrun] at hperm ⊢
  have hordered := t.pairwise_dataPositions
  rw [hpositions] at hordered
  obtain ⟨hordered, -, hbelow⟩ := List.pairwise_append.mp hordered
  obtain ⟨-, hbody, habove⟩ := List.pairwise_append.mp hordered
  have hinside : ∀ p ∈ start :: others, column < (t.rowAt p).length := by
    intro p hp
    apply hwide _ (rowAt_mem_dataRows _)
    simp [hpositions, hperm.mem_iff.mp hp]
  obtain ⟨u, hu, hcell⟩ := flattenRun_ok hinside reduce
  refine ⟨u, hu, shape_flattenRun hu, fun c => ?_⟩
  rw [readColumn_eq, readColumn_eq, dataPositions_of_shape (shape_flattenRun hu)]
  simp only [hcell, hperm.mem_iff, mergeSort_eq_of_perm hperm hbody]
  by_cases hc : c = column
  · -- above and below the run nothing changes, and within it the start says it all
    simp only [hc, true_and, hpositions, List.flatMap_append]
    have habove : ∀ p ∈ above, p ∉ body := fun p hp hp' => (habove p hp p hp').false
    have hbelow : ∀ p ∈ below, p ∉ body := fun p hp hp' =>
      (hbelow p (List.mem_append_right _ hp') p hp).false
    have hvalue : reading (reduce (body.map fun p =>
        Text.strip ((t.rowAt p).getD column ""))).shown =
          body.flatMap fun p => reading ((t.rowAt p).getD column "") := by
      have hreduced := hreduce.reduced (body.map fun p => (t.rowAt p).getD column "")
      rwa [List.map_map, List.flatMap_map] at hreduced
    have hfirst : start ∈ body := hperm.mem_iff.mp List.mem_cons_self
    rw [← hvalue, ← flatMap_ite_eq (hbody.imp Nat.ne_of_lt) hfirst (reading _)]
    congr 1
    · congr 1
      · exact List.flatMap_congr fun p hp => by rw [if_neg (habove p hp)]
      · refine List.flatMap_congr fun p hp => ?_
        rw [if_pos hp]
        split
        · rfl
        · exact hreduce.empty
    · exact List.flatMap_congr fun p hp => by rw [if_neg (hbelow p hp)]
  · simp only [hc, false_and, if_false]

/-- Runs of several columns are reduced one after the other, each into the same start. -/
theorem flattenRuns_keep (hreduce : reduce.Keeps reading) {width start : Nat}
    (hstart : start ∈ t.dataPositions) (runs : List (Nat × Int))
    (hruns : ∀ run ∈ runs, run.1 - 1 < width) (hwide : ∀ row ∈ t.dataRows, row.length = width) :
    ∃ u consumed, flattenRuns start reduce t runs = .ok (u, consumed) ∧ u.shape = t.shape ∧
      ∀ c, u.readColumn reading c = t.readColumn reading c := by
  induction runs generalizing t with
  | nil => exact ⟨t, [], rfl, rfl, fun _ => rfl⟩
  | cons run runs ih =>
      obtain ⟨column, count⟩ := run
      obtain ⟨hcolumn, hruns⟩ := List.forall_mem_cons.mp hruns
      obtain ⟨next, hnext, hshape, hkept⟩ := flattenRun_keeps hreduce hstart count
        (column - 1) fun row hrow => by rw [hwide row hrow]; exact hcolumn
      obtain ⟨u, others, hu, hshape', hkept'⟩ :=
        ih (by rwa [dataPositions_of_shape hshape]) hruns (length_of_shape hshape hwide)
      refine ⟨u, t.run start count ++ others, ?_, hshape'.trans hshape,
        fun c => (hkept' c).trans (hkept c)⟩
      rw [flattenRuns]
      refine Outcome.bind_eq_ok.mpr ⟨next, hnext, ?_⟩
      exact Outcome.bind_eq_ok.mpr ⟨(u, others), hu, rfl⟩

/-! ## Steps -/

/-- Only rows are dropped in which nothing is to be read. -/
theorem readColumn_dropRows (hreduce : reduce.Keeps reading) {dropped : List Nat}
    (hblank : ∀ p ∈ dropped, t.isBlankAt p = true) (c : Nat) :
    (t.dropRows dropped).readColumn reading c = t.readColumn reading c := by
  have hnothing : ∀ p ∈ dropped, reading ((t.rowAt p).getD c "") = [] := by
    intro p hp
    rw [List.getD_eq_getElem?_getD]
    cases hcell : (t.rowAt p)[c]? with
    | none => exact hreduce.empty
    | some cell =>
        have hstrip := List.all_eq_true.mp (hblank p hp) cell (List.mem_of_getElem? hcell)
        rw [Option.getD_some, ← hreduce.strip, String.isEmpty_iff.mp hstrip]
        exact hreduce.empty
  rw [readColumn, dataRows_dropRows, readColumn_eq, List.flatMap_map]
  generalize t.dataPositions = positions
  induction positions with
  | nil => rfl
  | cons p positions ih =>
      by_cases hp : p ∈ dropped <;> simp_all

/-- A count of rows as a caller may give it: an integer of any sign, or none. -/
def IsCount (v : Value) : Prop := v = .none ∨ ∃ n, v = .int n

theorem exists_mapM_resolveCount (t : Table) (start : Nat) {counts : List Value}
    (h : ∀ count ∈ counts, IsCount count) :
    ∃ ns, counts.mapM (t.resolveCount start) = .ok ns := by
  have hresolve : ∀ count ∈ counts, ∃ n, t.resolveCount start count = .ok n := by
    intro count hcount
    rcases h count hcount with rfl | ⟨n, rfl⟩
    · exact ⟨t.rowsUntilSeparator start, rfl⟩
    · exact ⟨n, rfl⟩
  choose! resolved hresolved using hresolve
  exact ⟨counts.map resolved, Outcome.mapM_eq_ok hresolved⟩

/-- A flattening drops the consumed rows that are blank, but not its start, and goes on at a data row
past all consumed ones; downwards, at the first one. -/
theorem flattenStep_ok {columns : List Nat} {counts : List Value} {start : Nat}
    {resolved : List Int} (hresolved : counts.mapM (t.resolveCount start) = .ok resolved)
    {flat : Table} {consumed : List Nat}
    (hflat : flattenRuns start reduce t (columns.zip resolved) = .ok (flat, consumed)) :
    ∃ (dropped : List Nat) (following : Option Nat),
      t.flattenStep columns counts start reduce = .ok (flat.dropRows dropped,
        following.map fun p => p - (dropped.filter fun d => d < p).length) ∧
      dropped.Nodup ∧ (∀ p, p ∈ dropped ↔
        p ∈ t.dataPositions ∧ p ∈ consumed ∧ p ≠ start ∧ flat.isBlankAt p = true) ∧
      (∀ p ∈ following, p ∈ t.dataPositions ∧ p ∉ consumed) ∧
      ((∀ n ∈ resolved, 0 ≤ n) →
        following = t.dataPositions.find? fun p => consumed.all fun c => c < p) := by
  unfold flattenStep
  refine ⟨_, _, Outcome.bind_eq_ok.mpr ⟨resolved, hresolved, Outcome.bind_eq_ok.mpr
    ⟨(flat, consumed), Outcome.mapError_eq_ok.mpr hflat, rfl⟩⟩, ?_, fun p => ?_, fun p hp => ?_,
    fun hdown => ?_⟩
  · exact ((t.pairwise_dataPositions.imp Nat.ne_of_lt).filter _).filter _
  · simp only [List.mem_filter, List.contains_iff_mem, Bool.and_eq_true, decide_eq_true_eq,
      and_assoc]
  · -- past all consumed rows, whichever way, no row is consumed itself
    have hpast : p ∈ t.dataPositions ∧ (consumed.all (p < ·) ∨ consumed.all (· < p)) := by
      rw [Option.mem_def, ite_eq_iff] at hp
      rcases hp with ⟨-, hp⟩ | ⟨-, hp⟩
      · exact (List.mem_filter.mp (List.mem_of_getLast? hp)).imp_right .inl
      · exact (List.mem_filter.mp (List.mem_of_head? hp)).imp_right .inr
    refine hpast.imp_right fun hpast hconsumed => ?_
    rcases hpast with hpast | hpast <;> simpa using List.all_eq_true.mp hpast p hconsumed
  · -- the first of the counts decides on the direction
    rw [if_neg, List.head?_filter]
    cases resolved with
    | nil => exact Bool.false_ne_true
    | cons n _ => simpa using hdown n List.mem_cons_self

/-- One flattening keeps the reading of every column, and the next one starts at a data row. -/
theorem flattenStep_keeps (hreduce : reduce.Keeps reading) {width start : Nat} {columns : List Nat}
    {counts : List Value} (hcolumns : ∀ column ∈ columns, column - 1 < width)
    (hcounts : ∀ count ∈ counts, IsCount count)
    (hwide : ∀ row ∈ t.dataRows, row.length = width) (hstart : start ∈ t.dataPositions) :
    ∃ u next, t.flattenStep columns counts start reduce = .ok (u, next) ∧
      (∀ row ∈ u.dataRows, row.length = width) ∧ (∀ p ∈ next, p ∈ u.dataPositions) ∧
      ∀ c, u.readColumn reading c = t.readColumn reading c := by
  obtain ⟨resolved, hresolved⟩ := t.exists_mapM_resolveCount start hcounts
  have hruns : ∀ run ∈ columns.zip resolved, run.1 - 1 < width :=
    fun run hrun => hcolumns run.1 (List.of_mem_zip hrun).1
  obtain ⟨flat, consumed, hflat, hshape, hkept⟩ := flattenRuns_keep hreduce hstart _ hruns hwide
  obtain ⟨dropped, following, hstep, hnodup, hdropped, hfollowing, -⟩ :=
    flattenStep_ok hresolved hflat
  refine ⟨_, _, hstep, fun row hrow => ?_, fun next hnext => ?_, fun c => ?_⟩
  · rw [dataRows_dropRows] at hrow
    obtain ⟨p, hp, rfl⟩ := List.mem_map.mp hrow
    exact length_of_shape hshape hwide _ (rowAt_mem_dataRows (List.mem_filter.mp hp).1)
  · -- a row past the consumed ones is not dropped, it only moves up
    obtain ⟨p, hp, rfl⟩ := Option.map_eq_some_iff.mp hnext
    obtain ⟨hdata, hpast⟩ := hfollowing p hp
    rw [← dataPositions_of_shape hshape] at hdata
    exact mem_dataPositions_dropRows hnodup hdata fun hp => hpast ((hdropped p).mp hp).2.1
  · exact (readColumn_dropRows hreduce (fun p hp => ((hdropped p).mp hp).2.2.2) c).trans (hkept c)

theorem flattenSteps_last {columns : List Nat} {counts : List Value} {start : Nat}
    (h : t.flattenStep columns counts start reduce = .ok (u, none)) (repetitions : Nat) :
    flattenSteps columns counts reduce (repetitions + 1) t start = .ok u := by
  rw [flattenSteps, h]
  rfl

theorem flattenSteps_next {columns : List Nat} {counts : List Value} {start next : Nat}
    (h : t.flattenStep columns counts start reduce = .ok (u, some next)) (repetitions : Nat) :
    flattenSteps columns counts reduce (repetitions + 1) t start =
      flattenSteps columns counts reduce repetitions u next := by
  rw [flattenSteps, h]
  rfl

/-- However often it is repeated, a flattening keeps the reading of every column. -/
theorem flattenSteps_keep (hreduce : reduce.Keeps reading) {width : Nat} {columns : List Nat}
    {counts : List Value} (hcolumns : ∀ column ∈ columns, column - 1 < width)
    (hcounts : ∀ count ∈ counts, IsCount count) (repetitions : Nat)
    {start : Nat} (hwide : ∀ row ∈ t.dataRows, row.length = width)
    (hstart : start ∈ t.dataPositions) :
    ∃ u, flattenSteps columns counts reduce repetitions t start = .ok u ∧
      (∀ row ∈ u.dataRows, row.length = width) ∧
      ∀ c, u.readColumn reading c = t.readColumn reading c := by
  induction repetitions generalizing t start with
  | zero => exact ⟨t, rfl, hwide, fun _ => rfl⟩
  | succ repetitions ih =>
      obtain ⟨v, next, hstep, hwide, hnext, hkept⟩ :=
        flattenStep_keeps hreduce hcolumns hcounts hwide hstart
      cases next with
      | none => exact ⟨v, flattenSteps_last hstep _, hwide, hkept⟩
      | some position =>
          obtain ⟨u, hu, hwide, hkept'⟩ := ih hwide (hnext position rfl)
          exact ⟨u, (flattenSteps_next hstep _).trans hu, hwide,
            fun c => (hkept' c).trans (hkept c)⟩

/-! ## Columns -/

theorem mem_columnSpan {start : Int} {count : Option Int} {width column : Nat}
    (hstart : 1 ≤ start ∧ start ≤ width) (h : column ∈ columnSpan start count width) :
    1 ≤ column ∧ column ≤ width := by
  simp only [columnSpan, List.mem_map, List.mem_range] at h
  obtain ⟨i, hi, rfl⟩ := h
  cases count with
  | none => simp only at hi ⊢; omega
  | some n =>
      simp only at hi ⊢
      split at hi <;> omega

/-- One count for all columns of a span, or one for each of them. -/
def FitsSpan (columns : Nat) (counts : Value) : Prop :=
  IsCount counts ∨ ∃ given, (counts = .list given ∨ counts = .tuple given) ∧
    given.length = columns ∧ ∀ count ∈ given, IsCount count

theorem spanCounts_ok {columns : Nat} {counts : Value} (h : FitsSpan columns counts) :
    ∃ given, spanCounts columns counts = .ok given ∧ ∀ count ∈ given, IsCount count := by
  rcases h with h | ⟨given, hgiven, hlength, h⟩
  · refine ⟨List.replicate columns counts, ?_, fun count hcount => ?_⟩
    · rcases h with rfl | ⟨n, rfl⟩ <;> rfl
    · rwa [List.eq_of_mem_replicate hcount]
  · refine ⟨given, ?_, h⟩
    rcases hgiven with rfl | rfl <;> exact if_pos hlength

theorem startPosition_ok (operation : String) {line : Int} (h : 1 ≤ line ∧ line ≤ t.height) :
    ∃ start, t.startPosition operation line = .ok start ∧ start ∈ t.dataPositions := by
  obtain ⟨start, hstart⟩ := exists_position h
  exact ⟨start, by rw [startPosition, positionOf, hstart]; rfl, mem_of_nth? hstart⟩

/-- Flattening columns that are there, with counts for each of them, from a line that is there. -/
theorem flattenColumns_eq {line column : Int} (hcolumn : 1 ≤ column ∧ column ≤ t.columnCount)
    {columnCount : Option Int} {counts : Value} {given : List Value}
    (hgiven : spanCounts (columnSpan column columnCount t.columnCount).length counts = .ok given)
    {start : Nat} (hstart : t.startPosition "flatten_columns" line = .ok start) (reduce : Reducer)
    (repetitions : Int) :
    t.flattenColumns line column counts columnCount (.ok reduce) repetitions =
      flattenSteps (columnSpan column columnCount t.columnCount) given reduce
        (max 1 repetitions).toNat t start := by
  simp only [flattenColumns, checkColumn, if_pos hcolumn, hgiven]
  change (t.startPosition "flatten_columns" line >>= _) = _
  rw [hstart]
  rfl

/-- With one repetition it does not matter where the next one would start. -/
theorem flattenSteps_one {columns : List Nat} {counts : List Value} {start : Nat}
    {next : Option Nat} (h : t.flattenStep columns counts start reduce = .ok (u, next)) :
    flattenSteps columns counts reduce 1 t start = .ok u := by
  rw [flattenSteps, h]
  cases next <;> rfl

/-- With a reducer that keeps a reading, flattening columns keeps the reading of every column. -/
theorem flattenColumns_keeps (hreduce : reduce.Keeps reading) (hrect : t.Rectangular)
    {line column : Int} (hline : 1 ≤ line ∧ line ≤ t.height)
    (hcolumn : 1 ≤ column ∧ column ≤ t.columnCount) {columnCount : Option Int} {counts : Value}
    (hcounts : FitsSpan (columnSpan column columnCount t.columnCount).length counts)
    (repetitions : Int) :
    ∃ u, t.flattenColumns line column counts columnCount (.ok reduce) repetitions = .ok u ∧
      (∀ row ∈ u.dataRows, row.length = t.columnCount) ∧
      ∀ c, u.readColumn reading c = t.readColumn reading c := by
  obtain ⟨given, hgiven, hall⟩ := spanCounts_ok hcounts
  obtain ⟨start, hstart, hdata⟩ := startPosition_ok "flatten_columns" hline
  have hspan : ∀ c ∈ columnSpan column columnCount t.columnCount, c - 1 < t.columnCount := by
    intro c hc
    have := mem_columnSpan hcolumn hc
    omega
  obtain ⟨u, hu, hwide, hkept⟩ := flattenSteps_keep hreduce hspan hall (max 1 repetitions).toNat
    hrect hdata
  exact ⟨u, (flattenColumns_eq hcolumn hgiven hstart reduce repetitions).trans hu, hwide, hkept⟩

end Table

/-! ## Reductions that keep texts -/

theorem Reduction.join_keeps : Reducer.Keeps Reduction.join.apply Text.words where
  empty := Text.words_empty
  strip := Text.words_strip
  reduced cells := by
    change Text.words (" ".intercalate (filled (cells.map Text.strip))) = _
    rw [Text.words_intercalate]
    induction cells with
    | nil => rfl
    | cons cell cells ih =>
        by_cases hblank : Text.strip cell = ""
        · have hwords : Text.words cell = [] := by rw [← Text.words_strip, hblank]; rfl
          simpa [filled, hblank, hwords] using ih
        · simpa [filled, hblank] using ih

theorem Reduction.concat_keeps :
    Reducer.Keeps Reduction.concat.apply fun s => (Text.strip s).toList where
  empty := rfl
  strip cell := by rw [Text.strip_strip]
  reduced cells := by
    change (Text.strip (String.join (cells.map Text.strip))).toList = _
    rw [Text.strip_join, String.toList_join, List.flatMap_map]

namespace Table

variable {t : Table}

/-- The words of a column, counted from zero, from top to bottom. -/
def columnWords (t : Table) (column : Nat) : List String := t.readColumn Text.words column

/-- The stripped cells of a column, counted from zero, put together from top to bottom. -/
def columnText (t : Table) (column : Nat) : String :=
  String.join (t.dataRows.map fun row => Text.strip (row.getD column ""))

theorem toList_columnText (t : Table) (column : Nat) :
    (t.columnText column).toList = t.readColumn (fun s => (Text.strip s).toList) column := by
  rw [columnText, String.toList_join, List.flatMap_map, readColumn]

/-- Flattening columns with `join` keeps the words of every column in their order, and with `concat`
it keeps the stripped cells of every column put together. -/
theorem flattenColumns_keeps_text (hrect : t.Rectangular) {line column : Int}
    (hline : 1 ≤ line ∧ line ≤ t.height) (hcolumn : 1 ≤ column ∧ column ≤ t.columnCount)
    {columnCount : Option Int} {counts : Value}
    (hcounts : FitsSpan (columnSpan column columnCount t.columnCount).length counts)
    (repetitions : Int) :
    (∃ u, t.flattenColumns line column counts columnCount (Reduction.ofValue (.text "join"))
        repetitions = .ok u ∧ (∀ row ∈ u.dataRows, row.length = t.columnCount) ∧
      ∀ c < t.columnCount, u.columnWords c = t.columnWords c) ∧
    ∃ u, t.flattenColumns line column counts columnCount (Reduction.ofValue (.text "concat"))
        repetitions = .ok u ∧ (∀ row ∈ u.dataRows, row.length = t.columnCount) ∧
      ∀ c < t.columnCount, u.columnText c = t.columnText c := by
  constructor
  · obtain ⟨u, hu, hwide, hkept⟩ := flattenColumns_keeps Reduction.join_keeps hrect hline hcolumn
      hcounts repetitions
    exact ⟨u, hu, hwide, fun c _ => hkept c⟩
  · obtain ⟨u, hu, hwide, hkept⟩ := flattenColumns_keeps Reduction.concat_keeps hrect hline hcolumn
      hcounts repetitions
    refine ⟨u, hu, hwide, fun c _ => ?_⟩
    rw [← String.toList_inj, toList_columnText, toList_columnText, hkept c]

/-- Two columns flattened in opposite directions, twice, over a separator. -/
theorem flattenColumns_both_ways :
    let t : Table := ⟨[.data ["a b", "t"], .data [" c", "u"], .separator, .data ["d", "v w"],
      .data ["", " "], .data ["e", "x"]]⟩
    let counts : Value := .list [.int 2, .int (-2)]
    (t.Rectangular ∧ (1 ≤ (2 : Int) ∧ (2 : Int) ≤ t.height) ∧
      (1 ≤ (1 : Int) ∧ (1 : Int) ≤ t.columnCount) ∧
      FitsSpan (columnSpan 1 none t.columnCount).length counts) ∧
    ∃ u, t.flattenColumns 2 1 counts none (Reduction.ofValue (.text "join")) 2 = .ok u ∧
      u.columnWords 0 = ["a", "b", "c", "d", "e"] ∧
      u.columnWords 1 = ["t", "u", "v", "w", "x"] := by
  intro t counts
  have hrect : t.Rectangular := by decide
  have hline : 1 ≤ (2 : Int) ∧ (2 : Int) ≤ t.height := by decide
  have hcolumn : 1 ≤ (1 : Int) ∧ (1 : Int) ≤ t.columnCount := by decide
  have hcounts : FitsSpan (columnSpan 1 none t.columnCount).length counts :=
    .inr ⟨_, .inl rfl, rfl, by simp [IsCount]⟩
  obtain ⟨u, hu, -, hkept⟩ := (flattenColumns_keeps_text hrect hline hcolumn hcounts 2).1
  refine ⟨⟨hrect, hline, hcolumn, hcounts⟩, u, hu, ?_, ?_⟩
  · rw [hkept 0 (by decide)]
    rfl
  · rw [hkept 1 (by decide)]
    rfl

end Table

end PipeTable
