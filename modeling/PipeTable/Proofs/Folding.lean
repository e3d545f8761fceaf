import Mathlib
import PipeTable.Proofs.Flattening

/-! # Groups of rows flattened into one

A group of data rows stands between other rows of a table.  Flattening all columns from the first
row of the group, over as many rows as it has, leaves one row in its place, which has in each column
what the reducer makes of the cells, and goes on at the next data row below it.
-/

namespace PipeTable.Table

variable {t u : Table}

/-! ## Tables cell by cell -/

/-- A table is its shape and the content of its cells. -/
theorem eq_of_cells (hshape : t.shape = u.shape)
    (hcells : ∀ p, ∀ c < (t.rowAt p).length, (t.rowAt p).getD c "" = (u.rowAt p).getD c "") :
    t = u := by
  have hrow (p : Nat) : t.rowAt p = u.rowAt p := by
    apply List.ext_getElem (length_rowAt_of_shape hshape p)
    intro c ht hu
    simpa [ht, hu] using hcells p c ht
  have hrows : t.rows = u.rows := by
    apply List.ext_getElem?
    intro p
    have hkind : t.shape[p]? = u.shape[p]? := by rw [hshape]
    have hcontent := hrow p
    rw [shape, shape, List.getElem?_map, List.getElem?_map] at hkind
    rw [rowAt, rowAt] at hcontent
    -- both tables have a separator at the position, or a data row, or nothing
    generalize t.rows[p]? = here, u.rows[p]? = there at hkind hcontent ⊢
    rcases here with _ | (_ | _) <;> rcases there with _ | (_ | _) <;> simp_all [Row.cells?]
  cases t
  cases u
  exact congrArg Table.mk hrows

/-! ## Runs over several columns -/

/-- Runs of one length in several columns: the start has what the reducer makes of each, and the
other rows lose their cells. -/
theorem flattenRuns_cells {start : Nat} {others columns : List Nat} {count : Int}
    (reduce : Reducer) (hrun : t.run start count = start :: others) (hnodup : columns.Nodup)
    (hwide : ∀ column ∈ columns, ∀ p ∈ start :: others, column < (t.rowAt p).length) :
    ∃ u consumed, flattenRuns start reduce t (columns.map fun c => (c + 1, count)) =
        .ok (u, consumed) ∧ u.shape = t.shape ∧
      (∀ p, p ∈ consumed ↔ columns ≠ [] ∧ p ∈ start :: others) ∧
      ∀ q c, (u.rowAt q).getD c "" =
        if c ∈ columns ∧ q ∈ start :: others then
          if q = start then
            (reduce (((start :: others).mergeSort (· ≤ ·)).map fun p =>
              Text.strip ((t.rowAt p).getD c ""))).shown
          else ""
        else (t.rowAt q).getD c "" := by
  induction columns generalizing t with
  | nil => exact ⟨t, [], rfl, rfl, by simp, by simp⟩
  | cons column columns ih =>
      obtain ⟨hcolumn, hnodup⟩ := List.nodup_cons.mp hnodup
      obtain ⟨hinside, hwide⟩ := List.forall_mem_cons.mp hwide
      obtain ⟨next, hnext, hcell⟩ := flattenRun_ok hinside reduce
      have hshape := shape_flattenRun hnext
      have hrun' : next.run start count = start :: others := by
        rw [run_of_shape hshape, hrun]
      obtain ⟨u, consumed, hu, hshape', hconsumed, hcell'⟩ := ih hrun' hnodup fun c hc p hp => by
        rw [length_rowAt_of_shape hshape]
        exact hwide c hc p hp
      refine ⟨u, start :: others ++ consumed, ?_, hshape'.trans hshape, fun p => ?_, fun q c => ?_⟩
      · rw [List.map_cons, flattenRuns, hrun]
        refine Outcome.bind_eq_ok.mpr ⟨next, hnext, ?_⟩
        exact Outcome.bind_eq_ok.mpr ⟨_, hu, rfl⟩
      · rw [List.mem_append, hconsumed]
        simp only [ne_eq, List.cons_ne_nil, not_false_eq_true, true_and]
        exact ⟨fun hp => hp.elim id And.right, .inl⟩
      · rw [hcell']
        by_cases hc : c = column
        · -- the run of this column is reduced first, and no later one touches it again
          subst hc
          rw [if_neg (not_and_of_not_left _ hcolumn), hcell]
          simp only [List.mem_cons_self, true_and]
        · have hsame (p : Nat) : (next.rowAt p).getD c "" = (t.rowAt p).getD c "" := by
            rw [hcell, if_neg (not_and_of_not_left _ hc)]
          simp only [hsame, List.mem_cons, hc, false_or]

/-! ## A group within a table -/

section Middle

variable (before after : List Row) (group : List (List String))

theorem positionsFrom_append (start : Nat) (rows more : List Row) :
    positionsFrom start (rows ++ more) =
      positionsFrom start rows ++ positionsFrom (start + rows.length) more := by
  induction rows generalizing start with
  | nil => rfl
  | cons row rows ih =>
      have hstart : start + 1 + rows.length = start + (rows.length + 1) := by omega
      cases row <;> simp only [List.cons_append, positionsFrom, ih, List.length_cons, hstart]

theorem positionsFrom_map_data (start : Nat) :
    positionsFrom start (group.map Row.data) = List.range' start group.length := by
  induction group generalizing start with
  | nil => rfl
  | cons row group ih => rw [List.map_cons, positionsFrom, ih, List.length_cons, List.range'_succ]

theorem lt_of_mem_positionsFrom {start p : Nat} {rows : List Row}
    (h : p ∈ positionsFrom start rows) : p < start + rows.length := by
  induction rows generalizing start with
  | nil => cases h
  | cons row rows ih =>
      rw [List.length_cons]
      cases row with
      | separator =>
          have := ih h
          omega
      | data cells =>
          rcases List.mem_cons.mp h with rfl | h
          · omega
          · have := ih h
            omega

theorem length_positionsFrom (start : Nat) (rows : List Row) :
    (positionsFrom start rows).length = (rows.filterMap Row.cells?).length := by
  induction rows generalizing start with
  | nil => rfl
  | cons row rows ih =>
      cases row with
      | separator => exact ih _
      | data cells => exact congrArg Nat.succ (ih _)

theorem dataPositions_middle :
    dataPositions ⟨before ++ group.map Row.data ++ after⟩ =
      positionsFrom 0 before ++ List.range' before.length group.length ++
        positionsFrom (before.length + group.length) after := by
  rw [dataPositions, positionsFrom_append, positionsFrom_append, positionsFrom_map_data]
  simp

theorem run_middle (hne : group ≠ []) :
    run ⟨before ++ group.map Row.data ++ after⟩ before.length group.length =
      List.range' before.length group.length := by
  have hpos := List.length_pos_iff.mpr hne
  have hbefore : (positionsFrom 0 before).filter (before.length ≤ ·) = [] := by
    rw [List.filter_eq_nil_iff]
    intro p hp
    have := lt_of_mem_positionsFrom hp
    simp only [decide_eq_true_eq]
    omega
  have hgroup : (List.range' before.length group.length).filter (before.length ≤ ·) =
      List.range' before.length group.length := by
    rw [List.filter_eq_self]
    intro p hp
    simpa using (List.mem_range'_1.mp hp).1
  have hlength : max 1 (group.length : Int).natAbs =
      (List.range' before.length group.length).length := by
    rw [List.length_range']
    omega
  rw [run, if_pos (by omega), dataPositions_middle, List.filter_append, List.filter_append,
    hbefore, hgroup, List.nil_append, hlength, List.take_left]

theorem startPosition_middle (operation : String) (hne : group ≠ []) :
    startPosition ⟨before ++ group.map Row.data ++ after⟩ operation
      ((before.filterMap Row.cells?).length + 1) = .ok before.length := by
  obtain ⟨row, group, rfl⟩ := List.exists_cons_of_ne_nil hne
  rw [startPosition, positionOf, nth?, if_pos (by omega), dataPositions_middle,
    ← length_positionsFrom 0]
  simp [List.range'_succ]
  rfl

theorem map_rowAt_middle :
    (List.range' before.length group.length).map
      (rowAt ⟨before ++ group.map Row.data ++ after⟩) = group := by
  apply List.ext_getElem (by simp)
  intro i hi hi'
  have hrow : (before ++ group.map Row.data ++ after)[before.length + i]? =
      some (.data group[i]) := by
    rw [List.append_assoc, List.getElem?_append_right (by omega),
      List.getElem?_append_left (by simp; omega)]
    simp [hi']
  rw [List.getElem_map, List.getElem_range', rowAt, one_mul, hrow]
  rfl

theorem rowAt_mem_middle {p : Nat} (hp : p ∈ List.range' before.length group.length) :
    rowAt ⟨before ++ group.map Row.data ++ after⟩ p ∈ group := by
  have hrow := List.mem_map_of_mem (f := rowAt ⟨before ++ group.map Row.data ++ after⟩) hp
  rwa [map_rowAt_middle] at hrow

theorem rowAt_first (first : List String) (below : List (List String)) :
    rowAt ⟨before ++ (first :: below).map Row.data ++ after⟩ before.length = first := by
  simp [rowAt, Row.cells?]

theorem rowAt_mem_below (first : List String) (below : List (List String)) {p : Nat}
    (hp : p ∈ List.range' (before.length + 1) below.length) :
    rowAt ⟨before ++ (first :: below).map Row.data ++ after⟩ p ∈ below := by
  have hbelow := rowAt_mem_middle (before ++ [.data first]) after below (p := p) (by simpa using hp)
  simpa using hbelow

theorem shape_middle {group' : List (List String)}
    (h : group'.map List.length = group.map List.length) :
    shape ⟨before ++ group'.map Row.data ++ after⟩ =
      shape ⟨before ++ group.map Row.data ++ after⟩ := by
  have hlengths (rows : List (List String)) :
      (rows.map Row.data).map (fun row => row.cells?.map List.length) =
        (rows.map List.length).map some := by
    rw [List.map_map, List.map_map]
    rfl
  simp only [shape, List.map_append, hlengths, h]

theorem rowAt_middle_of_notMem (group' : List (List String))
    (hlength : group'.length = group.length) {p : Nat}
    (hp : p ∉ List.range' before.length group.length) :
    rowAt ⟨before ++ group'.map Row.data ++ after⟩ p =
      rowAt ⟨before ++ group.map Row.data ++ after⟩ p := by
  rw [List.mem_range'_1] at hp
  rw [rowAt, rowAt]
  by_cases hbefore : p < before.length
  · simp [hbefore, List.getElem?_append_left]
  · have hafter (rows : List (List String)) (hrows : rows.length = group.length) :
        (before ++ rows.map Row.data ++ after)[p]? =
          after[p - (before.length + group.length)]? := by
      rw [List.getElem?_append_right (by simp; omega)]
      simp [hrows]
    rw [hafter group' hlength, hafter group rfl]

/-- Rows in the middle are dropped by their positions. -/
theorem dropRows_middle (middle : List Row) {dropped : List Nat}
    (h : ∀ p, p ∈ dropped ↔ p ∈ List.range' before.length middle.length) :
    dropRows ⟨before ++ middle ++ after⟩ dropped = ⟨before ++ after⟩ := by
  have hdrop (rows : List Row) : dropRows ⟨rows⟩ dropped =
      ⟨(rows.zipIdx.filter fun pair => !dropped.contains pair.2).map Prod.fst⟩ := rfl
  have hkept (rows : List Row) (start : Nat) (keep : Bool)
      (hrows : ∀ p, start ≤ p → p < start + rows.length → (!dropped.contains p) = keep) :
      (rows.zipIdx start).filter (fun pair => !dropped.contains pair.2) =
        if keep then rows.zipIdx start else [] := by
    have hall : ∀ pair ∈ rows.zipIdx start, (!dropped.contains pair.2) = keep := by
      rintro ⟨row, i⟩ hpair
      obtain ⟨hle, hlt, -⟩ := List.mem_zipIdx hpair
      exact hrows i hle hlt
    cases keep with
    | true => exact List.filter_eq_self.mpr hall
    | false => exact List.filter_eq_nil_iff.mpr fun pair hpair => by simpa using hall pair hpair
  have hmem (p : Nat) : (!dropped.contains p) =
      !decide (before.length ≤ p ∧ p < before.length + middle.length) := by
    rw [List.contains_eq_mem, decide_eq_decide.mpr ((h p).trans List.mem_range'_1)]
  rw [hdrop, List.zipIdx_append, List.zipIdx_append, List.filter_append, List.filter_append,
    hkept before 0 true fun p _ hp => by rw [hmem]; simp; omega,
    hkept middle _ false fun p hp hp' => by rw [hmem]; simp; omega,
    hkept after _ true fun p hp _ => by rw [hmem]; simp at hp ⊢; omega]
  simp

/-- The first data row past the group is the first one after it. -/
theorem find?_past_middle (hne : group ≠ []) {consumed : List Nat}
    (h : ∀ p, p ∈ consumed ↔ p ∈ List.range' before.length group.length) :
    (dataPositions ⟨before ++ group.map Row.data ++ after⟩).find?
        (fun p => consumed.all fun c => c < p) =
      (positionsFrom (before.length + group.length) after).head? := by
  have hpos := List.length_pos_iff.mpr hne
  have hpast (p : Nat) :
      (consumed.all fun c => c < p) = true ↔ before.length + group.length ≤ p := by
    simp only [List.all_eq_true, decide_eq_true_eq, h, List.mem_range'_1]
    constructor
    · intro hall
      have := hall (before.length + group.length - 1) (by omega)
      omega
    · intro hle c hc
      omega
  have hnone : (positionsFrom 0 before ++ List.range' before.length group.length).find?
      (fun p => consumed.all fun c => c < p) = none := by
    rw [List.find?_eq_none]
    intro p hp
    rw [hpast]
    rcases List.mem_append.mp hp with hp | hp
    · have := lt_of_mem_positionsFrom hp
      omega
    · have := List.mem_range'_1.mp hp
      omega
  rw [dataPositions_middle, List.find?_append, hnone, Option.none_or, ← List.head?_filter,
    List.filter_eq_self.mpr fun p hp => (hpast p).mpr ((pairwise_positionsFrom _ _).2 p hp)]

theorem positionsFrom_add (start k : Nat) (rows : List Row) :
    positionsFrom (start + k) rows = (positionsFrom start rows).map (· + k) := by
  induction rows generalizing start with
  | nil => rfl
  | cons row rows ih =>
      have hrest := ih (start + 1)
      rw [Nat.add_right_comm] at hrest
      cases row <;> simp [positionsFrom, hrest]

end Middle

/-! ## Folding a group -/

/-- A row has in every column what a reducer makes of the cells of a group of rows as long. -/
structure Folds (reduce : Reducer) (cells : List String) (group : List (List String)) : Prop where
  wide : ∀ row ∈ group, row.length = cells.length
  reduced : ∀ c < cells.length,
    (reduce (group.map fun row => Text.strip (row.getD c ""))).shown = cells.getD c ""

section Folded

variable (before after : List Row) {cells first : List String} {below : List (List String)}

/-- The rows below the first of a group when their cells are folded into the first. -/
def emptied (cells : List String) (below : List (List String)) : List (List String) :=
  List.replicate below.length (List.replicate cells.length "")

@[simp]
theorem length_emptied (cells : List String) (below : List (List String)) :
    (emptied cells below).length = below.length :=
  List.length_replicate

theorem rowAt_emptied {p : Nat} (hp : p ∈ List.range' (before.length + 1) below.length) :
    rowAt ⟨before ++ (cells :: emptied cells below).map Row.data ++ after⟩ p =
      List.replicate cells.length "" :=
  List.eq_of_mem_replicate (rowAt_mem_below before after cells _ (by simpa using hp))

theorem eq_joined (hwide : ∀ row ∈ first :: below, row.length = cells.length)
    (hshape : u.shape = shape ⟨before ++ (first :: below).map Row.data ++ after⟩)
    (hcell : ∀ q c, (u.rowAt q).getD c "" =
      if c ∈ List.range cells.length ∧
          q ∈ before.length :: List.range' (before.length + 1) below.length then
        if q = before.length then cells.getD c "" else ""
      else (rowAt ⟨before ++ (first :: below).map Row.data ++ after⟩ q).getD c "") :
    u = ⟨before ++ (cells :: emptied cells below).map Row.data ++ after⟩ := by
  have hlengths : (cells :: emptied cells below).map List.length =
      (first :: below).map List.length := by
    obtain ⟨hfirst, hbelow⟩ := List.forall_mem_cons.mp hwide
    rw [List.map_cons, List.map_cons, hfirst, List.map_congr_left hbelow]
    simp [emptied]
  apply eq_of_cells (hshape.trans (shape_middle before after _ hlengths).symm)
  intro p c hc
  rw [hcell]
  by_cases hp : p ∈ List.range' before.length (first :: below).length
  · have hinside : c ∈ List.range cells.length := by
      rw [length_rowAt_of_shape hshape, hwide _ (rowAt_mem_middle before after _ hp)] at hc
      exact List.mem_range.mpr hc
    rw [List.length_cons, List.range'_succ] at hp
    rw [if_pos ⟨hinside, hp⟩]
    rcases List.mem_cons.mp hp with rfl | hp
    · rw [if_pos rfl, rowAt_first]
    · have hne : p ≠ before.length := by
        have := (List.mem_range'_1.mp hp).1
        omega
      rw [if_neg hne, rowAt_emptied before after hp, getD_replicate_empty]
  · have hsame := rowAt_middle_of_notMem before after (first :: below)
      (cells :: emptied cells below) (by simp) hp
    rw [List.length_cons, List.range'_succ] at hp
    rw [if_neg (not_and_of_not_right _ hp), hsame]

/-- The rows below the first are blank then, and only they are dropped. -/
theorem dropRows_joined {dropped : List Nat}
    (hdropped : ∀ p, p ∈ dropped ↔ p ∈ List.range' (before.length + 1) below.length) :
    dropRows ⟨before ++ (cells :: emptied cells below).map Row.data ++ after⟩ dropped =
      ⟨before ++ .data cells :: after⟩ := by
  have hmiddle := dropRows_middle (before ++ [.data cells]) after
    ((emptied cells below).map Row.data) fun p => (hdropped p).trans (by simp)
  simpa using hmiddle

theorem isBlankAt_emptied {p : Nat} (hp : p ∈ List.range' (before.length + 1) below.length) :
    isBlankAt ⟨before ++ (cells :: emptied cells below).map Row.data ++ after⟩ p = true := by
  rw [isBlankAt, ← rowAt, rowAt_emptied before after hp, List.all_replicate]
  cases cells.length <;> rfl

/-- The first data row after the group moves up by the rows that are dropped. -/
theorem map_head?_after {dropped : List Nat} (hnodup : dropped.Nodup)
    (hdropped : ∀ p, p ∈ dropped ↔ p ∈ List.range' (before.length + 1) below.length) :
    ((positionsFrom (before.length + (first :: below).length) after).head?.map fun p =>
        p - (dropped.filter fun d => d < p).length) =
      (positionsFrom (before.length + 1) after).head? := by
  have hlength : dropped.length = below.length := by
    rw [((List.perm_ext_iff_of_nodup hnodup List.nodup_range').mpr hdropped).length_eq,
      List.length_range']
  have hall : ∀ p ∈ positionsFrom (before.length + (first :: below).length) after,
      (dropped.filter fun d => d < p) = dropped := by
    intro p hp
    have hle := (pairwise_positionsFrom _ _).2 p hp
    rw [List.length_cons] at hle
    refine List.filter_eq_self.mpr fun d hd => ?_
    have := List.mem_range'_1.mp ((hdropped d).mp hd)
    rw [decide_eq_true_eq]
    omega
  have hmoved : positionsFrom (before.length + (first :: below).length) after =
      (positionsFrom (before.length + 1) after).map (· + below.length) := by
    rw [← positionsFrom_add, List.length_cons, Nat.add_assoc, Nat.add_comm 1]
  rw [Option.map_congr fun p hp => by rw [hall p (List.mem_of_head? hp), hlength], hmoved,
    List.head?_map, Option.map_map]
  simp [Function.comp_def]

variable {reduce : Reducer} (hfolds : Folds reduce cells (first :: below))
include hfolds

theorem flattenRuns_group :
    ∃ consumed, flattenRuns before.length reduce
        ⟨before ++ (first :: below).map Row.data ++ after⟩
        ((List.range cells.length).map fun c => (c + 1, ((first :: below).length : Int))) =
      .ok (⟨before ++ (cells :: emptied cells below).map Row.data ++ after⟩, consumed) ∧
      ∀ p, p ∈ consumed ↔ List.range cells.length ≠ [] ∧
        p ∈ before.length :: List.range' (before.length + 1) below.length := by
  -- the rows of the group are the run, whose first row is the start
  have hrange : List.range' before.length (first :: below).length =
      before.length :: List.range' (before.length + 1) below.length := List.range'_succ
  have hrun := run_middle before after (first :: below) (List.cons_ne_nil _ _)
  have hrows := map_rowAt_middle before after (first :: below)
  have hsorted : (List.range' before.length (first :: below).length).mergeSort (· ≤ ·) =
      List.range' before.length (first :: below).length :=
    mergeSort_eq_of_perm (.refl _) List.pairwise_lt_range'
  rw [hrange] at hrun hrows hsorted
  obtain ⟨u, consumed, hu, hshape, hconsumed, hcell⟩ :=
    flattenRuns_cells reduce hrun (List.nodup_range (n := cells.length)) fun c hc p hp => by
      rw [hfolds.wide _ (rowAt_mem_middle before after _ (by rwa [hrange]))]
      exact List.mem_range.mp hc
  have hfolded := eq_joined before after hfolds.wide hshape fun q c => by
    rw [hcell]
    by_cases hc : c < cells.length
    · have hreduced := hfolds.reduced c hc
      rw [← hrows, List.map_map] at hreduced
      rw [hsorted, ← hreduced]
      rfl
    · rw [if_neg (by simp [hc]), if_neg (by simp [hc])]
  exact ⟨consumed, hfolded ▸ hu, hconsumed⟩

/-- Flattening all columns from the first row of a group, over as many rows as it has, puts the row
in the place of the group and goes on at the next data row. -/
theorem flattenStep_group (hpos : 0 < cells.length) {count : Value}
    (hcount : resolveCount ⟨before ++ (first :: below).map Row.data ++ after⟩ before.length count =
      .ok (first :: below).length) :
    flattenStep ⟨before ++ (first :: below).map Row.data ++ after⟩
        ((List.range cells.length).map (· + 1)) (List.replicate cells.length count) before.length
        reduce =
      .ok (⟨before ++ .data cells :: after⟩, (positionsFrom (before.length + 1) after).head?) := by
  obtain ⟨consumed, hflat, hconsumed⟩ := flattenRuns_group before after hfolds
  have hresolved : (List.replicate cells.length count).mapM
      (resolveCount ⟨before ++ (first :: below).map Row.data ++ after⟩ before.length) =
        .ok (List.replicate cells.length ((first :: below).length : Int)) := by
    rw [← List.map_replicate (f := fun _ => ((first :: below).length : Int))]
    refine Outcome.mapM_eq_ok fun other hother => ?_
    rw [List.eq_of_mem_replicate hother, hcount]
  have hzip : ((List.range cells.length).map (· + 1)).zip
      (List.replicate cells.length ((first :: below).length : Int)) =
        (List.range cells.length).map fun c => (c + 1, ((first :: below).length : Int)) := by
    apply List.ext_getElem <;> simp
  rw [← hzip] at hflat
  obtain ⟨dropped, following, hstep, hnodup, hdropped, -, hfollowing⟩ :=
    flattenStep_ok hresolved hflat
  have hconsumed (p : Nat) : p ∈ consumed ↔
      p ∈ List.range' before.length (below.length + 1) := by
    rw [hconsumed, List.range'_succ]
    exact and_iff_right (by simpa using hpos.ne')
  have hdropped (p : Nat) : p ∈ dropped ↔ p ∈ List.range' (before.length + 1) below.length := by
    rw [hdropped, hconsumed]
    constructor
    · rintro ⟨-, hp, hne, -⟩
      rw [List.range'_succ] at hp
      exact (List.mem_cons.mp hp).resolve_left hne
    · intro hp
      have hinside := List.mem_range'_1.mp hp
      refine ⟨?_, List.mem_range'_1.mpr (by omega), by omega, isBlankAt_emptied before after hp⟩
      rw [dataPositions_middle]
      exact List.mem_append_left _ (List.mem_append_right _ (List.mem_range'_1.mpr (by simp; omega)))
  have hnext := hfollowing fun n hn => by
    rw [List.eq_of_mem_replicate hn]
    exact Int.natCast_nonneg _
  rw [hstep, dropRows_joined before after hdropped, hnext,
    find?_past_middle before after (first :: below) (List.cons_ne_nil _ _) hconsumed,
    map_head?_after before after hnodup hdropped]

end Folded

/-- From the first column on, no count of columns and one that is great enough span them all. -/
theorem columnSpan_all {columns : Option Int} {width : Nat}
    (h : ∀ n ∈ columns, (width : Int) ≤ n) :
    columnSpan 1 columns width = (List.range width).map (· + 1) := by
  have hlast : columnSpan 1 columns width = columnSpan 1 none width := by
    cases columns with
    | none => rfl
    | some n =>
        have hn := h n rfl
        have hmin : min (width : Int) (1 + max 1 n - 1) = width := by omega
        simp only [columnSpan, if_neg (show ¬ n < 0 by omega), hmin]
  rw [hlast, columnSpan]
  simp [Nat.add_comm]

end PipeTable.Table
