import Mathlib
import PipeTable.Proofs.Answer
import PipeTable.Proofs.Columns

/-! # Plans that fit

A plan fits a table if its widths stay within the whole width and every cell has the room it needs.
Planning checks the optimizer's answer, so whatever the answer says, planning refuses it or makes a
plan that fits, but where a number is too great for the words of a refusal or for the check.
-/

namespace PipeTable

namespace Narrow

/-! ## What is wanted of a plan -/

/-- A table can be laid out by the plan within a width. -/
structure Plan.Fits (p : Plan) (t : Table) (maxWidth : Int) : Prop where
  length_widths : p.widths.length = t.columnCount
  length_rows : p.rows.length = t.dataRows.length
  rows_pos : ∀ lines ∈ p.rows, 1 ≤ lines
  sum_widths : p.widths.sum ≤ maxWidth
  /-- Every cell has the lines of its row and the width of its column, and is no longer than both
  together allow. -/
  room : ∀ (r c : Nat) (row : List String) (cell : String),
    t.dataRows[r]? = some row → row[c]? = some cell →
      ∃ lines width, p.rows[r]? = some lines ∧ p.widths[c]? = some width ∧
        (cell.length : Int) ≤ width * lines

/-- What came of planning is a refusal of narrowing or a plan that fits. -/
def Settled (t : Table) (maxWidth : Int) : Except Error Plan → Prop
  | .error e => e.isNarrowing = true
  | .ok p => p.Fits t maxWidth

/-! ## Drafting -/

/-- The lengths of the data cells. -/
def lengthsOf (t : Table) : List (List Int) :=
  t.dataRows.map fun row => row.map fun cell => (cell.length : Int)

/-- The greatest length in each column. -/
def maximaOf (t : Table) : List Int := columnMaxima t.columnCount (lengthsOf t)

/-- The columns that are not fixed. -/
def freeOf (t : Table) (fixedColumns : List Int) : List Nat :=
  freeColumns t.columnCount (ascending fixedColumns)

/-- What the fixed columns take of the width. -/
def neededOf (t : Table) (fixedColumns : List Int) : Int :=
  widthOfFixed (ascending fixedColumns) (maximaOf t)

/-- What the optimizer is asked about a table. -/
def requestOf (t : Table) (maxWidth : Int) (fixedColumns : List Int) : Request :=
  { rows := t.dataRows.length
    columns := (freeOf t fixedColumns).length
    maxWidth := maxWidth - neededOf t fixedColumns
    lengths := (lengthsOf t).map fun row =>
      (freeOf t fixedColumns).map fun c => row.getD (c - 1) 0 }

/-- What all columns take: the fixed ones what they need, the others the widths that they are given,
and those without one their greatest length. -/
def totalOf (t : Table) (fixedColumns widths : List Int) : Int :=
  neededOf t fixedColumns + (widths.take (freeOf t fixedColumns).length).sum +
    (((freeOf t fixedColumns).drop widths.length).map fun c => (maximaOf t).getD (c - 1) 0).sum

section Draft

variable {t : Table} {maxWidth : Int} {fixedColumns : List Int} {response : Response}

theorem cellLengths?_eq (hrect : t.Rectangular) :
    cellLengths? t.dataRows t.columnCount = some (lengthsOf t) := by
  rw [cellLengths?, if_pos]
  · rfl
  · exact List.all_eq_true.mpr fun row hrow => decide_eq_true (hrect row hrow)

theorem find?_fixedOutside (hfixed : ∀ c ∈ fixedColumns, 1 ≤ c ∧ c ≤ t.columnCount) :
    ((ascending fixedColumns).find? fun c => c < 1 ∨ (t.columnCount : Int) < c) = none := by
  rw [List.find?_eq_none]
  intro c hc
  have := hfixed c (mem_ascending.mp hc)
  simp
  omega

/-- What comes before the optimizer is asked, if it has to be asked. -/
theorem draft_eq (hrect : t.Rectangular) (hdata : t.dataRows ≠ [])
    (hfixed : ∀ c ∈ fixedColumns, 1 ≤ c ∧ c ≤ t.columnCount) :
    draft t maxWidth fixedColumns =
      if (freeOf t fixedColumns).isEmpty then
        if maxWidth - neededOf t fixedColumns < 0 then
          .error (stating [neededOf t fixedColumns, maxWidth]
            (.infeasible (.fixedColumns (neededOf t fixedColumns) maxWidth)))
        else .ok (.finished
          ⟨maxWidth, ascending fixedColumns, maximaOf t, t.dataRows.map fun _ => 1⟩)
      else if maxWidth - neededOf t fixedColumns < (freeOf t fixedColumns).length then
        .error (stating [maxWidth - neededOf t fixedColumns]
          (.infeasible (.tooNarrow (maxWidth - neededOf t fixedColumns)
            (freeOf t fixedColumns).length)))
      else .ok (.asking (ascending fixedColumns) (maximaOf t) (freeOf t fixedColumns)
        (requestOf t maxWidth fixedColumns)) := by
  have hrows : t.dataRows.isEmpty = false := by simpa using hdata
  unfold draft
  simp only [hrows, find?_fixedOutside hfixed, cellLengths?_eq hrect]
  rw [if_neg Bool.false_ne_true]
  rfl

theorem length_maximaOf (t : Table) : (maximaOf t).length = t.columnCount :=
  length_columnMaxima _ _

theorem mem_lengthsOf {row : List String} (hrow : row ∈ t.dataRows) :
    row.map (fun cell => (cell.length : Int)) ∈ lengthsOf t :=
  List.mem_map.mpr ⟨row, hrow, rfl⟩

/-- A column that keeps its greatest length has room for its cells on any number of lines. -/
theorem length_le_maximaOf {row : List String} {cell : String} {c : Nat} {width lines : Int}
    (hrow : row ∈ t.dataRows) (hcell : row[c]? = some cell)
    (hwidth : (maximaOf t)[c]? = some width) (hlines : 1 ≤ lines) :
    (cell.length : Int) ≤ width * lines := by
  have hc : c < t.columnCount := by
    obtain ⟨hc, -⟩ := List.getElem?_eq_some_iff.mp hwidth
    rwa [length_maximaOf] at hc
  have hmax := le_columnMaxima (mem_lengthsOf hrow) hc
  rw [← maximaOf, List.getD_eq_getElem?_getD, List.getD_eq_getElem?_getD, hwidth,
    List.getElem?_map, hcell] at hmax
  have hlength : (cell.length : Int) ≤ width := hmax
  calc (cell.length : Int) ≤ width := hlength
    _ = width * 1 := (mul_one width).symm
    _ ≤ width * lines := mul_le_mul_of_nonneg_left hlines (by omega)

theorem of_mem_freeOf {column : Nat} (h : column ∈ freeOf t fixedColumns) :
    1 ≤ column ∧ column ≤ t.columnCount ∧ (column : Int) ∉ ascending fixedColumns :=
  mem_freeColumns.mp h

section Given

variable {widths : List Int}

theorem of_mem_given {pair : Nat × Int} (h : pair ∈ (freeOf t fixedColumns).zip widths) :
    1 ≤ pair.1 ∧ pair.1 ≤ t.columnCount ∧ (pair.1 : Int) ∉ ascending fixedColumns :=
  of_mem_freeOf (List.of_mem_zip h).1

/-- No two of the given widths go to the same place. -/
theorem nodup_given : (((freeOf t fixedColumns).zip widths).map fun pair => pair.1 - 1).Nodup := by
  have hplaces : ((freeOf t fixedColumns).map fun column => column - 1).Nodup := by
    refine (nodup_freeColumns _ _).map_on fun c hc d hd h => ?_
    have := of_mem_freeOf hc
    have := of_mem_freeOf hd
    omega
  have hgiven := (List.take_sublist widths.length (freeOf t fixedColumns)).map
    fun column => column - 1
  rw [← map_fst_zip_eq_take, List.map_map] at hgiven
  exact hplaces.sublist hgiven

/-- With the given widths in their places, all columns together take what the fixed ones need, what
is given and what the others keep. -/
theorem sum_scatter_given (hfixed : ∀ c ∈ fixedColumns, 1 ≤ c ∧ c ≤ t.columnCount) :
    (scatter (maximaOf t) ((freeOf t fixedColumns).zip widths)).sum =
      totalOf t fixedColumns widths := by
  have hplace : ∀ pair ∈ (freeOf t fixedColumns).zip widths,
      pair.1 - 1 < (maximaOf t).length := by
    intro pair hpair
    have := of_mem_given hpair
    rw [length_maximaOf]
    omega
  have hshare : ∀ c ∈ ascending fixedColumns, 1 ≤ c ∧ c ≤ (maximaOf t).length := by
    intro c hc
    rw [length_maximaOf]
    exact hfixed c (mem_ascending.mp hc)
  have hreplaced : (((freeOf t fixedColumns).zip widths).map fun pair =>
      (maximaOf t).getD (pair.1 - 1) 0) =
        ((freeOf t fixedColumns).take widths.length).map fun c => (maximaOf t).getD (c - 1) 0 := by
    rw [← map_fst_zip_eq_take, List.map_map]
    rfl
  have hscatter := sum_scatter nodup_given hplace
  rw [hreplaced, map_snd_zip_eq_take] at hscatter
  have hneeded := widthOfFixed_add_free (nodup_ascending fixedColumns) hshare
  rw [length_maximaOf, ← freeOf, ← neededOf] at hneeded
  have hfree : ((freeOf t fixedColumns).map fun c => (maximaOf t).getD (c - 1) 0).sum =
      (((freeOf t fixedColumns).take widths.length).map fun c => (maximaOf t).getD (c - 1) 0).sum +
        (((freeOf t fixedColumns).drop widths.length).map
          fun c => (maximaOf t).getD (c - 1) 0).sum := by
    rw [← List.sum_append, ← List.map_append, List.take_append_drop]
  rw [totalOf]
  omega

/-- A width for every free column, and no more, leaves nothing that a column keeps. -/
theorem totalOf_eq (hwidths : widths.length = (freeOf t fixedColumns).length) :
    totalOf t fixedColumns widths = neededOf t fixedColumns + widths.sum := by
  rw [totalOf, hwidths, List.drop_length, ← hwidths, List.take_length, List.map_nil, List.sum_nil,
    add_zero]

variable (fixedColumns widths) in
/-- A column has a width that is given to it, or else keeps its greatest length. -/
theorem getElem?_scatter_given {c : Nat} (hc : c < t.columnCount) :
    (∃ (j : Nat) (width : Int), (freeOf t fixedColumns)[j]? = some (c + 1) ∧
      widths[j]? = some width ∧
      (scatter (maximaOf t) ((freeOf t fixedColumns).zip widths))[c]? = some width) ∨
    (scatter (maximaOf t) ((freeOf t fixedColumns).zip widths))[c]? = (maximaOf t)[c]? := by
  by_cases hgiven : ∃ pair ∈ (freeOf t fixedColumns).zip widths, pair.1 - 1 = c
  · obtain ⟨⟨column, width⟩, hmem, rfl⟩ := hgiven
    obtain ⟨j, hj⟩ := List.mem_iff_getElem?.mp hmem
    obtain ⟨hcolumn, hwidth⟩ := List.getElem?_zip_eq_some.mp hj
    have hpos : column - 1 + 1 = column := Nat.sub_add_cancel (of_mem_given hmem).1
    exact .inl ⟨j, width, by rw [hpos]; exact hcolumn, hwidth,
      getElem?_scatter_of_mem nodup_given hmem (by rwa [length_maximaOf])⟩
  · push Not at hgiven
    exact .inr (getElem?_scatter_of_not_mem hgiven)

end Given

/-- If the cells of the free columns have room by the widths that these are given, all cells have
room by the widths of all columns. -/
theorem room_of_free {widths rows : List Int} (hrows : ∀ lines ∈ rows, 1 ≤ lines)
    (hroom : ∀ (r j column : Nat) (row : List String) (cell : String) (lines width : Int),
      t.dataRows[r]? = some row → (freeOf t fixedColumns)[j]? = some column →
      row[column - 1]? = some cell → rows[r]? = some lines → widths[j]? = some width →
        (cell.length : Int) ≤ width * lines)
    {r c : Nat} {row : List String} {cell : String} {lines width : Int}
    (hrow : t.dataRows[r]? = some row) (hcell : row[c]? = some cell)
    (hlines : rows[r]? = some lines)
    (hwidth : (scatter (maximaOf t) ((freeOf t fixedColumns).zip widths))[c]? = some width) :
    (cell.length : Int) ≤ width * lines := by
  have hc : c < t.columnCount := by
    obtain ⟨hc, -⟩ := List.getElem?_eq_some_iff.mp hwidth
    rwa [length_scatter, length_maximaOf] at hc
  rcases getElem?_scatter_given fixedColumns widths hc with
    ⟨j, given, hcolumn, hgiven, hscatter⟩ | hscatter
  · obtain rfl : given = width := Option.some.inj (hscatter.symm.trans hwidth)
    exact hroom r j (c + 1) row cell lines given hrow hcolumn hcell hlines hgiven
  · exact length_le_maximaOf (List.mem_of_getElem? hrow) hcell (hscatter.symm.trans hwidth)
      (hrows lines (List.mem_of_getElem? hlines))

/-- Widths for free columns make a plan that fits if all columns together stay within the width and
the cells of the free columns have room. -/
theorem fits_of_free (hrect : t.Rectangular) {widths rows : List Int}
    (hcounts : rows.length = t.dataRows.length) (hrows : ∀ lines ∈ rows, 1 ≤ lines)
    (hsum : (scatter (maximaOf t) ((freeOf t fixedColumns).zip widths)).sum ≤ maxWidth)
    (hroom : ∀ (r j column : Nat) (row : List String) (cell : String) (lines width : Int),
      t.dataRows[r]? = some row → (freeOf t fixedColumns)[j]? = some column →
      row[column - 1]? = some cell → rows[r]? = some lines → widths[j]? = some width →
        (cell.length : Int) ≤ width * lines) :
    Plan.Fits ⟨maxWidth, ascending fixedColumns,
      scatter (maximaOf t) ((freeOf t fixedColumns).zip widths), rows⟩ t maxWidth := by
  have hlength : (scatter (maximaOf t) ((freeOf t fixedColumns).zip widths)).length =
      t.columnCount := by
    rw [length_scatter, length_maximaOf]
  refine ⟨hlength, hcounts, hrows, hsum, ?_⟩
  intro r c row cell hrow hcell
  obtain ⟨hr, -⟩ := List.getElem?_eq_some_iff.mp hrow
  obtain ⟨hc, -⟩ := List.getElem?_eq_some_iff.mp hcell
  rw [hrect row (List.mem_of_getElem? hrow), ← hlength] at hc
  have hlines := List.getElem?_eq_getElem (hcounts ▸ hr)
  have hwidth := List.getElem?_eq_getElem hc
  exact ⟨_, _, hlines, hwidth, room_of_free hrows hroom hrow hcell hlines hwidth⟩

/-- The cells of the free columns have room by an answer that passes. -/
theorem Response.Passes.room_free (hpasses : response.Passes (requestOf t maxWidth fixedColumns))
    (r j column : Nat) (row : List String) (cell : String) (lines width : Int)
    (hrow : t.dataRows[r]? = some row) (hcolumn : (freeOf t fixedColumns)[j]? = some column)
    (hcell : row[column - 1]? = some cell) (hlines : response.rows[r]? = some lines)
    (hwidth : response.widths[j]? = some width) : (cell.length : Int) ≤ width * lines := by
  have hrowLengths : (requestOf t maxWidth fixedColumns).lengths[r]? =
      some ((freeOf t fixedColumns).map fun c =>
        (row.map fun cell => (cell.length : Int)).getD (c - 1) 0) := by
    simp [requestOf, lengthsOf, hrow]
  obtain ⟨hj, -⟩ := List.getElem?_eq_some_iff.mp hcolumn
  exact le_of_firstOverfull? hpasses.widths_pos hpasses.rows_pos hpasses.room hrowLengths hj
    (by simp [hcolumn, hcell]) hlines hwidth

end Draft

/-! ## Planning -/

/-- The solver that answers every request with the same text. -/
def answering (text diagnostic : String) : Solver := fun request =>
  Response.parse text request.rows request.columns diagnostic

/-- What planning cannot cope with: a refusal that would state a number of too many digits, or an
answer whose check breaks. -/
inductive Breaks (t : Table) (maxWidth : Int) (fixedColumns : List Int) (solve : Solver) : Prop
  | fixedTooWide (hfree : freeOf t fixedColumns = []) (hwidth : maxWidth < neededOf t fixedColumns)
      (hlong : Unstatable [neededOf t fixedColumns, maxWidth])
  | tooNarrow (hfree : freeOf t fixedColumns ≠ [])
      (hbudget : maxWidth - neededOf t fixedColumns < (freeOf t fixedColumns).length)
      (hlong : Unstatable [maxWidth - neededOf t fixedColumns])
  | answer (response : Response) (hfree : freeOf t fixedColumns ≠ [])
      (hbudget : (freeOf t fixedColumns).length ≤ maxWidth - neededOf t fixedColumns)
      (hanswer : solve (requestOf t maxWidth fixedColumns) = .ok response)
      (hbreaks : response.Breaks maxWidth (maxWidth - neededOf t fixedColumns))

section Plan

variable {t : Table} {maxWidth : Int} {fixedColumns : List Int} {solve : Solver}

theorem plan_of_breaks (hrect : t.Rectangular) (hdata : t.dataRows ≠ [])
    (hfixed : ∀ c ∈ fixedColumns, 1 ≤ c ∧ c ≤ t.columnCount)
    (h : Breaks t maxWidth fixedColumns solve) :
    ∃ f, plan t maxWidth fixedColumns (some solve) = .error (.fault f) := by
  simp only [plan, draft_eq hrect hdata hfixed]
  cases h with
  | fixedTooWide hfree hwidth hlong =>
      rw [hfree, if_pos List.isEmpty_nil, if_pos (by omega), stating_eq_fault _ hlong]
      exact ⟨_, rfl⟩
  | tooNarrow hfree hbudget hlong =>
      rw [if_neg (by simpa using hfree), if_pos hbudget, stating_eq_fault _ hlong]
      exact ⟨_, rfl⟩
  | answer response hfree hbudget hanswer hbreaks =>
      rw [if_neg (by simpa using hfree), if_neg (not_lt.mpr hbudget)]
      simp only [bind, Except.bind, hanswer]
      exact complete_of_breaks hbreaks

/-- The optimizer is asked: some columns are free, and the fixed ones leave room for them. -/
def Asks (t : Table) (maxWidth : Int) (fixedColumns : List Int) : Prop :=
  freeOf t fixedColumns ≠ [] ∧
    (freeOf t fixedColumns).length ≤ maxWidth - neededOf t fixedColumns

/-- Where the optimizer is not asked, planning leads to a refusal or a plan that fits, unless it
breaks. -/
theorem plan_settles_unasked (hrect : t.Rectangular) (hdata : t.dataRows ≠ [])
    (hfixed : ∀ c ∈ fixedColumns, 1 ≤ c ∧ c ≤ t.columnCount)
    (hasks : ¬ Asks t maxWidth fixedColumns) (h : ¬ Breaks t maxWidth fixedColumns solve) :
    Settled t maxWidth (plan t maxWidth fixedColumns (some solve)) := by
  simp only [plan, draft_eq hrect hdata hfixed]
  split
  next hempty =>
    have hfree : freeOf t fixedColumns = [] := List.isEmpty_iff.mp hempty
    split
    next hwidth =>
      rw [stating_eq_self _ fun hlong => h (.fixedTooWide hfree (by omega) hlong)]
      rfl
    next hwidth =>
      -- all columns are fixed, so no widths are given
      have hone : ∀ lines ∈ t.dataRows.map fun _ => (1 : Int), 1 ≤ lines := by simp
      have hsum : (scatter (maximaOf t) ((freeOf t fixedColumns).zip [])).sum ≤ maxWidth := by
        rw [sum_scatter_given hfixed, totalOf_eq (by rw [hfree]; rfl), List.sum_nil]
        omega
      have hfits := fits_of_free hrect (List.length_map _) hone hsum
        fun r j column row cell lines width _ _ _ _ hgiven => by cases hgiven
      rw [List.zip_nil_right] at hfits
      exact hfits
  next hempty =>
    have hfree : freeOf t fixedColumns ≠ [] := fun hfree => hempty (List.isEmpty_iff.mpr hfree)
    have hbudget : maxWidth - neededOf t fixedColumns < (freeOf t fixedColumns).length :=
      not_le.mp fun hbudget => hasks ⟨hfree, hbudget⟩
    rw [if_pos hbudget, stating_eq_self _ fun hlong => h (.tooNarrow hfree hbudget hlong)]
    rfl

theorem plan_eq_of_asks (hrect : t.Rectangular) (hdata : t.dataRows ≠ [])
    (hfixed : ∀ c ∈ fixedColumns, 1 ≤ c ∧ c ≤ t.columnCount)
    (hasks : Asks t maxWidth fixedColumns) :
    plan t maxWidth fixedColumns (some solve) = (do
      complete maxWidth (ascending fixedColumns) (maximaOf t) (freeOf t fixedColumns)
        (requestOf t maxWidth fixedColumns) (← solve (requestOf t maxWidth fixedColumns))) := by
  simp only [plan, draft_eq hrect hdata hfixed]
  rw [if_neg (by simpa using hasks.1), if_neg (not_lt.mpr hasks.2)]
  rfl

/-- With an answer at hand, planning is checking it. -/
theorem plan_eq_complete (hrect : t.Rectangular) (hdata : t.dataRows ≠ [])
    (hfixed : ∀ c ∈ fixedColumns, 1 ≤ c ∧ c ≤ t.columnCount) (hfree : freeOf t fixedColumns ≠ [])
    (hbudget : (freeOf t fixedColumns).length ≤ maxWidth - neededOf t fixedColumns)
    {response : Response} (hanswer : solve (requestOf t maxWidth fixedColumns) = .ok response) :
    plan t maxWidth fixedColumns (some solve) =
      complete maxWidth (ascending fixedColumns) (maximaOf t) (freeOf t fixedColumns)
        (requestOf t maxWidth fixedColumns) response := by
  rw [plan_eq_of_asks hrect hdata hfixed ⟨hfree, hbudget⟩, hanswer]
  rfl

/-- An answer with the extents asked for leads to a refusal or a plan that fits, unless planning
breaks. -/
theorem plan_settles_answered (hrect : t.Rectangular) (hdata : t.dataRows ≠ [])
    (hfixed : ∀ c ∈ fixedColumns, 1 ≤ c ∧ c ≤ t.columnCount)
    (hasks : Asks t maxWidth fixedColumns) {response : Response}
    (hanswer : solve (requestOf t maxWidth fixedColumns) = .ok response)
    (hwidths : response.widths.length = (requestOf t maxWidth fixedColumns).columns)
    (hcounts : response.rows.length = (requestOf t maxWidth fixedColumns).rows)
    (h : ¬ Breaks t maxWidth fixedColumns solve) :
    Settled t maxWidth (plan t maxWidth fixedColumns (some solve)) := by
  rw [plan_eq_complete hrect hdata hfixed hasks.1 hasks.2 hanswer]
  have hcopes : ¬ response.Breaks maxWidth (requestOf t maxWidth fixedColumns).maxWidth :=
    fun hbreaks => h (.answer response hasks.1 hasks.2 hanswer hbreaks)
  rcases complete_settles hcounts hwidths rfl hcopes with ⟨e, he, hrefused⟩ | ⟨hok, hpasses⟩
  · rw [he]
    exact hrefused
  · have hbudget : response.widths.sum ≤ maxWidth - neededOf t fixedColumns :=
      hpasses.sum_widths
    have hsum : (scatter (maximaOf t) ((freeOf t fixedColumns).zip response.widths)).sum ≤
        maxWidth := by
      rw [sum_scatter_given hfixed, totalOf_eq hwidths]
      omega
    rw [hok]
    exact fits_of_free hrect hcounts hpasses.rows_pos hsum hpasses.room_free

/-- A solver whose refusals are those of narrowing and whose answers have the extents asked for
leads to a refusal or a plan that fits, unless planning breaks. -/
theorem plan_settles (hrect : t.Rectangular) (hdata : t.dataRows ≠ [])
    (hfixed : ∀ c ∈ fixedColumns, 1 ≤ c ∧ c ≤ t.columnCount)
    (hrefusal : ∀ request e, solve request = .error e → e.isNarrowing = true)
    (hextent : ∀ request response, solve request = .ok response →
      response.widths.length = request.columns ∧ response.rows.length = request.rows)
    (h : ¬ Breaks t maxWidth fixedColumns solve) :
    Settled t maxWidth (plan t maxWidth fixedColumns (some solve)) := by
  by_cases hasks : Asks t maxWidth fixedColumns
  swap
  · exact plan_settles_unasked hrect hdata hfixed hasks h
  cases hanswer : solve (requestOf t maxWidth fixedColumns) with
  | error e =>
      rw [plan_eq_of_asks hrect hdata hfixed hasks, hanswer]
      exact hrefusal _ _ hanswer
  | ok response =>
      obtain ⟨hwidths, hcounts⟩ := hextent _ _ hanswer
      exact plan_settles_answered hrect hdata hfixed hasks hanswer hwidths hcounts h

/-- Whatever text the optimizer answers with, planning is refused for a reason of narrowing or makes
a plan that fits, exactly if it does not break. -/
theorem planning_settled_iff (hrect : t.Rectangular) (hdata : t.dataRows ≠ [])
    (hfixed : ∀ c ∈ fixedColumns, 1 ≤ c ∧ c ≤ t.columnCount) (text diagnostic : String) :
    Settled t maxWidth (plan t maxWidth fixedColumns (some (answering text diagnostic))) ↔
      ¬ Breaks t maxWidth fixedColumns (answering text diagnostic) := by
  constructor
  · intro hsettled hbreaks
    obtain ⟨f, hfault⟩ := plan_of_breaks hrect hdata hfixed hbreaks
    rw [hfault] at hsettled
    cases hsettled
  · exact plan_settles hrect hdata hfixed (fun _ _ => parse_error) fun _ _ => parse_ok

/-- A table of two columns, the first of them fixed: the answer gives the second one a width, and
the plan fits. -/
theorem planning_settled_with_fixed_column :
    let t : Table := ⟨[.data ["ab", "c"], .separator, .data ["d", "efg"]]⟩
    let solve := answering "Widths: 2\nRows: 1 2\n" ""
    t.Rectangular ∧ t.dataRows ≠ [] ∧ (∀ c ∈ [(1 : Int)], 1 ≤ c ∧ c ≤ t.columnCount) ∧
      Settled t 5 (plan t 5 [1] (some solve)) := by
  intro t solve
  have hrect : t.Rectangular := by decide
  have hfixed : ∀ c ∈ [(1 : Int)], 1 ≤ c ∧ c ≤ t.columnCount := by decide
  have htext : "Widths: 2\nRows: 1 2\n".toList = ['W', 'i', 'd', 't', 'h', 's', ':', ' ', '2', '\n',
      'R', 'o', 'w', 's', ':', ' ', '1', ' ', '2', '\n'] := rfl
  have hparse : Response.parse "Widths: 2\nRows: 1 2\n" 2 1 "" = .ok ⟨[2], [1, 2]⟩ := by
    refine @parse_eq _ [' ', '2'] [' ', '1', ' ', '2'] [2] [1, 2] ?_ ?_ ?_ ?_ ""
    · rw [htext]
      decide +kernel
    · rw [htext]
      decide +kernel
    · decide +kernel
    · decide +kernel
  have hfree : freeOf t [1] = [2] := by cbv
  have hneeded : neededOf t [1] = 2 := by cbv
  have hrequest : requestOf t 5 [1] = ⟨2, 1, 3, [[1], [3]]⟩ := by cbv
  refine ⟨hrect, by decide, hfixed,
    (planning_settled_iff hrect (by decide) hfixed _ _).mpr fun hbreaks => ?_⟩
  cases hbreaks with
  | fixedTooWide hnone => rw [hfree] at hnone; cases hnone
  | tooNarrow _ hbudget => rw [hfree, hneeded] at hbudget; cases hbudget
  | answer response _ _ hanswer hbreaks =>
      rw [hrequest, answering, hparse] at hanswer
      cases hanswer
      cases hbreaks with
      | noLayout hwidths => simp at hwidths
      | widthSum _ _ hsum => rw [hneeded] at hsum; simp at hsum
      | overflow _ _ _ hproduct => revert hproduct; decide

/-- Two widths of so many digits that their sum cannot be written: planning ends in a fault, which
is no refusal of narrowing. -/
theorem planning_breaks_on_wide_sum :
    let t : Table := ⟨[.data ["a", "b"]]⟩
    let solve := answering (answerOf (List.replicate 4300 '9')) ""
    t.Rectangular ∧ t.dataRows ≠ [] ∧ ¬ Settled t 9 (plan t 9 [] (some solve)) := by
  -- kept as a variable, the number of digits is not counted down
  generalize hn : 4300 = n
  intro t solve
  have hrect : t.Rectangular := by decide
  have hfree : freeOf t [] = [1, 2] := by cbv
  have hneeded : neededOf t [] = 0 := by cbv
  have hrequest : requestOf t 9 [] = ⟨1, 2, 9, [[1, 1]]⟩ := by cbv
  have hpos : n ≠ 0 := by omega
  have hplain : ∀ c ∈ List.replicate n '9', Text.isBlank c = false := fun c hc => by
    rw [List.eq_of_mem_replicate hc]
    decide
  have hanswer : solve (requestOf t 9 []) = .ok ⟨[10 ^ n - 1, 10 ^ n - 1], [1]⟩ := by
    rw [hrequest]
    exact parse_answerOf hplain (by simp [hpos]) (Text.readIntegerChars?_nines hpos hn.ge) ""
  have hbreaks : Breaks t 9 [] solve := by
    refine .answer _ (by simp [hfree]) (by simp [hfree, hneeded]) hanswer ?_
    rw [hneeded]
    exact breaks_of_nines hn.symm 9
  refine ⟨hrect, by decide, fun hsettled => ?_⟩
  obtain ⟨f, hfault⟩ := plan_of_breaks hrect (by decide) (by simp) hbreaks
  rw [hfault] at hsettled
  cases hsettled

end Plan

end Narrow

end PipeTable
