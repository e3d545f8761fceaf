import Mathlib
import PipeTable.Proofs.Layout
import PipeTable.Proofs.Planning

/-! # Narrowed tables

A plan that passes gives every cell room, but room is not enough: the words of a cell are not split,
so they have to go on the lines that it has.  Where they can, the narrowed table keeps to the
planned widths, and these keep to the whole width if the optimizer answers with a width for every
column that it is asked for.
-/

namespace PipeTable

namespace Narrow

/-! ## What planning accepts -/

section Accepted

variable {t : Table} {maxWidth : Int} {fixedColumns : List Int} {solve : Solver} {p : Plan}

theorem maximaOf_nonneg {width : Int} (h : width ∈ maximaOf t) : 0 ≤ width := by
  obtain ⟨c, -, rfl⟩ := List.mem_map.mp h
  exact le_foldl_max (.inl le_rfl)

theorem draft_ok {d : Draft} (h : draft t maxWidth fixedColumns = .ok d) :
    t.dataRows ≠ [] ∧ ∀ c ∈ fixedColumns, 1 ≤ c ∧ c ≤ t.columnCount := by
  unfold draft at h
  by_cases hrows : t.dataRows.isEmpty = true
  · simp only [hrows] at h
    cases h
  refine ⟨by simpa using hrows, fun c hc => ?_⟩
  by_contra houtside
  -- a fixed column outside of the table is found and refused
  have hfind : ∃ outside, ((ascending fixedColumns).find? fun c =>
      c < 1 ∨ (t.columnCount : Int) < c) = some outside := by
    rw [← Option.isSome_iff_exists, List.find?_isSome]
    exact ⟨c, mem_ascending.mpr hc, by simp; omega⟩
  obtain ⟨outside, hfind⟩ := hfind
  simp only [hrows, hfind] at h
  cases h

/-- An accepted plan either fixes all columns, or has the widths and row counts of an answer that
passes. -/
inductive Accepted (t : Table) (maxWidth : Int) (fixedColumns : List Int) (solve : Solver) :
    Plan → Prop
  | fixed (hfree : freeOf t fixedColumns = []) (hsum : neededOf t fixedColumns ≤ maxWidth) :
      Accepted t maxWidth fixedColumns solve
        ⟨maxWidth, ascending fixedColumns, maximaOf t, t.dataRows.map fun _ => 1⟩
  | answered (response : Response) (hfree : freeOf t fixedColumns ≠ [])
      (hanswer : solve (requestOf t maxWidth fixedColumns) = .ok response)
      (hpasses : response.Passes (requestOf t maxWidth fixedColumns)) :
      Accepted t maxWidth fixedColumns solve
        ⟨maxWidth, ascending fixedColumns,
          scatter (maximaOf t) ((freeOf t fixedColumns).zip response.widths), response.rows⟩

theorem plan_ok (hrect : t.Rectangular)
    (h : plan t maxWidth fixedColumns (some solve) = .ok p) :
    t.dataRows ≠ [] ∧ (∀ c ∈ fixedColumns, 1 ≤ c ∧ c ≤ t.columnCount) ∧
      Accepted t maxWidth fixedColumns solve p := by
  obtain ⟨d, hdraft, h⟩ := Outcome.bind_eq_ok.mp h
  obtain ⟨hdata, hfixed⟩ := draft_ok hdraft
  refine ⟨hdata, hfixed, ?_⟩
  rw [draft_eq hrect hdata hfixed] at hdraft
  split at hdraft
  next hfree =>
    split at hdraft
    · cases hdraft
    next hsum =>
      cases hdraft
      cases h
      exact .fixed (List.isEmpty_iff.mp hfree) (by omega)
  next hfree =>
    split at hdraft
    · cases hdraft
    · cases hdraft
      obtain ⟨response, hanswer, h⟩ := Outcome.bind_eq_ok.mp h
      obtain ⟨hpasses, rfl⟩ := complete_ok h
      exact .answered response (fun hnil => hfree (List.isEmpty_iff.mpr hnil)) hanswer hpasses

namespace Accepted

variable (h : Accepted t maxWidth fixedColumns solve p)
include h

theorem length_widths : p.widths.length = t.columnCount := by
  cases h with
  | fixed => exact length_maximaOf t
  | answered => rw [length_scatter, length_maximaOf]

theorem rows_pos : ∀ lines ∈ p.rows, 1 ≤ lines := by
  cases h with
  | fixed => simp
  | answered _ _ _ hpasses => exact hpasses.rows_pos

/-- Every column has a positive width or at least the length of its cells. -/
theorem width_pos {c : Nat} {width : Int} (hwidth : p.widths[c]? = some width) :
    1 ≤ width ∨ (maximaOf t)[c]? = some width := by
  cases h with
  | fixed => exact .inr hwidth
  | answered response _ _ hpasses =>
      have hc : c < t.columnCount := by
        obtain ⟨hc, -⟩ := List.getElem?_eq_some_iff.mp hwidth
        rwa [length_scatter, length_maximaOf] at hc
      rcases getElem?_scatter_given fixedColumns response.widths hc with
        ⟨j, given, -, hgiven, hscatter⟩ | hscatter
      · obtain rfl : given = width := Option.some.inj (hscatter.symm.trans hwidth)
        exact .inl (hpasses.widths_pos given (List.mem_of_getElem? hgiven))
      · exact .inr (hscatter.symm.trans hwidth)

theorem widths_nonneg : ∀ width ∈ p.widths, 0 ≤ width := by
  intro width hwidth
  obtain ⟨c, hc⟩ := List.mem_iff_getElem?.mp hwidth
  rcases h.width_pos hc with hpos | hmax
  · omega
  · exact maximaOf_nonneg (List.mem_of_getElem? hmax)

/-- Every cell that has lines and a width has room by them. -/
theorem room {r c : Nat} {row : List String} {cell : String} {lines width : Int}
    (hrow : t.dataRows[r]? = some row) (hcell : row[c]? = some cell)
    (hlines : p.rows[r]? = some lines) (hwidth : p.widths[c]? = some width) :
    (cell.length : Int) ≤ width * lines := by
  have hpos := h.rows_pos lines (List.mem_of_getElem? hlines)
  cases h with
  | fixed => exact length_le_maximaOf (List.mem_of_getElem? hrow) hcell hwidth hpos
  | answered response _ _ hpasses =>
      exact room_of_free hpasses.rows_pos hpasses.room_free hrow hcell hlines hwidth

/-- Only a table with columns has rows planned on several lines. -/
theorem widths_ne_nil : ∀ lines ∈ p.rows, 2 ≤ lines → p.widths ≠ [] := by
  intro lines hlines htwo hnil
  have hcolumns : t.columnCount = 0 := by rw [← h.length_widths, hnil]; rfl
  cases h with
  | fixed =>
      have : lines = 1 := by simpa using (List.mem_map.mp hlines).choose_spec.2.symm
      omega
  | answered _ hfree _ _ =>
      obtain ⟨column, hcolumn⟩ := List.exists_mem_of_ne_nil _ hfree
      have := of_mem_freeOf hcolumn
      omega

/-- The widths stay within the whole width if the answer has one for every column asked for. -/
theorem sum_widths (hfixed : ∀ c ∈ fixedColumns, 1 ≤ c ∧ c ≤ t.columnCount)
    (hanswer : ∀ response, solve (requestOf t maxWidth fixedColumns) = .ok response →
      (requestOf t maxWidth fixedColumns).columns ≤ response.widths.length) :
    p.widths.sum ≤ maxWidth := by
  cases h with
  | fixed hfree hsum =>
      have hall := @sum_scatter_given _ _ [] hfixed
      rw [totalOf_eq (by rw [hfree]; rfl), List.zip_nil_right, List.sum_nil, add_zero] at hall
      exact hall.trans_le hsum
  | answered response hfree hresponse hpasses =>
      have hcount : (freeOf t fixedColumns).length ≤ response.widths.length :=
        hanswer response hresponse
      -- widths beyond the columns asked for are checked but not used
      have hrest : 0 ≤ (response.widths.drop (freeOf t fixedColumns).length).sum :=
        List.sum_nonneg fun width hwidth =>
          (hpasses.widths_pos width (List.mem_of_mem_drop hwidth)).le
      have hsplit := List.sum_take_add_sum_drop response.widths (freeOf t fixedColumns).length
      have hbudget : response.widths.sum ≤ maxWidth - neededOf t fixedColumns :=
        hpasses.sum_widths
      dsimp only
      rw [sum_scatter_given hfixed, totalOf, List.drop_eq_nil_of_le hcount, List.map_nil,
        List.sum_nil]
      omega

end Accepted

end Accepted

/-! ## Narrowing -/

/-- Every cell that is planned on several lines is within its column, or its words can be put on
these lines within it. -/
def Plan.Breakable (p : Plan) (t : Table) : Prop :=
  ∀ row lines, (row, lines) ∈ t.dataRows.zip p.rows → 2 ≤ lines →
    ∀ cell width, (cell, width) ∈ row.zip p.widths →
      (cell.length : Int) ≤ width ∨ Text.Breakable cell width.toNat lines.toNat

section Narrow

variable {t : Table} {maxWidth : Int} {fixedColumns : List Int} {solve : Solver} {p : Plan}

theorem Accepted.layable (hrect : t.Rectangular) (h : Accepted t maxWidth fixedColumns solve p)
    (hbreak : p.Breakable t) :
    ∀ pair ∈ t.dataRows.zip p.rows, Table.Layable p.widths pair.2 pair.1 := by
  rintro ⟨row, lines⟩ hpair
  obtain ⟨r, hr⟩ := List.mem_iff_getElem?.mp hpair
  obtain ⟨hrow, hlines⟩ := List.getElem?_zip_eq_some.mp hr
  have hmem : row ∈ t.dataRows := List.mem_of_getElem? hrow
  have hpos := h.rows_pos lines (List.mem_of_getElem? hlines)
  refine List.forall₂_iff_zip.mpr ⟨(hrect row hmem).trans h.length_widths.symm, ?_⟩
  intro cell width hcell
  obtain ⟨c, hc⟩ := List.mem_iff_getElem?.mp hcell
  obtain ⟨hcell', hwidth⟩ : row[c]? = some cell ∧ p.widths[c]? = some width :=
    List.getElem?_zip_eq_some.mp hc
  by_cases htwo : 2 ≤ lines
  · rcases hbreak row lines hpair htwo cell width hcell with hshort | hwords
    · exact .inl hshort
    · rcases h.width_pos hwidth with hwide | hmax
      · exact .inr ⟨htwo, hwide, hwords⟩
      · have := length_le_maximaOf hmem hcell' hmax le_rfl
        exact .inl (by omega)
  · -- on a single line, the room of a cell is the width of its column
    have := h.room hrow hcell' hlines hwidth
    obtain rfl : lines = 1 := by omega
    exact .inl (by omega)

/-- If all rows of a table are within widths, so are its columns. -/
theorem sum_maximaOf_le {widths : List Int} (hpos : ∀ width ∈ widths, 0 ≤ width)
    (h : ∀ cells ∈ t.dataRows, Table.Within widths cells) : (maximaOf t).sum ≤ widths.sum := by
  cases hrows : t.dataRows with
  | nil =>
      have hcount : t.columnCount = 0 := by rw [Table.columnCount, hrows]
      have hmaxima : maximaOf t = [] := List.length_eq_zero_iff.mp ((length_maximaOf t).trans hcount)
      rw [hmaxima]
      exact List.sum_nonneg hpos
  | cons first rest =>
      have hcount : t.columnCount = widths.length := by
        rw [Table.columnCount, hrows]
        exact (h first (hrows ▸ List.mem_cons_self)).length_eq
      refine List.Forall₂.sum_le_sum (List.forall₂_iff_get.mpr
        ⟨(length_maximaOf t).trans hcount, fun c hc hc' => ?_⟩)
      have hmax : (maximaOf t).get ⟨c, hc⟩ =
          ((lengthsOf t).map fun row => row.getD c 0).foldl max 0 := by
        simp [maximaOf, columnMaxima]
      rw [hmax]
      refine foldl_max_le (hpos _ (List.get_mem _ _)) fun length hlength => ?_
      obtain ⟨lengths, hlengths, rfl⟩ := List.mem_map.mp hlength
      obtain ⟨cells, hcells, rfl⟩ := List.mem_map.mp hlengths
      have hwithin := h cells hcells
      have hcell : c < cells.length := hwithin.length_eq ▸ hc'
      have hle := hwithin.get hcell hc'
      rw [List.getD_eq_getElem _ _ (by rwa [List.length_map]), List.getElem_map]
      exact hle

/-- A table laid out by a plan whose cells can be broken onto their lines keeps to the planned
widths, and to the whole width if the optimizer answers with a width for every column that it is
asked for.  If every data row has a number of lines, there is such a table. -/
theorem narrow_within_plan (hrect : t.Rectangular) (separators : Bool)
    (hplan : plan t maxWidth fixedColumns (some solve) = .ok p) (hbreak : p.Breakable t) :
    (t.dataRows.length ≤ p.rows.length →
      ∃ result, t.narrow maxWidth fixedColumns separators (some solve) = .ok result) ∧
    ∀ result, t.narrow maxWidth fixedColumns separators (some solve) = .ok result →
      (∀ cells ∈ result.dataRows, Table.Within p.widths cells) ∧
      ((∀ response, solve (requestOf t maxWidth fixedColumns) = .ok response →
          (requestOf t maxWidth fixedColumns).columns ≤ response.widths.length) →
        (maximaOf result).sum ≤ maxWidth) := by
  obtain ⟨-, hfixed, haccepted⟩ := plan_ok hrect hplan
  have hlayable := haccepted.layable hrect hbreak
  have hne := haccepted.widths_ne_nil
  have hnarrow : t.narrow maxWidth fixedColumns separators (some solve) =
      t.applyPlan p separators := by
    rw [Table.narrow, hplan]
    rfl
  rw [hnarrow, Table.applyPlan]
  constructor
  · intro hcounts
    obtain ⟨out, hout⟩ := Table.exists_layRows hlayable hne separators hcounts
    exact ⟨⟨out⟩, by rw [hout]; rfl⟩
  · intro result hresult
    obtain ⟨out, hout, hresult⟩ := Outcome.bind_eq_ok.mp hresult
    cases hresult
    have hwithin : ∀ cells ∈ (⟨out⟩ : Table).dataRows, Table.Within p.widths cells :=
      fun cells hcells => Table.layRows_within hlayable hne hout (Table.mem_dataRows.mp hcells)
    refine ⟨hwithin, fun hanswer => ?_⟩
    exact (sum_maximaOf_le haccepted.widths_nonneg hwithin).trans
      (haccepted.sum_widths hfixed hanswer)

/-- Two words of two letters on two lines of three. -/
theorem narrow_two_words :
    let t : Table := ⟨[.data ["aa bb", "c"], .separator, .data ["d", "e"]]⟩
    let solve : Solver := fun _ => .ok ⟨[3, 1], [2, 1]⟩
    let p : Plan := ⟨4, [], [3, 1], [2, 1]⟩
    t.Rectangular ∧ plan t 4 [] (some solve) = .ok p ∧ p.Breakable t ∧
      ∃ result, t.narrow 4 [] false (some solve) = .ok result ∧
        (∀ cells ∈ result.dataRows, Table.Within [3, 1] cells) ∧ (maximaOf result).sum ≤ 4 := by
  intro t solve p
  have hrect : t.Rectangular := by decide
  have hnone : ascending [] = [] := by cbv
  have hfree : freeOf t [] = [1, 2] := by cbv
  have hneeded : neededOf t [] = 0 := by cbv
  have hrequest : requestOf t 4 [] = ⟨2, 2, 4, [[5, 1], [1, 1]]⟩ := by cbv
  have hplan : plan t 4 [] (some solve) = .ok p := by
    rw [plan_eq_complete hrect (by decide) (by simp) (by simp [hfree]) (by simp [hfree, hneeded])
      rfl, hfree, hrequest, hnone]
    rfl
  have hbreak : p.Breakable t := by
    intro row lines hpair htwo cell width hcell
    have hrows : t.dataRows.zip p.rows = [(["aa bb", "c"], 2), (["d", "e"], 1)] := rfl
    rw [hrows] at hpair
    simp only [List.mem_cons, Prod.mk.injEq, List.not_mem_nil, or_false] at hpair
    rcases hpair with ⟨rfl, rfl⟩ | ⟨rfl, rfl⟩
    · have hcells : ["aa bb", "c"].zip p.widths = [("aa bb", 3), ("c", 1)] := rfl
      rw [hcells] at hcell
      simp only [List.mem_cons, Prod.mk.injEq, List.not_mem_nil, or_false] at hcell
      rcases hcell with ⟨rfl, rfl⟩ | ⟨rfl, rfl⟩
      · exact .inr ⟨[["aa"], ["bb"]], by decide, by cbv, by decide⟩
      · exact .inl (by decide)
    · cases htwo
  have hanswer : ∀ response, solve (requestOf t 4 []) = .ok response →
      (requestOf t 4 []).columns ≤ response.widths.length := by
    intro response hresponse
    cases hresponse
    cbv
  obtain ⟨hok, hwithin⟩ := narrow_within_plan hrect false hplan hbreak
  obtain ⟨result, hresult⟩ := hok (by decide)
  obtain ⟨hcells, hsum⟩ := hwithin result hresult
  exact ⟨hrect, hplan, hbreak, result, hresult, hcells, hsum hanswer⟩

/-- A single width for two columns: the second one keeps its greatest length, and the plan is
accepted although both together are wider than asked for. -/
theorem narrow_exceeds_by_one_width :
    let t : Table := ⟨[.data ["aaaaaa", "bbbbbb"]]⟩
    let solve : Solver := fun _ => .ok ⟨[6], [1]⟩
    let p : Plan := ⟨8, [], [6, 6], [1]⟩
    t.Rectangular ∧ plan t 8 [] (some solve) = .ok p ∧ p.Breakable t ∧
      t.narrow 8 [] false (some solve) = .ok t ∧ ¬ (maximaOf t).sum ≤ 8 := by
  intro t solve p
  have hrect : t.Rectangular := by decide
  have hnone : ascending [] = [] := by cbv
  have hfree : freeOf t [] = [1, 2] := by cbv
  have hneeded : neededOf t [] = 0 := by cbv
  have hrequest : requestOf t 8 [] = ⟨1, 2, 8, [[6, 6]]⟩ := by cbv
  have hplan : plan t 8 [] (some solve) = .ok p := by
    rw [plan_eq_complete hrect (by decide) (by simp) (by simp [hfree]) (by simp [hfree, hneeded])
      rfl, hfree, hrequest, hnone]
    rfl
  refine ⟨hrect, hplan, fun row lines hpair htwo => ?_, ?_, by decide⟩
  · have hlines : lines = 1 := by
      have hone : lines ∈ [(1 : Int)] := (List.of_mem_zip hpair).2
      simpa using hone
    rw [hlines] at htwo
    cases htwo
  · rw [Table.narrow, hplan]
    rfl

end Narrow

end Narrow

end PipeTable
