import Mathlib
import PipeTable.Proofs.Narrowing

/-! # Answers of any extents

A solver need not answer with a width per free column and a number of lines per data row.  The check
of its answer compares every cell with a product of the two lists as far as they stand side by side,
where a list of one number repeats, and nothing else is asked of their extents.  Told here exactly
is which answers planning refuses or makes a fitting plan of, and which ones mislead it.
-/

namespace PipeTable

namespace Narrow

/-- The solver that gives an answer to every request. -/
def giving (answer : Request → Response) : Solver := fun request => .ok (answer request)

/-- What an answer with numbers in range does to the check if its extents are not those asked for:
the two lists cannot be compared with the cells, a cell is refused in a column that was not asked
for, or the answer is let through with too few or too many row counts, or with columns that keep
more than the whole width allows because no width is given to them. -/
inductive Response.Misleads (response : Response) (t : Table) (maxWidth : Int)
    (fixedColumns : List Int) : Prop
  | incomparable
      (hextents : ¬ (compatible t.dataRows.length response.rows.length = true ∧
        compatible (freeOf t fixedColumns).length response.widths.length = true))
  | outside (r c : Nat)
      (hcell : firstOverfull? (requestOf t maxWidth fixedColumns).lengths
        (freeOf t fixedColumns).length response = some (r, c))
      (hcolumn : (freeOf t fixedColumns).length ≤ c)
  | rowCounts
      (hroom : firstOverfull? (requestOf t maxWidth fixedColumns).lengths
        (freeOf t fixedColumns).length response = none)
      (hrows : response.rows.length ≠ t.dataRows.length)
  | widths
      (hroom : firstOverfull? (requestOf t maxWidth fixedColumns).lengths
        (freeOf t fixedColumns).length response = none)
      (htotal : maxWidth < totalOf t fixedColumns response.widths)

/-- The optimizer is asked, and an answer with numbers in range misleads the check. -/
structure Misled (t : Table) (maxWidth : Int) (fixedColumns : List Int) (response : Response) :
    Prop where
  asks : Asks t maxWidth fixedColumns
  inRange : response.InRange (maxWidth - neededOf t fixedColumns)
  misleads : response.Misleads t maxWidth fixedColumns

variable {t : Table} {maxWidth : Int} {fixedColumns : List Int} {response : Response}

theorem not_settled_fault (f : Fault) : ¬ Settled t maxWidth (.error (.fault f)) :=
  Bool.false_ne_true

/-- An answer of the extents asked for does not mislead the check. -/
theorem not_misled_of_extents (hcounts : response.rows.length = t.dataRows.length)
    (hwidths : response.widths.length = (freeOf t fixedColumns).length) :
    ¬ Misled t maxWidth fixedColumns response := by
  rintro ⟨-, hrange, hmisleads⟩
  cases hmisleads with
  | incomparable hextents => exact hextents (by simp [compatible, hcounts, hwidths])
  | outside r c hcell hcolumn => exact absurd (column_of_firstOverfull? hwidths hcell) (by omega)
  | rowCounts _ hrows => exact hrows hcounts
  | widths _ htotal =>
      have hsum := hrange.sum_widths
      rw [totalOf_eq hwidths] at htotal
      omega

section Comparable

variable (hextents : compatible t.dataRows.length response.rows.length = true ∧
  compatible (freeOf t fixedColumns).length response.widths.length = true)
include hextents

/-- The refusal of a cell is misled only if it cannot name the column. -/
theorem misleads_iff_of_overfull {r c : Nat}
    (hcell : firstOverfull? (requestOf t maxWidth fixedColumns).lengths
      (freeOf t fixedColumns).length response = some (r, c)) :
    response.Misleads t maxWidth fixedColumns ↔ (freeOf t fixedColumns).length ≤ c := by
  refine ⟨fun hmisleads => ?_, .outside r c hcell⟩
  cases hmisleads with
  | incomparable hapart => exact absurd hextents hapart
  | outside r' c' hcell' hcolumn =>
      cases hcell.symm.trans hcell'
      exact hcolumn
  | rowCounts hroom => cases hcell.symm.trans hroom
  | widths hroom => cases hcell.symm.trans hroom

/-- The plan made of an answer that passes the check fits exactly if the check was not misled. -/
theorem fits_iff_of_passes (hrect : t.Rectangular)
    (hfixed : ∀ c ∈ fixedColumns, 1 ≤ c ∧ c ≤ t.columnCount)
    (hpasses : response.Passes (requestOf t maxWidth fixedColumns)) :
    Plan.Fits ⟨maxWidth, ascending fixedColumns,
        scatter (maximaOf t) ((freeOf t fixedColumns).zip response.widths), response.rows⟩
        t maxWidth ↔
      ¬ response.Misleads t maxWidth fixedColumns := by
  have hroom := hpasses.room
  constructor
  · intro hfits hmisleads
    cases hmisleads with
    | incomparable hapart => exact hapart hextents
    | outside r c hcell => cases hroom.symm.trans hcell
    | rowCounts _ hrows => exact hrows hfits.length_rows
    | widths _ htotal =>
        have hsum := hfits.sum_widths
        rw [sum_scatter_given hfixed] at hsum
        omega
  · intro h
    have hcounts : response.rows.length = t.dataRows.length := by
      by_contra hrows
      exact h (.rowCounts hroom hrows)
    have hsum : (scatter (maximaOf t) ((freeOf t fixedColumns).zip response.widths)).sum ≤
        maxWidth := by
      rw [sum_scatter_given hfixed]
      exact not_lt.mp fun htotal => h (.widths hroom htotal)
    exact fits_of_free hrect hcounts hpasses.rows_pos hsum hpasses.room_free

end Comparable

/-- Checking an answer with numbers in range leads to a refusal or a plan that fits exactly if the
answer does not mislead the check. -/
theorem complete_settled_iff (hrect : t.Rectangular)
    (hfixed : ∀ c ∈ fixedColumns, 1 ≤ c ∧ c ≤ t.columnCount)
    (hrange : response.InRange (requestOf t maxWidth fixedColumns).maxWidth)
    (hcopes : ¬ response.Breaks maxWidth (requestOf t maxWidth fixedColumns).maxWidth) :
    Settled t maxWidth (complete maxWidth (ascending fixedColumns) (maximaOf t)
        (freeOf t fixedColumns) (requestOf t maxWidth fixedColumns) response) ↔
      ¬ response.Misleads t maxWidth fixedColumns := by
  rw [complete_of_inRange hrange hcopes]
  by_cases hextents : compatible t.dataRows.length response.rows.length = true ∧
      compatible (freeOf t fixedColumns).length response.widths.length = true
  swap
  · rw [if_pos (by
      rw [Bool.not_eq_true', Bool.eq_false_iff, ne_eq, Bool.and_eq_true]
      exact hextents)]
    exact iff_of_false (not_settled_fault _) (not_not.mpr (.incomparable hextents))
  rw [if_neg (by
    rw [Bool.not_eq_true', Bool.not_eq_false, Bool.and_eq_true]
    exact hextents)]
  cases hplace : firstOverfull? (requestOf t maxWidth fixedColumns).lengths
      (requestOf t maxWidth fixedColumns).columns response with
  | some place =>
      obtain ⟨r, c⟩ := place
      rw [misleads_iff_of_overfull hextents hplace, not_le]
      by_cases hcolumn : c < (freeOf t fixedColumns).length
      · simp only [List.getElem?_eq_getElem hcolumn]
        exact iff_of_true rfl hcolumn
      · simp only [List.getElem?_eq_none (not_lt.mp hcolumn)]
        exact iff_of_false (not_settled_fault _) hcolumn
  | none =>
      exact fits_iff_of_passes hextents hrect hfixed
        ⟨hrange.widths_pos, hrange.rows_pos, hrange.sum_widths, hplace⟩

theorem asked_plan_settled_iff (hrect : t.Rectangular) (hdata : t.dataRows ≠ [])
    (hfixed : ∀ c ∈ fixedColumns, 1 ≤ c ∧ c ≤ t.columnCount) {answer : Request → Response}
    (hasks : Asks t maxWidth fixedColumns)
    (h : ¬ Breaks t maxWidth fixedColumns (giving answer)) :
    Settled t maxWidth (plan t maxWidth fixedColumns (some (giving answer))) ↔
      ¬ Misled t maxWidth fixedColumns (answer (requestOf t maxWidth fixedColumns)) := by
  rw [plan_eq_complete hrect hdata hfixed hasks.1 hasks.2 rfl]
  have hcopes : ¬ (answer (requestOf t maxWidth fixedColumns)).Breaks maxWidth
      (requestOf t maxWidth fixedColumns).maxWidth :=
    fun hbreaks => h (.answer _ hasks.1 hasks.2 rfl hbreaks)
  by_cases hrange : (answer (requestOf t maxWidth fixedColumns)).InRange
      (requestOf t maxWidth fixedColumns).maxWidth
  · rw [complete_settled_iff hrect hfixed hrange hcopes]
    exact not_congr ⟨fun hmisleads => ⟨hasks, hrange, hmisleads⟩, Misled.misleads⟩
  · obtain ⟨e, he, hrefused⟩ := complete_refuses hrange hcopes
    rw [he]
    exact ⟨fun _ hmisled => hrange hmisled.inRange, fun _ => hrefused⟩

/-- Whatever lists a solver answers with, a plan that is made has a width per column, positive row
counts and room for every cell that has lines.  Planning is refused for a reason of narrowing or
makes a plan that fits exactly if it neither breaks nor is misled by the extents of the lists, and
it is not misled if they are those asked for. -/
theorem answered_plan_settled_iff (hrect : t.Rectangular) (hdata : t.dataRows ≠ [])
    (hfixed : ∀ c ∈ fixedColumns, 1 ≤ c ∧ c ≤ t.columnCount) (answer : Request → Response) :
    (∀ p, plan t maxWidth fixedColumns (some (giving answer)) = .ok p →
      p.widths.length = t.columnCount ∧ (∀ lines ∈ p.rows, 1 ≤ lines) ∧
        ∀ (r c : Nat) (row : List String) (cell : String) (lines width : Int),
          t.dataRows[r]? = some row → row[c]? = some cell → p.rows[r]? = some lines →
            p.widths[c]? = some width → (cell.length : Int) ≤ width * lines) ∧
    (Settled t maxWidth (plan t maxWidth fixedColumns (some (giving answer))) ↔
      ¬ Breaks t maxWidth fixedColumns (giving answer) ∧
        ¬ Misled t maxWidth fixedColumns (answer (requestOf t maxWidth fixedColumns))) ∧
    ((answer (requestOf t maxWidth fixedColumns)).rows.length = t.dataRows.length →
      (answer (requestOf t maxWidth fixedColumns)).widths.length =
          (freeOf t fixedColumns).length →
        ¬ Misled t maxWidth fixedColumns (answer (requestOf t maxWidth fixedColumns))) := by
  refine ⟨fun p hplan => ?_, ?_, not_misled_of_extents⟩
  · obtain ⟨-, -, haccepted⟩ := plan_ok hrect hplan
    exact ⟨haccepted.length_widths, haccepted.rows_pos,
      fun r c row cell lines width hrow hcell hlines hwidth =>
        haccepted.room hrow hcell hlines hwidth⟩
  by_cases hbreaks : Breaks t maxWidth fixedColumns (giving answer)
  · obtain ⟨f, hfault⟩ := plan_of_breaks hrect hdata hfixed hbreaks
    rw [hfault]
    exact iff_of_false (not_settled_fault f) fun h => h.1 hbreaks
  by_cases hasks : Asks t maxWidth fixedColumns
  · rw [asked_plan_settled_iff hrect hdata hfixed hasks hbreaks]
    exact (and_iff_right hbreaks).symm
  · exact ⟨fun _ => ⟨hbreaks, fun hmisled => hasks hmisled.asks⟩,
      fun _ => plan_settles_unasked hrect hdata hfixed hasks hbreaks⟩

/-- Two widths for a single column: the first one is used, and the plan fits. -/
theorem answered_plan_fits_with_spare_width :
    let t : Table := ⟨[.data ["ab"], .separator, .data ["c"]]⟩
    let answer : Request → Response := fun _ => ⟨[2, 3], [1, 1]⟩
    t.Rectangular ∧ t.dataRows ≠ [] ∧ (∀ c ∈ ([] : List Int), 1 ≤ c ∧ c ≤ t.columnCount) ∧
      Settled t 5 (plan t 5 [] (some (giving answer))) := by
  intro t answer
  have hrect : t.Rectangular := by decide
  have hfree : freeOf t [] = [1] := by cbv
  have hneeded : neededOf t [] = 0 := by cbv
  have hrequest : requestOf t 5 [] = ⟨2, 1, 5, [[2], [1]]⟩ := by cbv
  have htotal : totalOf t [] [2, 3] = 2 := by cbv
  refine ⟨hrect, by decide, by simp,
    (answered_plan_settled_iff hrect (by decide) (by simp) answer).2.1.mpr ⟨fun hbreaks => ?_, ?_⟩⟩
  · cases hbreaks with
    | fixedTooWide hnone => rw [hfree] at hnone; cases hnone
    | tooNarrow _ hbudget => rw [hfree, hneeded] at hbudget; cases hbudget
    | answer response _ _ hanswer hbreaks =>
        cases hanswer
        cases hbreaks with
        | noLayout hwidths => simp [answer] at hwidths
        | widthSum _ _ hsum => rw [hneeded] at hsum; simp [answer] at hsum
        | overflow _ _ _ hproduct => revert hproduct; decide
  · rintro ⟨-, -, hmisleads⟩
    cases hmisleads with
    | incomparable hextents => exact hextents (by rw [hfree]; decide)
    | outside r c hcell => rw [hrequest, hfree] at hcell; cases hcell
    | rowCounts _ hrows => exact hrows rfl
    | widths _ hwide => rw [htotal] at hwide; cases hwide

/-- A single row count for two data rows: the plan that is made has no lines for the second one. -/
theorem answered_plan_lacks_lines :
    let t : Table := ⟨[.data ["a"], .data ["b"]]⟩
    let answer : Request → Response := fun _ => ⟨[1], [1]⟩
    t.Rectangular ∧ t.dataRows ≠ [] ∧ plan t 5 [] (some (giving answer)) = .ok ⟨5, [], [1], [1]⟩ ∧
      ¬ Settled t 5 (plan t 5 [] (some (giving answer))) := by
  intro t answer
  have hrect : t.Rectangular := by decide
  have hnone : ascending [] = [] := by cbv
  have hfree : freeOf t [] = [1] := by cbv
  have hneeded : neededOf t [] = 0 := by cbv
  have hrequest : requestOf t 5 [] = ⟨2, 1, 5, [[1], [1]]⟩ := by cbv
  have hplan : plan t 5 [] (some (giving answer)) = .ok ⟨5, [], [1], [1]⟩ := by
    rw [plan_eq_complete hrect (by decide) (by simp) (by simp [hfree]) (by simp [hfree, hneeded])
      rfl, hfree, hrequest, hnone]
    rfl
  refine ⟨hrect, by decide, hplan, fun hsettled => ?_⟩
  rw [hplan] at hsettled
  have hcounts := hsettled.length_rows
  cases hcounts

end Narrow

end PipeTable
