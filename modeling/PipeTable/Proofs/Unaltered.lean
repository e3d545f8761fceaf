import Mathlib
import PipeTable.Proofs.Fewest
import PipeTable.Proofs.Heights
import PipeTable.Proofs.Narrowing

/-! # Cells left as they are

A fixed column is as wide as its longest cell, so that none of its cells is broken: a cell stands in
the first row of its group as it was, its blanks included, with nothing below it.  A row that is
planned on one line stays as it is.
-/

namespace PipeTable

theorem Text.fit_eq_self {text : String} {width count : Nat} (hcount : 1 ≤ count)
    (h : text.length ≤ width) : Text.fit text width count = [text] := by
  have hwrap := Text.wrap_eq_self (.inl (h.trans (Nat.le_max_right 1 width)))
  rw [Text.fit_eq_wrap (by rw [hwrap]; exact hcount), hwrap]

namespace Table

/-- In a column, counted from zero, the first row of a group has the cell of a row, and the rows
below it have nothing. -/
def KeepsCell (c : Nat) (cells : List String) (group : List (List String)) : Prop :=
  ∃ cell first below, cells[c]? = some cell ∧ group = first :: below ∧ first[c]? = some cell ∧
    ∀ row ∈ below, row[c]? = some ""

section Group

variable {widths : List Int} {lines : Int} {cells : List String} {group : List (List String)}
  {c : Nat} {cell : String}

/-- A column that has a single line has it in the first of the rows that are stacked. -/
theorem stackLines_keepsCell {columns : List (List String)} {height : Nat} (hpos : 0 < height)
    (hcell : cells[c]? = some cell) (hcolumn : columns[c]? = some [cell]) :
    KeepsCell c cells (stackLines height columns) := by
  obtain ⟨height, rfl⟩ := Nat.exists_eq_add_of_le' hpos
  have hrow (k : Nat) :
      (columns.map fun lines => lines.getD k "")[c]? = some ([cell].getD k "") := by
    rw [List.getElem?_map, hcolumn, Option.map_some]
  refine ⟨cell, _, _, hcell, by rw [stackLines, List.range_succ_eq_map, List.map_cons], hrow 0,
    fun row hmem => ?_⟩
  simp only [List.map_map, List.mem_map] at hmem
  obtain ⟨k, -, rfl⟩ := hmem
  exact hrow (k + 1)

/-- A cell that is within its width is not broken, whatever comes of the others in its row. -/
theorem planGroup_keepsCell (hlength : cells.length = widths.length)
    (hgroup : planGroup widths lines cells = .ok group) (hcell : cells[c]? = some cell)
    {width : Int} (hwidth : widths[c]? = some width) (hshort : (cell.length : Int) ≤ width) :
    KeepsCell c cells group := by
  by_cases hlines : lines ≤ 1
  · rw [planGroup_of_le hlines] at hgroup
    cases hgroup
    exact ⟨cell, cells, [], hcell, rfl, hcell, nofun⟩
  · have hne : widths ≠ [] := List.ne_nil_of_mem (List.mem_of_getElem? hwidth)
    rw [planGroup_eq hlength (by omega) hne] at hgroup
    cases hgroup
    refine stackLines_keepsCell (by omega) hcell ?_
    rw [fitted, List.getElem?_zipWith, hcell, hwidth]
    exact congrArg some (Text.fit_eq_self (by omega) (by omega))

end Group

/-- Rows are laid out only with a number of lines for each of them. -/
theorem length_le_of_layRows {separators : Bool} {widths counts : List Int} {rows out : List Row}
    (h : layRows separators widths counts rows = .ok out) :
    (rows.filterMap Row.cells?).length ≤ counts.length := by
  induction rows generalizing counts out with
  | nil => exact Nat.zero_le _
  | cons row rows ih =>
      cases row with
      | separator =>
          rw [layRows] at h
          obtain ⟨more, hmore, -⟩ := Outcome.bind_eq_ok.mp h
          exact ih hmore
      | data cells =>
          cases counts with
          | nil => cases h
          | cons count counts =>
              rw [layRows] at h
              obtain ⟨group, -, h⟩ := Outcome.bind_eq_ok.mp h
              obtain ⟨more, hmore, -⟩ := Outcome.bind_eq_ok.mp h
              exact Nat.succ_le_succ (ih hmore)

end Table

namespace Narrow

variable {t : Table} {maxWidth : Int} {fixedColumns : List Int} {p : Plan}

/-- No width is given to a fixed column. -/
theorem Accepted.width_fixed {solve : Solver} (h : Accepted t maxWidth fixedColumns solve p)
    {c : Int} (hc : c ∈ fixedColumns) (hinside : 1 ≤ c ∧ c ≤ t.columnCount) :
    p.widths[(c - 1).toNat]? = (maximaOf t)[(c - 1).toNat]? := by
  cases h with
  | fixed => rfl
  | answered response =>
      rcases getElem?_scatter_given fixedColumns response.widths
        (show (c - 1).toNat < t.columnCount by omega) with ⟨j, -, hfree, -, -⟩ | hkept
      · obtain ⟨-, -, hnot⟩ := of_mem_freeOf (List.mem_of_getElem? hfree)
        have hsame : (((c - 1).toNat + 1 : Nat) : Int) = c := by omega
        rw [hsame] at hnot
        exact absurd (mem_ascending.mpr hc) hnot
      · exact hkept

/-- What a plan makes of a row on some lines: the row itself on a single one, and on any number a
group that keeps the cells of the fixed columns. -/
def KeepsFixed (fixedColumns : List Int) (cells : List String) (lines : Int)
    (group : List (List String)) : Prop :=
  (lines = 1 → group = [cells]) ∧ ∀ c ∈ fixedColumns, Table.KeepsCell (c - 1).toNat cells group

theorem exists_applyPlan_keepsFixed {solve : Solver} (hrect : t.Rectangular)
    (hplan : plan t maxWidth fixedColumns (some solve) = .ok p)
    (hcounts : t.height ≤ p.rows.length) :
    ∃ groups, (∀ separators,
        t.applyPlan p separators = .ok ⟨Table.laid separators t.rows groups⟩) ∧
      List.Forall₂ (fun pair group => KeepsFixed fixedColumns pair.1 pair.2 group)
        (t.dataRows.zip p.rows) groups := by
  obtain ⟨-, hfixed, haccepted⟩ := plan_ok hrect hplan
  obtain ⟨groups, hgroups, hkept⟩ := Table.exists_layRows_eq_laid p.widths
    (P := KeepsFixed fixedColumns) hcounts fun ⟨cells, lines⟩ hpair => by
      obtain ⟨hrow, hlines⟩ := List.of_mem_zip hpair
      have hlength := (hrect cells hrow).trans haccepted.length_widths.symm
      obtain ⟨group, hgroup, -⟩ :=
        Table.planGroup_spells hlength (haccepted.widths_ne_nil lines hlines)
      refine ⟨group, hgroup, ?_, fun c hc => ?_⟩
      · rintro rfl
        rw [Table.planGroup_of_le le_rfl] at hgroup
        exact (Except.ok.inj hgroup).symm
      · have hinside := hfixed c hc
        have hcell : (c - 1).toNat < cells.length := by
          rw [hrect cells hrow]
          omega
        have hwidth := List.getElem?_eq_getElem (hlength ▸ hcell)
        have hmax := (haccepted.width_fixed hc hinside).symm.trans hwidth
        refine Table.planGroup_keepsCell hlength hgroup (List.getElem?_eq_getElem hcell) hwidth ?_
        simpa using length_le_maximaOf hrow (List.getElem?_eq_getElem hcell) hmax le_rfl
  exact ⟨groups, fun separators => Outcome.bind_eq_ok.mpr ⟨_, hgroups separators, rfl⟩, hkept⟩

/-- A narrowed table has a group of rows for every data row.  The cells of the fixed columns stand
in the first row of their group as they were, with nothing below them, and a row that is planned on
one line is its own group.  Narrowing succeeds with every plan that has a number of lines for each
data row. -/
theorem narrow_keeps_fixed (hrect : t.Rectangular) (separators : Bool) (solver : Option Solver) :
    (∀ p, plan t maxWidth fixedColumns solver = .ok p → t.height ≤ p.rows.length →
      ∃ result, t.narrow maxWidth fixedColumns separators solver = .ok result) ∧
    ∀ result, t.narrow maxWidth fixedColumns separators solver = .ok result →
      ∃ p groups, plan t maxWidth fixedColumns solver = .ok p ∧ t.height ≤ p.rows.length ∧
        result.rows = Table.laid separators t.rows groups ∧
        List.Forall₂ (fun pair group => KeepsFixed fixedColumns pair.1 pair.2 group)
          (t.dataRows.zip p.rows) groups := by
  cases solver with
  | none => exact ⟨fun p hplan => (nomatch hplan), fun result hresult => (nomatch hresult)⟩
  | some solve =>
      refine ⟨fun p hplan hcounts => ?_, fun result hresult => ?_⟩
      · obtain ⟨groups, hgroups, -⟩ := exists_applyPlan_keepsFixed hrect hplan hcounts
        exact ⟨_, Outcome.bind_eq_ok.mpr ⟨p, hplan, hgroups separators⟩⟩
      · obtain ⟨p, hplan, happly⟩ := Outcome.bind_eq_ok.mp hresult
        obtain ⟨out, hout, -⟩ := Outcome.bind_eq_ok.mp happly
        have hcounts : t.height ≤ p.rows.length := Table.length_le_of_layRows hout
        obtain ⟨groups, hgroups, hkept⟩ := exists_applyPlan_keepsFixed hrect hplan hcounts
        obtain rfl := Except.ok.inj ((hgroups separators).symm.trans happly)
        exact ⟨p, groups, hplan, hcounts, rfl, hkept⟩

/-- A fixed column whose cells have several blanks in them, beside a cell that is broken. -/
theorem narrow_keeps_fixed_blanks :
    let t : Table := ⟨[.data ["a  b", "ccc ddd eee"], .separator, .data ["", "f  g"]]⟩
    let solve : Solver := fun _ => .ok ⟨[7], [2, 1]⟩
    let p : Plan := ⟨11, [1], [4, 7], [2, 1]⟩
    let result : Table := ⟨[.data ["a  b", "ccc ddd"], .data ["", "eee"], .separator,
      .data ["", "f  g"]]⟩
    (t.Rectangular ∧ plan t 11 [1] (some solve) = .ok p ∧ t.height ≤ p.rows.length) ∧
      t.narrow 11 [1] true (some solve) = .ok result ∧
      ∃ groups, result.rows = Table.laid true t.rows groups ∧
        List.Forall₂ (fun pair group => KeepsFixed [1] pair.1 pair.2 group)
          (t.dataRows.zip [2, 1]) groups := by
  intro t solve p result
  have hrect : t.Rectangular := by decide
  have hfixed : ∀ c ∈ [(1 : Int)], 1 ≤ c ∧ c ≤ t.columnCount := by decide
  have hascending : ascending [1] = [1] := by cbv
  have hfree : freeOf t [1] = [2] := by cbv
  have hneeded : neededOf t [1] = 4 := by cbv
  have hrequest : requestOf t 11 [1] = ⟨2, 1, 7, [[11], [4]]⟩ := by cbv
  have hplan : plan t 11 [1] (some solve) = .ok p := by
    rw [plan_eq_complete hrect (by decide) hfixed (by simp [hfree]) (by simp [hfree, hneeded]) rfl,
      hfree, hrequest, hascending]
    rfl
  have hcounts : t.height ≤ p.rows.length := by decide
  have hnarrow : t.narrow 11 [1] true (some solve) = .ok result := by
    rw [Table.narrow, hplan]
    rfl
  obtain ⟨p', groups, hplan', -, hrows, hgroups⟩ :=
    (narrow_keeps_fixed hrect true (some solve)).2 result hnarrow
  obtain rfl := Except.ok.inj (hplan.symm.trans hplan')
  exact ⟨⟨hrect, hplan, hcounts⟩, hnarrow, groups, hrows, hgroups⟩

end Narrow

end PipeTable
