import Mathlib
import PipeTable.Proofs.Cells
import PipeTable.Proofs.Layout
import PipeTable.Proofs.Words

/-! # Rows spread over groups

Narrowing makes a group of rows of every data row and leaves the separators between them.  Read
downwards, each column of a group has the words of the cell that it came from.
-/

namespace PipeTable.Table

/-! ## Groups -/

/-- The columns of a group have the words of the cells of a row. -/
structure Spells (cells : List String) (group : List (List String)) : Prop where
  nonempty : group ≠ []
  wide : ∀ row ∈ group, row.length = cells.length
  words : ∀ c < cells.length,
    (group.flatMap fun row => Text.words (row.getD c "")) = Text.words (cells.getD c "")

/-- Outside a column the first row of a group has the cells of a row, and the rows below it have
nothing. -/
def KeepsOthers (column : Nat) (cells : List String) (group : List (List String)) : Prop :=
  ∃ first below, group = first :: below ∧ ∀ c ≠ column,
    first.getD c "" = cells.getD c "" ∧ ∀ row ∈ below, row.getD c "" = ""

theorem expandRows_grouped (separators : Bool) {P : List String → List (List String) → Prop}
    {rows : List Row} {expand : List String → Except Error (List (List String))}
    (h : ∀ cells, Row.data cells ∈ rows → ∃ group, expand cells = .ok group ∧ P cells group) :
    ∃ out, expandRows separators expand rows = .ok out ∧ Grouped separators P rows out := by
  induction rows with
  | nil => exact ⟨[], rfl, .nil⟩
  | cons row rows ih =>
      obtain ⟨more, hmore, hgrouped⟩ := ih fun cells hcells =>
        h cells (List.mem_cons_of_mem _ hcells)
      cases row with
      | separator => exact ⟨.separator :: more, by rw [expandRows, hmore]; rfl, hgrouped.separator⟩
      | data cells =>
          obtain ⟨group, hgroup, hallowed⟩ := h cells List.mem_cons_self
          exact ⟨_, by rw [expandRows, hgroup, hmore]; rfl, .data hallowed hgrouped⟩

theorem expandRows_congr (separators : Bool) {rows : List Row}
    {expand other : List String → Except Error (List (List String))}
    (h : ∀ cells, Row.data cells ∈ rows → expand cells = other cells) :
    expandRows separators expand rows = expandRows separators other rows := by
  induction rows with
  | nil => rfl
  | cons row rows ih =>
      have hrest := ih fun cells hcells => h cells (List.mem_cons_of_mem _ hcells)
      cases row with
      | separator => rw [expandRows, expandRows, hrest]
      | data cells => rw [expandRows, expandRows, h cells List.mem_cons_self, hrest]

theorem exists_table_of_grouped {separators : Bool} {P : List String → List (List String) → Prop}
    {rows : List Row} {made : Except Error (List Row)}
    (h : ∃ out, made = .ok out ∧ Grouped separators P rows out) :
    ∃ u, (do return (⟨← made⟩ : Table)) = Except.ok u ∧ Grouped separators P rows u.rows := by
  obtain ⟨out, rfl, hgrouped⟩ := h
  exact ⟨⟨out⟩, rfl, hgrouped⟩

/-! ## One column -/

section Column

variable {cells lines : List String} {column : Nat}

theorem columnGroup_keepsOthers (hne : lines ≠ []) (hcolumn : column < cells.length) :
    KeepsOthers column cells (columnGroup cells column lines) := by
  cases lines with
  | nil => exact absurd rfl hne
  | cons first more =>
      refine ⟨_, _, rfl, fun c hc => ⟨by rw [getD_set hcolumn, if_neg hc], fun row hrow => ?_⟩⟩
      obtain ⟨line, -, rfl⟩ := List.mem_map.mp hrow
      rw [getD_set (by simpa using hcolumn), if_neg hc, getD_replicate_empty]

theorem columnGroup_spells (hne : lines ≠ []) (hcolumn : column < cells.length)
    (hwords : lines.flatMap Text.words = Text.words (cells.getD column "")) :
    Spells cells (columnGroup cells column lines) := by
  obtain ⟨first, more, rfl⟩ := List.exists_cons_of_ne_nil hne
  have hbelow (line : String) (c : Nat) :
      (((List.replicate cells.length "").set column line).getD c "") =
        if c = column then line else "" := by
    rw [getD_set (by simpa using hcolumn), getD_replicate_empty]
  refine ⟨nofun, fun row hrow => ?_, fun c _ => ?_⟩
  · rcases List.mem_cons.mp hrow with rfl | hrow
    · exact List.length_set
    · obtain ⟨line, -, rfl⟩ := List.mem_map.mp hrow
      simp
  · rw [columnGroup, List.flatMap_cons, List.flatMap_map, getD_set hcolumn]
    simp only [hbelow]
    by_cases hc : c = column
    · simpa [hc] using hwords
    · simp [hc]

end Column

theorem mem_columnGroup {cells lines row : List String} {column : Nat} {cell : String}
    (hrow : row ∈ columnGroup cells column lines) (hcell : cell ∈ row) :
    cell = "" ∨ cell ∈ cells ∨ cell ∈ lines := by
  cases lines with
  | nil => cases hrow
  | cons first more =>
      rcases List.mem_cons.mp hrow with rfl | hrow
      · rcases List.mem_or_eq_of_mem_set hcell with hcell | rfl
        · exact .inr (.inl hcell)
        · exact .inr (.inr List.mem_cons_self)
      · obtain ⟨line, hline, rfl⟩ := List.mem_map.mp hrow
        rcases List.mem_or_eq_of_mem_set hcell with hcell | rfl
        · exact .inl (List.eq_of_mem_replicate hcell)
        · exact .inr (.inr (List.mem_cons_of_mem _ hline))

theorem wrap_ne_nil (text : String) (width : Nat) : Text.wrap text width ≠ [] := by
  have hfill (room : Nat) (current : String) (more : List String) :
      Text.fillLines room current more ≠ [] := by
    induction more generalizing current with
    | nil => exact List.cons_ne_nil _ _
    | cons word more ih =>
        rw [Text.fillLines]
        split
        · exact ih _
        · exact List.cons_ne_nil _ _
  rcases Text.wrap_cases text width with ⟨-, hwrap⟩ | ⟨-, hwrap⟩ | ⟨_, _, -, hwrap⟩ <;> rw [hwrap]
  · exact List.cons_ne_nil _ _
  · exact List.cons_ne_nil _ _
  · exact hfill _ _ _

/-! ## All columns -/

section Columns

variable {cells : List String} {widths : List Int} {lines : Int}

theorem flatMap_words_getD {n : Nat} {lines : List String} (h : lines.length ≤ n) :
    ((List.range n).flatMap fun k => Text.words (lines.getD k "")) = lines.flatMap Text.words := by
  induction lines generalizing n with
  | nil => simp
  | cons line lines ih =>
      obtain ⟨n, rfl⟩ := Nat.exists_eq_add_of_le' (Nat.one_le_of_lt h)
      rw [List.range_succ_eq_map, List.flatMap_cons, List.flatMap_map, List.flatMap_cons]
      simpa using ih (n := n) (by simpa using h)

/-- Lines of cells, stacked so high that none of them is left out. -/
theorem stackLines_spells {height : Nat} {columns : List (List String)} (hpos : 0 < height)
    (hheight : ∀ lines ∈ columns, lines.length ≤ height)
    (hwords : List.Forall₂ (fun lines cell => lines.flatMap Text.words = Text.words cell)
      columns cells) : Spells cells (stackLines height columns) := by
  refine ⟨?_, fun row hrow => ?_, fun c hc => ?_⟩
  · rw [stackLines, ne_eq, List.map_eq_nil_iff, List.range_eq_nil]
    omega
  · obtain ⟨k, -, rfl⟩ := List.mem_map.mp hrow
    rw [List.length_map, hwords.length_eq]
  · -- the lines of one cell, down to the height of the highest one; what is missing is empty
    have hc' : c < columns.length := hwords.length_eq ▸ hc
    have hcolumn := (List.forall₂_iff_get.mp hwords).2 c hc' hc
    simp only [List.get_eq_getElem] at hcolumn
    rw [stackLines, List.flatMap_map, List.getD_eq_getElem _ _ hc, ← hcolumn,
      ← flatMap_words_getD (hheight _ (List.getElem_mem hc'))]
    simp [hc']

theorem fitted_words (hlength : cells.length = widths.length) :
    List.Forall₂ (fun column cell => column.flatMap Text.words = Text.words cell)
      (fitted widths lines cells) cells := by
  induction cells generalizing widths with
  | nil => exact .nil
  | cons cell cells ih =>
      cases widths with
      | nil => cases hlength
      | cons width widths =>
          exact .cons (Text.flatMap_words_fit _ _ _) (ih (Nat.succ.inj hlength))

/-- A row planned on any number of lines becomes a group with its words, unless it has no cells. -/
theorem planGroup_spells (hlength : cells.length = widths.length) (h : 2 ≤ lines → widths ≠ []) :
    ∃ group, planGroup widths lines cells = .ok group ∧ Spells cells group := by
  by_cases hlines : lines ≤ 1
  · exact ⟨[cells], planGroup_of_le hlines, nofun, by simp, by simp⟩
  · have htwo : 2 ≤ lines := by omega
    exact ⟨_, planGroup_eq hlength htwo (h htwo), stackLines_spells (by omega)
      (fun column hcolumn => length_le_of_mem_fitted (by omega) hcolumn) (fitted_words hlength)⟩

theorem planGroup_no_cells (hlines : 2 ≤ lines) :
    planGroup widths lines [] = .error (.fault .badValue) := by
  rw [planGroup, if_neg (by omega)]
  rfl

end Columns

/-! ## Tables -/

/-- The rows that a data row becomes when one of its columns is narrowed. -/
def narrowGroup (column width : Int) (cells : List String) : List (List String) :=
  columnGroup cells (column - 1).toNat
    (Text.wrap (cells.getD (column - 1).toNat "") width.toNat)

section Tables

variable {t : Table} (hrect : t.Rectangular) (separators : Bool)
include hrect

/-- Narrowing a column expands every data row to the group of its wrapped cell. -/
theorem narrowColumn_eq {column width : Int} (hcolumn : 1 ≤ column ∧ column ≤ t.columnCount)
    (hwidth : 1 ≤ width) :
    t.narrowColumn column width separators = do
      return ⟨← expandRows separators (fun cells => .ok (narrowGroup column width cells)) t.rows⟩ := by
  unfold narrowColumn
  rw [if_neg (by omega), if_neg (by omega)]
  refine congrArg (fun made : Except Error (List Row) => do return (⟨← made⟩ : Table))
    (expandRows_congr separators fun cells hcells => ?_)
  have hinside : (column - 1).toNat < cells.length := by
    rw [hrect cells (mem_dataRows.mpr hcells)]
    omega
  -- columns count from one, cells from zero
  rw [nth?, if_pos hcolumn.1, List.getElem?_eq_getElem hinside, narrowGroup,
    List.getD_eq_getElem _ _ hinside]

theorem exists_narrowColumn {column width : Int} (hcolumn : 1 ≤ column ∧ column ≤ t.columnCount)
    (hwidth : 1 ≤ width) {P : List String → List (List String) → Prop}
    (h : ∀ cells ∈ t.dataRows, P cells (narrowGroup column width cells)) :
    ∃ u, t.narrowColumn column width separators = .ok u ∧ Grouped separators P t.rows u.rows := by
  rw [narrowColumn_eq hrect separators hcolumn hwidth]
  exact exists_table_of_grouped (expandRows_grouped separators fun cells hcells =>
    ⟨_, rfl, h cells (mem_dataRows.mpr hcells)⟩)

/-- Narrowing a column keeps the words of its cells in their rows, and the other columns as they
are. -/
theorem narrowColumn_grouped {column width : Int} (hcolumn : 1 ≤ column ∧ column ≤ t.columnCount)
    (hwidth : 1 ≤ width) :
    ∃ u, t.narrowColumn column width separators = .ok u ∧
      Grouped separators (fun cells group => Spells cells group ∧
        KeepsOthers (column - 1).toNat cells group) t.rows u.rows := by
  refine exists_narrowColumn hrect separators hcolumn hwidth fun cells hcells => ?_
  have hinside : (column - 1).toNat < cells.length := by
    rw [hrect cells hcells]
    omega
  exact ⟨columnGroup_spells (wrap_ne_nil _ _) hinside (Text.flatMap_words_wrap _ _),
    columnGroup_keepsOthers (wrap_ne_nil _ _) hinside⟩

/-- A plan that can be applied puts no rows without cells on several lines. -/
theorem hasCells_of_applyPlan {plan : Narrow.Plan} (hrows : plan.rows.length = t.height) {u : Table}
    (hu : t.applyPlan plan separators = .ok u) :
    0 < t.columnCount ∨ ∀ lines ∈ plan.rows, lines ≤ 1 := by
  obtain ⟨out, hout, -⟩ := Outcome.bind_eq_ok.mp hu
  rw [or_iff_not_imp_left, Nat.not_lt, Nat.le_zero]
  intro hnone lines hlines
  by_contra hseveral
  -- the row that is planned on several lines has no cells
  obtain ⟨i, hi, rfl⟩ := List.mem_iff_getElem.mp hlines
  have hi' : i < t.dataRows.length := by
    rw [height] at hrows
    omega
  have hpair : (t.dataRows[i], plan.rows[i]) ∈ t.dataRows.zip plan.rows := by
    rw [← List.getElem_zip (h := by simpa using ⟨hi', hi⟩)]
    exact List.getElem_mem _
  have hempty : t.dataRows[i] = [] := by
    rw [← List.length_eq_zero_iff, hrect _ (List.getElem_mem hi'), hnone]
  obtain ⟨group, hgroup⟩ := (exists_layRows_iff separators hrows.ge).mp ⟨out, hout⟩ _ hpair
  rw [hempty, planGroup_no_cells (by omega)] at hgroup
  cases hgroup

section Plan

variable {plan : Narrow.Plan} (hwidths : plan.widths.length = t.columnCount)
  (hrows : plan.rows.length = t.height)
include hwidths hrows

/-- The words stay in their columns and rows whenever a plan is applied, unless there are rows
without cells that are planned on several lines. -/
theorem applyPlan_grouped_iff :
    (∃ u, t.applyPlan plan separators = .ok u ∧ Grouped separators Spells t.rows u.rows) ↔
      0 < t.columnCount ∨ ∀ lines ∈ plan.rows, lines ≤ 1 := by
  refine ⟨fun ⟨u, hu, _⟩ => hasCells_of_applyPlan hrect separators hrows hu,
    fun hcells => ?_⟩
  have hgroups : ∀ pair ∈ t.dataRows.zip plan.rows,
      ∃ group, planGroup plan.widths pair.2 pair.1 = .ok group ∧ Spells pair.1 group := by
    intro pair hpair
    obtain ⟨hrow, hlines⟩ := List.of_mem_zip hpair
    refine planGroup_spells ((hrect _ hrow).trans hwidths.symm) fun hseveral => ?_
    rcases hcells with hcells | hcells
    · rw [← List.length_pos_iff, hwidths]
      exact hcells
    · have := hcells _ hlines
      omega
  obtain ⟨out, hout⟩ := (exists_layRows_iff separators hrows.ge).mpr fun pair hpair =>
    (hgroups pair hpair).imp fun _ hgroup => hgroup.1
  refine ⟨⟨out⟩, Outcome.bind_eq_ok.mpr ⟨out, hout, rfl⟩,
    grouped_of_layRows hout fun pair hpair group hgroup => ?_⟩
  obtain ⟨group', hgroup', hspells⟩ := hgroups pair hpair
  rw [hgroup] at hgroup'
  cases hgroup'
  exact hspells

end Plan

/-- Narrowing a column, and applying a plan with a width for every column and a number of lines for
every data row, makes a group of rows of each data row, in which every column has the words of its
cell.  A plan fails only on rows without cells that it puts on several lines. -/
theorem narrowing_keeps_words :
    (∀ column width : Int, 1 ≤ column ∧ column ≤ t.columnCount → 1 ≤ width →
      ∃ u, t.narrowColumn column width separators = .ok u ∧
        Grouped separators (fun cells group => Spells cells group ∧
          KeepsOthers (column - 1).toNat cells group) t.rows u.rows) ∧
    ∀ plan : Narrow.Plan, plan.widths.length = t.columnCount → plan.rows.length = t.height →
      ((∃ u, t.applyPlan plan separators = .ok u ∧ Grouped separators Spells t.rows u.rows) ↔
        0 < t.columnCount ∨ ∀ lines ∈ plan.rows, lines ≤ 1) :=
  ⟨fun _ _ hcolumn hwidth => narrowColumn_grouped hrect separators hcolumn hwidth,
    fun _ hwidths hrows => applyPlan_grouped_iff hrect separators hwidths hrows⟩

end Tables

/-- Cells that are wrapped to different heights, one of them only after its column was widened. -/
theorem narrowing_uneven_cells :
    let t : Table := ⟨[.data ["aa bb", "c d e"], .data ["f", "gggg h"], .separator]⟩
    let plan : Narrow.Plan := ⟨3, [], [2, 1], [2, 3]⟩
    let narrowed : List Row := [.data ["aa", "c d e"], .data ["bb", ""], .separator,
      .data ["f", "gggg h"], .separator]
    let planned : List Row := [.data ["aa", "c d"], .data ["bb", "e"], .separator,
      .data ["f", "gggg"], .data ["", "h"], .data ["", ""], .separator]
    (t.Rectangular ∧ (1 ≤ (1 : Int) ∧ (1 : Int) ≤ t.columnCount) ∧ 1 ≤ (2 : Int) ∧
      plan.widths.length = t.columnCount ∧ plan.rows.length = t.height) ∧
      (t.narrowColumn 1 2 true = .ok ⟨narrowed⟩ ∧ Grouped true (fun cells group =>
        Spells cells group ∧ KeepsOthers 0 cells group) t.rows narrowed) ∧
      t.applyPlan plan true = .ok ⟨planned⟩ ∧ Grouped true Spells t.rows planned := by
  intro t plan narrowed planned
  have hrect : t.Rectangular := by decide
  have hcolumn : 1 ≤ (1 : Int) ∧ (1 : Int) ≤ t.columnCount := by decide
  have hwidths : plan.widths.length = t.columnCount := rfl
  have hrows : plan.rows.length = t.height := rfl
  obtain ⟨hnarrow, hplan⟩ := narrowing_keeps_words hrect true
  obtain ⟨u, hu, hgrouped⟩ := hnarrow 1 2 hcolumn (by decide)
  obtain ⟨v, hv, hlaid⟩ := (hplan plan hwidths hrows).mpr (.inl (by decide))
  have hnarrowed : t.narrowColumn 1 2 true = .ok ⟨narrowed⟩ := by rfl
  have hplanned : t.applyPlan plan true = .ok ⟨planned⟩ := by rfl
  rw [hnarrowed] at hu
  rw [hplanned] at hv
  cases hu
  cases hv
  exact ⟨⟨hrect, hcolumn, by decide, hwidths, hrows⟩, ⟨hnarrowed, hgrouped⟩, hplanned, hlaid⟩

/-- A row without cells that is planned on two lines: there is no highest of no columns. -/
theorem applyPlan_fails_without_cells :
    let t : Table := ⟨[.data []]⟩
    let plan : Narrow.Plan := ⟨0, [], [], [2]⟩
    t.Rectangular ∧ plan.widths.length = t.columnCount ∧ plan.rows.length = t.height ∧
      (∀ lines ∈ plan.rows, 1 ≤ lines) ∧ t.applyPlan plan false = .error (.fault .badValue) := by
  refine ⟨by decide, rfl, rfl, by decide, rfl⟩

end PipeTable.Table
