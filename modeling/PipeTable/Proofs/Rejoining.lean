import Mathlib
import PipeTable.Proofs.Folding
import PipeTable.Proofs.Groups

/-! # Narrowed rows joined again

The rows that narrowing makes of one data row have its words in their columns.  Where cells have
single blanks between their words, flattening these rows with `join` gives the row back: its cells
come together in the first row of the group, and the rows below are empty and are dropped.  Going
down the data lines so undoes the narrowing of a column.
-/

namespace PipeTable.Table

variable {t u : Table}

/-! ## Joining a group -/

theorem isSpaced_getD {row : List String} (h : ∀ cell ∈ row, Text.IsSpaced cell) (c : Nat) :
    Text.IsSpaced (row.getD c "") := by
  rw [List.getD_eq_getElem?_getD]
  cases hcell : row[c]? with
  | none => exact Text.isSpaced_empty
  | some cell => exact h cell (List.mem_of_getElem? hcell)

/-- A group of rows that has the words of one row, with single blanks between them. -/
structure Joinable (cells : List String) (group : List (List String)) : Prop where
  spells : Spells cells group
  spaced : ∀ cell ∈ cells, Text.IsSpaced cell
  spacedGroup : ∀ row ∈ group, ∀ cell ∈ row, Text.IsSpaced cell

/-- The cells of a column of a group are joined to the cell whose words they have. -/
theorem Joinable.folds {cells : List String} {group : List (List String)}
    (h : Joinable cells group) : Folds Reduction.join.apply cells group := by
  refine ⟨h.spells.wide, fun c hc => ?_⟩
  have hspaced : ∀ s ∈ group.map fun row => row.getD c "", Text.IsSpaced s := by
    intro s hs
    obtain ⟨row, hrow, rfl⟩ := List.mem_map.mp hs
    exact isSpaced_getD (h.spacedGroup row hrow) c
  have hstrip : (group.map fun row => Text.strip (row.getD c "")) =
      group.map fun row => row.getD c "" :=
    List.map_congr_left fun row hrow => (isSpaced_getD (h.spacedGroup row hrow) c).strip_eq
  calc (Reduction.join.apply (group.map fun row => Text.strip (row.getD c ""))).shown
      = " ".intercalate ((group.map fun row => row.getD c "").filter (· != "")) := by
        rw [hstrip]
        rfl
    _ = " ".intercalate ((group.map fun row => row.getD c "").flatMap Text.words) :=
        (Text.intercalate_flatMap_words hspaced).symm
    _ = " ".intercalate (Text.words (cells.getD c "")) := by
        rw [List.flatMap_map, h.spells.words c hc]
    _ = cells.getD c "" := isSpaced_getD h.spaced c

/-- The first line of a group, flattened in all columns over the rows of the group. -/
theorem flattenColumns_group (before after : List Row) {cells first : List String}
    {below : List (List String)} (hgroup : Joinable cells (first :: below)) {width : Nat}
    (hpos : 0 < width) (hlength : cells.length = width)
    (hwidth : columnCount ⟨before ++ (first :: below).map Row.data ++ after⟩ = width)
    {columns : Option Int} (hall : ∀ n ∈ columns, (width : Int) ≤ n) :
    flattenColumns ⟨before ++ (first :: below).map Row.data ++ after⟩
        ((before.filterMap Row.cells?).length + 1) 1 (.int (first :: below).length) columns
        (Reduction.ofValue (.text "join")) 1 =
      .ok ⟨before ++ .data cells :: after⟩ := by
  have hspan : columnSpan 1 columns width = (List.range cells.length).map (· + 1) := by
    rw [hlength, columnSpan_all hall]
  have hgiven : spanCounts (columnSpan 1 columns width).length (.int (first :: below).length) =
      .ok (List.replicate cells.length (.int (first :: below).length)) := by
    rw [hspan, List.length_map, List.length_range]
    rfl
  rw [← hwidth] at hgiven
  refine (flattenColumns_eq (by omega) hgiven
    (startPosition_middle before after _ _ (List.cons_ne_nil _ _)) Reduction.join.apply 1).trans ?_
  rw [hwidth, hspan]
  exact flattenSteps_one (flattenStep_group before after hgroup.folds (by omega) rfl)

/-! ## Going down the lines -/

/-- Joins rows in their columns line by line: from each line on as many as a count says, beginning
with a line. -/
def joinLines (columns : Option Int) : Int → List Nat → Table → Except Error Table
  | _, [], t => .ok t
  | line, count :: counts, t => do
    let joined ← t.flattenColumns line 1 (.int count) columns (Reduction.ofValue (.text "join")) 1
    joinLines columns (line + 1) counts joined

/-- The rows with a group of rows in the place of each data row. -/
def spread (expand : List String → List (List String)) (rows : List Row) : List Row :=
  rows.flatMap fun
    | .separator => [.separator]
    | .data cells => (expand cells).map .data

section Lines

variable {expand : List String → List (List String)} {width : Nat} {before rows : List Row}
  (hbefore : ∀ cells, Row.data cells ∈ before → cells.length = width)
include hbefore

theorem length_of_mem_spread
    (hrows : ∀ cells, Row.data cells ∈ rows → ∀ row ∈ expand cells, row.length = width) :
    ∀ row ∈ dataRows ⟨before ++ spread expand rows⟩, row.length = width := by
  intro row hrow
  rcases List.mem_append.mp (mem_dataRows.mp hrow) with hrow | hrow
  · exact hbefore row hrow
  · obtain ⟨given, hgiven, hrow⟩ := List.mem_flatMap.mp hrow
    cases given with
    | separator =>
        rw [List.mem_singleton] at hrow
        cases hrow
    | data cells =>
        obtain ⟨other, hother, heq⟩ := List.mem_map.mp hrow
        cases heq
        exact hrows cells hgiven row hother

section Join

variable {columns : Option Int} (hpos : 0 < width) (hall : ∀ n ∈ columns, (width : Int) ≤ n)
include hpos hall

/-- The first of the groups is joined, and the others stay as they are. -/
theorem flattenColumns_spread {cells : List String}
    (hrows : ∀ other, Row.data other ∈ Row.data cells :: rows →
      other.length = width ∧ Joinable other (expand other)) :
    flattenColumns ⟨before ++ spread expand (.data cells :: rows)⟩
        ((before.filterMap Row.cells?).length + 1) 1 (.int (expand cells).length) columns
        (Reduction.ofValue (.text "join")) 1 =
      .ok ⟨before ++ .data cells :: spread expand rows⟩ := by
  obtain ⟨hlength, hgroup⟩ := hrows cells List.mem_cons_self
  have hwide := length_of_mem_spread hbefore fun other hother row hrow =>
    ((hrows other hother).2.spells.wide row hrow).trans (hrows other hother).1
  obtain ⟨first, below, hfirst⟩ := List.exists_cons_of_ne_nil hgroup.spells.nonempty
  have hspread : before ++ spread expand (.data cells :: rows) =
      before ++ (first :: below).map Row.data ++ spread expand rows := by
    rw [List.append_assoc, ← hfirst]
    rfl
  have hmem : first ∈ dataRows ⟨before ++ spread expand (.data cells :: rows)⟩ := by
    rw [hspread]
    exact mem_dataRows.mpr (by simp)
  have hwidth := columnCount_of_wide hwide (List.ne_nil_of_mem hmem)
  rw [hfirst] at hgroup
  rw [hspread] at hwidth
  rw [hspread, hfirst]
  exact flattenColumns_group before _ hgroup hpos hlength hwidth hall

/-- Groups that have the words of their rows are joined to these rows again. -/
theorem joinLines_spread
    (hrows : ∀ cells, Row.data cells ∈ rows → cells.length = width ∧
      Joinable cells (expand cells)) :
    joinLines columns ((before.filterMap Row.cells?).length + 1)
        ((rows.filterMap Row.cells?).map fun cells => (expand cells).length)
        ⟨before ++ spread expand rows⟩ =
      .ok ⟨before ++ rows⟩ := by
  -- the rows that are done already move into the part before
  induction rows generalizing before with
  | nil => rfl
  | cons row rows ih =>
      have hrest := fun cells hcells => hrows cells (List.mem_cons_of_mem row hcells)
      have hdone : ∀ cells, Row.data cells ∈ before ++ [row] → cells.length = width := by
        intro cells hcells
        rcases List.mem_append.mp hcells with hcells | hcells
        · exact hbefore cells hcells
        · rw [← List.mem_singleton.mp hcells] at hrows
          exact (hrows cells List.mem_cons_self).1
      have hnext := ih hdone hrest
      rw [List.filterMap_append, List.append_assoc, List.append_assoc] at hnext
      cases row with
      | separator =>
          have hnone : [Row.separator].filterMap Row.cells? = [] := rfl
          rw [hnone, List.append_nil] at hnext
          exact hnext
      | data cells =>
          have hjoin := flattenColumns_spread hbefore hpos hall hrows
          rw [List.length_append] at hnext
          exact Outcome.bind_eq_ok.mpr ⟨_, hjoin, by exact_mod_cast hnext⟩

end Join

end Lines

/-! ## Narrowing and joining -/

section Narrowed

variable {cells : List String} {column width : Int}

theorem narrowGroup_spaced (hcells : ∀ cell ∈ cells, Text.IsSpaced cell) :
    ∀ row ∈ narrowGroup column width cells, ∀ cell ∈ row, Text.IsSpaced cell := by
  intro row hrow cell hcell
  rcases mem_columnGroup hrow hcell with rfl | hcell | hline
  · exact Text.isSpaced_empty
  · exact hcells cell hcell
  · rcases Text.eq_or_isSpaced_of_mem_wrap hline with rfl | hspaced
    · exact isSpaced_getD hcells _
    · exact hspaced

theorem narrowGroup_joinable (hcells : ∀ cell ∈ cells, Text.IsSpaced cell)
    (hcolumn : (column - 1).toNat < cells.length) :
    Joinable cells (narrowGroup column width cells) where
  spells := columnGroup_spells (wrap_ne_nil _ _) hcolumn (Text.flatMap_words_wrap _ _)
  spaced := hcells
  spacedGroup := narrowGroup_spaced hcells

end Narrowed

theorem expandRows_eq_spread {rows : List Row} {group : List String → List (List String)}
    {expand : List String → Except Error (List (List String))}
    (h : ∀ cells, Row.data cells ∈ rows → expand cells = .ok (group cells)) :
    expandRows false expand rows = .ok (spread group rows) := by
  induction rows with
  | nil => rfl
  | cons row rows ih =>
      have hrest := ih fun cells hcells => h cells (List.mem_cons_of_mem row hcells)
      cases row with
      | separator =>
          rw [expandRows, hrest]
          rfl
      | data cells =>
          rw [expandRows, h cells List.mem_cons_self, hrest]
          refine Outcome.bind_eq_ok.mpr ⟨_, rfl, Outcome.bind_eq_ok.mpr ⟨_, rfl, ?_⟩⟩
          rw [groupEnd_false, List.append_nil]
          rfl

theorem narrowColumn_eq_spread (hrect : t.Rectangular) {column width : Int}
    (hcolumn : 1 ≤ column ∧ column ≤ t.columnCount) (hwidth : 1 ≤ width) :
    t.narrowColumn column width false = .ok ⟨spread (narrowGroup column width) t.rows⟩ := by
  rw [narrowColumn_eq hrect false hcolumn hwidth, expandRows_eq_spread fun _ _ => rfl]
  rfl

/-- Narrowing a column of a table with single blanks between its words, and then joining the rows of
each group in the order of the lines, gives the table back. -/
theorem narrowing_rejoined (hrect : t.Rectangular)
    (hspaced : ∀ row ∈ t.dataRows, ∀ cell ∈ row, Text.IsSpaced cell) {column width : Int}
    (hcolumn : 1 ≤ column ∧ column ≤ t.columnCount) (hwidth : 1 ≤ width) {columns : Option Int}
    (hall : ∀ n ∈ columns, (t.columnCount : Int) ≤ n) :
    let group := narrowGroup column width
    t.narrowColumn column width false = .ok ⟨spread group t.rows⟩ ∧
      joinLines columns 1 (t.dataRows.map fun cells => (group cells).length)
        ⟨spread group t.rows⟩ = .ok t := by
  refine ⟨narrowColumn_eq_spread hrect hcolumn hwidth, ?_⟩
  refine joinLines_spread (fun cells (h : Row.data cells ∈ []) => nomatch h) (by omega) hall
    fun cells hcells => ?_
  have hrow := mem_dataRows.mpr hcells
  refine ⟨hrect cells hrow, narrowGroup_joinable (hspaced cells hrow) ?_⟩
  rw [hrect cells hrow]
  omega

/-- Rows on three lines, on one, and on two, with a separator and a blank row between them. -/
theorem narrowing_rejoined_uneven :
    let t : Table := ⟨[.data ["aa bb c", "d e"], .separator, .data ["", ""],
      .data ["f ggg", "h"]]⟩
    let narrowed : Table := ⟨[.data ["aa", "d e"], .data ["bb", ""], .data ["c", ""], .separator,
      .data ["", ""], .data ["f", "h"], .data ["ggg", ""]]⟩
    (t.Rectangular ∧ (∀ row ∈ t.dataRows, ∀ cell ∈ row, Text.IsSpaced cell) ∧
      (1 ≤ (1 : Int) ∧ (1 : Int) ≤ t.columnCount) ∧ 1 ≤ (2 : Int) ∧
      ∀ n ∈ (none : Option Int), (t.columnCount : Int) ≤ n) ∧
    t.narrowColumn 1 2 false = .ok narrowed ∧ joinLines none 1 [3, 1, 2] narrowed = .ok t := by
  intro t narrowed
  have hrect : t.Rectangular := by decide
  have hspaced : ∀ row ∈ t.dataRows, ∀ cell ∈ row, Text.IsSpaced cell := by decide
  have hcolumn : 1 ≤ (1 : Int) ∧ (1 : Int) ≤ t.columnCount := by decide
  have hall : ∀ n ∈ (none : Option Int), (t.columnCount : Int) ≤ n := nofun
  exact ⟨⟨hrect, hspaced, hcolumn, by decide, hall⟩,
    narrowing_rejoined hrect hspaced hcolumn (by decide) hall⟩

end PipeTable.Table
