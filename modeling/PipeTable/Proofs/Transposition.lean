import Mathlib
import PipeTable.Proofs.Joining

/-! # Transposed tables

The cells of a transposed table are those of the table with line and column exchanged, whatever
separators stand between its rows.  The columns of the columns are the rows again, so that only the
separators are lost when a table is transposed twice.
-/

namespace PipeTable.Table

/-! ## Columns of columns -/

section Columns

variable {width : Nat} {rows : List (List String)} (hwide : ∀ row ∈ rows, row.length = width)
include hwide

/-- A cell is found by its column first as well as by its row first. -/
theorem getElem?_columnsOf (c r : Nat) :
    ((columnsOf width rows)[c]?.bind fun column => column[r]?) =
      rows[r]?.bind fun row => row[c]? := by
  rw [columnsOf, List.getElem?_map]
  by_cases hc : c < width
  · rw [List.getElem?_range hc, Option.map_some, Option.bind_some, List.getElem?_map]
    cases hrow : rows[r]? with
    | none => rfl
    | some row =>
        have hcell : c < row.length := (hwide row (List.mem_of_getElem? hrow)).symm ▸ hc
        rw [Option.map_some, Option.bind_some, List.getD_eq_getElem _ _ hcell,
          List.getElem?_eq_getElem hcell]
  · rw [List.getElem?_eq_none (by simpa using hc)]
    cases hrow : rows[r]? with
    | none => rfl
    | some row =>
        have hcell : row.length ≤ c := (hwide row (List.mem_of_getElem? hrow)).symm ▸ not_lt.mp hc
        rw [Option.bind_some, List.getElem?_eq_none hcell]
        rfl

theorem nth?_columnsOf (column line : Int) :
    ((nth? (columnsOf width rows) column).bind (nth? · line)) =
      (nth? rows line).bind (nth? · column) := by
  by_cases hcolumn : 1 ≤ column
  · by_cases hline : 1 ≤ line
    · simpa only [nth?, if_pos hcolumn, if_pos hline] using
        getElem?_columnsOf hwide (column - 1).toNat (line - 1).toNat
    · simp [nth?, hline]
  · simp [nth?, hcolumn]

/-- Rows are the columns of their columns. -/
theorem columnsOf_columnsOf : columnsOf rows.length (columnsOf width rows) = rows := by
  refine List.ext_getElem (length_columnsOf _ _) fun r hr hr' => ?_
  have hlength := hwide rows[r] (List.getElem_mem hr')
  refine List.ext_getElem ?_ fun c hc hc' => ?_
  · rw [length_of_mem_columnsOf (List.getElem_mem hr), length_columnsOf, hlength]
  · simp [columnsOf, hr', hc']

end Columns

/-! ## Tables -/

variable {t : Table}

/-- The table without its separators. -/
theorem ofCells_dataRows (t : Table) : ofCells t.dataRows = ⟨t.rows.filter Row.isData⟩ := by
  obtain ⟨rows⟩ := t
  simp only [ofCells, dataRows, mk.injEq]
  induction rows with
  | nil => rfl
  | cons row rows ih =>
      cases row with
      | separator => exact ih
      | data cells => exact congrArg (Row.data cells :: ·) ih

theorem dataRows_ne_nil (hcolumns : 0 < t.columnCount) : t.dataRows ≠ [] := by
  intro hnone
  rw [columnCount, hnone] at hcolumns
  exact Nat.lt_irrefl 0 hcolumns

/-- A table with cells, all rows equally long, is transposed into a table without separators of the
exchanged size.  Its cells are those of the table with line and column exchanged, and transposed
again it is the table without its separators. -/
theorem transpose_exchanges (hrect : t.Rectangular) (hcolumns : 0 < t.columnCount) :
    ∃ u, t.transpose = .ok u ∧ u.separatorCount = 0 ∧ u.Rectangular ∧
      u.height = t.columnCount ∧ u.columnCount = t.height ∧
      (∀ column line content,
        u.cell column line = .ok content ↔ t.cell line column = .ok content) ∧
      u.transpose = .ok ⟨t.rows.filter Row.isData⟩ := by
  let columns := columnsOf t.columnCount t.dataRows
  have hdata := dataRows_ne_nil hcolumns
  have hlength : columns.length = t.columnCount := length_columnsOf _ _
  have hcells : (ofCells columns).dataRows = columns := dataRows_ofCells columns
  have hwide : ∀ column ∈ columns, column.length = t.height := fun _ => length_of_mem_columnsOf
  have hsome : (ofCells columns).dataRows ≠ [] := by
    rw [hcells, ← List.length_pos_iff, hlength]
    exact hcolumns
  have hcount : (ofCells columns).columnCount = t.height :=
    columnCount_of_wide (by rwa [hcells]) hsome
  have hrect' := rectangular_ofCells hwide
  refine ⟨ofCells columns, transpose_eq hdata fun row hrow => (hrect row hrow).ge, ?_, hrect', ?_,
    hcount, ?_, ?_⟩
  · rw [separatorCount, height, hcells, ofCells, List.length_map, Nat.sub_self]
  · rw [height, hcells, hlength]
  · intro column line content
    rw [cell_eq_ok_iff, cell_eq_ok_iff, content?, content?, hcells, nth?_columnsOf hrect]
  · rw [transpose_eq hsome fun row hrow => (hrect' row hrow).ge, hcount, hcells, height,
      columnsOf_columnsOf hrect, ofCells_dataRows]

/-- Three columns of two cells, with separators at the start, between the rows and at the end. -/
theorem transpose_exchanges_separated :
    let t : Table := ⟨[.separator, .data ["a", "b", "c"], .separator, .separator,
      .data ["d", "e", "f"], .separator]⟩
    t.Rectangular ∧ 0 < t.columnCount ∧
      ∃ u, t.transpose = .ok u ∧ u.cell 3 2 = .ok "f" ∧
        u.transpose = .ok ⟨[.data ["a", "b", "c"], .data ["d", "e", "f"]]⟩ := by
  intro t
  have hrect : t.Rectangular := by decide
  have hcolumns : 0 < t.columnCount := by decide
  obtain ⟨u, hu, -, -, -, -, hcell, hback⟩ := transpose_exchanges hrect hcolumns
  exact ⟨hrect, hcolumns, u, hu, (hcell 3 2 "f").mpr rfl, hback⟩

end PipeTable.Table
