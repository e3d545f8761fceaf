import Mathlib
import PipeTable.Proofs.Passes
import PipeTable.Table.Concat

/-! # Tables side by side, transposed

The columns of tables side by side are the columns of each of them, filled up to the height of the
highest table.  So to join tables side by side and to transpose the result is to transpose each of
them and to join what comes of it one below the other.
-/

namespace PipeTable

namespace Outcome

/-- What is found for each item is found for all of them. -/
theorem mapM_eq_some {α β : Type} {f : α → Option β} {g : α → β} {items : List α}
    (h : ∀ a ∈ items, f a = some (g a)) : items.mapM f = some (items.map g) := by
  induction items with
  | nil => rfl
  | cons a items ih =>
      rw [List.mapM_cons, h a List.mem_cons_self, ih fun b hb => h b (List.mem_cons_of_mem a hb)]
      rfl

end Outcome

namespace Table

/-! ## Columns -/

/-- The columns of rows up to a width, each read from the first row to the last.  A cell that a row
lacks is read as empty. -/
def columnsOf (width : Nat) (rows : List (List String)) : List (List String) :=
  (List.range width).map fun c => rows.map fun row => row.getD c ""

theorem length_columnsOf (width : Nat) (rows : List (List String)) :
    (columnsOf width rows).length = width := by
  rw [columnsOf, List.length_map, List.length_range]

theorem length_of_mem_columnsOf {width : Nat} {rows : List (List String)} {column : List String}
    (h : column ∈ columnsOf width rows) : column.length = rows.length := by
  obtain ⟨c, -, rfl⟩ := List.mem_map.mp h
  exact List.length_map _

/-- A table whose rows reach as far as the first one is transposed into its columns. -/
theorem transpose_eq {t : Table} (hdata : t.dataRows ≠ [])
    (hreach : ∀ row ∈ t.dataRows, t.columnCount ≤ row.length) :
    t.transpose = .ok (ofCells (columnsOf t.columnCount t.dataRows)) := by
  have hcolumns : ((List.range t.columnCount).mapM fun c => t.dataRows.mapM fun row => row[c]?) =
      some (columnsOf t.columnCount t.dataRows) := by
    refine Outcome.mapM_eq_some fun c hc => Outcome.mapM_eq_some fun row hrow => ?_
    have hlength : c < row.length := (List.mem_range.mp hc).trans_le (hreach row hrow)
    rw [List.getD_eq_getElem?_getD, List.getElem?_eq_getElem hlength, Option.getD_some]
  unfold columnCount at hcolumns ⊢
  unfold transpose
  split
  next hnone => exact absurd hnone hdata
  next first rest hrows =>
    rw [hrows] at hcolumns ⊢
    dsimp only at hcolumns ⊢
    rw [hcolumns]

/-- The columns of rows that are put together from two parts are those of the first parts and then
those of the second ones. -/
theorem columnsOf_beside {width more height : Nat} {left right : Nat → List String}
    (hleft : ∀ r, (left r).length = width) :
    columnsOf (width + more) ((List.range height).map fun r => left r ++ right r) =
      columnsOf width ((List.range height).map left) ++
        columnsOf more ((List.range height).map right) := by
  simp only [columnsOf, List.map_map, List.range_add, List.map_append]
  congr 1
  · refine List.map_congr_left fun c hc => List.map_congr_left fun r _ => ?_
    have hlength : c < (left r).length := by
      rw [hleft]
      exact List.mem_range.mp hc
    exact List.getD_append _ _ _ _ hlength
  · refine List.map_congr_left fun c _ => List.map_congr_left fun r _ => ?_
    have hlength : (left r).length ≤ width + c := by
      rw [hleft]
      exact Nat.le_add_right width c
    change (left r ++ right r).getD (width + c) "" = (right r).getD c ""
    rw [List.getD_append_right _ _ _ _ hlength, hleft, Nat.add_sub_cancel_left]

theorem rowOrPadding_of_le (padding : String) {t : Table} {index : Nat} (h : t.height ≤ index) :
    rowOrPadding padding t index = List.replicate t.columnCount padding := by
  rw [rowOrPadding, List.getElem?_eq_none h]

theorem length_rowOrPadding {t : Table} (hrect : t.Rectangular) (padding : String) (index : Nat) :
    (rowOrPadding padding t index).length = t.columnCount := by
  unfold rowOrPadding
  split
  next row hrow => exact hrect row (List.mem_of_getElem? hrow)
  next => exact List.length_replicate

/-- Down to a depth, a table with rows of padding below has its own columns, padded. -/
theorem columnsOf_rowOrPadding {t : Table} (padding : String) {depth : Nat}
    (hdepth : t.height ≤ depth) :
    columnsOf t.columnCount ((List.range depth).map (rowOrPadding padding t)) =
      (columnsOf t.columnCount t.dataRows).map (padRow depth padding) := by
  rw [height] at hdepth
  simp only [columnsOf, List.map_map]
  refine List.map_congr_left fun c hc => ?_
  refine List.ext_getElem? fun r => ?_
  simp only [Function.comp_apply, padRow, List.getElem?_map, List.getElem?_append,
    List.length_map, List.getElem?_replicate]
  by_cases hr : r < t.dataRows.length
  · -- a row of the table
    have hrow : rowOrPadding padding t r = t.dataRows[r] := by
      simp only [rowOrPadding, List.getElem?_eq_getElem hr]
    rw [if_pos hr, List.getElem?_range (hr.trans_le hdepth), List.getElem?_eq_getElem hr,
      Option.map_some, Option.map_some, Function.comp_apply, hrow]
  · -- a row of padding, or none
    rw [if_neg hr]
    by_cases hbelow : r < depth
    · rw [List.getElem?_range hbelow, if_pos (by omega), Option.map_some, Function.comp_apply,
        rowOrPadding_of_le padding (Nat.le_of_not_lt hr), List.getD_eq_getElem?_getD, List.getElem?_replicate,
        if_pos (List.mem_range.mp hc), Option.getD_some]
    · rw [List.getElem?_eq_none (by rw [List.length_range]; omega), if_neg (by omega)]
      rfl

/-! ## Several tables -/

section Several

variable {tables : List Table} (hrect : ∀ t ∈ tables, t.Rectangular) (padding : String)
include hrect

/-- The columns of tables side by side are those of each table, padded. -/
theorem columnsOf_flatMap {depth : Nat} (hdepth : ∀ t ∈ tables, t.height ≤ depth) :
    columnsOf (tables.map columnCount).sum
        ((List.range depth).map fun r => tables.flatMap (rowOrPadding padding · r)) =
      (tables.flatMap fun t => columnsOf t.columnCount t.dataRows).map (padRow depth padding) := by
  induction tables with
  | nil => rfl
  | cons t tables ih =>
      obtain ⟨ht, hrect⟩ := List.forall_mem_cons.mp hrect
      obtain ⟨hheight, hdepth⟩ := List.forall_mem_cons.mp hdepth
      simp only [List.map_cons, List.sum_cons, List.flatMap_cons, List.map_append]
      rw [columnsOf_beside (length_rowOrPadding ht padding), ih hrect hdepth,
        columnsOf_rowOrPadding padding hheight]

theorem length_flatMap_rowOrPadding (index : Nat) :
    (tables.flatMap (rowOrPadding padding · index)).length = (tables.map columnCount).sum := by
  rw [List.length_flatMap]
  exact congrArg List.sum
    (List.map_congr_left fun t ht => length_rowOrPadding (hrect t ht) padding index)

end Several

/-- The rows of all tables, one below the other, padded to the longest of them. -/
def stacked (padding : String) (tables : List Table) : Table :=
  let rows := tables.flatMap dataRows
  ofCells (rows.map (padRow ((rows.map List.length).foldl max 0) padding))

theorem concatVertical_eq {tables : List Table} (hne : tables ≠ []) (padding : String) :
    concatVertical tables padding = .ok (stacked padding tables) := by
  rw [concatVertical, if_neg (by simpa using hne)]
  rfl

/-- The longest column of all is as long as the highest table. -/
theorem foldl_max_columns {tables : List Table} (hcolumns : ∀ t ∈ tables, 0 < t.columnCount) :
    ((tables.flatMap fun t => columnsOf t.columnCount t.dataRows).map List.length).foldl max 0 =
      (tables.map height).foldl max 0 := by
  refine le_antisymm (foldl_max_le (Nat.zero_le _) ?_) (foldl_max_le (Nat.zero_le _) ?_)
  · intro length hlength
    obtain ⟨column, hcolumn, rfl⟩ := List.mem_map.mp hlength
    obtain ⟨t, ht, hcolumn⟩ := List.mem_flatMap.mp hcolumn
    rw [length_of_mem_columnsOf hcolumn]
    exact le_foldl_max (.inr (List.mem_map_of_mem ht))
  · intro length hlength
    obtain ⟨t, ht, rfl⟩ := List.mem_map.mp hlength
    -- a table without columns would not show how high it is
    have hfirst : columnsOf t.columnCount t.dataRows ≠ [] := by
      rw [ne_eq, ← List.length_eq_zero_iff, length_columnsOf]
      exact (hcolumns t ht).ne'
    obtain ⟨column, hcolumn⟩ := List.exists_mem_of_ne_nil _ hfirst
    rw [height, ← length_of_mem_columnsOf hcolumn]
    exact le_foldl_max (.inr (List.mem_map_of_mem (List.mem_flatMap.mpr ⟨t, ht, hcolumn⟩)))

/-- Tables joined side by side and then transposed are the transposed tables joined one below the
other. -/
theorem transpose_concatHorizontal {tables : List Table} (hne : tables ≠ [])
    (hrect : ∀ t ∈ tables, t.Rectangular) (hdata : ∀ t ∈ tables, t.dataRows ≠ [])
    (hcolumns : ∀ t ∈ tables, 0 < t.columnCount) (padding : String) :
    ∃ joined, (do (← concatHorizontal tables padding).transpose) = .ok joined ∧
      (do concatVertical (← tables.mapM transpose) padding) = .ok joined := by
  have hempty : tables.isEmpty = false := by simpa using hne
  let depth := (tables.map height).foldl max 0
  let wide := (List.range depth).map fun r => tables.flatMap (rowOrPadding padding · r)
  let columns := tables.flatMap fun t => columnsOf t.columnCount t.dataRows
  refine ⟨ofCells (columns.map (padRow depth padding)), ?_, ?_⟩
  · have hdepth : ∀ t ∈ tables, t.height ≤ depth := fun t ht =>
      le_foldl_max (.inr (List.mem_map_of_mem ht))
    have hwide : ∀ row ∈ wide, row.length = (tables.map columnCount).sum := by
      intro row hrow
      obtain ⟨r, -, rfl⟩ := List.mem_map.mp hrow
      exact length_flatMap_rowOrPadding hrect padding r
    have hsome : (ofCells wide).dataRows ≠ [] := by
      obtain ⟨t, ht⟩ := List.exists_mem_of_ne_nil _ hne
      have hpos : 0 < depth := (List.length_pos_iff.mpr (hdata t ht)).trans_le (hdepth t ht)
      rw [dataRows_ofCells, ne_eq, List.map_eq_nil_iff, List.range_eq_nil]
      exact hpos.ne'
    have hcount : (ofCells wide).columnCount = (tables.map columnCount).sum := by
      obtain ⟨row, hrow⟩ := List.exists_mem_of_ne_nil _ hsome
      rw [← rectangular_ofCells hwide row hrow]
      rw [dataRows_ofCells] at hrow
      exact hwide row hrow
    have htranspose := transpose_eq hsome fun row hrow =>
      (rectangular_ofCells hwide row hrow).ge
    rw [hcount, dataRows_ofCells, columnsOf_flatMap hrect padding hdepth] at htranspose
    rw [concatHorizontal, hempty]
    exact htranspose
  · have htransposed : tables.mapM transpose =
        .ok (tables.map fun t => ofCells (columnsOf t.columnCount t.dataRows)) :=
      Outcome.mapM_eq_ok fun t ht =>
        transpose_eq (hdata t ht) fun row hrow => (hrect t ht row hrow).ge
    have hrows : (tables.map fun t => ofCells (columnsOf t.columnCount t.dataRows)).flatMap
        dataRows = columns := by
      rw [List.flatMap_map]
      simp only [dataRows_ofCells]
      rfl
    rw [htransposed]
    change concatVertical _ padding = _
    rw [concatVertical, List.isEmpty_map, hempty, if_neg Bool.false_ne_true]
    dsimp only
    rw [hrows, foldl_max_columns hcolumns]

/-- Three tables of different heights and widths, one of them with a separator. -/
theorem transpose_concatHorizontal_uneven :
    let tables : List Table := [⟨[.data ["a", "b"]]⟩, ⟨[.data ["c"], .separator, .data ["d"]]⟩,
      ⟨[.data ["e", "f"], .data ["g", "h"], .data ["i", "j"]]⟩]
    tables ≠ [] ∧ (∀ t ∈ tables, t.Rectangular) ∧ (∀ t ∈ tables, t.dataRows ≠ []) ∧
      (∀ t ∈ tables, 0 < t.columnCount) ∧
      ∃ joined, (do (← concatHorizontal tables "-").transpose) = .ok joined ∧
        (do concatVertical (← tables.mapM transpose) "-") = .ok joined := by
  intro tables
  have hne : tables ≠ [] := by decide
  have hrect : ∀ t ∈ tables, t.Rectangular := by decide
  have hdata : ∀ t ∈ tables, t.dataRows ≠ [] := by decide
  have hcolumns : ∀ t ∈ tables, 0 < t.columnCount := by decide
  exact ⟨hne, hrect, hdata, hcolumns, transpose_concatHorizontal hne hrect hdata hcolumns "-"⟩

end Table

end PipeTable
