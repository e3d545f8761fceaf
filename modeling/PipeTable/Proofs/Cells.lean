import Mathlib
import PipeTable.Table.Basic
import PipeTable.Proofs.Tour

/-! # Cells of rectangular tables

A table is rectangular if all its data rows are equally long.  Such a table has a cell at every
place of its grid and nowhere else.
-/

namespace PipeTable

theorem le_foldl_max {α : Type} [LinearOrder α] {values : List α} {start v : α}
    (h : v ≤ start ∨ v ∈ values) : v ≤ values.foldl max start := by
  induction values generalizing start with
  | nil => exact h.resolve_right List.not_mem_nil
  | cons u us ih =>
      refine ih ?_
      rcases h with h | h
      · exact .inl (le_max_of_le_left h)
      · rcases List.mem_cons.mp h with rfl | h
        · exact .inl (le_max_right _ _)
        · exact .inr h

theorem foldl_max_le {α : Type} [LinearOrder α] {values : List α} {start v : α} (hstart : start ≤ v)
    (h : ∀ u ∈ values, u ≤ v) : values.foldl max start ≤ v := by
  induction values generalizing start with
  | nil => exact hstart
  | cons u us ih =>
      exact ih (max_le hstart (h u List.mem_cons_self)) fun w hw => h w (List.mem_cons_of_mem u hw)

namespace Table

/-- All data rows have as many cells as the first one. -/
def Rectangular (t : Table) : Prop := ∀ row ∈ t.dataRows, row.length = t.columnCount

instance (t : Table) : Decidable t.Rectangular :=
  inferInstanceAs (Decidable (∀ row ∈ t.dataRows, row.length = t.columnCount))

/-- The content of the cell at a place, if there is one. -/
def content? (t : Table) (place : Cursor) : Option String :=
  (nth? t.dataRows place.line).bind (nth? · place.column)

/-- The grid of the data cells. -/
def grid (t : Table) : Grid := ⟨t.height, t.columnCount⟩

theorem nth?_eq_none_iff {α : Type} {items : List α} {number : Int} :
    nth? items number = none ↔ ¬ (1 ≤ number ∧ number ≤ items.length) := by
  unfold nth?
  split
  · rw [List.getElem?_eq_none_iff]
    omega
  · simp only [true_iff]
    omega

theorem nth?_succ {α : Type} (items : List α) (i : Nat) :
    nth? items (Int.ofNat (i + 1)) = items[i]? := by
  have hindex : (Int.ofNat (i + 1) - 1).toNat = i := by simp
  rw [nth?, if_pos (by simp), hindex]

theorem getD_set {cells : List String} {column : Nat} (h : column < cells.length) (c : Nat)
    (content : String) :
    (cells.set column content).getD c "" = if c = column then content else cells.getD c "" := by
  rw [List.getD_eq_getElem?_getD, List.getElem?_set, List.getD_eq_getElem?_getD]
  by_cases hc : column = c
  · simp [← hc, h]
  · simp [hc, Ne.symm hc]

theorem getD_replicate_empty (n c : Nat) : (List.replicate n "").getD c "" = "" := by
  rw [List.getD_eq_getElem?_getD, List.getElem?_replicate]
  split <;> rfl

theorem mem_of_nth? {α : Type} {items : List α} {number : Int} {item : α}
    (h : nth? items number = some item) : item ∈ items := by
  unfold nth? at h
  split at h
  · exact List.mem_of_getElem? h
  · cases h

theorem bounds_of_nth? {α : Type} {items : List α} {number : Int} {item : α}
    (h : nth? items number = some item) : 1 ≤ number ∧ number ≤ items.length := by
  by_contra hout
  rw [nth?_eq_none_iff.mpr hout] at h
  cases h

variable {t : Table}

theorem mem_dataRows {cells : List String} : cells ∈ t.dataRows ↔ Row.data cells ∈ t.rows := by
  rw [dataRows, List.mem_filterMap]
  constructor
  · rintro ⟨row, hrow, hcells⟩
    cases row with
    | separator => cases hcells
    | data => cases hcells; exact hrow
  · intro hrow
    exact ⟨_, hrow, rfl⟩

theorem filterMap_cells_map_data (group : List (List String)) :
    (group.map Row.data).filterMap Row.cells? = group := by
  rw [List.filterMap_map]
  exact List.filterMap_some

theorem length_le_width {cells : List String} (h : cells ∈ t.dataRows) :
    cells.length ≤ t.width :=
  le_foldl_max (.inr (List.mem_map_of_mem h))

theorem columnCount_of_wide {width : Nat} (hwide : ∀ row ∈ t.dataRows, row.length = width)
    (hne : t.dataRows ≠ []) : t.columnCount = width := by
  obtain ⟨row, more, hrows⟩ := List.exists_cons_of_ne_nil hne
  rw [columnCount, hrows]
  exact hwide row (hrows ▸ List.mem_cons_self)

/-- The rows of a rectangular table are all as long as the longest. -/
theorem Rectangular.length_eq_width (hrect : t.Rectangular) {cells : List String}
    (h : cells ∈ t.dataRows) : cells.length = t.width := by
  refine le_antisymm (length_le_width h) (foldl_max_le (Nat.zero_le _) fun length hlength => ?_)
  obtain ⟨row, hrow, rfl⟩ := List.mem_map.mp hlength
  exact ((hrect row hrow).trans (hrect cells h).symm).le

/-- A rectangular table has a cell at every place of its grid and nowhere else. -/
theorem content?_eq_none_iff (hrect : t.Rectangular) (place : Cursor) :
    t.content? place = none ↔ t.grid.contains place = false := by
  rw [Bool.eq_false_iff, ne_eq, Grid.contains_iff, content?]
  cases hrow : nth? t.dataRows place.line with
  | none =>
      rw [nth?_eq_none_iff] at hrow
      simp only [Option.bind_none, true_iff, grid, height]
      omega
  | some row =>
      have hline := bounds_of_nth? hrow
      rw [Option.bind_some, nth?_eq_none_iff, hrect row (mem_of_nth? hrow)]
      simp only [grid, height]
      omega

theorem cell_eq_ok_iff {line column : Int} {content : String} :
    t.cell line column = .ok content ↔ t.content? ⟨line, column⟩ = some content := by
  simp only [cell, dataRow, content?, bind, Except.bind]
  cases nth? t.dataRows line with
  | none => simp
  | some row =>
      cases hcell : nth? row column with
      | none => simp [hcell]
      | some found => simp [hcell]

theorem cell_of_content? {place : Cursor} {content : String} (h : t.content? place = some content) :
    t.cell place.line place.column = .ok content :=
  cell_eq_ok_iff.mpr h

end Table

end PipeTable
