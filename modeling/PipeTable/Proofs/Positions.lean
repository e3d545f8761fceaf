import Mathlib
import PipeTable.Table.Flatten
import PipeTable.Proofs.Shape

/-! # Positions of data rows

Positions count all rows, separators included.  The data rows of a table are the rows at its data
positions, and edits of cells leave these positions as they are.
-/

namespace PipeTable.Table

/-- The cells of the row at a position; a separator has none. -/
def rowAt (t : Table) (position : Nat) : List String :=
  (t.rows[position]?.bind Row.cells?).getD []

variable {t u : Table}

/-! ## Data positions -/

theorem positionsFrom_eq (rows : List Row) (start : Nat) :
    positionsFrom start rows =
      (rows.zipIdx start).filterMap fun (row, i) => row.cells?.map fun _ => i := by
  induction rows generalizing start with
  | nil => rfl
  | cons row rows ih => cases row <;> simp [positionsFrom, Row.cells?, ih]

theorem dataPositions_of_shape (h : t.shape = u.shape) : t.dataPositions = u.dataPositions := by
  have hseparators : ∀ rows start, positionsFrom start rows =
      ((rows.map fun row => row.cells?.map List.length).zipIdx start).filterMap
        fun (length, i) => length.map fun _ => i := by
    intro rows start
    rw [positionsFrom_eq, List.zipIdx_map, List.filterMap_map]
    apply List.filterMap_congr
    rintro ⟨row, i⟩ -
    cases row <;> rfl
  rw [dataPositions, dataPositions, hseparators, hseparators, ← shape, ← shape, h]

theorem length_of_shape {width : Nat} (h : u.shape = t.shape)
    (hwide : ∀ row ∈ t.dataRows, row.length = width) : ∀ row ∈ u.dataRows, row.length = width := by
  intro row hrow
  have hlength : row.length ∈ t.dataRows.map List.length := by
    rw [map_length_dataRows, ← h, ← map_length_dataRows]
    exact List.mem_map_of_mem hrow
  obtain ⟨other, hother, heq⟩ := List.mem_map.mp hlength
  rw [← heq]
  exact hwide other hother

theorem length_rowAt_of_shape (h : t.shape = u.shape) (p : Nat) :
    (t.rowAt p).length = (u.rowAt p).length := by
  have hlength (v : Table) : (v.rowAt p).length = (v.shape[p]?.bind id).getD 0 := by
    rw [rowAt, shape, List.getElem?_map]
    rcases v.rows[p]? with _ | row
    · rfl
    · cases row <;> rfl
  rw [hlength, hlength, h]

theorem pairwise_positionsFrom (rows : List Row) (start : Nat) :
    (positionsFrom start rows).Pairwise (· < ·) ∧ ∀ p ∈ positionsFrom start rows, start ≤ p := by
  induction rows generalizing start with
  | nil => exact ⟨.nil, nofun⟩
  | cons row rows ih =>
      obtain ⟨hpairwise, hle⟩ := ih (start + 1)
      cases row with
      | separator => exact ⟨hpairwise, fun p hp => Nat.le_of_succ_le (hle p hp)⟩
      | data cells =>
          refine ⟨.cons hle hpairwise, fun p hp => ?_⟩
          rcases List.mem_cons.mp hp with rfl | hp
          · exact Nat.le_refl _
          · exact Nat.le_of_succ_le (hle p hp)

theorem pairwise_dataPositions (t : Table) : t.dataPositions.Pairwise (· < ·) :=
  (pairwise_positionsFrom t.rows 0).1

/-- The data rows at the positions that satisfy `keep`, in order. -/
theorem filterMap_cells_filter (t : Table) (keep : Nat → Bool) :
    ((t.rows.zipIdx.filter fun (_, i) => keep i).map Prod.fst).filterMap Row.cells? =
      (t.dataPositions.filter keep).map t.rowAt := by
  rw [dataPositions, positionsFrom_eq, List.filter_filterMap, List.map_filterMap,
    List.filterMap_map, List.filterMap_filter]
  apply List.filterMap_congr
  rintro ⟨row, i⟩ hrow
  have hrow : t.rows[i]? = some row := List.mem_zipIdx_iff_getElem?.mp hrow
  by_cases hkeep : keep i = true
  · cases row <;> simp [hkeep, hrow, rowAt, Row.cells?]
  · cases row <;> simp [hkeep, Row.cells?]

theorem dataRows_dropRows (t : Table) (dropped : List Nat) :
    (t.dropRows dropped).dataRows =
      (t.dataPositions.filter fun p => !dropped.contains p).map t.rowAt :=
  t.filterMap_cells_filter fun p => !dropped.contains p

theorem dataRows_eq_map (t : Table) : t.dataRows = t.dataPositions.map t.rowAt := by
  simpa [dataRows] using t.filterMap_cells_filter fun _ => true

theorem length_dataPositions (t : Table) : t.dataPositions.length = t.height := by
  rw [height, dataRows_eq_map, List.length_map]

theorem exists_position {line : Int} (h : 1 ≤ line ∧ line ≤ t.height) :
    ∃ p, nth? t.dataPositions line = some p := by
  rw [← Option.ne_none_iff_exists', ne_eq, nth?_eq_none_iff, length_dataPositions]
  exact not_not_intro h

theorem rowAt_mem_dataRows {p : Nat} (hp : p ∈ t.dataPositions) : t.rowAt p ∈ t.dataRows := by
  rw [dataRows_eq_map]
  exact List.mem_map_of_mem hp

theorem mem_dataPositions {p : Nat} :
    p ∈ t.dataPositions ↔ ∃ cells, t.rows[p]? = some (.data cells) := by
  rw [dataPositions, positionsFrom_eq, List.mem_filterMap]
  constructor
  · rintro ⟨⟨row, i⟩, hrow, hcells⟩
    cases row with
    | separator => cases hcells
    | data cells =>
        cases hcells
        exact ⟨cells, List.mem_zipIdx_iff_getElem?.mp hrow⟩
  · rintro ⟨cells, hrow⟩
    exact ⟨(.data cells, p), List.mem_zipIdx_iff_getElem?.mpr hrow, rfl⟩

/-! ## Dropped rows -/

section Dropped

variable {dropped : List Nat} (hnodup : dropped.Nodup)
include hnodup

/-- Before a position as many rows stay as there are dropped ones missing. -/
theorem length_filter_range (p : Nat) :
    ((List.range p).filter fun i => !dropped.contains i).length =
      p - (dropped.filter fun d => d < p).length := by
  have hsame : ((List.range p).filter fun i => dropped.contains i).Perm
      (dropped.filter fun d => d < p) := by
    refine (List.perm_ext_iff_of_nodup (List.nodup_range.filter _) (hnodup.filter _)).mpr
      fun i => ?_
    simp [and_comm]
  have hall := List.length_eq_length_filter_add (l := List.range p)
    fun i => dropped.contains i
  rw [List.length_range, hsame.length_eq] at hall
  omega

/-- A row that stays moves up by the number of dropped rows above it. -/
theorem getElem?_dropRows {p : Nat} (hp : p ∉ dropped) (hinside : p < t.rows.length) :
    (t.dropRows dropped).rows[p - (dropped.filter fun d => d < p).length]? = t.rows[p]? := by
  have hcut : t.rows.zipIdx =
      t.rows.zipIdx.take p ++ (t.rows[p], p) :: t.rows.zipIdx.drop (p + 1) := by
    conv_lhs => rw [← List.take_append_drop p t.rows.zipIdx]
    rw [List.drop_eq_getElem_cons (by simpa using hinside)]
    simp
  have habove : ((t.rows.zipIdx.take p).filter fun (_, i) => !dropped.contains i).length =
      p - (dropped.filter fun d => d < p).length := by
    have hpositions : (t.rows.zipIdx.take p).map Prod.snd = List.range p := by
      rw [List.map_take, List.zipIdx_map_snd, ← List.range_eq_range', List.take_range,
        Nat.min_eq_left (Nat.le_of_lt hinside)]
    rw [← length_filter_range hnodup, ← hpositions, List.filter_map, List.length_map]
    rfl
  rw [dropRows, hcut, List.filter_append, List.map_append, ← habove]
  simp [hp]

/-- A data row that stays is a data row of the table that is left. -/
theorem mem_dataPositions_dropRows {p : Nat} (hp : p ∈ t.dataPositions) (hkept : p ∉ dropped) :
    p - (dropped.filter fun d => d < p).length ∈ (t.dropRows dropped).dataPositions := by
  obtain ⟨cells, hcells⟩ := mem_dataPositions.mp hp
  obtain ⟨hinside, -⟩ := List.getElem?_eq_some_iff.mp hcells
  refine mem_dataPositions.mpr ⟨cells, ?_⟩
  rw [getElem?_dropRows hnodup hkept hinside, hcells]

end Dropped

/-! ## Edits of rows -/

theorem rowAt_modifyRow {f : List String → List String} (hf : f [] = []) (p q : Nat) :
    (t.modifyRow p f).rowAt q = if q = p then f (t.rowAt q) else t.rowAt q := by
  simp only [rowAt, modifyRow, List.getElem?_modify]
  by_cases hq : p = q
  · rcases t.rows[q]? with _ | row
    · simp [hf]
    · cases row <;> simp [hq, Row.cells?, hf]
  · simp [hq, Ne.symm hq]

/-- Rows edited one after the other, each of them in the same way however often. -/
theorem rowAt_foldl_modifyRow {f : List String → List String} (hf : f [] = [])
    (htwice : ∀ cells, f (f cells) = f cells) (positions : List Nat) (t : Table) (q : Nat) :
    (positions.foldl (fun table p => table.modifyRow p f) t).rowAt q =
      if q ∈ positions then f (t.rowAt q) else t.rowAt q := by
  induction positions generalizing t with
  | nil => simp
  | cons p positions ih =>
      rw [List.foldl_cons, ih, rowAt_modifyRow hf]
      by_cases hp : q = p
      · by_cases hq : q ∈ positions <;> simp [hp, htwice]
      · simp [hp]

end PipeTable.Table
