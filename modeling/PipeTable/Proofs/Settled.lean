import Mathlib
import PipeTable.Proofs.Fewest
import PipeTable.Proofs.Groups

/-! # Narrowing a column again

The lines that narrowing puts one below the other are left as they are by another narrowing to the
same width, also where a single word is too long for it.  Every group is then of one row, so that no
separators are added either.
-/

namespace PipeTable.Table

variable {t u : Table} {rows out : List Row} {separators : Bool} {column width : Int}

/-- Every data row that goes in has a group of rows that come out. -/
theorem Grouped.exists_rows {P : List String → List (List String) → Prop}
    (h : Grouped separators P rows out) {cells : List String} (hcells : Row.data cells ∈ rows) :
    ∃ group, P cells group ∧ ∀ row ∈ group, Row.data row ∈ out := by
  induction h with
  | nil => cases hcells
  | separator _ ih =>
      rcases List.mem_cons.mp hcells with hcells | hcells
      · cases hcells
      · obtain ⟨group, hgroup, hout⟩ := ih hcells
        exact ⟨group, hgroup, fun row hrow => List.mem_cons_of_mem _ (hout row hrow)⟩
  | @data given group _ _ hgroup _ ih =>
      rcases List.mem_cons.mp hcells with heq | hcells
      · cases heq
        exact ⟨group, hgroup, fun row hrow => List.mem_append_left _
          (List.mem_append_left _ (List.mem_map_of_mem hrow))⟩
      · obtain ⟨other, hother, hout⟩ := ih hcells
        exact ⟨other, hother, fun row hrow => List.mem_append_right _ (hout row hrow)⟩

/-- Where every data row expands to itself alone, nothing changes and nothing is added. -/
theorem expandRows_eq_self (separators : Bool)
    {expand : List String → Except Error (List (List String))}
    (h : ∀ cells, Row.data cells ∈ rows → expand cells = .ok [cells]) :
    expandRows separators expand rows = .ok rows := by
  induction rows with
  | nil => rfl
  | cons row rows ih =>
      have hrest := ih fun cells hcells => h cells (List.mem_cons_of_mem row hcells)
      cases row with
      | separator =>
          rw [expandRows, hrest]
          rfl
      | data cells =>
          have hend : groupEnd separators [cells] rows = [] := by
            unfold groupEnd
            split <;> simp
          rw [expandRows, h cells List.mem_cons_self, hrest]
          refine Outcome.bind_eq_ok.mpr ⟨_, rfl, Outcome.bind_eq_ok.mpr ⟨_, rfl, ?_⟩⟩
          rw [hend]
          rfl

/-- The rows of a group have the lines of the cell in its column. -/
theorem getD_mem_of_mem_columnGroup {cells lines row : List String} {column : Nat}
    (hcolumn : column < cells.length) (hrow : row ∈ columnGroup cells column lines) :
    row.getD column "" ∈ lines := by
  cases lines with
  | nil => cases hrow
  | cons first more =>
      rcases List.mem_cons.mp hrow with rfl | hrow
      · rw [getD_set hcolumn, if_pos rfl]
        exact List.mem_cons_self
      · obtain ⟨line, hline, rfl⟩ := List.mem_map.mp hrow
        rw [getD_set (by simpa using hcolumn), if_pos rfl]
        exact List.mem_cons_of_mem first hline

/-- A row whose cell needs no wrapping is a group of its own. -/
theorem narrowGroup_eq_self {cells : List String} (hcolumn : (column - 1).toNat < cells.length)
    (h : Text.wrap (cells.getD (column - 1).toNat "") width.toNat =
      [cells.getD (column - 1).toNat ""]) :
    narrowGroup column width cells = [cells] := by
  rw [narrowGroup, h, columnGroup, List.map_nil, List.getD_eq_getElem _ _ hcolumn,
    List.set_getElem_self]

/-- A column whose cells need no wrapping is not changed by narrowing it. -/
theorem narrowColumn_eq_self (hrect : t.Rectangular) (separators : Bool)
    (hcolumn : 1 ≤ column ∧ column ≤ t.columnCount) (hwidth : 1 ≤ width)
    (h : ∀ row ∈ t.dataRows, Text.wrap (row.getD (column - 1).toNat "") width.toNat =
      [row.getD (column - 1).toNat ""]) :
    t.narrowColumn column width separators = .ok t := by
  rw [narrowColumn_eq hrect separators hcolumn hwidth, expandRows_eq_self]
  · rfl
  · intro cells hcells
    have hrow := mem_dataRows.mpr hcells
    rw [narrowGroup_eq_self _ (h cells hrow)]
    rw [hrect cells hrow]
    omega

/-- A row of some length has a line of a wrapped text in a column, counted from one. -/
def HasLine (length : Nat) (column width : Int) (row : List String) : Prop :=
  row.length = length ∧ ∃ text, row.getD (column - 1).toNat "" ∈ Text.wrap text width.toNat

theorem narrowGroup_hasLine {cells : List String} (hcolumn : (column - 1).toNat < cells.length) :
    narrowGroup column width cells ≠ [] ∧
      ∀ row ∈ narrowGroup column width cells, HasLine cells.length column width row := by
  have hspells := columnGroup_spells (wrap_ne_nil _ _) hcolumn
    (Text.flatMap_words_wrap _ width.toNat)
  exact ⟨hspells.nonempty, fun row hrow =>
    ⟨hspells.wide row hrow, _, getD_mem_of_mem_columnGroup hcolumn hrow⟩⟩

/-- A narrowed column has the lines of wrapped cells, in rows of as many cells as before. -/
theorem narrowColumn_hasLine (hrect : t.Rectangular) (separators : Bool)
    (hcolumn : 1 ≤ column ∧ column ≤ t.columnCount) (hwidth : 1 ≤ width) :
    ∃ u, t.narrowColumn column width separators = .ok u ∧ u.dataRows ≠ [] ∧
      ∀ row ∈ u.dataRows, HasLine t.columnCount column width row := by
  obtain ⟨u, hu, hgrouped⟩ := exists_narrowColumn hrect separators hcolumn hwidth
    (P := fun _ group => group ≠ [] ∧ ∀ row ∈ group, HasLine t.columnCount column width row)
    fun cells hcells => by
      rw [← hrect cells hcells] at hcolumn ⊢
      exact narrowGroup_hasLine (by omega)
  refine ⟨u, hu, ?_, fun row hrow => ?_⟩
  · -- a column can only be there if some row is
    obtain ⟨cells, hcells⟩ : ∃ cells, cells ∈ t.dataRows := by
      refine List.exists_mem_of_ne_nil _ fun hnone => ?_
      have hzero : t.columnCount = 0 := by rw [columnCount, hnone]
      omega
    obtain ⟨group, ⟨hne, -⟩, hout⟩ := hgrouped.exists_rows (mem_dataRows.mp hcells)
    obtain ⟨row, hrow⟩ := List.exists_mem_of_ne_nil _ hne
    exact List.ne_nil_of_mem (mem_dataRows.mpr (hout row hrow))
  · obtain ⟨_, _, ⟨-, hall⟩, hmem⟩ := hgrouped.exists_group (mem_dataRows.mp hrow)
    exact hall row hmem

/-- A narrowed column is not changed by narrowing it again to the same or a greater width, with or
without separators. -/
theorem narrowColumn_twice (hrect : t.Rectangular) (separators : Bool)
    (hcolumn : 1 ≤ column ∧ column ≤ t.columnCount) (hwidth : 1 ≤ width) :
    ∃ u, t.narrowColumn column width separators = .ok u ∧
      ∀ wider ≥ width, ∀ anew : Bool, u.narrowColumn column wider anew = .ok u := by
  obtain ⟨u, hu, hne, hrows⟩ := narrowColumn_hasLine hrect separators hcolumn hwidth
  have hcount : u.columnCount = t.columnCount :=
    columnCount_of_wide (fun row hrow => (hrows row hrow).1) hne
  refine ⟨u, hu, fun wider hwider anew => ?_⟩
  refine narrowColumn_eq_self (fun row hrow => ?_) anew (by rwa [hcount]) (by omega)
    fun row hrow => ?_
  · rw [hcount]
    exact (hrows row hrow).1
  · obtain ⟨text, htext⟩ := (hrows row hrow).2
    exact Text.wrap_of_mem_wrap (by omega) htext

/-- A word that is too long stays as it is, and so does what is put apart by separators. -/
theorem narrowColumn_twice_overlong :
    let t : Table := ⟨[.data ["1", "ab unbreakable c"], .data ["2", "de f"], .separator,
      .data ["3", "g"]]⟩
    let narrowed : Table := ⟨[.data ["1", "ab"], .data ["", "unbreakable"], .data ["", "c"],
      .separator, .data ["2", "de"], .data ["", "f"], .separator, .data ["3", "g"]]⟩
    (t.Rectangular ∧ (1 ≤ (2 : Int) ∧ (2 : Int) ≤ t.columnCount) ∧ 1 ≤ (3 : Int) ∧
      (3 : Int) ≥ 3) ∧
    t.narrowColumn 2 3 true = .ok narrowed ∧ narrowed.narrowColumn 2 3 true = .ok narrowed := by
  intro t narrowed
  have hrect : t.Rectangular := by decide
  have hcolumn : 1 ≤ (2 : Int) ∧ (2 : Int) ≤ t.columnCount := by decide
  obtain ⟨u, hu, hagain⟩ := narrowColumn_twice hrect true hcolumn (show 1 ≤ (3 : Int) by decide)
  have hnarrowed : t.narrowColumn 2 3 true = .ok narrowed := by rfl
  obtain rfl := Except.ok.inj (hu.symm.trans hnarrowed)
  exact ⟨⟨hrect, hcolumn, by decide, le_refl 3⟩, hnarrowed, hagain 3 (le_refl 3) true⟩

end PipeTable.Table
