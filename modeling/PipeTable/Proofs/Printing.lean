import Mathlib
import PipeTable.Proofs.Formatting
import PipeTable.Proofs.Groups
import PipeTable.Proofs.Passes
import PipeTable.Proofs.Positions

/-! # Tables computed, printed and read again

The cells that reading a table makes have neither bars nor line breaks in them and no blanks at
their ends.  Transposing, narrowing, flattening into texts and filtering make no other cells of
them, however often and in whichever order they are done.  So what is printed of a result reads back
as the result, with its rows made equally long.
-/

namespace PipeTable

/-- A cell as reading makes it: a field without blanks at its ends. -/
def IsClean (cell : String) : Prop := Table.IsField cell ∧ Text.strip cell = cell

/-- All cells of a table are clean. -/
def Table.Clean (t : Table) : Prop := ∀ cells ∈ t.dataRows, ∀ cell ∈ cells, IsClean cell

theorem isClean_empty : IsClean "" := ⟨nofun, rfl⟩

/-! ## Reading -/

namespace Table

variable {t u : Table}

theorem isClean_of_mem_splitCells {line : List Char}
    (hline : ∀ c ∈ line, Text.isLineBreak c = false) {cell : String}
    (h : cell ∈ splitCells line) : IsClean cell := by
  obtain ⟨piece, hpiece, rfl⟩ := List.mem_map.mp h
  have hopening (cs : List Char) : ∀ c ∈ dropOpeningBar cs, c ∈ cs := by
    intro c hc
    unfold dropOpeningBar at hc
    split at hc
    · exact List.mem_cons_of_mem _ hc
    · exact hc
  have hclosing (cs : List Char) : ∀ c ∈ dropClosingBar cs, c ∈ cs := by
    intro c hc
    unfold dropClosingBar at hc
    split at hc
    · exact List.mem_of_mem_dropLast hc
    · exact hc
  constructor
  · intro c hc
    rw [String.toList_ofList] at hc
    have hmem := Text.mem_of_mem_stripChars hc
    constructor
    · simpa using Text.of_mem_pieces hpiece c hmem
    · exact hline c (Text.mem_of_mem_stripChars
        (hopening _ c (hclosing _ c (Text.mem_of_mem_pieces hpiece hmem))))
  · rw [← String.toList_inj, Text.toList_strip, String.toList_ofList, Text.stripChars_stripChars]

theorem isClean_of_parseLines {number : Nat} {lines : List (List Char)} {rows : List Row}
    (h : parseLines number lines = .ok rows)
    (hlines : ∀ line ∈ lines, ∀ c ∈ line, Text.isLineBreak c = false) {cells : List String}
    (hcells : Row.data cells ∈ rows) : ∀ cell ∈ cells, IsClean cell := by
  induction lines generalizing number rows with
  | nil =>
      cases h
      cases hcells
  | cons line lines ih =>
      obtain ⟨hline, hmore⟩ := List.forall_mem_cons.mp hlines
      rw [parseLines] at h
      split at h
      · exact ih h hmore hcells
      · split at h
        · cases h
        · obtain ⟨more, hrest, h⟩ := Outcome.bind_eq_ok.mp h
          cases h
          rcases List.mem_cons.mp hcells with hcells | hcells
          · split at hcells
            · cases hcells
            · cases hcells
              exact fun cell hcell => isClean_of_mem_splitCells hline hcell
          · exact ih hrest hmore hcells

theorem clean_of_parse {text : String} (h : parse text = .ok t) : t.Clean := by
  obtain ⟨rows, hrows, rfl⟩ := Outcome.map_eq_ok.mp h
  intro cells hcells
  exact isClean_of_parseLines hrows (fun line hline => Text.of_mem_linesChars hline)
    (mem_dataRows.mp hcells)

/-! ## Printing -/

theorem linesChars_format (hcells : ∀ cells ∈ t.dataRows, ∀ cell ∈ cells, IsField cell)
    (hwide : t.dataRows = [] ∨ ∃ cells ∈ t.dataRows, cells ≠ []) :
    Text.linesChars (t.format "").toList = t.rows.map (lineOf t "") := by
  have hindent : IsIndent "" := nofun
  rw [toList_format]
  refine Text.linesChars_intercalate (fun l hl => ?_) fun l hl => ?_
  · obtain ⟨row, hrow, rfl⟩ := List.mem_map.mp hl
    exact (lineOf_readsAs hcells hwide hindent hrow).ne_nil
  · obtain ⟨row, hrow, rfl⟩ := List.mem_map.mp hl
    exact isLineBreak_lineOf hcells hindent hrow

/-- Clean cells have nothing to be stripped off when they are read back. -/
theorem parse_format_of_clean (hclean : t.Clean)
    (hwide : t.dataRows = [] ∨ ∃ cells ∈ t.dataRows, cells ≠ []) :
    parse (t.format "") = .ok (t.rectangularize "") := by
  have hcells : ∀ cells ∈ t.dataRows, ∀ cell ∈ cells, IsField cell :=
    fun cells hcells cell hcell => (hclean cells hcells cell hcell).1
  have hreads : ∀ row ∈ t.rows, ReadsAs (lineOf t "" row) (readBack t.width row) :=
    fun row hrow => lineOf_readsAs hcells hwide nofun hrow
  have hrows : t.rows.map (readBack t.width) = (t.rectangularize "").rows := by
    refine List.map_congr_left fun row hrow => ?_
    cases row with
    | separator => rfl
    | data cells =>
        have hstrip : (padRow t.width "" cells).map Text.strip = padRow t.width "" cells := by
          rw [List.map_congr_left (g := id), List.map_id]
          intro cell hcell
          rcases mem_padRow hcell with hcell | rfl
          · exact (hclean cells (mem_dataRows.mpr hrow) cell hcell).2
          · rfl
        rw [readBack, hstrip]
  rw [parse, linesChars_format hcells hwide,
    parseLines_of_readsAs (lineOf t "") (readBack t.width) hreads, hrows]
  rfl

/-! ## Transposing -/

theorem exists_of_mem_mapM {α β : Type} {f : α → Option β} {items : List α} {results : List β}
    (h : items.mapM f = some results) {b : β} (hb : b ∈ results) : ∃ a ∈ items, f a = some b := by
  induction items generalizing results with
  | nil =>
      cases h
      cases hb
  | cons a items ih =>
      rw [List.mapM_cons] at h
      obtain ⟨first, hfirst, h⟩ := Option.bind_eq_some_iff.mp h
      obtain ⟨more, hmore, h⟩ := Option.bind_eq_some_iff.mp h
      cases h
      rcases List.mem_cons.mp hb with rfl | hb
      · exact ⟨a, List.mem_cons_self, hfirst⟩
      · obtain ⟨other, hother, heq⟩ := ih hmore hb
        exact ⟨other, List.mem_cons_of_mem a hother, heq⟩

theorem Clean.transpose (ht : t.Clean) (h : t.transpose = .ok u) : u.Clean := by
  unfold Table.transpose at h
  split at h
  · cases h
  · dsimp only at h
    split at h
    next rows hrows =>
      cases h
      intro row hrow cell hcell
      rw [dataRows_ofCells] at hrow
      obtain ⟨c, -, hcolumn⟩ := exists_of_mem_mapM hrows hrow
      obtain ⟨given, hgiven, hcell⟩ := exists_of_mem_mapM hcolumn hcell
      exact ht given hgiven cell (List.mem_of_getElem? hcell)
    next => cases h

/-! ## Narrowing -/

theorem isClean_of_mem_wrap {text line : String} {width : Nat} (htext : IsClean text)
    (h : line ∈ Text.wrap text width) : IsClean line := by
  constructor
  · intro c hc
    rcases Text.of_mem_wrap h hc with rfl | hc
    · decide
    · exact htext.1 c hc
  · rcases Text.eq_or_isSpaced_of_mem_wrap h with rfl | hspaced
    · exact htext.2
    · exact hspaced.strip_eq

theorem exists_of_mem_expandRows {separators : Bool} {rows out : List Row}
    {expand : List String → Except Error (List (List String))}
    (h : expandRows separators expand rows = .ok out) {row : List String}
    (hrow : Row.data row ∈ out) :
    ∃ cells group, Row.data cells ∈ rows ∧ expand cells = .ok group ∧ row ∈ group := by
  induction rows generalizing out with
  | nil =>
      cases h
      cases hrow
  | cons given rows ih =>
      have hlater {more : List Row} (hmore : expandRows separators expand rows = .ok more)
          (hrow : Row.data row ∈ more) : ∃ cells group, Row.data cells ∈ given :: rows ∧
            expand cells = .ok group ∧ row ∈ group := by
        obtain ⟨cells, group, hcells, hgroup⟩ := ih hmore hrow
        exact ⟨cells, group, List.mem_cons_of_mem given hcells, hgroup⟩
      cases given with
      | separator =>
          obtain ⟨more, hmore, h⟩ := Outcome.bind_eq_ok.mp h
          cases h
          rcases List.mem_cons.mp hrow with hrow | hrow
          · cases hrow
          · exact hlater hmore hrow
      | data cells =>
          obtain ⟨group, hgroup, h⟩ := Outcome.bind_eq_ok.mp h
          obtain ⟨more, hmore, h⟩ := Outcome.bind_eq_ok.mp h
          cases h
          rcases List.mem_append.mp hrow with hrow | hrow
          · rcases List.mem_append.mp hrow with hrow | hrow
            · obtain ⟨other, hother, heq⟩ := List.mem_map.mp hrow
              cases heq
              exact ⟨cells, group, List.mem_cons_self, hgroup, hother⟩
            · exact absurd hrow (data_notMem_groupEnd _ _ _)
          · exact hlater hmore hrow

theorem Clean.narrowColumn (ht : t.Clean) {column width : Int} {separators : Bool}
    (h : t.narrowColumn column width separators = .ok u) : u.Clean := by
  unfold Table.narrowColumn at h
  by_cases hcolumn : column < 1 ∨ t.columnCount < column
  · rw [if_pos hcolumn] at h
    cases h
  · rw [if_neg hcolumn] at h
    by_cases hwidth : width < 1
    · rw [if_pos hwidth] at h
      cases h
    · rw [if_neg hwidth] at h
      obtain ⟨out, hout, h⟩ := Outcome.bind_eq_ok.mp h
      cases h
      intro row hrow cell hcell
      obtain ⟨cells, group, hcells, hgroup, hmem⟩ :=
        exists_of_mem_expandRows hout (mem_dataRows.mp hrow)
      have hclean := ht cells (mem_dataRows.mpr hcells)
      split at hgroup
      next text htext =>
        cases hgroup
        rcases mem_columnGroup hmem hcell with rfl | hcell | hline
        · exact isClean_empty
        · exact hclean cell hcell
        · exact isClean_of_mem_wrap (hclean text (mem_of_nth? htext)) hline
      next => cases hgroup

/-! ## Flattening -/

theorem Clean.rowAt (ht : t.Clean) (p : Nat) : ∀ cell ∈ t.rowAt p, IsClean cell := by
  intro cell hcell
  rw [Table.rowAt] at hcell
  rcases hrow : t.rows[p]? with _ | (_ | cells)
  · rw [hrow] at hcell
    cases hcell
  · rw [hrow] at hcell
    cases hcell
  · rw [hrow] at hcell
    exact ht cells (mem_dataRows.mpr (List.mem_of_getElem? hrow)) cell hcell

theorem Clean.modifyRow (ht : t.Clean) {f : List String → List String}
    (hf : ∀ cells, (∀ cell ∈ cells, IsClean cell) → ∀ cell ∈ f cells, IsClean cell)
    (position : Nat) : (t.modifyRow position f).Clean := by
  intro cells hcells
  obtain ⟨i, hi⟩ := List.mem_iff_getElem?.mp (mem_dataRows.mp hcells)
  simp only [Table.modifyRow, List.getElem?_modify] at hi
  obtain ⟨row, hrow, heq⟩ := Option.map_eq_some_iff.mp hi
  have hclean : ∀ given, row = .data given → ∀ cell ∈ given, IsClean cell := by
    rintro given rfl
    exact ht given (mem_dataRows.mpr (List.mem_of_getElem? hrow))
  split at heq
  · cases row with
    | separator => cases heq
    | data given =>
        cases heq
        exact hf given (hclean given rfl)
  · exact hclean cells heq

theorem isClean_of_mem_set {cells : List String} {content : String}
    (hcontent : IsClean content) (column : Nat) (hcells : ∀ cell ∈ cells, IsClean cell) :
    ∀ cell ∈ cells.set column content, IsClean cell := by
  intro cell hcell
  rcases List.mem_or_eq_of_mem_set hcell with hcell | rfl
  · exact hcells cell hcell
  · exact hcontent

theorem isClean_of_mem_cellsAt (ht : t.Clean) {positions : List Nat} {column : Nat}
    {values : List String} (h : t.cellsAt positions column = .ok values) :
    ∀ cell ∈ values, IsClean cell := by
  intro cell hcell
  obtain ⟨p, -, hp⟩ := Outcome.exists_of_mem_mapM h hcell
  split at hp
  next given hgiven =>
    cases hp
    have hclean := ht.rowAt p given (List.mem_of_getElem? hgiven)
    rwa [hclean.2]
  next => cases hp

section Reduced

variable {reduce : Reducer}
  (hreduce : ∀ cells, (∀ cell ∈ cells, IsClean cell) → IsClean (reduce cells).shown)
include hreduce

theorem Clean.flattenRun (ht : t.Clean) {positions : List Nat} {column : Nat}
    (h : t.flattenRun positions column reduce = .ok u) : u.Clean := by
  unfold Table.flattenRun at h
  cases positions with
  | nil =>
      cases h
      exact ht
  | cons start others =>
      obtain ⟨values, hvalues, h⟩ := Outcome.bind_eq_ok.mp h
      cases h
      have hemptied (positions : List Nat) (v : Table) (hv : v.Clean) :
          (positions.foldl (fun table p => table.modifyRow p fun cells => cells.set column "")
            v).Clean := by
        induction positions generalizing v with
        | nil => exact hv
        | cons p positions ih =>
            exact ih _ (hv.modifyRow (fun _ => isClean_of_mem_set isClean_empty column) p)
      have hvalue := hreduce values (isClean_of_mem_cellsAt ht hvalues)
      exact (hemptied others t ht).modifyRow (fun _ => isClean_of_mem_set hvalue column) start

theorem Clean.flattenRuns (ht : t.Clean) {start : Nat} {runs : List (Nat × Int)}
    {consumed : List Nat} (h : flattenRuns start reduce t runs = .ok (u, consumed)) : u.Clean := by
  induction runs generalizing t consumed with
  | nil =>
      cases h
      exact ht
  | cons run runs ih =>
      obtain ⟨next, hnext, h⟩ := Outcome.bind_eq_ok.mp h
      obtain ⟨⟨result, others⟩, hresult, h⟩ := Outcome.bind_eq_ok.mp h
      cases h
      exact ih (ht.flattenRun hreduce hnext) hresult

omit hreduce in
theorem Clean.dropRows (ht : t.Clean) (dropped : List Nat) : (t.dropRows dropped).Clean := by
  intro cells hcells
  rw [dataRows_dropRows] at hcells
  obtain ⟨p, -, rfl⟩ := List.mem_map.mp hcells
  exact ht.rowAt p

theorem Clean.flattenStep (ht : t.Clean) {columns : List Nat} {counts : List Value} {start : Nat}
    {next : Option Nat} (h : t.flattenStep columns counts start reduce = .ok (u, next)) :
    u.Clean := by
  unfold Table.flattenStep at h
  obtain ⟨resolved, -, h⟩ := Outcome.bind_eq_ok.mp h
  obtain ⟨⟨flat, consumed⟩, hflat, h⟩ := Outcome.bind_eq_ok.mp h
  cases h
  exact (ht.flattenRuns hreduce (Outcome.mapError_eq_ok.mp hflat)).dropRows _

theorem Clean.flattenSteps (ht : t.Clean) {columns : List Nat} {counts : List Value}
    {repetitions start : Nat}
    (h : flattenSteps columns counts reduce repetitions t start = .ok u) : u.Clean := by
  induction repetitions generalizing t start with
  | zero =>
      cases h
      exact ht
  | succ repetitions ih =>
      obtain ⟨⟨v, next⟩, hstep, h⟩ := Outcome.bind_eq_ok.mp h
      have hv := ht.flattenStep hreduce hstep
      cases next with
      | none =>
          cases h
          exact hv
      | some position => exact ih hv h

theorem Clean.flattenColumns (ht : t.Clean) {line column : Int} {counts : Value}
    {columnCount : Option Int} {repetitions : Int}
    (h : t.flattenColumns line column counts columnCount (.ok reduce) repetitions = .ok u) :
    u.Clean := by
  unfold Table.flattenColumns at h
  obtain ⟨-, -, h⟩ := Outcome.bind_eq_ok.mp h
  obtain ⟨given, -, h⟩ := Outcome.bind_eq_ok.mp h
  obtain ⟨reduce', hreduce', h⟩ := Outcome.bind_eq_ok.mp h
  obtain ⟨start, -, h⟩ := Outcome.bind_eq_ok.mp h
  cases hreduce'
  exact ht.flattenSteps hreduce h

end Reduced

/-! ## Filtering -/

theorem Clean.select (ht : t.Clean) {rows columns : Value}
    {condition : Except Error (Option (Expr.Expression Unit))} {tolerant : Bool}
    (h : t.select rows columns condition tolerant = .ok u) : u.Clean := by
  unfold Table.select at h
  obtain ⟨numbers, -, h⟩ := Outcome.bind_eq_ok.mp h
  obtain ⟨expression, -, h⟩ := Outcome.bind_eq_ok.mp h
  have hpicked : ∀ row ∈ Filter.pickRows t numbers, row ∈ t.dataRows := by
    intro row hrow
    obtain ⟨n, -, hn⟩ := List.mem_filterMap.mp hrow
    exact mem_of_nth? hn
  obtain ⟨kept, taken, hrows, rfl⟩ : ∃ (kept : List (List String)) (taken : List Int),
      (∀ row ∈ kept, row ∈ t.dataRows) ∧ u = ofCells (kept.map (Filter.project taken)) := by
    cases expression with
    | none =>
        obtain ⟨kept, hkept, h⟩ := Outcome.bind_eq_ok.mp h
        obtain ⟨taken, -, h⟩ := Outcome.bind_eq_ok.mp h
        cases hkept
        cases h
        exact ⟨_, taken, hpicked, rfl⟩
    | some e =>
        obtain ⟨kept, hkept, h⟩ := Outcome.bind_eq_ok.mp h
        obtain ⟨taken, -, h⟩ := Outcome.bind_eq_ok.mp h
        cases h
        exact ⟨kept, taken, fun row hrow =>
          hpicked row ((Filter.sublist_of_keepRows hkept).subset hrow), rfl⟩
  intro cells hcells cell hcell
  rw [dataRows_ofCells] at hcells
  obtain ⟨row, hrow, rfl⟩ := List.mem_map.mp hcells
  obtain ⟨c, -, rfl⟩ := List.mem_map.mp hcell
  cases hnth : nth? row c with
  | none => exact isClean_empty
  | some content => exact ht row (hrows row hrow) content (mem_of_nth? hnth)

end Table

/-! ## Reducing to text -/

namespace Reduction

/-- The reductions that put texts together, choose one of them, or count them. -/
def textual : List Reduction := [.join, .comma, .concat, .first, .last, .count]

variable {cells : List String} (hcells : ∀ cell ∈ cells, IsClean cell)
include hcells

theorem of_mem_filled {cell : String} (h : cell ∈ filled cells) :
    IsClean cell ∧ cell ≠ "" := by
  obtain ⟨hcell, hne⟩ := List.mem_filter.mp h
  exact ⟨hcells cell hcell, by simpa using hne⟩

theorem isClean_intercalate_filled {separator : String} (hseparator : Table.IsField separator) :
    IsClean (separator.intercalate (filled cells)) := by
  constructor
  · intro c hc
    rcases Text.of_mem_toList_intercalate hc with hc | ⟨cell, hcell, hc⟩
    · exact hseparator c hc
    · exact (of_mem_filled hcells hcell).1.1 c hc
  · exact Text.strip_intercalate separator fun cell hcell =>
      (of_mem_filled hcells hcell).imp_left And.right

theorem isClean_join : IsClean (String.join cells) := by
  constructor
  · intro c hc
    rw [String.toList_join] at hc
    obtain ⟨cell, hcell, hc⟩ := List.mem_flatMap.mp hc
    exact (hcells cell hcell).1 c hc
  · have hstrip : cells.map Text.strip = cells := by
      rw [List.map_congr_left (g := id) fun cell hcell => (hcells cell hcell).2, List.map_id]
    have hjoin := Text.strip_join cells
    rwa [hstrip] at hjoin

omit hcells in
theorem isClean_writeInteger (n : Nat) : IsClean (Text.writeInteger n) := by
  have hdigits : ∀ c ∈ (Text.writeInteger n).toList, c.isDigit = true := by
    rw [Text.toList_writeInteger]
    exact Text.isDigit_of_mem_toDigits
  constructor
  · intro c hc
    have hblank := (Text.of_isDigit (hdigits c hc)).2.2.2
    refine ⟨?_, Text.isLineBreak_of_isBlank hblank⟩
    rintro rfl
    have hbar := hdigits '|' hc
    cases hbar
  · rw [← String.toList_inj, Text.toList_strip]
    exact Text.dropBothEnds_of_none fun c hc => (Text.of_isDigit (hdigits c hc)).2.2.2

/-- Clean cells are reduced to a clean cell. -/
theorem isClean_shown {r : Reduction} (hr : r ∈ textual) : IsClean (r.apply cells).shown := by
  have hchosen (chosen : Option String) (h : ∀ cell ∈ chosen, cell ∈ filled cells) :
      IsClean (chosen.getD "") := by
    cases chosen with
    | none => exact isClean_empty
    | some cell => exact (of_mem_filled hcells (h cell rfl)).1
  simp only [textual, List.mem_cons, List.not_mem_nil, or_false] at hr
  rcases hr with rfl | rfl | rfl | rfl | rfl | rfl
  · exact isClean_intercalate_filled hcells (by simp [Table.IsField, Text.isLineBreak])
  · exact isClean_intercalate_filled hcells (by simp [Table.IsField, Text.isLineBreak])
  · exact isClean_join hcells
  · exact hchosen _ fun cell hcell => List.mem_of_mem_head? hcell
  · exact hchosen _ fun cell hcell => List.mem_of_mem_getLast? hcell
  · exact isClean_writeInteger _

end Reduction

/-! ## Computed tables -/

namespace Table

/-- The tables that are computed from a table: by transposing, narrowing a column, flattening
columns into texts, or filtering, one after the other. -/
inductive Computes (t : Table) : Table → Prop
  | self : Computes t t
  | transpose {u v : Table} : Computes t u → u.transpose = .ok v → Computes t v
  | narrow {u v : Table} {column width : Int} {separators : Bool} :
      Computes t u → u.narrowColumn column width separators = .ok v → Computes t v
  | flatten {u v : Table} {line column repetitions : Int} {counts : Value}
      {columnCount : Option Int} {r : Reduction} :
      Computes t u → r ∈ Reduction.textual →
        u.flattenColumns line column counts columnCount (Reduction.ofValue (.text r.name))
          repetitions = .ok v → Computes t v
  | filter {u v : Table} {rows columns : Value}
      {condition : Except Error (Option (Expr.Expression Unit))} {tolerant : Bool} :
      Computes t u → u.select rows columns condition tolerant = .ok v → Computes t v

variable {t u : Table}

theorem Clean.computes (ht : t.Clean) (h : Computes t u) : u.Clean := by
  induction h with
  | self => exact ht
  | transpose _ hv ih => exact ih.transpose hv
  | narrow _ hv ih => exact ih.narrowColumn hv
  | @flatten _ _ _ _ _ _ _ r _ hr hv ih =>
      have hreducer : Reduction.ofValue (.text r.name) = .ok r.apply := by cases r <;> rfl
      rw [hreducer] at hv
      exact ih.flattenColumns (fun cells hcells => Reduction.isClean_shown hcells hr) hv
  | filter _ hv ih => exact ih.select hv

/-- What is printed of a table computed from one that was read is read as this table, with its rows
made equally long, unless all of its rows are empty. -/
theorem parse_format_computed {text : String} (ht : parse text = .ok t) (hu : Computes t u)
    (hwide : u.dataRows = [] ∨ ∃ cells ∈ u.dataRows, cells ≠ []) :
    parse (u.format "") = .ok (u.rectangularize "") :=
  parse_format_of_clean ((clean_of_parse ht).computes hu) hwide

/-- A column narrowed, joined by commas over the rows that it now takes, and printed.  The last row
has one cell only. -/
theorem parse_format_narrowed_and_flattened :
    let t : Table := ⟨[.data ["aa bb", "x"], .separator, .data ["d"]]⟩
    let u : Table := ⟨[.data ["aa, bb", "x"], .separator, .data ["d"]]⟩
    (parse "| aa bb | x |\n|--\n\n|d\n" = .ok t ∧ Computes t u ∧
      (u.dataRows = [] ∨ ∃ cells ∈ u.dataRows, cells ≠ [])) ∧
    parse (u.format "") = .ok ⟨[.data ["aa, bb", "x"], .separator, .data ["d", ""]]⟩ := by
  intro t u
  have ht : parse "| aa bb | x |\n|--\n\n|d\n" = .ok t := by rfl
  have hnarrow : t.narrowColumn 1 3 false = .ok ⟨[.data ["aa", "x"], .data ["bb", ""], .separator,
      .data ["d"]]⟩ := by rfl
  have hflatten : flattenColumns ⟨[.data ["aa", "x"], .data ["bb", ""], .separator,
      .data ["d"]]⟩ 1 1 (.int 2) none (Reduction.ofValue (.text Reduction.comma.name)) 1 =
        .ok u := by
    cbv
  have hu : Computes t u := .flatten (.narrow .self hnarrow) (by decide) hflatten
  have hwide : u.dataRows = [] ∨ ∃ cells ∈ u.dataRows, cells ≠ [] := by decide
  exact ⟨⟨ht, hu, hwide⟩, parse_format_computed ht hu hwide⟩

end Table

end PipeTable
