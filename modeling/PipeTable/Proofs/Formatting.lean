import Mathlib
import PipeTable.Table.Format
import PipeTable.Proofs.Cells
import PipeTable.Proofs.Lines

/-! # Tables written and read back

Every row is written as one line.  A line of cells has them between bars, each padded to the width
of its column, and a line of dashes stands for a separator.  No cell holds a bar or a line break, so
the text is cut at the same places at which it was put together, and stripping the cells takes the
padding off again.  What is read back is the table with its rows made equally long and its cells
stripped.
-/

namespace PipeTable.Table

/-- The table with the blanks at both ends of its cells stripped. -/
def stripped (t : Table) : Table :=
  ⟨t.rows.map fun
    | .separator => .separator
    | .data cells => .data (cells.map Text.strip)⟩

/-- Text that can stand between the bars of a line. -/
def IsField (cell : String) : Prop :=
  ∀ c ∈ cell.toList, c ≠ '|' ∧ Text.isLineBreak c = false

/-- White space that stays on one line. -/
def IsIndent (indent : String) : Prop :=
  ∀ c ∈ indent.toList, Text.isBlank c = true ∧ Text.isLineBreak c = false

/-! ## Lines that are read as rows -/

/-- A line is read as a row. -/
structure ReadsAs (line : List Char) (row : Row) : Prop where
  filled : (Text.stripChars line).isEmpty = false
  isTable : isTableLine line = true
  row_eq : (if isSeparatorLine line then Row.separator else .data (splitCells line)) = row

theorem ReadsAs.ne_nil {line : List Char} {row : Row} (h : ReadsAs line row) : line ≠ [] := by
  rintro rfl
  cases h.filled

/-- Lines that are read as rows one by one are read as a table of these rows. -/
theorem parseLines_of_readsAs {α : Type} (line : α → List Char) (result : α → Row) {items : List α}
    (h : ∀ item ∈ items, ReadsAs (line item) (result item)) (number : Nat) :
    parseLines number (items.map line) = .ok (items.map result) := by
  induction items generalizing number with
  | nil => rfl
  | cons item items ih =>
      have hitem := h item List.mem_cons_self
      have hrest := ih (fun i hi => h i (List.mem_cons_of_mem _ hi)) (number + 1)
      rw [List.map_cons, List.map_cons, parseLines, hitem.filled, hitem.isTable, hrest,
        ← hitem.row_eq]
      rfl

section Barred

variable {indent : List Char} (hindent : ∀ c ∈ indent, Text.isBlank c = true)
include hindent

theorem dropWhile_barred (rest : List Char) :
    (indent ++ '|' :: rest).dropWhile Text.isBlank = '|' :: rest := by
  rw [List.dropWhile_append_of_pos hindent, List.dropWhile_cons_of_neg (by decide)]

theorem isTableLine_barred (rest : List Char) : isTableLine (indent ++ '|' :: rest) = true := by
  rw [isTableLine, dropWhile_barred hindent]
  rfl

theorem isEmpty_stripChars_barred (rest : List Char) :
    (Text.stripChars (indent ++ '|' :: rest)).isEmpty = false := by
  rw [Text.stripChars, dropWhile_barred hindent, Bool.eq_false_iff, ne_eq, List.isEmpty_iff,
    Text.dropEndWhile_eq_nil_iff]
  intro hblank
  have hbar := hblank '|' List.mem_cons_self
  cases hbar

omit hindent in
/-- Every table line is read as a row. -/
theorem readsAs_of_isTableLine {line : List Char} (h : isTableLine line = true) :
    ReadsAs line (if isSeparatorLine line then Row.separator else .data (splitCells line)) := by
  obtain ⟨rest, hrest⟩ : ∃ rest, line.dropWhile Text.isBlank = '|' :: rest := by
    unfold isTableLine at h
    split at h
    next rest hrest => exact ⟨rest, hrest⟩
    next => cases h
  refine ⟨?_, h, rfl⟩
  rw [← List.takeWhile_append_dropWhile (p := Text.isBlank) (l := line), hrest]
  exact isEmpty_stripChars_barred (fun c hc => List.mem_takeWhile_imp hc) rest

/-- A line with a bar at either end holds what its other bars separate. -/
theorem splitCells_barred {fields : List (List Char)} (hne : fields ≠ [])
    (hbar : ∀ field ∈ fields, ∀ c ∈ field, c ≠ '|') :
    splitCells (indent ++ '|' :: (['|'].intercalate fields ++ ['|'])) =
      fields.map fun field => String.ofList (Text.stripChars field) := by
  have hstrip : Text.stripChars (indent ++ '|' :: (['|'].intercalate fields ++ ['|'])) =
      '|' :: (['|'].intercalate fields ++ ['|']) := by
    have hlast : ('|' :: (['|'].intercalate fields ++ ['|'])).getLast? = some '|' := by
      rw [← List.cons_append, List.getLast?_append]
      rfl
    rw [Text.stripChars_append_left hindent]
    refine Text.dropBothEnds_eq_self (fun c hc => ?_) fun c hc => ?_
    · cases hc
      decide
    · rw [hlast] at hc
      cases hc
      decide
  have hclosing : dropClosingBar (['|'].intercalate fields ++ ['|']) = ['|'].intercalate fields := by
    simp [dropClosingBar]
  have hcut : Text.pieces (· = '|') (['|'].intercalate fields) = fields :=
    Text.pieces_intercalate (by decide) hne fun field hfield c hc =>
      decide_eq_false (hbar field hfield c hc)
  rw [splitCells, hstrip, dropOpeningBar, hclosing, hcut]

end Barred

/-! ## Lines of cells -/

/-- A cell as it stands between two bars, in a column of some width. -/
def fieldOf (cell : String) (width : Nat) : List Char :=
  ' ' :: (cell.toList ++ (List.replicate (width - cell.length) ' ' ++ [' ']))

theorem mem_fieldOf {cell : String} {width : Nat} {c : Char} (h : c ∈ fieldOf cell width) :
    c = ' ' ∨ c ∈ cell.toList := by
  simp only [fieldOf, List.mem_cons, List.mem_append, List.mem_replicate, List.not_mem_nil,
    or_false] at h
  tauto

/-- The blanks around a cell and the padding behind it are stripped again. -/
theorem stripChars_fieldOf (cell : String) (width : Nat) :
    Text.stripChars (fieldOf cell width) = Text.stripChars cell.toList := by
  have hspace : ∀ c ∈ [' '], Text.isBlank c = true := by
    intro c hc
    rw [List.mem_singleton.mp hc]
    decide
  have hpadding : ∀ c ∈ List.replicate (width - cell.length) ' ' ++ [' '],
      Text.isBlank c = true := by
    intro c hc
    rcases List.mem_append.mp hc with hc | hc
    · rw [List.eq_of_mem_replicate hc]
      decide
    · exact hspace c hc
  rw [fieldOf, ← List.singleton_append, Text.stripChars_append_left hspace,
    Text.stripChars_append_right _ hpadding]

section Cells

variable {widths : List Nat} {cells : List String}

/-- The fields of a row, with empty ones for the cells that it lacks. -/
def fieldsOf (widths : List Nat) (cells : List String) : List (List Char) :=
  List.zipWith fieldOf (padRow widths.length "" cells) widths

theorem length_padRow (width : Nat) (padding : String) (h : cells.length ≤ width) :
    (padRow width padding cells).length = width := by
  simp only [padRow, List.length_append, List.length_replicate]
  omega

theorem mem_padRow {width : Nat} {padding cell : String} (h : cell ∈ padRow width padding cells) :
    cell ∈ cells ∨ cell = padding := by
  rcases List.mem_append.mp h with h | h
  · exact .inl h
  · exact .inr (List.eq_of_mem_replicate h)

theorem cellLine_toList (widths : List Nat) (cells : List String) :
    (cellLine widths cells).toList =
      '|' :: (['|'].intercalate (fieldsOf widths cells) ++ ['|']) := by
  have hfields : (List.zipWith (fun cell w => " " ++ Text.padRight cell w ++ " ")
      (padRow widths.length "" cells) widths).map String.toList = fieldsOf widths cells := by
    rw [List.map_zipWith]
    refine congrArg (List.zipWith · _ _) (funext₂ fun cell w => ?_)
    simp [Text.padRight, fieldOf]
  simp [cellLine, hfields]

/-- A row that has no cells beyond the widths has a field for every width. -/
theorem length_fieldsOf (h : cells.length ≤ widths.length) :
    (fieldsOf widths cells).length = widths.length := by
  rw [fieldsOf, List.length_zipWith, length_padRow _ _ h, Nat.min_self]

theorem mem_fieldsOf {field : List Char} {c : Char} (hfield : field ∈ fieldsOf widths cells)
    (hc : c ∈ field) : c = ' ' ∨ ∃ cell ∈ cells, c ∈ cell.toList := by
  obtain ⟨i, hi, rfl⟩ := List.mem_iff_getElem.mp hfield
  simp only [fieldsOf, List.getElem_zipWith] at hc
  rcases mem_fieldOf hc with hc | hc
  · exact .inl hc
  · rcases mem_padRow (List.getElem_mem _) with hcell | hempty
    · exact .inr ⟨_, hcell, hc⟩
    · rw [hempty] at hc
      cases hc

/-- Stripped, the fields are the stripped cells, with empty ones for those that the row lacks. -/
theorem map_strip_fieldsOf (h : cells.length ≤ widths.length) :
    (fieldsOf widths cells).map (fun field => String.ofList (Text.stripChars field)) =
      (padRow widths.length "" cells).map Text.strip := by
  refine List.ext_getElem ?_ fun i hi hi' => ?_
  · rw [List.length_map, List.length_map, length_fieldsOf h, length_padRow _ _ h]
  · simp only [fieldsOf, List.getElem_map, List.getElem_zipWith, stripChars_fieldOf]
    rfl

/-- The first bar of a line of cells is followed by a space. -/
theorem exists_fieldsOf_eq (hne : widths ≠ []) (h : cells.length ≤ widths.length) :
    ∃ rest, ['|'].intercalate (fieldsOf widths cells) = ' ' :: rest := by
  have hlength := length_padRow widths.length "" h
  obtain ⟨w, ws, hws⟩ := List.exists_cons_of_ne_nil hne
  cases hpadded : padRow widths.length "" cells with
  | nil =>
      rw [hpadded, hws] at hlength
      cases hlength
  | cons cell more =>
      rw [fieldsOf, hpadded, hws, List.zipWith_cons_cons]
      cases List.zipWith fieldOf more ws with
      | nil => exact ⟨_, by rw [List.intercalate_singleton, fieldOf]⟩
      | cons next fields =>
          exact ⟨_, by rw [List.intercalate_cons_cons, fieldOf, List.cons_append, List.cons_append]⟩

/-- A line of cells is read as the row padded to the widths, with its cells stripped. -/
theorem cellLine_readsAs {indent : List Char} (hindent : ∀ c ∈ indent, Text.isBlank c = true)
    (hne : widths ≠ []) (h : cells.length ≤ widths.length)
    (hcells : ∀ cell ∈ cells, IsField cell) :
    ReadsAs (indent ++ (cellLine widths cells).toList)
      (.data ((padRow widths.length "" cells).map Text.strip)) := by
  have hfields : fieldsOf widths cells ≠ [] := by
    intro hnil
    have hlength := length_fieldsOf h
    rw [hnil] at hlength
    exact hne (List.eq_nil_of_length_eq_zero hlength.symm)
  have hbar : ∀ field ∈ fieldsOf widths cells, ∀ c ∈ field, c ≠ '|' := by
    intro field hfield c hc
    rcases mem_fieldsOf hfield hc with rfl | ⟨cell, hcell, hc⟩
    · decide
    · exact (hcells cell hcell c hc).1
  rw [cellLine_toList]
  refine ⟨isEmpty_stripChars_barred hindent _, isTableLine_barred hindent _, ?_⟩
  -- the space after the bar keeps a cell that starts with a dash from passing for a separator
  obtain ⟨rest, hrest⟩ := exists_fieldsOf_eq hne h
  have hseparator : isSeparatorLine
      (indent ++ '|' :: (['|'].intercalate (fieldsOf widths cells) ++ ['|'])) = false := by
    rw [isSeparatorLine, dropWhile_barred hindent, hrest]
    rfl
  rw [hseparator, splitCells_barred hindent hfields hbar, map_strip_fieldsOf h]
  rfl

/-- A line of cells has no line break. -/
theorem isLineBreak_cellLine (hcells : ∀ cell ∈ cells, IsField cell) :
    ∀ c ∈ (cellLine widths cells).toList, Text.isLineBreak c = false := by
  intro c hc
  rw [cellLine_toList, List.mem_cons, List.mem_append, List.mem_singleton] at hc
  rcases hc with rfl | hc | rfl
  · decide
  · rcases Text.of_mem_intercalate hc with rfl | ⟨field, hfield, hc⟩
    · decide
    · rcases mem_fieldsOf hfield hc with rfl | ⟨cell, hcell, hc⟩
      · decide
      · exact (hcells cell hcell c hc).2
  · decide

end Cells

/-! ## Lines of dashes -/

theorem separatorLine_toList {widths : List Nat} (hne : widths ≠ []) :
    (separatorLine widths).toList =
      '|' :: (['+'].intercalate (widths.map fun w => List.replicate (w + 2) '-') ++ ['|']) := by
  have hdashes : (widths.map fun w => String.ofList (List.replicate (w + 2) '-')).map
      String.toList = widths.map fun w => List.replicate (w + 2) '-' := by
    rw [List.map_map]
    exact List.map_congr_left fun w _ => String.toList_ofList
  rw [separatorLine, if_neg (by simpa using hne)]
  simp only [String.toList_append, String.toList_intercalate, hdashes]
  rfl

/-- The first bar of a separator line is followed by a dash. -/
theorem exists_separatorLine_eq (widths : List Nat) :
    ∃ rest, (separatorLine widths).toList = '|' :: '-' :: rest := by
  cases widths with
  | nil => exact ⟨['|'], rfl⟩
  | cons w ws =>
      rw [separatorLine_toList (List.cons_ne_nil w ws), List.map_cons]
      cases ws.map fun w => List.replicate (w + 2) '-' with
      | nil => exact ⟨_, by rw [List.intercalate_singleton, List.replicate_succ]; rfl⟩
      | cons next runs => exact ⟨_, by rw [List.intercalate_cons_cons, List.replicate_succ]; rfl⟩

theorem isLineBreak_separatorLine (widths : List Nat) :
    ∀ c ∈ (separatorLine widths).toList, Text.isLineBreak c = false := by
  intro c hc
  by_cases hne : widths = []
  · rw [hne] at hc
    change c ∈ ['|', '-', '|'] at hc
    simp only [List.mem_cons, List.not_mem_nil, or_false] at hc
    rcases hc with rfl | rfl | rfl <;> decide
  · rw [separatorLine_toList hne, List.mem_cons, List.mem_append, List.mem_singleton] at hc
    rcases hc with rfl | hc | rfl
    · decide
    · rcases Text.of_mem_intercalate hc with rfl | ⟨run, hrun, hc⟩
      · decide
      · obtain ⟨w, -, rfl⟩ := List.mem_map.mp hrun
        rw [List.eq_of_mem_replicate hc]
        decide
    · decide

theorem separatorLine_readsAs {indent : List Char} (hindent : ∀ c ∈ indent, Text.isBlank c = true)
    (widths : List Nat) : ReadsAs (indent ++ (separatorLine widths).toList) .separator := by
  obtain ⟨rest, hrest⟩ := exists_separatorLine_eq widths
  have hseparator : isSeparatorLine (indent ++ '|' :: '-' :: rest) = true := by
    rw [isSeparatorLine, dropWhile_barred hindent]
    rfl
  rw [hrest]
  exact ⟨isEmpty_stripChars_barred hindent _, isTableLine_barred hindent _, by rw [hseparator]; rfl⟩

/-! ## Tables -/

section Tables

variable {t : Table}

theorem length_foldl_eq {α β : Type} {f : List β → α → List β}
    (hf : ∀ items a, (f items a).length = items.length) (steps : List α) (items : List β) :
    (steps.foldl f items).length = items.length := by
  induction steps generalizing items with
  | nil => rfl
  | cons a steps ih => rw [List.foldl_cons, ih, hf]

theorem length_columnWidths (t : Table) : t.columnWidths.length = t.width := by
  refine (length_foldl_eq (fun widths row => ?_) t.dataRows _).trans List.length_replicate
  rw [List.length_map, List.length_zipIdx]

/-- Rows with cells stand in columns. -/
theorem columnWidths_ne_nil (hwide : t.dataRows = [] ∨ ∃ cells ∈ t.dataRows, cells ≠ [])
    {cells : List String} (h : cells ∈ t.dataRows) : t.columnWidths ≠ [] := by
  intro hnil
  have hwidth := length_columnWidths t
  rw [hnil] at hwidth
  rcases hwide with hnone | ⟨wide, hmem, hne⟩
  · rw [hnone] at h
    cases h
  · have hle := length_le_width hmem
    rw [← hwidth] at hle
    exact hne (List.eq_nil_of_length_eq_zero (Nat.le_zero.mp hle))

/-- A row as it is read back: padded to a width, with its cells stripped. -/
def readBack (width : Nat) : Row → Row
  | .separator => .separator
  | .data cells => .data ((padRow width "" cells).map Text.strip)

theorem rows_stripped_rectangularize (t : Table) :
    (t.rectangularize "").stripped.rows = t.rows.map (readBack t.width) := by
  rw [stripped, rectangularize, List.map_map]
  refine List.map_congr_left fun row _ => ?_
  cases row <;> rfl

/-- A row of full length whose cells are stripped is read back as it was. -/
theorem readBack_eq_self {width : Nat} {row : Row}
    (hrow : ∀ cells, row = .data cells → cells.length = width ∧
      ∀ cell ∈ cells, Text.strip cell = cell) : readBack width row = row := by
  cases row with
  | separator => rfl
  | data cells =>
      obtain ⟨hlength, hstrip⟩ := hrow cells rfl
      have hpad : padRow width "" cells = cells := by
        rw [padRow, hlength, Nat.sub_self, List.replicate_zero, List.append_nil]
      rw [readBack, hpad, List.map_congr_left hstrip, List.map_id']

/-- The line of a row in the text of a table. -/
def lineOf (t : Table) (indent : String) (row : Row) : List Char :=
  indent.toList ++ (rowLine t.columnWidths row).toList

theorem toList_format (t : Table) (indent : String) :
    (t.format indent).toList = ['\n'].intercalate (t.rows.map (lineOf t indent)) := by
  simp only [format, String.toList_intercalate, List.map_map]
  congr 1
  exact List.map_congr_left fun row _ => by simp [lineOf]

theorem lineOf_readsAs {indent : String} {row : Row}
    (hcells : ∀ cells ∈ t.dataRows, ∀ cell ∈ cells, IsField cell)
    (hwide : t.dataRows = [] ∨ ∃ cells ∈ t.dataRows, cells ≠ []) (hindent : IsIndent indent)
    (hrow : row ∈ t.rows) : ReadsAs (lineOf t indent row) (readBack t.width row) := by
  have hblank : ∀ c ∈ indent.toList, Text.isBlank c = true := fun c hc => (hindent c hc).1
  cases row with
  | separator => exact separatorLine_readsAs hblank _
  | data cells =>
      have hmem : cells ∈ t.dataRows := mem_dataRows.mpr hrow
      have hle : cells.length ≤ t.columnWidths.length := by
        rw [length_columnWidths]
        exact length_le_width hmem
      have hread := cellLine_readsAs hblank (columnWidths_ne_nil hwide hmem) hle (hcells cells hmem)
      rw [length_columnWidths] at hread
      exact hread

theorem isLineBreak_lineOf {indent : String} {row : Row}
    (hcells : ∀ cells ∈ t.dataRows, ∀ cell ∈ cells, IsField cell) (hindent : IsIndent indent)
    (hrow : row ∈ t.rows) : ∀ c ∈ lineOf t indent row, Text.isLineBreak c = false := by
  intro c hc
  rcases List.mem_append.mp hc with hc | hc
  · exact (hindent c hc).2
  · cases row with
    | separator => exact isLineBreak_separatorLine _ c hc
    | data cells => exact isLineBreak_cellLine (hcells cells (mem_dataRows.mpr hrow)) c hc

/-- A table written as text is read back with its rows made equally long and its cells stripped, if
its cells are fields and it is not made of empty rows alone.  The separators stay where they are. -/
theorem parse_format (t : Table) {indent : String}
    (hcells : ∀ cells ∈ t.dataRows, ∀ cell ∈ cells, IsField cell)
    (hwide : t.dataRows = [] ∨ ∃ cells ∈ t.dataRows, cells ≠ []) (hindent : IsIndent indent) :
    ∃ result, parse (t.format indent) = .ok result ∧
      result = (t.rectangularize "").stripped ∧
      result.rows.map Row.isSeparator = t.rows.map Row.isSeparator := by
  have hreads : ∀ row ∈ t.rows, ReadsAs (lineOf t indent row) (readBack t.width row) :=
    fun row hrow => lineOf_readsAs hcells hwide hindent hrow
  have hlines : Text.linesChars (t.format indent).toList = t.rows.map (lineOf t indent) := by
    rw [toList_format]
    -- an empty line at the end would be lost, and a line with a break inside would be cut in two
    refine Text.linesChars_intercalate (fun l hl => ?_) fun l hl => ?_
    · obtain ⟨row, hrow, rfl⟩ := List.mem_map.mp hl
      exact (hreads row hrow).ne_nil
    · obtain ⟨row, hrow, rfl⟩ := List.mem_map.mp hl
      exact isLineBreak_lineOf hcells hindent hrow
  refine ⟨_, ?_, rfl, ?_⟩
  · rw [parse, hlines, parseLines_of_readsAs (lineOf t indent) (readBack t.width) hreads,
      ← rows_stripped_rectangularize]
    rfl
  · rw [rows_stripped_rectangularize, List.map_map]
    refine List.map_congr_left fun row _ => ?_
    cases row <;> rfl

/-- A table with rows of different lengths, a cell that starts with a dash, one with wide blanks
and empty ones. -/
theorem parse_format_jagged :
    let t : Table :=
      ⟨[.separator, .data ["-a", "\u3000b "], .data [], .separator, .data ["", "x  y", "-"]]⟩
    (∀ cells ∈ t.dataRows, ∀ cell ∈ cells, IsField cell) ∧
      (t.dataRows = [] ∨ ∃ cells ∈ t.dataRows, cells ≠ []) ∧ IsIndent "\t " ∧
      parse (t.format "\t ") = .ok
        ⟨[.separator, .data ["-a", "b", ""], .data ["", "", ""], .separator,
          .data ["", "x  y", "-"]]⟩ := by
  intro t
  have hrows : t.dataRows = [["-a", "\u3000b "], [], ["", "x  y", "-"]] := rfl
  have hcells : ∀ cells ∈ t.dataRows, ∀ cell ∈ cells, IsField cell := by
    rw [hrows]
    simp [IsField, Text.isLineBreak]
  have hwide : t.dataRows = [] ∨ ∃ cells ∈ t.dataRows, cells ≠ [] := by decide
  have hindent : IsIndent "\t " := by
    simp [IsIndent, Text.isBlank, Text.isLineBreak]
  obtain ⟨result, hparse, hresult, -⟩ := parse_format t hcells hwide hindent
  have hcontent : (t.rectangularize "").stripped =
      ⟨[.separator, .data ["-a", "b", ""], .data ["", "", ""], .separator,
        .data ["", "x  y", "-"]]⟩ := by cbv
  rw [hresult, hcontent] at hparse
  exact ⟨hcells, hwide, hindent, hparse⟩

end Tables

end PipeTable.Table
