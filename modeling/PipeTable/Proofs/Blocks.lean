import Mathlib
import PipeTable.Proofs.Spans

/-! # Documents put together of named tables

A document is written block by block: a marker with a name, the lines of a table and an empty line.
The scanner passes over one block at a time, so that the tables found are those that were written,
in the same order and each with the name of its own marker.  By its name or by its position every
table is read back as it was.
-/

namespace PipeTable.Document

/-- A table and the name that it is written under. -/
structure Block where
  name : String
  table : Table
  name_ne : name ≠ ""
  strip_name : Text.strip name = name
  name_line : ∀ c ∈ name.toList, Text.isLineBreak c = false
  /-- The name is not a position.  All digits count here, raised and circled ones too. -/
  name_plain : ∀ digits, name.toList = '$' :: digits → digits ≠ [] →
    ∃ c ∈ digits, Text.isDigit c = false
  rows_ne : table.rows ≠ []
  rectangular : table.Rectangular
  filled : ∀ cells ∈ table.dataRows, cells ≠ []
  fields : ∀ cells ∈ table.dataRows, ∀ cell ∈ cells, Table.IsField cell
  strip_cell : ∀ cells ∈ table.dataRows, ∀ cell ∈ cells, Text.strip cell = cell

/-- The text of a block: a marker, the lines of the table and an empty line. -/
def Block.text (b : Block) : String :=
  "#+NAME: " ++ b.name ++ "\n" ++ b.table.format "" ++ "\n\n"

/-- The text of blocks one after the other. -/
def textOf (blocks : List Block) : String := String.join (blocks.map Block.text)

/-! ## Lines of blocks -/

namespace Block

variable (b : Block)

/-- The marker of a block. -/
def marker : List Char := "#+NAME: ".toList ++ b.name.toList

/-- The lines of the table of a block. -/
def tableLines : List (List Char) := b.table.rows.map (Table.lineOf b.table "")

/-- The lines of a block. -/
def lines : List (List Char) := b.marker :: (b.tableLines ++ [[]])

theorem marks_marker : Marks b.marker b.name := by
  -- for any name, so that its characters are not compared with those of the opening
  have hmarker : ∀ name : List Char,
      "#+NAME: ".toList ++ name = [] ++ ("#+NAME:".toList ++ ([' '] ++ name ++ [])) := by
    have hopening : "#+NAME: ".toList = "#+NAME:".toList ++ [' '] := by decide
    intro name
    rw [hopening, List.append_nil, List.append_assoc, List.nil_append]
  have hgap : ∀ c ∈ [' '], Text.isBlank c = true := by
    intro c hc
    rw [List.mem_singleton.mp hc]
    decide
  exact ⟨[], _, [' '], [], hmarker _, .inl (by decide), List.forall_mem_nil _, hgap,
    List.forall_mem_nil _, b.name_ne, b.strip_name⟩

theorem isLineBreak_marker : ∀ c ∈ b.marker, Text.isLineBreak c = false := by
  have hopening : ("#+NAME: ".toList.all fun c => !Text.isLineBreak c) = true := by decide
  intro c hc
  rcases List.mem_append.mp hc with hc | hc
  · simpa using List.all_eq_true.mp hopening c hc
  · exact b.name_line c hc

theorem readsAs_lineOf {row : Row} (h : row ∈ b.table.rows) :
    Table.ReadsAs (Table.lineOf b.table "" row) (Table.readBack b.table.width row) := by
  refine Table.lineOf_readsAs b.fields ?_ nofun h
  cases hrows : b.table.dataRows with
  | nil => exact .inl rfl
  | cons cells more =>
      exact .inr ⟨cells, List.mem_cons_self, b.filled cells (hrows ▸ List.mem_cons_self)⟩

theorem map_rowOf_tableLines : b.tableLines.map rowOf = b.table.rows := by
  rw [tableLines, List.map_map]
  conv_rhs => rw [← List.map_id b.table.rows]
  refine List.map_congr_left fun row hrow => ?_
  refine (b.readsAs_lineOf hrow).row_eq.trans (Table.readBack_eq_self fun cells hcells => ?_)
  have hmem : cells ∈ b.table.dataRows := Table.mem_dataRows.mpr (hcells ▸ hrow)
  exact ⟨b.rectangular.length_eq_width hmem, b.strip_cell cells hmem⟩

/-- What comes after a block starts on a line of its own. -/
theorem linesChars_text (rest : List Char) :
    Text.linesChars (b.text.toList ++ rest) = b.lines ++ Text.linesChars rest := by
  have htext : b.text.toList ++ rest =
      b.marker ++ '\n' :: (['\n'].intercalate b.tableLines ++ '\n' :: ([] ++ '\n' :: rest)) := by
    simp only [text, String.toList_append, Table.toList_format, List.append_assoc]
    rfl
  have hne : b.tableLines ≠ [] := by simpa [tableLines] using b.rows_ne
  have hbreak : ∀ line ∈ b.tableLines, ∀ c ∈ line, Text.isLineBreak c = false := by
    intro line hline
    obtain ⟨row, hrow, rfl⟩ := List.mem_map.mp hline
    exact Table.isLineBreak_lineOf b.fields nofun hrow
  rw [htext, Text.linesChars_append b.isLineBreak_marker, Text.linesChars_append_lines hne hbreak,
    Text.linesChars_append (List.forall_mem_nil _), lines, List.cons_append, List.append_assoc,
    List.singleton_append]

theorem map_lineKind_lines :
    b.lines.map lineKind =
      .name b.name :: (List.replicate b.table.rows.length .table ++ [.neutral]) := by
  have htables : b.tableLines.map lineKind = List.replicate b.table.rows.length .table := by
    refine List.eq_replicate_iff.mpr ⟨by simp [tableLines], fun kind hkind => ?_⟩
    obtain ⟨line, hline, rfl⟩ := List.mem_map.mp hkind
    obtain ⟨row, hrow, rfl⟩ := List.mem_map.mp hline
    exact lineKind_eq_table_iff.mpr (b.readsAs_lineOf hrow).isTable
  rw [lines, List.map_cons, List.map_append, htables, lineKind_eq_name_iff.mpr b.marks_marker]
  rfl

end Block

theorem linesChars_textOf (blocks : List Block) :
    Text.linesChars (textOf blocks).toList = blocks.flatMap Block.lines := by
  induction blocks with
  | nil => rfl
  | cons b more ih =>
      have htext : (textOf (b :: more)).toList = b.text.toList ++ (textOf more).toList := by
        simp [textOf]
      rw [htext, b.linesChars_text, ih, List.flatMap_cons]

/-! ## Tables of blocks -/

/-- A table of the document has the name and the lines of a block. -/
structure Stands (d : Document) (b : Block) (span : Span) : Prop where
  name_eq : span.name = some b.name
  lines_eq : d.linesOf span = b.tableLines

theorem stands_behind_marker (before after : List (List Char)) (b : Block) :
    Stands ⟨before ++ (b.lines ++ after)⟩ b
      ⟨some b.name, before.length + 1, before.length + 1 + b.table.rows.length⟩ := by
  have hlines : before ++ (b.lines ++ after) =
      (before ++ [b.marker]) ++ (b.tableLines ++ ([] :: after)) := by
    simp only [Block.lines, List.append_assoc, List.cons_append, List.nil_append]
  have hstart : (before ++ [b.marker]).length = before.length + 1 := by simp
  have hcount : b.tableLines.length = b.table.rows.length := List.length_map _
  refine ⟨rfl, ?_⟩
  rw [linesOf, List.drop_take, hlines, List.drop_left' hstart, Nat.add_sub_cancel_left,
    List.take_left' hcount]

/-- Scanning the lines of a block finds its table, and no name is left to wait for the next one. -/
theorem spansFrom_block (b : Block) (number : Nat) (rest : List LineKind) :
    spansFrom number none none (b.lines.map lineKind ++ rest) =
      ⟨some b.name, number + 1, number + 1 + b.table.rows.length⟩ ::
        spansFrom (number + b.lines.length) none none rest := by
  obtain ⟨count, hcount⟩ :=
    Nat.exists_eq_succ_of_ne_zero (mt List.length_eq_zero_iff.mp b.rows_ne)
  have hnext : number + b.lines.length = number + 1 + (count + 1) + 1 := by
    simp only [Block.lines, Block.tableLines, List.length_append, List.length_cons,
      List.length_map, List.length_nil]
    omega
  rw [b.map_lineKind_lines, hnext, hcount, List.cons_append, List.append_assoc,
    List.singleton_append, spansFrom_skip (by simp), spansFrom_run (by simp),
    spansFrom_skip (by simp)]
  rfl

/-- The tables found from some line on are those of the blocks that stand there. -/
theorem stands_spansFrom (before : List (List Char)) (blocks : List Block) :
    List.Forall₂ (Stands ⟨before ++ blocks.flatMap Block.lines⟩) blocks
      (spansFrom before.length none none ((blocks.flatMap Block.lines).map lineKind)) := by
  induction blocks generalizing before with
  | nil => exact .nil
  | cons b more ih =>
      have hmore := ih (before ++ b.lines)
      rw [List.length_append, List.append_assoc] at hmore
      rw [List.flatMap_cons, List.map_append, spansFrom_block]
      exact .cons (stands_behind_marker before _ b) hmore

theorem stands_spans (blocks : List Block) :
    List.Forall₂ (Stands (ofText (textOf blocks))) blocks (ofText (textOf blocks)).spans := by
  have hlines : ofText (textOf blocks) = ⟨blocks.flatMap Block.lines⟩ := by
    rw [ofText, linesChars_textOf]
  rw [hlines]
  exact stands_spansFrom [] blocks

variable {blocks : List Block} {spans : List Span} {d : Document} {b : Block}

theorem filterMap_name_of_stands (h : List.Forall₂ (Stands d) blocks spans) :
    spans.filterMap Span.name = blocks.map Block.name := by
  induction h with
  | nil => rfl
  | cons hstands _ ih => rw [List.filterMap_cons_some hstands.name_eq, ih, List.map_cons]

theorem find?_name_of_stands (h : List.Forall₂ (Stands d) blocks spans)
    (hnodup : (blocks.map Block.name).Nodup) (hb : b ∈ blocks) :
    ∃ span, spans.find? (fun span => span.name = some b.name) = some span ∧ Stands d b span := by
  induction h with
  | nil => cases hb
  | @cons first span blocks spans hstands _ ih =>
      obtain ⟨hnot, hnodup⟩ := List.nodup_cons.mp hnodup
      rcases List.mem_cons.mp hb with rfl | hb
      · exact ⟨span, List.find?_cons_of_pos (by simp [hstands.name_eq]), hstands⟩
      · have hother : first.name ≠ b.name := fun heq => hnot (heq ▸ List.mem_map_of_mem hb)
        rw [List.find?_cons_of_neg (by simp [hstands.name_eq, hother])]
        exact ih hnodup hb

theorem getElem?_of_stands (h : List.Forall₂ (Stands d) blocks spans) {i : Nat}
    (hb : blocks[i]? = some b) : ∃ span, spans[i]? = some span ∧ Stands d b span := by
  induction h generalizing i with
  | nil => cases hb
  | @cons first span blocks spans hstands _ ih =>
      cases i with
      | zero =>
          cases hb
          exact ⟨span, rfl, hstands⟩
      | succ i => exact ih hb

theorem fetchTable_of_stands {text reference : String} {span : Span}
    (hfind : (ofText text).findSpan reference = .ok span) (hspan : span ∈ (ofText text).spans)
    (h : Stands (ofText text) b span) : (ofText text).fetchTable reference = .ok b.table := by
  rw [fetchTable, tableText, hfind]
  change Table.parse ((ofText text).spanText span) = _
  rw [parse_spanText hspan, h.lines_eq, b.map_rowOf_tableLines]

/-! ## References -/

/-- A name that is not a position is looked up as it is. -/
theorem findSpan_name {span : Span}
    (hspan : d.spans.find? (fun span => span.name = some b.name) = some span) :
    d.findSpan b.name = .ok span := by
  have hposition : position? b.name.toList = none := by
    unfold position?
    split
    next digits hname =>
      refine if_neg fun hdigits => ?_
      rw [Bool.and_eq_true, Bool.not_eq_true', List.isEmpty_eq_false_iff] at hdigits
      obtain ⟨c, hc, hplain⟩ := b.name_plain digits hname hdigits.1
      rw [List.all_eq_true.mp hdigits.2 c hc] at hplain
      cases hplain
    next => rfl
  simp only [findSpan, b.strip_name, hposition, hspan]

section Digits

variable {digits : List Char} (hdigits : ∀ c ∈ digits, c.isDigit = true)
include hdigits

theorem stripChars_position : Text.stripChars ('$' :: digits) = '$' :: digits := by
  have hblank : ∀ c ∈ '$' :: digits, Text.isBlank c = false := by
    intro c hc
    rcases List.mem_cons.mp hc with rfl | hc
    · decide
    · exact (Text.of_isDigit (hdigits c hc)).2.2.2
  exact Text.dropBothEnds_of_none hblank

theorem position?_of_digits (hne : digits ≠ []) : position? ('$' :: digits) = some digits := by
  rw [position?, if_pos]
  rw [Bool.and_eq_true, List.all_eq_true]
  exact ⟨by simpa using hne, fun c hc => Text.isDigit_of_isDigit (hdigits c hc)⟩

end Digits

theorem findSpan_position {i : Nat} (hi : Text.isWritable (i + 1 : Nat) = true) {span : Span}
    (hspan : d.spans[i]? = some span) :
    d.findSpan ("$" ++ Text.writeInteger (i + 1 : Nat)) = .ok span := by
  have hdigits : ∀ c ∈ Nat.toDigits 10 (i + 1), c.isDigit = true := Text.isDigit_of_mem_toDigits
  have hreference : ("$" ++ Text.writeInteger (i + 1 : Nat)).toList =
      '$' :: Nat.toDigits 10 (i + 1) := by
    rw [String.toList_append, Text.toList_writeInteger]
    rfl
  have hnth : Table.nth? d.spans (i + 1 : Nat) = some span :=
    (Table.nth?_succ d.spans i).trans hspan
  simp only [findSpan, Text.toList_strip, hreference, stripChars_position hdigits,
    position?_of_digits hdigits (by simp), Text.readIntegerChars?_toDigits hi, hnth]

/-- Blocks with different names are found in a document that is written block by block: their names
in order, and the table of each by its name and by its position.  A position is written in decimal
form, which numbers of too many digits do not have. -/
theorem tables_of_blocks (blocks : List Block) (h : (blocks.map Block.name).Nodup) :
    (ofText (textOf blocks)).names = blocks.map Block.name ∧
    ∀ i b, blocks[i]? = some b →
      (ofText (textOf blocks)).fetchTable b.name = .ok b.table ∧
      (Text.isWritable (i + 1 : Nat) = true →
        (ofText (textOf blocks)).fetchTable ("$" ++ Text.writeInteger (i + 1 : Nat)) =
          .ok b.table) := by
  have hstands := stands_spans blocks
  refine ⟨filterMap_name_of_stands hstands, fun i b hb => ⟨?_, fun hi => ?_⟩⟩
  · obtain ⟨span, hspan, hfound⟩ := find?_name_of_stands hstands h (List.mem_of_getElem? hb)
    exact fetchTable_of_stands (findSpan_name hspan) (List.mem_of_find?_eq_some hspan) hfound
  · obtain ⟨span, hspan, hfound⟩ := getElem?_of_stands hstands hb
    exact fetchTable_of_stands (findSpan_position hi hspan) (List.mem_of_getElem? hspan) hfound

/-- A table with a cell that is a dash and an empty one, and a separator alone under a name that
begins like a position. -/
theorem tables_of_two_blocks :
    let first : Table := ⟨[.data ["-", ""], .separator, .data ["x  y", "+"]]⟩
    ∃ blocks : List Block, (blocks.map Block.name).Nodup ∧
      textOf blocks =
        "#+NAME: a: b\n| -    |   |\n|------+---|\n| x  y | + |\n\n#+NAME: $\n|-|\n\n" ∧
      (ofText (textOf blocks)).names = ["a: b", "$"] ∧
      (ofText (textOf blocks)).fetchTable "a: b" = .ok first ∧
      Text.isWritable 2 = true ∧
      (ofText (textOf blocks)).fetchTable "$2" = .ok ⟨[.separator]⟩ := by
  intro first
  have hfields : ∀ cells ∈ first.dataRows, ∀ cell ∈ cells, Table.IsField cell := by
    have hrows : first.dataRows = [["-", ""], ["x  y", "+"]] := rfl
    rw [hrows]
    simp [Table.IsField, Text.isLineBreak]
  let a : Block := ⟨"a: b", first, by decide, by cbv, by simp [Text.isLineBreak], by simp,
    by decide, by decide, by decide, hfields, by decide⟩
  let b : Block := ⟨"$", ⟨[.separator]⟩, by decide, by cbv, by simp [Text.isLineBreak],
    by simp, by decide, by decide, by decide, List.forall_mem_nil _, List.forall_mem_nil _⟩
  have hnodup : ([a, b].map Block.name).Nodup := by
    change ["a: b", "$"].Nodup
    decide
  have hwritable : Text.isWritable 2 = true := Text.isWritable_of_le (by decide)
  obtain ⟨hnames, htables⟩ := tables_of_blocks [a, b] hnodup
  exact ⟨[a, b], hnodup, by cbv, hnames, (htables 0 a rfl).1, hwritable,
    (htables 1 b rfl).2 hwritable⟩

end PipeTable.Document
