import Mathlib
import PipeTable.Proofs.Formatting
import PipeTable.Proofs.Markers

/-! # Tables of a document

The scanner goes through the lines once, with a name that waits for a table.  What it collects are
the maximal runs of table lines, each with the name of the nearest marker before it if nothing but
blank lines and lines that begin with `#+` stands between the two.  A line is in a table exactly if
it is a table line, and the table that it is in can always be read.
-/

namespace PipeTable

/-- A maximal run of numbers that satisfy a condition, from `start` up to but not including
`stop`. -/
structure IsRun (p : Nat → Prop) (start stop : Nat) : Prop where
  lt : start < stop
  inside : ∀ i, start ≤ i → i < stop → p i
  before : ∀ i, i + 1 = start → ¬ p i
  after : ¬ p stop

/-- A maximal run that starts within another one is the same run. -/
theorem IsRun.eq_of_start {p : Nat → Prop} {start stop start' stop' : Nat} (h : IsRun p start stop)
    (h' : IsRun p start' stop') (hle : start' ≤ start) (hlt : start < stop') :
    start = start' ∧ stop = stop' := by
  have hstart : start = start' := by
    by_contra hne
    exact h.before (start - 1) (by have := h.lt; omega) (h'.inside _ (by omega) (by omega))
  refine ⟨hstart, ?_⟩
  rcases Nat.lt_trichotomy stop stop' with hshort | heq | hlong
  · exact absurd (h'.inside stop (by have := h.lt; omega) hshort) h.after
  · exact heq
  · exact absurd (h.inside stop' (by omega) hlong) h'.after

namespace Document

/-! ## Kinds of lines in a row -/

/-- A line of this kind is a table line. -/
def TableAt (kinds : List LineKind) (i : Nat) : Prop := kinds[i]? = some .table

/-- The name that waits for a table after a line, given the one that waits before it. -/
def nameAfter (pending : Option String) : LineKind → Option String
  | .name name => some name
  | .neutral => pending
  | .table | .other => none

/-- The name that waits for a table after some lines. -/
def pendingAfter (kinds : List LineKind) : Option String := kinds.foldl nameAfter none

@[simp]
theorem pendingAfter_append (kinds : List LineKind) (kind : LineKind) :
    pendingAfter (kinds ++ [kind]) = nameAfter (pendingAfter kinds) kind := by
  rw [pendingAfter, List.foldl_append, ← pendingAfter, List.foldl_cons, List.foldl_nil]

/-- To show something of all lines, skip a line that is no table line or a maximal run of table
lines at a time. -/
theorem runs_induction {motive : List LineKind → Prop} (nil : motive [])
    (skip : ∀ kind more, kind ≠ .table → motive more → motive (kind :: more))
    (run : ∀ count after, after.head? ≠ some .table → motive after →
      motive (List.replicate (count + 1) .table ++ after))
    (kinds : List LineKind) : motive kinds := by
  -- while a run of table lines is open, what is wanted follows from what comes after the run
  suffices h : motive kinds ∧ ∀ count, motive (List.replicate (count + 1) .table ++ kinds) from h.1
  induction kinds with
  | nil => exact ⟨nil, fun count => run count [] (by simp) nil⟩
  | cons kind more ih =>
      by_cases hkind : kind = .table
      · subst hkind
        refine ⟨ih.2 0, fun count => ?_⟩
        have hlonger := ih.2 (count + 1)
        rwa [List.replicate_succ', List.append_assoc] at hlonger
      · have hskipped := skip kind more hkind ih.1
        exact ⟨hskipped, fun count => run count _ (by simpa using hkind) hskipped⟩

theorem spansFrom_skip {kind : LineKind} (hkind : kind ≠ .table) (number : Nat)
    (pending : Option String) (more : List LineKind) :
    spansFrom number pending none (kind :: more) =
      spansFrom (number + 1) (nameAfter pending kind) none more := by
  cases kind with
  | table => exact absurd rfl hkind
  | name => rfl
  | neutral => rfl
  | other => rfl

theorem spansFrom_opened {after : List LineKind} (hafter : after.head? ≠ some .table)
    (name : Option String) (start number count : Nat) :
    spansFrom number none (some ⟨name, start, number⟩) (List.replicate count .table ++ after) =
      ⟨name, start, number + count⟩ :: spansFrom (number + count) none none after := by
  induction count generalizing number with
  | zero =>
      cases after with
      | nil => rfl
      | cons kind more =>
          cases kind with
          | table => exact absurd rfl hafter
          | name => rfl
          | neutral => rfl
          | other => rfl
  | succ count ih =>
      rw [List.replicate_succ, List.cons_append, spansFrom, ih, Nat.add_assoc, Nat.add_comm 1]

/-- A maximal run of table lines becomes a table with the name that waits for one. -/
theorem spansFrom_run {after : List LineKind} (hafter : after.head? ≠ some .table) (number : Nat)
    (pending : Option String) (count : Nat) :
    spansFrom number pending none (List.replicate (count + 1) .table ++ after) =
      ⟨pending, number, number + (count + 1)⟩ ::
        spansFrom (number + (count + 1)) none none after := by
  rw [List.replicate_succ, List.cons_append, spansFrom, spansFrom_opened hafter, Nat.add_assoc,
    Nat.add_comm 1]

/-- Table lines with none on either side are a maximal run. -/
theorem isRun_replicate {before after : List LineKind} (hbefore : before.getLast? ≠ some .table)
    (hafter : after.head? ≠ some .table) (count : Nat) :
    IsRun (TableAt (before ++ (List.replicate (count + 1) .table ++ after))) before.length
      (before.length + (count + 1)) := by
  refine ⟨by omega, fun i hi hi' => ?_, fun i hi htable => ?_, fun htable => ?_⟩
  · rw [TableAt, List.getElem?_append_right hi, List.getElem?_append_left (by simp; omega),
      List.getElem?_replicate_of_lt (by omega)]
  · rw [TableAt, List.getElem?_append_left (by omega)] at htable
    rw [List.getLast?_eq_getElem?, ← hi, Nat.add_sub_cancel] at hbefore
    exact hbefore htable
  · rw [TableAt, List.getElem?_append_right (by omega), List.getElem?_append_right (by simp),
      List.length_replicate, Nat.add_sub_cancel_left, Nat.sub_self, ← List.head?_eq_getElem?]
      at htable
    exact hafter htable

/-- The tables that are collected are the maximal runs of table lines from here on, each with the
name that waits where it starts. -/
theorem mem_spansFrom {before rest : List LineKind} {span : Span}
    (hedge : before.getLast? ≠ some .table ∨ rest.head? ≠ some .table) :
    span ∈ spansFrom before.length (pendingAfter before) none rest ↔
      IsRun (TableAt (before ++ rest)) span.start span.stop ∧ before.length ≤ span.start ∧
        span.name = pendingAfter ((before ++ rest).take span.start) := by
  induction rest using runs_induction generalizing before with
  | nil =>
      refine iff_of_false List.not_mem_nil fun ⟨hrun, hle, _⟩ => ?_
      have htable := hrun.inside span.start le_rfl hrun.lt
      rw [TableAt, List.append_nil, List.getElem?_eq_none hle] at htable
      cases htable
  | skip kind more hkind ih =>
      have hlast : (before ++ [kind]).getLast? ≠ some .table := by simpa using hkind
      have hmore := @ih (before ++ [kind]) (.inl hlast)
      rw [List.length_append, List.length_singleton, pendingAfter_append, ← List.append_cons]
        at hmore
      rw [spansFrom_skip hkind, hmore]
      refine and_congr_right fun hrun => and_congr_left fun _ =>
        ⟨fun hle => by omega, fun hle => ?_⟩
      -- no run starts at the skipped line
      refine Nat.lt_of_le_of_ne hle fun heq => hkind ?_
      have htable := hrun.inside span.start le_rfl hrun.lt
      rw [← heq, TableAt, List.getElem?_append_right le_rfl, Nat.sub_self] at htable
      exact Option.some.inj htable
  | run count after hafter ih =>
      have hlast : before.getLast? ≠ some .table := hedge.resolve_right fun hne => hne rfl
      have hrun := isRun_replicate hlast hafter count
      have hmore := @ih (before ++ List.replicate (count + 1) .table) (.inr hafter)
      have hnone : pendingAfter (before ++ List.replicate (count + 1) .table) = none := by
        rw [List.replicate_succ', ← List.append_assoc, pendingAfter_append]
        rfl
      rw [hnone, List.length_append, List.length_replicate, List.append_assoc] at hmore
      rw [spansFrom_run hafter, List.mem_cons, hmore]
      constructor
      · rintro (rfl | ⟨hspan, hle, hname⟩)
        · exact ⟨hrun, le_rfl, by rw [List.take_left]⟩
        · exact ⟨hspan, by omega, hname⟩
      · rintro ⟨hspan, hle, hname⟩
        by_cases hlater : before.length + (count + 1) ≤ span.start
        · exact .inr ⟨hspan, hlater, hname⟩
        · obtain ⟨hstart, hstop⟩ := hspan.eq_of_start hrun hle (not_le.mp hlater)
          rw [hstart, List.take_left] at hname
          cases span
          simp only at hstart hstop hname
          rw [hstart, hstop, hname]
          exact .inl rfl

variable {d : Document}

/-- Line `i` of the document is a table line. -/
def IsTableAt (d : Document) (i : Nat) : Prop :=
  ∃ line, d.lines[i]? = some line ∧ Table.isTableLine line = true

theorem tableAt_iff {i : Nat} : TableAt (d.lines.map lineKind) i ↔ d.IsTableAt i := by
  rw [TableAt, List.getElem?_map, Option.map_eq_some_iff]
  simp only [lineKind_eq_table_iff]
  rfl

theorem mem_spans {span : Span} :
    span ∈ d.spans ↔ IsRun d.IsTableAt span.start span.stop ∧
      span.name = pendingAfter ((d.lines.map lineKind).take span.start) := by
  have htables : TableAt (d.lines.map lineKind) = d.IsTableAt := funext fun _ => propext tableAt_iff
  have hscan := @mem_spansFrom [] (d.lines.map lineKind) span (.inl (by simp))
  rw [List.nil_append, htables] at hscan
  exact hscan.trans (and_congr_right fun _ => and_iff_right (Nat.zero_le _))

/-- The lines of a span. -/
def linesOf (d : Document) (span : Span) : List (List Char) :=
  (d.lines.take span.stop).drop span.start

theorem toList_spanText (span : Span) :
    (d.spanText span).toList = ['\n'].intercalate (d.linesOf span) := by
  simp [spanText, linesOf, String.toList_intercalate, Function.comp_def]

theorem isTableLine_of_mem_linesOf {span : Span} (h : span ∈ d.spans) {line : List Char}
    (hline : line ∈ d.linesOf span) : Table.isTableLine line = true := by
  obtain ⟨i, hi⟩ := List.mem_iff_getElem?.mp hline
  rw [linesOf, List.getElem?_drop] at hi
  have hstop : span.start + i < span.stop := by
    have := (List.getElem?_eq_some_iff.mp hi).1
    rw [List.length_take] at this
    omega
  rw [List.getElem?_take_of_lt hstop] at hi
  obtain ⟨other, hother, htable⟩ :=
    (mem_spans.mp h).1.inside (span.start + i) (Nat.le_add_right _ _) hstop
  cases hi.symm.trans hother
  exact htable

/-- The row of a table line. -/
def rowOf (line : List Char) : Row :=
  if Table.isSeparatorLine line then .separator else .data (Table.splitCells line)

/-- The text of a table can be read, and every line of it becomes a row. -/
theorem parse_spanText {text : String} {span : Span} (h : span ∈ (ofText text).spans) :
    Table.parse ((ofText text).spanText span) = .ok ⟨((ofText text).linesOf span).map rowOf⟩ := by
  have hreads : ∀ line ∈ (ofText text).linesOf span, Table.ReadsAs line (rowOf line) :=
    fun line hline => Table.readsAs_of_isTableLine (isTableLine_of_mem_linesOf h hline)
  have hlines : Text.linesChars ((ofText text).spanText span).toList =
      (ofText text).linesOf span := by
    rw [toList_spanText]
    exact Text.linesChars_intercalate (fun line hline => (hreads line hline).ne_nil)
      fun line hline => Text.of_mem_linesChars (List.mem_of_mem_take (List.mem_of_mem_drop hline))
  have hparse := Table.parseLines_of_readsAs id rowOf hreads 1
  rw [List.map_id] at hparse
  rw [Table.parse, hlines, hparse]
  rfl

end Document

end PipeTable
