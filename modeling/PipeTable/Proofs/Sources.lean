import Mathlib
import PipeTable.Proofs.Requests

/-! # Sources of merged rows

The rows of a merged table and the references that they came by are listed one after the other by
two separate walks over the tables, and are put together by their places.  Both walks go through the
data rows alone, so that each row gets the reference of its own table.
-/

namespace PipeTable

open Document (sources)
open Table (padRow)

/-! ## Two walks over tables -/

variable {α : Type}

theorem zipWith_replicate_map {β γ : Type} (f : β → γ → α) (b : β) (g : List String → γ)
    (rows : List (List String)) :
    List.zipWith f (List.replicate rows.length b) (rows.map g) =
      rows.map fun row => f b (g row) := by
  induction rows with
  | nil => rfl
  | cons row rows ih =>
      rw [List.length_cons, List.replicate_succ, List.map_cons, List.zipWith_cons_cons, ih,
        List.map_cons]

/-- The references of all rows are as many as the rows, table by table, so none is shifted. -/
theorem zipWith_references (f : String → List String → α) (g : List String → List String)
    (pairs : List (String × Table)) :
    List.zipWith f (pairs.flatMap fun p => List.replicate p.2.height p.1)
        ((pairs.flatMap fun p => p.2.dataRows).map g) =
      pairs.flatMap fun p => p.2.dataRows.map fun row => f p.1 (g row) := by
  induction pairs with
  | nil => rfl
  | cons p pairs ih =>
      have hlength : (List.replicate p.2.height p.1).length = (p.2.dataRows.map g).length := by
        rw [List.length_replicate, List.length_map, Table.height]
      rw [List.flatMap_cons, List.flatMap_cons, List.flatMap_cons, List.map_append,
        List.zipWith_append hlength, ih, Table.height, zipWith_replicate_map]

/-- The rows of all tables, paired with the references that they are asked for by. -/
theorem flatMap_dataRows_zip {references : List String} {tables : List Table}
    (h : tables.length ≤ references.length) :
    tables.flatMap Table.dataRows = (references.zip tables).flatMap fun p => p.2.dataRows := by
  rw [← List.flatMap_map Prod.snd Table.dataRows, List.map_snd_zip h]

namespace Placement

@[simp]
theorem length_apply (p : Placement) (reference : String) (row : List String) :
    (p.apply reference row).length = row.length + if p = .none then 0 else 1 := by
  cases p <;> simp [apply]

end Placement

namespace Document

/-- The length of the longest data row of all tables. -/
def widest (tables : List Table) : Nat :=
  ((tables.flatMap Table.dataRows).map List.length).foldl max 0

theorem length_le_widest {tables : List Table} {t : Table} {row : List String} (ht : t ∈ tables)
    (hrow : row ∈ t.dataRows) : row.length ≤ widest tables :=
  le_foldl_max (.inr (List.mem_map_of_mem (List.mem_flatMap.mpr ⟨t, ht, hrow⟩)))

theorem widest_le {tables : List Table} {width : Nat}
    (h : ∀ t ∈ tables, ∀ row ∈ t.dataRows, row.length ≤ width) : widest tables ≤ width := by
  refine foldl_max_le (Nat.zero_le _) fun length hlength => ?_
  obtain ⟨row, hrow, rfl⟩ := List.mem_map.mp hlength
  obtain ⟨t, ht, hrow⟩ := List.mem_flatMap.mp hrow
  exact h t ht row hrow

/-- The rows that merging tables gives: one for each data row, padded, and with its reference. -/
def mergedRows (references : List String) (tables : List Table) (placement : Placement)
    (padding : String) : List (List String) :=
  (references.zip tables).flatMap fun p =>
    p.2.dataRows.map fun row => placement.apply p.1 (padRow (widest tables) padding row)

variable {d : Document} {references : List String} {tables : List Table}

theorem merge_eq (hne : tables ≠ []) (htables : references.mapM d.fetchTable = .ok tables)
    (hlength : tables.length = references.length) (placement : Placement) (padding : String) :
    d.merge references placement padding =
      .ok (.ofCells (mergedRows references tables placement padding)) := by
  let stacked := ((references.zip tables).flatMap fun p => p.2.dataRows).map
    (padRow (widest tables) padding)
  have hstacked : Table.concatVertical tables padding = .ok (.ofCells stacked) := by
    rw [Table.concatVertical_eq hne, Table.stacked]
    simp only [stacked, widest, flatMap_dataRows_zip hlength.le]
  rw [merge, htables]
  change (Table.concatVertical tables padding >>= _) = _
  rw [hstacked]
  cases placement with
  | none =>
      exact congrArg (fun rows => Except.ok (Table.ofCells rows)) List.map_flatMap
  | first | last =>
      change Except.ok (Table.ofCells (List.zipWith _ (sources references tables)
        (Table.ofCells stacked).dataRows)) = _
      rw [Table.dataRows_ofCells, mergedRows, ← zipWith_references]
      rfl

/-- All merged rows are as long as the longest, and one cell longer with their references. -/
theorem length_of_mem_mergedRows {placement : Placement} {padding : String} {row : List String}
    (h : row ∈ mergedRows references tables placement padding) :
    row.length = widest tables + if placement = .none then 0 else 1 := by
  obtain ⟨⟨reference, t⟩, hp, hrow⟩ := List.mem_flatMap.mp h
  obtain ⟨cells, hcells, rfl⟩ := List.mem_map.mp hrow
  rw [placement.length_apply, Table.length_padRow]
  exact length_le_widest (List.of_mem_zip hp).2 hcells

/-- A reference for which there is a table gets it. -/
theorem exists_fetchTable {text reference : String} {span : Span}
    (h : (ofText text).findSpan reference = .ok span) :
    ∃ t, (ofText text).fetchTable reference = .ok t := by
  have hreadable : ¬ IsUnreadable reference := by
    rintro ⟨digits, hdigits, hread⟩
    simp only [findSpan, hdigits, hread] at h
    cases h
  have hspan := (findSpan_gives (ofText text) hreadable).of_ok h
  rw [fetchTable, tableText, h]
  exact ⟨_, parse_spanText hspan⟩

/-- The rows of merged tables are those of the tables, in the order of the references and then of
the rows: each is padded to the longest row of all tables and has the reference that its table was
asked for by, unless no place is asked for. -/
theorem merge_rows (text : String) {references : List String} (hne : references ≠ [])
    (hfound : ∀ reference ∈ references, ∃ span, (ofText text).findSpan reference = .ok span)
    (padding : String) :
    ∃ tables width, references.map (ofText text).fetchTable = tables.map .ok ∧
      (∀ t ∈ tables, ∀ row ∈ t.dataRows, row.length ≤ width) ∧
      (∀ bound, (∀ t ∈ tables, ∀ row ∈ t.dataRows, row.length ≤ bound) → width ≤ bound) ∧
      ∀ placement,
        let rows := (references.zip tables).flatMap fun p =>
          p.2.dataRows.map fun row => placement.apply p.1 (padRow width padding row)
        (ofText text).merge references placement padding = .ok (.ofCells rows) ∧
          ∀ row ∈ rows, row.length = width + if placement = .none then 0 else 1 := by
  have hfetched : ∀ reference ∈ references, ∃ t, (ofText text).fetchTable reference = .ok t :=
    fun reference hreference => exists_fetchTable (hfound reference hreference).choose_spec
  choose! table htable using hfetched
  refine ⟨references.map table, widest (references.map table), ?_, fun t ht row hrow =>
    length_le_widest ht hrow, fun bound hbound => widest_le hbound, fun placement => ?_⟩
  · rw [List.map_map]
    exact List.map_congr_left htable
  · have htables := Outcome.mapM_eq_ok htable
    exact ⟨merge_eq (by simpa using hne) htables (List.length_map _) placement padding,
      fun row hrow => length_of_mem_mergedRows hrow⟩

/-- A short table, a wide one and the short one once more. -/
theorem merge_rows_repeated :
    let d := ofText "#+NAME: t\n| a |\n|---|\n| b |\n\n#+NAME: u\n| c | d |\n"
    (["t", "u", "$1"] : List String) ≠ [] ∧
      (∀ reference ∈ ["t", "u", "$1"], ∃ span, d.findSpan reference = .ok span) ∧
      d.merge ["t", "u", "$1"] .last "-" = .ok (.ofCells [["a", "-", "t"], ["b", "-", "t"],
        ["c", "d", "u"], ["a", "-", "$1"], ["b", "-", "$1"]]) := by
  intro d
  have hne : (["t", "u", "$1"] : List String) ≠ [] := by decide
  have hfound : ∀ reference ∈ ["t", "u", "$1"], ∃ span, d.findSpan reference = .ok span := by
    simp only [List.forall_mem_cons]
    exact ⟨⟨_, rfl⟩, ⟨_, rfl⟩, ⟨_, rfl⟩, List.forall_mem_nil _⟩
  let short : Table := ⟨[.data ["a"], .separator, .data ["b"]]⟩
  let wide : Table := ⟨[.data ["c", "d"]]⟩
  have ht : d.fetchTable "t" = .ok short := by cbv
  have hu : d.fetchTable "u" = .ok wide := by cbv
  have hfirst : d.fetchTable "$1" = .ok short := by cbv
  have hfetched : ["t", "u", "$1"].map d.fetchTable = [short, wide, short].map .ok := by
    simp only [List.map_cons, List.map_nil, ht, hu, hfirst]
  obtain ⟨tables, width, htables, hle, hleast, hmerge⟩ := merge_rows _ hne hfound "-"
  obtain rfl : tables = [short, wide, short] :=
    List.map_injective_iff.mpr (fun _ _ => Except.ok.inj) (htables.symm.trans hfetched)
  obtain rfl : width = 2 :=
    le_antisymm (hleast 2 (by decide)) (hle wide (by decide) ["c", "d"] (by decide))
  exact ⟨hne, hfound, (hmerge .last).1⟩

end Document

end PipeTable
