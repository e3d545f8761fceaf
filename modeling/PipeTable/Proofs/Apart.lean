import Mathlib
import PipeTable.Proofs.Heights

/-! # Groups kept apart

Narrowing with separators makes the same groups of rows as narrowing without, and puts one more
separator after every group of several rows, but not at the end and not before a separator.  So two
separators stand side by side, and one stands at the end, only where it was so before.
-/

namespace PipeTable.Table

/-! ## Where separators stand -/

section Positions

variable {rows : List Row} {groups : List (List (List String))}

theorem eq_append_of_data {group : List (List String)} {right before after : List Row}
    (h : group.map Row.data ++ right = before ++ .separator :: after) :
    ∃ before', before = group.map .data ++ before' ∧ right = before' ++ .separator :: after := by
  induction group generalizing before with
  | nil => exact ⟨before, rfl, h⟩
  | cons cells group ih =>
      cases before with
      | nil => cases h
      | cons row before =>
          obtain ⟨hrow, hrest⟩ := List.cons.inj h
          obtain ⟨before', rfl, hright⟩ := ih hrest
          exact ⟨before', by rw [← hrow]; rfl, hright⟩

theorem eq_append_of_last {left right before : List Row} {row : Row} (hne : right ≠ [])
    (h : left ++ right = before ++ [row]) :
    ∃ before', before = left ++ before' ∧ right = before' ++ [row] := by
  rcases List.eq_nil_or_concat right with rfl | ⟨before', last, rfl⟩
  · exact absurd rfl hne
  · rw [List.concat_eq_append, ← List.append_assoc] at h
    obtain ⟨hbefore, hlast⟩ := List.append_inj' h rfl
    exact ⟨before', hbefore.symm, by rw [List.concat_eq_append, hlast]⟩

theorem groupEnd_cases (separators : Bool) (group : List (List String)) (rest : List Row) :
    groupEnd separators group rest = [] ∨
      groupEnd separators group rest = [.separator] ∧ ∃ next more, rest = .data next :: more := by
  unfold groupEnd
  split
  next next more =>
    split
    · exact .inr ⟨rfl, next, more, rfl⟩
    · exact .inl rfl
  · exact .inl rfl

/-- The first row becomes a block of its own, and the other rows what they would become without
it. -/
theorem exists_keepApart_cons {row : Row} (hne : ∀ group ∈ groups, group ≠ [])
    (hlength : ((row :: rows).filterMap Row.cells?).length = groups.length) :
    ∃ block groups', keepApart (row :: rows) (blocks (row :: rows) groups) =
        block :: keepApart rows (blocks rows groups') ∧
      (∀ group ∈ groups', group ≠ []) ∧ (rows.filterMap Row.cells?).length = groups'.length := by
  cases row with
  | separator => exact ⟨_, groups, keepApart_separator rows groups, hne, hlength⟩
  | data cells =>
      cases groups with
      | nil => cases hlength
      | cons group groups =>
          exact ⟨_, groups, keepApart_data cells group rows groups, (List.forall_mem_cons.mp hne).2,
            Nat.succ.inj hlength⟩

variable (hne : ∀ group ∈ groups, group ≠ [])
include hne

/-- Only a separator becomes something that starts with one. -/
theorem head_of_keepApart {after : List Row}
    (h : (keepApart rows (blocks rows groups)).flatten = .separator :: after) :
    rows[0]? = some .separator := by
  cases rows with
  | nil => cases h
  | cons row rows =>
      cases row with
      | separator => rfl
      | data cells =>
          cases groups with
          | nil => cases h
          | cons group groups =>
              obtain ⟨first, below, rfl⟩ :=
                List.exists_cons_of_ne_nil (hne group List.mem_cons_self)
              rw [keepApart_data] at h
              cases h

/-- Two separators side by side stand where they stood before. -/
theorem exists_of_doubled {before after : List Row}
    (h : (keepApart rows (blocks rows groups)).flatten =
      before ++ .separator :: .separator :: after) :
    ∃ i, rows[i]? = some .separator ∧ rows[i + 1]? = some .separator ∧
      before = ((keepApart rows (blocks rows groups)).take i).flatten := by
  induction rows generalizing groups before with
  | nil => cases before <;> cases h
  | cons row rows ih =>
      cases row with
      | separator =>
          rw [keepApart_separator, List.flatten_cons, List.singleton_append] at h
          cases before with
          | nil => exact ⟨0, rfl, head_of_keepApart hne (List.cons.inj h).2, rfl⟩
          | cons first before =>
              obtain ⟨rfl, hrest⟩ := List.cons.inj h
              obtain ⟨i, hfirst, hsecond, rfl⟩ := ih hne hrest
              exact ⟨i + 1, hfirst, hsecond, by rw [keepApart_separator]; rfl⟩
      | data cells =>
          cases groups with
          | nil => cases before <;> cases h
          | cons group groups =>
              have hne' := (List.forall_mem_cons.mp hne).2
              rw [keepApart_data, List.flatten_cons, List.append_assoc] at h
              obtain ⟨before, rfl, hright⟩ := eq_append_of_data h
              suffices hend : ∃ i, rows[i]? = some .separator ∧ rows[i + 1]? = some .separator ∧
                  before = groupEnd true group rows ++
                    ((keepApart rows (blocks rows groups)).take i).flatten by
                obtain ⟨i, hfirst, hsecond, rfl⟩ := hend
                exact ⟨i + 1, hfirst, hsecond, by
                  rw [keepApart_data, List.take_succ_cons, List.flatten_cons, List.append_assoc]⟩
              rcases groupEnd_cases true group rows with hend | ⟨hend, next, more, rfl⟩ <;>
                rw [hend] at hright ⊢
              · exact ih hne' hright
              · -- a data row comes next, so what comes of it does not start with a separator
                cases before with
                | nil => cases head_of_keepApart hne' (List.cons.inj hright).2
                | cons first before =>
                    obtain ⟨rfl, hrest⟩ := List.cons.inj hright
                    obtain ⟨i, hfirst, hsecond, rfl⟩ := ih hne' hrest
                    exact ⟨i, hfirst, hsecond, rfl⟩

variable (hlength : (rows.filterMap Row.cells?).length = groups.length)
include hlength

theorem flatten_keepApart_ne_nil (hrows : rows ≠ []) :
    (keepApart rows (blocks rows groups)).flatten ≠ [] := by
  obtain ⟨row, rows, rfl⟩ := List.exists_cons_of_ne_nil hrows
  cases row with
  | separator => simp [keepApart_separator]
  | data cells =>
      cases groups with
      | nil => cases hlength
      | cons group groups => simp [keepApart_data, hne group List.mem_cons_self]

/-- A separator at the end stands where one stood before. -/
theorem exists_of_last {before : List Row}
    (h : (keepApart rows (blocks rows groups)).flatten = before ++ [.separator]) :
    ∃ i, i + 1 = rows.length ∧ rows[i]? = some .separator ∧
      before = ((keepApart rows (blocks rows groups)).take i).flatten := by
  induction rows generalizing groups before with
  | nil => cases before <;> cases h
  | cons row rows ih =>
      rcases eq_or_ne rows [] with rfl | hrows
      · cases row with
        | separator =>
            rw [keepApart_separator] at h
            have hbefore : [] = before := (List.append_inj' (show [] ++ [_] = before ++ [_] from h)
              rfl).1
            exact ⟨0, rfl, rfl, hbefore.symm⟩
        | data cells =>
            -- nothing follows the group, so it ends with a data row
            cases groups with
            | nil => cases hlength
            | cons group groups =>
                rw [keepApart_data, List.flatten_cons, List.append_assoc] at h
                obtain ⟨before', -, hright⟩ := eq_append_of_data h
                cases before' <;> cases hright
      · obtain ⟨block, groups', hcons, hne', hlength'⟩ := exists_keepApart_cons hne hlength
        rw [hcons, List.flatten_cons] at h
        obtain ⟨before', rfl, hright⟩ :=
          eq_append_of_last (flatten_keepApart_ne_nil hne' hlength' hrows) h
        obtain ⟨i, hi, hlast, rfl⟩ := ih hne' hlength' hright
        exact ⟨i + 1, congrArg (· + 1) hi, hlast, by rw [hcons]; rfl⟩

end Positions

/-! ## Narrowing with separators -/

/-- A way to lay out rows makes the same groups of the data rows with and without separators.  With
them, one separator more follows every group of several rows that stands neither at the end nor
before a separator, so that two stand side by side, or one at the end, only where it was so
before. -/
structure KeptApart (rows : List Row) (groups : List (List (List String)))
    (layout : Bool → Except Error Table) : Prop where
  plain : layout false = .ok ⟨(blocks rows groups).flatten⟩
  apart : layout true = .ok ⟨(keepApart rows (blocks rows groups)).flatten⟩
  doubled : ∀ before after, (keepApart rows (blocks rows groups)).flatten =
    before ++ .separator :: .separator :: after →
      ∃ i, rows[i]? = some .separator ∧ rows[i + 1]? = some .separator ∧
        before = ((keepApart rows (blocks rows groups)).take i).flatten
  last : ∀ before, (keepApart rows (blocks rows groups)).flatten = before ++ [.separator] →
    ∃ i, i + 1 = rows.length ∧ rows[i]? = some .separator ∧
      before = ((keepApart rows (blocks rows groups)).take i).flatten

theorem keptApart_of_laid {t : Table} {groups : List (List (List String))}
    {layout : Bool → Except Error Table} (hspells : List.Forall₂ Spells t.dataRows groups)
    (h : ∀ separators, layout separators = .ok ⟨laid separators t.rows groups⟩) :
    KeptApart t.rows groups layout := by
  have hne : ∀ group ∈ groups, group ≠ [] := fun group hgroup => by
    obtain ⟨i, hi, rfl⟩ := List.mem_iff_getElem.mp hgroup
    exact (hspells.get (hspells.length_eq ▸ hi) hi).nonempty
  exact ⟨by rw [h, flatten_blocks]; rfl, h true, fun _ _ => exists_of_doubled hne,
    fun _ => exists_of_last hne hspells.length_eq⟩

theorem expandRows_eq_laid (separators : Bool) (f : List String → List (List String))
    (rows : List Row) : expandRows separators (fun cells => .ok (f cells)) rows =
      .ok (laid separators rows ((rows.filterMap Row.cells?).map f)) := by
  induction rows with
  | nil => cases separators <;> rfl
  | cons row rows ih =>
      cases row with
      | separator =>
          rw [expandRows, ih]
          exact congrArg Except.ok (laid_separator separators rows _).symm
      | data cells =>
          rw [expandRows, ih]
          exact congrArg Except.ok (laid_data separators cells (f cells) rows _).symm

/-- Rows without cells cannot be laid out if any of them is planned on several lines. -/
theorem layRows_no_cells (separators : Bool) (widths : List Int) {rows : List Row}
    {counts : List Int} (hcells : ∀ cells ∈ rows.filterMap Row.cells?, cells = [])
    (hlength : counts.length = (rows.filterMap Row.cells?).length)
    (hseveral : ∃ lines ∈ counts, 2 ≤ lines) :
    layRows separators widths counts rows = .error (.fault .badValue) := by
  induction rows generalizing counts with
  | nil =>
      obtain rfl := List.length_eq_zero_iff.mp hlength
      simp at hseveral
  | cons row rows ih =>
      cases row with
      | separator =>
          rw [layRows, ih hcells hlength hseveral]
          rfl
      | data cells =>
          obtain ⟨rfl, hmore⟩ := List.forall_mem_cons.mp hcells
          cases counts with
          | nil => cases hlength
          | cons count counts =>
              by_cases hcount : 2 ≤ count
              · rw [layRows, planGroup_no_cells hcount]
                rfl
              · have hrest : ∃ lines ∈ counts, 2 ≤ lines := by simpa [hcount] using hseveral
                rw [layRows, planGroup_of_le (by omega), ih hmore (Nat.succ.inj hlength) hrest]
                rfl

section Tables

variable {t : Table} (hrect : t.Rectangular)
include hrect

theorem narrowColumn_keptApart {column width : Int}
    (hcolumn : 1 ≤ column ∧ column ≤ t.columnCount) (hwidth : 1 ≤ width) :
    ∃ groups, List.Forall₂ Spells t.dataRows groups ∧
      KeptApart t.rows groups (t.narrowColumn column width) := by
  have hspells : List.Forall₂ Spells t.dataRows (t.dataRows.map (narrowGroup column width)) := by
    refine List.forall₂_map_right_iff.mpr (List.forall₂_same.mpr fun cells hcells => ?_)
    refine columnGroup_spells (wrap_ne_nil _ _) ?_ (Text.flatMap_words_wrap _ _)
    rw [hrect cells hcells]
    omega
  refine ⟨_, hspells, keptApart_of_laid hspells fun separators => ?_⟩
  rw [narrowColumn_eq hrect separators hcolumn hwidth, expandRows_eq_laid]
  rfl

/-- Narrowing a column, and applying a plan with a width for every column and a number of lines for
every data row, makes the same groups with and without separators, which only keep groups of several
rows apart.  A plan that puts rows without cells on several lines fails both with and without
separators. -/
theorem separators_between_groups :
    (∀ column width : Int, 1 ≤ column ∧ column ≤ t.columnCount → 1 ≤ width →
      ∃ groups, List.Forall₂ Spells t.dataRows groups ∧
        KeptApart t.rows groups (t.narrowColumn column width)) ∧
    ∀ plan : Narrow.Plan, plan.widths.length = t.columnCount → plan.rows.length = t.height →
      (∀ lines ∈ plan.rows, 1 ≤ lines) →
        (∃ groups, List.Forall₂ Spells t.dataRows groups ∧
          groups.map (fun group => (group.length : Int)) = plan.rows ∧
          KeptApart t.rows groups (t.applyPlan plan)) ∨
        (t.columnCount = 0 ∧ (∃ lines ∈ plan.rows, 2 ≤ lines) ∧
          ∀ separators, t.applyPlan plan separators = .error (.fault .badValue)) := by
  refine ⟨fun column width => narrowColumn_keptApart hrect, fun plan hwidths hrows hpos => ?_⟩
  by_cases hcells : 0 < t.columnCount ∨ ∀ lines ∈ plan.rows, lines ≤ 1
  · obtain ⟨groups, hgroups, hspells, hheights⟩ :=
      exists_applyPlan_eq_laid hrect hwidths hrows hpos hcells
    exact .inl ⟨groups, hspells, hheights, keptApart_of_laid hspells hgroups⟩
  · push Not at hcells
    obtain ⟨hnone, lines, hlines, hseveral⟩ := hcells
    have hnone : t.columnCount = 0 := Nat.le_zero.mp hnone
    refine .inr ⟨hnone, ⟨lines, hlines, hseveral⟩, fun separators => ?_⟩
    rw [applyPlan, layRows_no_cells separators plan.widths (fun cells hmem => ?_) hrows
      ⟨lines, hlines, hseveral⟩]
    · rfl
    · rw [← List.length_eq_zero_iff, hrect cells hmem, hnone]

end Tables

/-- Groups before a group, before two separators, after a row that stays as it is, and at the
end. -/
theorem separators_between_groups_mixed :
    let t : Table := ⟨[.data ["1", "aa bb"], .data ["2", "cc dd"], .separator, .separator,
      .data ["3", "x"], .data ["4", "yy zz"]]⟩
    let plan : Narrow.Plan := ⟨3, [], [1, 2], [2, 2, 1, 2]⟩
    let plain : Table := ⟨[.data ["1", "aa"], .data ["", "bb"], .data ["2", "cc"],
      .data ["", "dd"], .separator, .separator, .data ["3", "x"], .data ["4", "yy"],
      .data ["", "zz"]]⟩
    let apart : Table := ⟨[.data ["1", "aa"], .data ["", "bb"], .separator, .data ["2", "cc"],
      .data ["", "dd"], .separator, .separator, .data ["3", "x"], .data ["4", "yy"],
      .data ["", "zz"]]⟩
    (t.Rectangular ∧ (1 ≤ (2 : Int) ∧ (2 : Int) ≤ t.columnCount) ∧ 1 ≤ (2 : Int) ∧
      plan.widths.length = t.columnCount ∧ plan.rows.length = t.height ∧
      ∀ lines ∈ plan.rows, 1 ≤ lines) ∧
    (t.narrowColumn 2 2 false = .ok plain ∧ t.narrowColumn 2 2 true = .ok apart ∧
      ∃ groups, KeptApart t.rows groups (t.narrowColumn 2 2)) ∧
    t.applyPlan plan false = .ok plain ∧ t.applyPlan plan true = .ok apart ∧
      ∃ groups, KeptApart t.rows groups (t.applyPlan plan) := by
  intro t plan plain apart
  have hrect : t.Rectangular := by decide
  have hcolumn : 1 ≤ (2 : Int) ∧ (2 : Int) ≤ t.columnCount := by decide
  have hpos : ∀ lines ∈ plan.rows, 1 ≤ lines := by decide
  obtain ⟨hcolumns, hplans⟩ := separators_between_groups hrect
  obtain ⟨groups, -, hnarrowed⟩ := hcolumns 2 2 hcolumn (by decide)
  obtain ⟨planned, -, -, hplanned⟩ := (hplans plan rfl rfl hpos).resolve_right fun hnone =>
    absurd hnone.1 (by decide)
  exact ⟨⟨hrect, hcolumn, by decide, rfl, rfl, hpos⟩, ⟨rfl, rfl, groups, hnarrowed⟩, rfl, rfl,
    planned, hplanned⟩

end PipeTable.Table
