import Mathlib
import PipeTable.Narrow.Layout
import PipeTable.Proofs.Cells
import PipeTable.Proofs.Effects
import PipeTable.Proofs.Wrapping

/-! # Rows laid out by a plan

A row that is planned on several lines becomes a group of rows of as many cells, which hold the
lines of the fitted cells one below the other.  If every cell fits its column on the lines of its
row, so does every cell of the group.
-/

namespace PipeTable

namespace Table

/-! ## Cells within widths -/

/-- A row has a cell for every width, none of them longer. -/
def Within (widths : List Int) (cells : List String) : Prop :=
  List.Forall₂ (fun cell width => (cell.length : Int) ≤ width) cells widths

/-- A row has a cell for every width, each within it or to be put on so many lines within it. -/
def Layable (widths : List Int) (lines : Int) (cells : List String) : Prop :=
  List.Forall₂ (fun cell width => (cell.length : Int) ≤ width ∨
    2 ≤ lines ∧ 1 ≤ width ∧ Text.Breakable cell width.toNat lines.toNat) cells widths

/-- The lines of the cells of a row, each fitted to its column. -/
def fitted (widths : List Int) (lines : Int) (cells : List String) : List (List String) :=
  List.zipWith (fun cell width => Text.fit cell width.toNat lines.toNat) cells widths

variable {widths : List Int} {lines : Int} {cells : List String}

theorem fitted_within (h : Layable widths lines cells) (hlines : 2 ≤ lines) :
    List.Forall₂ (fun column width => ∀ line ∈ column, ((line.length : Nat) : Int) ≤ width)
      (fitted widths lines cells) widths := by
  induction h with
  | nil => exact .nil
  | @cons cell width cells widths hcell _ ih =>
      refine .cons (fun line hline => ?_) ih
      have hwidth : (width.toNat : Int) = width := by
        rcases hcell with hcell | ⟨-, hpos, -⟩ <;> omega
      have hfit : cell.length ≤ width.toNat ∨
          1 ≤ width.toNat ∧ Text.Breakable cell width.toNat lines.toNat := by
        rcases hcell with hcell | ⟨-, hpos, hbreak⟩
        · exact .inl (by omega)
        · exact .inr ⟨by omega, hbreak⟩
      have := Text.length_le_of_mem_fit (by omega) hfit hline
      omega

theorem stackLines_within {height : Nat} {columns : List (List String)} {row : List String}
    (hpos : ∀ width ∈ widths, 0 ≤ width)
    (h : List.Forall₂ (fun column width => ∀ line ∈ column, ((line.length : Nat) : Int) ≤ width)
      columns widths) (hrow : row ∈ stackLines height columns) : Within widths row := by
  obtain ⟨k, -, rfl⟩ := List.mem_map.mp hrow
  rw [Within, List.forall₂_map_left_iff]
  clear hrow
  induction h with
  | nil => exact .nil
  | @cons column width columns widths hcolumn _ ih =>
      refine .cons ?_ (ih fun width hwidth => hpos width (List.mem_cons_of_mem _ hwidth))
      -- below the last line of a cell stand empty cells
      rw [List.getD_eq_getElem?_getD]
      cases hline : column[k]? with
      | none => exact hpos width List.mem_cons_self
      | some line => exact hcolumn line (List.mem_of_getElem? hline)

/-! ## Groups of rows -/

theorem mapM_fit (widths : List Int) (lines : Int) (cells : List String) (start : Nat)
    (h : start + cells.length ≤ widths.length) :
    ((cells.zipIdx start).mapM fun (cell, c) =>
      match widths[c]? with
      | some width => .ok (Text.fit cell width.toNat lines.toNat)
      | none => .error (.fault .outOfRange) : Except Error (List (List String))) =
      .ok (fitted (widths.drop start) lines cells) := by
  induction cells generalizing start with
  | nil => rfl
  | cons cell cells ih =>
      rw [List.length_cons] at h
      have hstart : start < widths.length := by omega
      rw [List.zipIdx_cons, List.mapM_cons, ih (start + 1) (by omega),
        List.drop_eq_getElem_cons hstart]
      simp only [List.getElem?_eq_getElem hstart]
      rfl

theorem planGroup_of_le (hlines : lines ≤ 1) : planGroup widths lines cells = .ok [cells] := by
  rw [planGroup, if_pos hlines]
  rfl

theorem length_le_of_mem_fitted (hlines : 1 ≤ lines) {column : List String}
    (h : column ∈ fitted widths lines cells) : column.length ≤ lines.toNat := by
  obtain ⟨c, hc, rfl⟩ := List.mem_iff_getElem.mp h
  simp only [fitted, List.getElem_zipWith]
  exact Text.length_fit_le (by omega) _ _

/-- The group of a row with as many cells as there are widths, planned on several lines. -/
theorem planGroup_eq (hlength : cells.length = widths.length) (hlines : 2 ≤ lines)
    (hne : widths ≠ []) : planGroup widths lines cells =
      .ok (stackLines lines.toNat (fitted widths lines cells)) := by
  have hcolumns : (fitted widths lines cells).isEmpty = false := by
    rw [List.isEmpty_eq_false_iff, ← List.length_pos_iff, fitted, List.length_zipWith, hlength,
      Nat.min_self]
    exact List.length_pos_iff.mpr hne
  have hfit := mapM_fit widths lines cells 0 (by omega)
  rw [List.drop_zero] at hfit
  -- no cell needs more lines than are planned
  have hheight : ((fitted widths lines cells).map List.length).foldl max lines.toNat =
      lines.toNat := by
    refine le_antisymm (foldl_max_le le_rfl fun height hheight => ?_) (le_foldl_max (.inl le_rfl))
    obtain ⟨column, hcolumn, rfl⟩ := List.mem_map.mp hheight
    exact length_le_of_mem_fitted (by omega) hcolumn
  rw [planGroup, if_neg (by omega)]
  refine Outcome.bind_eq_ok.mpr ⟨_, hfit, ?_⟩
  rw [hcolumns, hheight]
  rfl

theorem Layable.nonneg (h : Layable widths lines cells) : ∀ width ∈ widths, 0 ≤ width := by
  induction h with
  | nil => simp
  | cons hcell _ ih =>
      intro width hwidth
      rcases List.mem_cons.mp hwidth with rfl | hwidth
      · rcases hcell with hcell | ⟨-, hpos, -⟩ <;> omega
      · exact ih width hwidth

/-- A row that can be laid out makes a group of rows within the widths. -/
theorem Layable.group (h : Layable widths lines cells) (hne : 2 ≤ lines → widths ≠ []) :
    ∃ group, planGroup widths lines cells = .ok group ∧ ∀ row ∈ group, Within widths row := by
  by_cases hlines : lines ≤ 1
  · refine ⟨[cells], planGroup_of_le hlines, fun row hrow => ?_⟩
    obtain rfl := List.mem_singleton.mp hrow
    refine h.imp fun cell width hcell => hcell.resolve_right fun hcell => ?_
    omega
  · have htwo : 2 ≤ lines := by omega
    exact ⟨_, planGroup_eq h.length_eq htwo (hne htwo),
      fun row hrow => stackLines_within h.nonneg (fitted_within h htwo) hrow⟩

/-! ## All rows -/

/-- Every data row is replaced by a group that `P` allows for it, with the separators that belong
after the group; the other separators stay where they are. -/
inductive Grouped (separators : Bool) (P : List String → List (List String) → Prop) :
    List Row → List Row → Prop
  | nil : Grouped separators P [] []
  | separator {rows out : List Row} : Grouped separators P rows out →
      Grouped separators P (.separator :: rows) (.separator :: out)
  | data {cells : List String} {group : List (List String)} {rows out : List Row} :
      P cells group → Grouped separators P rows out →
        Grouped separators P (.data cells :: rows)
          (group.map .data ++ groupEnd separators group rows ++ out)

@[simp]
theorem groupEnd_false (group : List (List String)) (rest : List Row) :
    groupEnd false group rest = [] := by
  unfold groupEnd
  split <;> rfl

theorem data_notMem_groupEnd (separators : Bool) (group : List (List String)) (rest : List Row) :
    Row.data cells ∉ groupEnd separators group rest := by
  unfold groupEnd
  split
  · split <;> simp
  · simp

section LayRows

variable {separators : Bool} {P : List String → List (List String) → Prop} {counts : List Int}
  {rows out : List Row}

/-- Every data row that comes out belongs to the group of one that went in. -/
theorem Grouped.exists_group (h : Grouped separators P rows out) (hcells : Row.data cells ∈ out) :
    ∃ given group, P given group ∧ cells ∈ group := by
  induction h with
  | nil => cases hcells
  | separator _ ih =>
      rcases List.mem_cons.mp hcells with hcells | hcells
      · cases hcells
      · exact ih hcells
  | @data given group _ _ hgroup _ ih =>
      rcases List.mem_append.mp hcells with hcells | hcells
      · rcases List.mem_append.mp hcells with hcells | hcells
        · obtain ⟨row, hrow, heq⟩ := List.mem_map.mp hcells
          cases heq
          exact ⟨given, group, hgroup, hrow⟩
        · exact absurd hcells (data_notMem_groupEnd _ _ _)
      · exact ih hcells

/-- What is laid out consists of the groups that are planned for the data rows. -/
theorem grouped_of_layRows (hout : layRows separators widths counts rows = .ok out)
    (h : ∀ pair ∈ (rows.filterMap Row.cells?).zip counts, ∀ group,
      planGroup widths pair.2 pair.1 = .ok group → P pair.1 group) :
    Grouped separators P rows out := by
  induction rows generalizing counts out with
  | nil =>
      rw [layRows] at hout
      cases hout
      exact .nil
  | cons row rows ih =>
      cases row with
      | separator =>
          rw [layRows] at hout
          obtain ⟨more, hmore, hout⟩ := Outcome.bind_eq_ok.mp hout
          cases hout
          exact (ih hmore h).separator
      | data given =>
          cases counts with
          | nil =>
              rw [layRows] at hout
              cases hout
          | cons count counts =>
              rw [layRows] at hout
              obtain ⟨group, hgroup, hout⟩ := Outcome.bind_eq_ok.mp hout
              obtain ⟨more, hmore, hout⟩ := Outcome.bind_eq_ok.mp hout
              cases hout
              obtain ⟨hgiven, hrest⟩ := List.forall_mem_cons.mp h
              exact .data (hgiven group hgroup) (ih hmore hrest)

/-- If every data row has a number of lines, the rows can be laid out exactly if each of them
can. -/
theorem exists_layRows_iff (separators : Bool)
    (hcounts : (rows.filterMap Row.cells?).length ≤ counts.length) :
    (∃ out, layRows separators widths counts rows = .ok out) ↔
      ∀ pair ∈ (rows.filterMap Row.cells?).zip counts,
        ∃ group, planGroup widths pair.2 pair.1 = .ok group := by
  induction rows generalizing counts with
  | nil => exact ⟨fun _ => nofun, fun _ => ⟨[], by rw [layRows]⟩⟩
  | cons row rows ih =>
      cases row with
      | separator =>
          constructor
          · rintro ⟨out, hout⟩
            rw [layRows] at hout
            obtain ⟨more, hmore, -⟩ := Outcome.bind_eq_ok.mp hout
            exact (ih hcounts).mp ⟨more, hmore⟩
          · intro h
            obtain ⟨more, hmore⟩ := (ih hcounts).mpr h
            exact ⟨.separator :: more, by rw [layRows, hmore]; rfl⟩
      | data given =>
          cases counts with
          | nil => cases hcounts
          | cons count counts =>
              have hcounts := Nat.le_of_succ_le_succ hcounts
              constructor
              · rintro ⟨out, hout⟩
                rw [layRows] at hout
                obtain ⟨group, hgroup, hout⟩ := Outcome.bind_eq_ok.mp hout
                obtain ⟨more, hmore, -⟩ := Outcome.bind_eq_ok.mp hout
                exact List.forall_mem_cons.mpr ⟨⟨group, hgroup⟩, (ih hcounts).mp ⟨more, hmore⟩⟩
              · intro h
                obtain ⟨⟨group, hgroup⟩, hrest⟩ := List.forall_mem_cons.mp h
                obtain ⟨more, hmore⟩ := (ih hcounts).mpr hrest
                exact ⟨_, by rw [layRows, hgroup, hmore]; rfl⟩

variable (h : ∀ pair ∈ (rows.filterMap Row.cells?).zip counts, Layable widths pair.2 pair.1)
  (hne : ∀ lines ∈ counts, 2 ≤ lines → widths ≠ [])
include h hne

/-- If each row can be laid out on the lines planned for it, all rows that come of it are within the
widths. -/
theorem layRows_within (hout : layRows separators widths counts rows = .ok out)
    {cells : List String} (hcells : Row.data cells ∈ out) : Within widths cells := by
  have hgrouped : Grouped separators (fun _ group => ∀ row ∈ group, Within widths row) rows
      out := by
    refine grouped_of_layRows hout fun pair hpair group hgroup => ?_
    obtain ⟨group', hgroup', hwithin⟩ := (h pair hpair).group (hne _ (List.of_mem_zip hpair).2)
    rw [hgroup] at hgroup'
    cases hgroup'
    exact hwithin
  obtain ⟨_, group, hwithin, hrow⟩ := hgrouped.exists_group hcells
  exact hwithin cells hrow

theorem exists_layRows (separators : Bool)
    (hcounts : (rows.filterMap Row.cells?).length ≤ counts.length) :
    ∃ out, layRows separators widths counts rows = .ok out := by
  refine (exists_layRows_iff separators hcounts).mpr fun pair hpair => ?_
  obtain ⟨group, hgroup, -⟩ := (h pair hpair).group (hne _ (List.of_mem_zip hpair).2)
  exact ⟨group, hgroup⟩

end LayRows

end Table

end PipeTable
