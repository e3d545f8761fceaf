import Mathlib
import PipeTable.Proofs.Groups

/-! # Heights of planned rows

A plan says on how many lines every data row is laid out, and the group that comes of a row has just
as many rows: if the cells of a row need more lines at the widths of the plan, they are fitted to
greater widths.
-/

namespace PipeTable.Table

/-- The rows with the data rows replaced, in their order, by groups of rows. -/
def weave : List Row → List (List (List String)) → List Row
  | .separator :: rows, groups => .separator :: weave rows groups
  | .data _ :: rows, group :: groups => group.map .data ++ weave rows groups
  | _, _ => []

section Weave

variable {rows : List Row} {counts : List Int} {groups : List (List (List String))}

/-- The data rows that come of groups, one for each data row, are those of the groups. -/
theorem filterMap_cells_weave (h : (rows.filterMap Row.cells?).length = groups.length) :
    (weave rows groups).filterMap Row.cells? = groups.flatten := by
  induction rows generalizing groups with
  | nil =>
      obtain rfl := List.length_eq_zero_iff.mp h.symm
      rfl
  | cons row rows ih =>
      cases row with
      | separator => exact ih h
      | data cells =>
          cases groups with
          | nil => cases h
          | cons group groups =>
              rw [weave, List.filterMap_append, filterMap_cells_map_data, ih (Nat.succ.inj h),
                List.flatten_cons]

/-- What the rows become: a separator stays, and the data rows become, in their order, groups. -/
def blocks : List Row → List (List (List String)) → List (List Row)
  | .separator :: rows, groups => [.separator] :: blocks rows groups
  | .data _ :: rows, group :: groups => group.map .data :: blocks rows groups
  | _, _ => []

theorem flatten_blocks (rows : List Row) (groups : List (List (List String))) :
    (blocks rows groups).flatten = weave rows groups := by
  fun_induction weave rows groups with
  | case1 rows groups ih => rw [blocks, List.flatten_cons, ih, List.singleton_append]
  | case2 cells rows group groups ih => rw [blocks, List.flatten_cons, ih]
  | case3 rows groups hseparator hdata =>
      rw [blocks]
      · rfl
      · exact hseparator
      · exact hdata

/-- What rows become, with one more separator after every block of several rows that stands neither
at the end nor before a separator. -/
def keepApart (rows : List Row) (blocks : List (List Row)) : List (List Row) :=
  blocks.mapIdx fun i block =>
    if 2 ≤ block.length ∧ i + 1 < rows.length ∧ rows[i + 1]? ≠ some .separator then
      block ++ [.separator]
    else block

/-- The rows with the data rows replaced by groups, which are kept apart if that is asked for. -/
def laid (separators : Bool) (rows : List Row) (groups : List (List (List String))) : List Row :=
  if separators then (keepApart rows (blocks rows groups)).flatten else weave rows groups

theorem keepApart_cons (row : Row) (block : List Row) (rows : List Row) (blocks : List (List Row)) :
    keepApart (row :: rows) (block :: blocks) =
      (if 2 ≤ block.length ∧ 0 < rows.length ∧ rows[0]? ≠ some .separator then block ++ [.separator]
        else block) :: keepApart rows blocks := by
  simp [keepApart]

theorem keepApart_separator (rows : List Row) (groups : List (List (List String))) :
    keepApart (.separator :: rows) (blocks (.separator :: rows) groups) =
      [.separator] :: keepApart rows (blocks rows groups) := by
  rw [blocks, keepApart_cons, if_neg (by simp)]

theorem keepApart_data (cells : List String) (group : List (List String)) (rows : List Row)
    (groups : List (List (List String))) :
    keepApart (.data cells :: rows) (blocks (.data cells :: rows) (group :: groups)) =
      (group.map .data ++ groupEnd true group rows) :: keepApart rows (blocks rows groups) := by
  rw [blocks, keepApart_cons]
  refine congrArg (· :: _) ?_
  cases rows with
  | nil => simp [groupEnd]
  | cons next rows =>
      cases next with
      | separator => simp [groupEnd]
      | data cells =>
          by_cases hseveral : 2 ≤ group.length
          · simp [groupEnd, hseveral, Nat.lt_of_succ_le hseveral]
          · simp [groupEnd, hseveral, Nat.lt_iff_add_one_le]

theorem laid_separator (separators : Bool) (rows : List Row)
    (groups : List (List (List String))) :
    laid separators (.separator :: rows) groups = .separator :: laid separators rows groups := by
  cases separators with
  | false => rfl
  | true => simp [laid, keepApart_separator]

theorem laid_data (separators : Bool) (cells : List String) (group : List (List String))
    (rows : List Row) (groups : List (List (List String))) :
    laid separators (.data cells :: rows) (group :: groups) =
      group.map .data ++ groupEnd separators group rows ++ laid separators rows groups := by
  cases separators with
  | false => simp [laid, weave]
  | true => simp [laid, keepApart_data]

/-- Rows of which each can be laid out are replaced by the groups that come of them. -/
theorem exists_layRows_eq_laid (widths : List Int)
    {P : List String → Int → List (List String) → Prop}
    (hlength : (rows.filterMap Row.cells?).length ≤ counts.length)
    (h : ∀ pair ∈ (rows.filterMap Row.cells?).zip counts,
      ∃ group, planGroup widths pair.2 pair.1 = .ok group ∧ P pair.1 pair.2 group) :
    ∃ groups, (∀ separators, layRows separators widths counts rows =
        .ok (laid separators rows groups)) ∧
      List.Forall₂ (fun pair group => P pair.1 pair.2 group)
        ((rows.filterMap Row.cells?).zip counts) groups := by
  induction rows generalizing counts with
  | nil => exact ⟨[], fun separators => by cases separators <;> rw [layRows] <;> rfl, .nil⟩
  | cons row rows ih =>
      cases row with
      | separator =>
          obtain ⟨groups, hgroups, hallowed⟩ := ih hlength h
          exact ⟨groups, fun separators => by rw [layRows, hgroups, laid_separator]; rfl, hallowed⟩
      | data cells =>
          cases counts with
          | nil => cases hlength
          | cons count counts =>
              obtain ⟨⟨group, hgroup, hgiven⟩, hrest⟩ := List.forall_mem_cons.mp h
              obtain ⟨groups, hgroups, hallowed⟩ := ih (Nat.le_of_succ_le_succ hlength) hrest
              refine ⟨group :: groups, fun separators => ?_, .cons hgiven hallowed⟩
              rw [layRows, hgroup, hgroups, laid_data]
              rfl

end Weave

/-- A row that is planned on one line or more becomes just as many rows with its words, unless it
has no cells. -/
theorem exists_planGroup_of_height {cells : List String} {widths : List Int} {lines : Int}
    (hlength : cells.length = widths.length) (hlines : 1 ≤ lines) (h : lines = 1 ∨ widths ≠ []) :
    ∃ group, planGroup widths lines cells = .ok group ∧ Spells cells group ∧
      (group.length : Int) = lines := by
  have hspelled : ∃ group, planGroup widths lines cells = .ok group ∧ Spells cells group :=
    planGroup_spells hlength fun hseveral => h.resolve_left (by omega)
  obtain ⟨group, hgroup, hspells⟩ := hspelled
  refine ⟨group, hgroup, hspells, ?_⟩
  rcases hlines.eq_or_lt with rfl | hseveral
  · rw [planGroup_of_le le_rfl] at hgroup
    cases hgroup
    rfl
  · rw [planGroup_eq hlength hseveral (h.resolve_left (by omega))] at hgroup
    cases hgroup
    rw [stackLines, List.length_map, List.length_range]
    omega

section Plans

variable {t : Table} (hrect : t.Rectangular) {plan : Narrow.Plan}
  (hwidths : plan.widths.length = t.columnCount) (hrows : plan.rows.length = t.height)
  (hpos : ∀ lines ∈ plan.rows, 1 ≤ lines)
include hrect hwidths hrows hpos

/-- A plan on which no rows without cells are planned on several lines makes groups of the planned
heights, and separators keep just these apart. -/
theorem exists_applyPlan_eq_laid
    (hcells : 0 < t.columnCount ∨ ∀ lines ∈ plan.rows, lines ≤ 1) :
    ∃ groups, (∀ separators, t.applyPlan plan separators = .ok ⟨laid separators t.rows groups⟩) ∧
      List.Forall₂ Spells t.dataRows groups ∧
      groups.map (fun group => (group.length : Int)) = plan.rows := by
  obtain ⟨groups, hgroups, hallowed⟩ := exists_layRows_eq_laid plan.widths
    (P := fun cells lines group => Spells cells group ∧ (group.length : Int) = lines) hrows.ge
    fun pair hpair => by
      obtain ⟨hrow, hlines⟩ := List.of_mem_zip hpair
      refine exists_planGroup_of_height ((hrect _ hrow).trans hwidths.symm) (hpos _ hlines) ?_
      rcases hcells with hcells | hcells
      · rw [← List.length_pos_iff, hwidths]
        exact .inr hcells
      · exact .inl (le_antisymm (hcells _ hlines) (hpos _ hlines))
  have hspells : List.Forall₂ Spells t.dataRows groups := by
    rw [← List.map_fst_zip hrows.ge, List.forall₂_map_left_iff]
    exact hallowed.imp fun _ _ h => h.1
  have hheights : groups.map (fun group => (group.length : Int)) = plan.rows := by
    rw [← List.forall₂_eq_eq_eq, List.forall₂_map_left_iff, ← List.map_snd_zip hrows.le,
      List.forall₂_map_right_iff]
    exact hallowed.flip.imp fun _ _ h => h.2
  exact ⟨groups, fun separators => Outcome.bind_eq_ok.mpr ⟨_, hgroups separators, rfl⟩, hspells,
    hheights⟩

theorem exists_applyPlan_eq_weave
    (hcells : 0 < t.columnCount ∨ ∀ lines ∈ plan.rows, lines ≤ 1) :
    ∃ groups, t.applyPlan plan false = .ok ⟨weave t.rows groups⟩ ∧
      List.Forall₂ Spells t.dataRows groups ∧
      groups.map (fun group => (group.length : Int)) = plan.rows :=
  (exists_applyPlan_eq_laid hrect hwidths hrows hpos hcells).imp fun _ h => ⟨h.1 false, h.2⟩

omit hrect hwidths hpos in
/-- What is laid out in groups of the planned heights is as high as the plan says. -/
theorem height_weave {groups : List (List (List String))}
    (hheights : groups.map (fun group => (group.length : Int)) = plan.rows) :
    (height ⟨weave t.rows groups⟩ : Int) = plan.totalRows := by
  have hlength : (t.rows.filterMap Row.cells?).length = groups.length := by
    have := congrArg List.length hheights
    rw [List.length_map, hrows] at this
    exact this.symm
  have hdata : dataRows ⟨weave t.rows groups⟩ = groups.flatten := filterMap_cells_weave hlength
  rw [height, hdata, List.length_flatten, Narrow.Plan.totalRows, ← List.sum_eq_foldl, ← hheights,
    Nat.cast_list_sum, List.map_map]
  rfl

/-- A plan with a width for every column and a number of lines for every data row replaces each data
row by just as many rows of as many cells, which have its words, and leaves the separators between
them, unless there are rows without cells that are planned on several lines. -/
theorem applyPlan_heights_iff :
    (∃ groups, t.applyPlan plan false = .ok ⟨weave t.rows groups⟩ ∧
      List.Forall₂ Spells t.dataRows groups ∧
      groups.map (fun group => (group.length : Int)) = plan.rows ∧
      (height ⟨weave t.rows groups⟩ : Int) = plan.totalRows) ↔
      0 < t.columnCount ∨ ∀ lines ∈ plan.rows, lines ≤ 1 := by
  constructor
  · rintro ⟨groups, hgroups, -⟩
    exact hasCells_of_applyPlan hrect false hrows hgroups
  · intro hcells
    obtain ⟨groups, hgroups, hspells, hheights⟩ :=
      exists_applyPlan_eq_weave hrect hwidths hrows hpos hcells
    exact ⟨groups, hgroups, hspells, hheights, height_weave hrows hheights⟩

end Plans

/-- Columns of the widths 0 and 1, which have to grow for the one row and not for the other, and two
separators between the rows. -/
theorem applyPlan_heights_grown :
    let t : Table := ⟨[.data ["aa bb", "c d e"], .separator, .separator, .data ["f", "gggg h"]]⟩
    let plan : Narrow.Plan := ⟨1, [], [0, 1], [2, 3]⟩
    (t.Rectangular ∧ plan.widths.length = t.columnCount ∧ plan.rows.length = t.height ∧
      (∀ lines ∈ plan.rows, 1 ≤ lines) ∧
      (0 < t.columnCount ∨ ∀ lines ∈ plan.rows, lines ≤ 1)) ∧
    ∃ groups, t.applyPlan plan false = .ok ⟨weave t.rows groups⟩ ∧
      weave t.rows groups = [.data ["aa", "c d"], .data ["bb", "e"], .separator, .separator,
        .data ["f", "gggg"], .data ["", "h"], .data ["", ""]] ∧
      List.Forall₂ Spells t.dataRows groups ∧
      groups.map (fun group => (group.length : Int)) = [2, 3] := by
  intro t plan
  have hrect : t.Rectangular := by decide
  have hwidths : plan.widths.length = t.columnCount := rfl
  have hrows : plan.rows.length = t.height := rfl
  have hpos : ∀ lines ∈ plan.rows, 1 ≤ lines := by decide
  have hcells : 0 < t.columnCount ∨ ∀ lines ∈ plan.rows, lines ≤ 1 := .inl (by decide)
  obtain ⟨groups, hgroups, hspells, hheights, -⟩ :=
    (applyPlan_heights_iff hrect hwidths hrows hpos).mpr hcells
  refine ⟨⟨hrect, hwidths, hrows, hpos, hcells⟩, groups, hgroups, ?_, hspells, hheights⟩
  have hresult : t.applyPlan plan false = .ok ⟨[.data ["aa", "c d"], .data ["bb", "e"], .separator,
    .separator, .data ["f", "gggg"], .data ["", "h"], .data ["", ""]]⟩ := by rfl
  rw [hgroups] at hresult
  exact congrArg Table.rows (Except.ok.inj hresult)

/-- Rows without cells, one of them planned on two lines: there is no highest of no columns. -/
theorem applyPlan_fails_on_empty_row :
    let t : Table := ⟨[.data [], .separator, .data []]⟩
    let plan : Narrow.Plan := ⟨0, [], [], [1, 2]⟩
    t.Rectangular ∧ plan.widths.length = t.columnCount ∧ plan.rows.length = t.height ∧
      (∀ lines ∈ plan.rows, 1 ≤ lines) ∧ t.applyPlan plan false = .error (.fault .badValue) := by
  refine ⟨by decide, rfl, rfl, by decide, rfl⟩

end PipeTable.Table
