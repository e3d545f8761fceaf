import Mathlib
import PipeTable.Proofs.Joining
import PipeTable.Proofs.Sources

/-! # Tables joined in groups

Tables may be joined in groups first and the results then joined in the same way: what a group is
padded with is what it would get among all tables.  One below the other, rows are padded up to the
longest one of the group first and then of all.  Side by side, a group is as wide as its first row,
and that is as wide as the first rows of its tables together, so rows of padding below the group are
as wide as those below its tables.
-/

namespace PipeTable

/-- The greatest number of groups is the greatest of their greatest numbers. -/
theorem foldl_max_flatten (groups : List (List Nat)) :
    (groups.map (List.foldl max 0)).foldl max 0 = groups.flatten.foldl max 0 := by
  refine le_antisymm (foldl_max_le (Nat.zero_le _) ?_) (foldl_max_le (Nat.zero_le _) ?_)
  · intro greatest hgreatest
    obtain ⟨group, hgroup, rfl⟩ := List.mem_map.mp hgreatest
    exact foldl_max_le (Nat.zero_le _) fun n hn =>
      le_foldl_max (.inr (List.mem_flatten_of_mem hgroup hn))
  · intro n hn
    obtain ⟨group, hgroup, hn⟩ := List.mem_flatten.mp hn
    exact (le_foldl_max (.inr hn)).trans (le_foldl_max (.inr (List.mem_map_of_mem hgroup)))

theorem flatMap_flatten {α β : Type} (f : α → List β) (groups : List (List α)) :
    groups.flatten.flatMap f = groups.flatMap fun group => group.flatMap f := by
  induction groups with
  | nil => rfl
  | cons group groups ih =>
      rw [List.flatten_cons, List.flatMap_append, List.flatMap_cons, ih]

theorem flatMap_replicate {α β : Type} (count : α → Nat) (b : β) (items : List α) :
    (items.flatMap fun a => List.replicate (count a) b) =
      List.replicate (items.map count).sum b := by
  induction items with
  | nil => rfl
  | cons a items ih =>
      rw [List.flatMap_cons, ih, List.replicate_append_replicate, List.map_cons, List.sum_cons]

namespace Table

open Document (widest length_le_widest)

variable {tables : List Table} (padding : String)

/-! ## One below the other -/

theorem stacked_eq (tables : List Table) : stacked padding tables =
    ofCells ((tables.flatMap dataRows).map (padRow (widest tables) padding)) := rfl

theorem dataRows_stacked (tables : List Table) : (stacked padding tables).dataRows =
    (tables.flatMap dataRows).map (padRow (widest tables) padding) :=
  dataRows_ofCells _

/-- Padding up to a width and then further is padding at once. -/
theorem padRow_padRow {narrow wide : Nat} (h : narrow ≤ wide) (row : List String) :
    padRow wide padding (padRow narrow padding row) = padRow wide padding row := by
  simp only [padRow, List.length_append, List.length_replicate, List.append_assoc,
    List.replicate_append_replicate]
  congr 2
  omega

theorem width_stacked (tables : List Table) : (stacked padding tables).width = widest tables := by
  rw [width, dataRows_stacked]
  refine le_antisymm (foldl_max_le (Nat.zero_le _) ?_) (foldl_max_le (Nat.zero_le _) ?_)
  · intro length hlength
    obtain ⟨padded, hpadded, rfl⟩ := List.mem_map.mp hlength
    obtain ⟨row, hrow, rfl⟩ := List.mem_map.mp hpadded
    obtain ⟨t, ht, hrow⟩ := List.mem_flatMap.mp hrow
    exact (length_padRow _ _ (length_le_widest ht hrow)).le
  · intro length hlength
    obtain ⟨row, hrow, rfl⟩ := List.mem_map.mp hlength
    have hpadded := List.mem_map_of_mem (f := List.length)
      (List.mem_map_of_mem (f := padRow (widest tables) padding) hrow)
    refine le_trans ?_ (le_foldl_max (.inr hpadded))
    rw [padRow, List.length_append]
    exact Nat.le_add_right _ _

theorem widest_eq (tables : List Table) : widest tables = (tables.map width).foldl max 0 := by
  have hwidths : tables.map width =
      (tables.map fun t => t.dataRows.map List.length).map (List.foldl max 0) := by
    rw [List.map_map]
    rfl
  rw [hwidths, foldl_max_flatten, widest, List.map_flatMap]
  rfl

theorem widest_map_stacked (groups : List (List Table)) :
    widest (groups.map (stacked padding)) = widest groups.flatten := by
  have hwidths : (groups.map (stacked padding)).map width =
      (groups.map (List.map width)).map (List.foldl max 0) := by
    simp only [List.map_map]
    exact List.map_congr_left fun group _ => (width_stacked padding group).trans (widest_eq group)
  rw [widest_eq, widest_eq, hwidths, foldl_max_flatten, List.map_flatten]

/-- Tables one below the other may be put so in groups first. -/
theorem stacked_flatten (groups : List (List Table)) :
    stacked padding (groups.map (stacked padding)) = stacked padding groups.flatten := by
  have hgroup : ∀ group ∈ groups, (stacked padding group).dataRows.map
      (padRow (widest groups.flatten) padding) =
        (group.flatMap dataRows).map (padRow (widest groups.flatten) padding) := by
    intro group hmem
    have hle : widest group ≤ widest groups.flatten := by
      rw [← widest_map_stacked padding, widest_eq (groups.map _), ← width_stacked padding group]
      exact le_foldl_max (.inr (List.mem_map_of_mem (List.mem_map_of_mem hmem)))
    rw [dataRows_stacked, List.map_map]
    exact List.map_congr_left fun row _ => padRow_padRow padding hle row
  rw [stacked_eq, stacked_eq, widest_map_stacked, List.flatMap_map, List.map_flatMap,
    List.flatMap_congr hgroup, flatMap_flatten, List.map_flatMap]

/-! ## Side by side -/

/-- The height of the highest table. -/
def highest (tables : List Table) : Nat := (tables.map height).foldl max 0

/-- The rows of all tables at each index, up to the height of the highest table. -/
def sideBySide (tables : List Table) : Table :=
  ofCells ((List.range (highest tables)).map fun r => tables.flatMap (rowOrPadding padding · r))

theorem concatHorizontal_eq (hne : tables ≠ []) :
    concatHorizontal tables padding = .ok (sideBySide padding tables) := by
  rw [concatHorizontal, if_neg (by simpa using hne)]
  rfl

theorem height_sideBySide (tables : List Table) :
    (sideBySide padding tables).height = highest tables := by
  rw [height, sideBySide, dataRows_ofCells, List.length_map, List.length_range]

theorem highest_map_sideBySide (groups : List (List Table)) :
    highest (groups.map (sideBySide padding)) = highest groups.flatten := by
  have hheights : (groups.map (sideBySide padding)).map height =
      (groups.map (List.map height)).map (List.foldl max 0) := by
    simp only [List.map_map]
    exact List.map_congr_left fun group _ => height_sideBySide padding group
  rw [highest, hheights, foldl_max_flatten, highest, List.map_flatten]

/-- The first row of a table, or the padding for it, tells the number of columns. -/
theorem length_rowOrPadding_zero (t : Table) :
    (rowOrPadding padding t 0).length = t.columnCount := by
  rw [rowOrPadding, columnCount]
  cases t.dataRows with
  | nil => rfl
  | cons row rows => rfl

/-- Tables side by side have the columns of all of them, however long their further rows are. -/
theorem columnCount_sideBySide (tables : List Table) :
    (sideBySide padding tables).columnCount = (tables.map columnCount).sum := by
  rw [columnCount, sideBySide, dataRows_ofCells]
  cases hheight : highest tables with
  | zero =>
      have hnone : ∀ t ∈ tables, t.columnCount = 0 := fun t ht => by
        have hle : t.height ≤ highest tables := le_foldl_max (.inr (List.mem_map_of_mem ht))
        rw [hheight, Nat.le_zero, height, List.length_eq_zero_iff] at hle
        rw [columnCount, hle]
      rw [List.map_congr_left hnone]
      simp
  | succ n =>
      rw [List.range_succ_eq_map, List.map_cons]
      simp only [List.length_flatMap, length_rowOrPadding_zero]

/-- Below as well as within tables side by side, the row is that of the tables one after the
other. -/
theorem rowOrPadding_sideBySide (tables : List Table) (index : Nat) :
    rowOrPadding padding (sideBySide padding tables) index =
      tables.flatMap (rowOrPadding padding · index) := by
  by_cases hindex : index < highest tables
  · rw [rowOrPadding, sideBySide, dataRows_ofCells, List.getElem?_map,
      List.getElem?_range hindex]
    rfl
  · have hbelow : ∀ t ∈ tables, rowOrPadding padding t index =
        List.replicate t.columnCount padding := fun t ht =>
      rowOrPadding_of_le padding
        ((le_foldl_max (.inr (List.mem_map_of_mem ht))).trans (not_lt.mp hindex))
    rw [rowOrPadding_of_le padding (by rw [height_sideBySide]; exact not_lt.mp hindex),
      columnCount_sideBySide, List.flatMap_congr hbelow, flatMap_replicate]

/-- Tables side by side may be put so in groups first. -/
theorem sideBySide_flatten (groups : List (List Table)) :
    sideBySide padding (groups.map (sideBySide padding)) = sideBySide padding groups.flatten := by
  rw [sideBySide, highest_map_sideBySide, sideBySide]
  congr 2
  funext r
  simp only [List.flatMap_map, rowOrPadding_sideBySide, flatMap_flatten]

/-! ## Two groups -/

/-- Joining two groups of tables, each of which has a table, and then the two results is joining all
of them at once, one below the other as well as side by side.  Rows may be of any length, and tables
without data rows may be among them. -/
theorem concat_append {first second : List Table} (hfirst : first ≠ []) (hsecond : second ≠ []) :
    (∃ upper lower whole, concatVertical first padding = .ok upper ∧
      concatVertical second padding = .ok lower ∧
      concatVertical [upper, lower] padding = .ok whole ∧
      concatVertical (first ++ second) padding = .ok whole) ∧
    ∃ left right whole, concatHorizontal first padding = .ok left ∧
      concatHorizontal second padding = .ok right ∧
      concatHorizontal [left, right] padding = .ok whole ∧
      concatHorizontal (first ++ second) padding = .ok whole := by
  have hboth : first ++ second ≠ [] := by simp [hfirst]
  have hstacked := stacked_flatten padding [first, second]
  have hbeside := sideBySide_flatten padding [first, second]
  simp only [List.map_cons, List.map_nil, List.flatten_cons, List.flatten_nil,
    List.append_nil] at hstacked hbeside
  refine ⟨⟨_, _, _, concatVertical_eq hfirst padding, concatVertical_eq hsecond padding,
    concatVertical_eq (List.cons_ne_nil _ _) padding, ?_⟩, _, _, _,
    concatHorizontal_eq padding hfirst, concatHorizontal_eq padding hsecond,
    concatHorizontal_eq padding (List.cons_ne_nil _ _), ?_⟩
  · rw [concatVertical_eq hboth, hstacked]
  · rw [concatHorizontal_eq padding hboth, hbeside]

/-- A short table beside an empty one in the first group, and in the second one a table that has a
longer row below its first one, and a separator. -/
theorem concat_append_jagged :
    let first : List Table := [⟨[.data ["a", "b"]]⟩, ⟨[]⟩]
    let second : List Table := [⟨[.data ["c"], .separator, .data ["d", "e", "f"]]⟩, ⟨[.separator]⟩]
    first ≠ [] ∧ second ≠ [] ∧
      (∃ upper lower, concatVertical first "-" = .ok upper ∧
        concatVertical second "-" = .ok lower ∧ concatVertical [upper, lower] "-" =
          .ok (ofCells [["a", "b", "-"], ["c", "-", "-"], ["d", "e", "f"]])) ∧
      ∃ left right, concatHorizontal first "-" = .ok left ∧
        concatHorizontal second "-" = .ok right ∧ concatHorizontal [left, right] "-" =
          .ok (ofCells [["a", "b", "c"], ["-", "-", "d", "e", "f"]]) := by
  intro first second
  have hfirst : first ≠ [] := by decide
  have hsecond : second ≠ [] := by decide
  obtain ⟨⟨upper, lower, whole, hupper, hlower, hjoined, hwhole⟩, left, right, wide, hleft, hright,
    hbeside, hwide⟩ := concat_append "-" hfirst hsecond
  obtain rfl := Except.ok.inj hwhole
  obtain rfl := Except.ok.inj hwide
  exact ⟨hfirst, hsecond, ⟨upper, lower, hupper, hlower, hjoined⟩, left, right, hleft, hright,
    hbeside⟩

end Table

end PipeTable
