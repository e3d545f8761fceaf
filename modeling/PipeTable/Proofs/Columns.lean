import Mathlib
import PipeTable.Narrow.Plan
import PipeTable.Proofs.Cells

/-! # Widths of columns

The columns of a table are the fixed ones and the free ones, so the widths of all columns add up to
what the fixed ones take and what the free ones are given.
-/

namespace PipeTable.Narrow

/-! ## Fixed and free columns -/

theorem mem_withoutRepeats {values : List Int} {v : Int} :
    v ∈ withoutRepeats values ↔ v ∈ values := by
  induction values with
  | nil => rfl
  | cons u us ih =>
      rw [withoutRepeats, List.foldr_cons, ← withoutRepeats, List.mem_cons, ← ih]
      split
      next hhead =>
        refine ⟨Or.inr, ?_⟩
        rintro (rfl | h)
        · exact List.mem_of_mem_head? hhead
        · exact h
      next => exact List.mem_cons

theorem pairwise_withoutRepeats {values : List Int} (h : values.Pairwise (· ≤ ·)) :
    (withoutRepeats values).Pairwise (· < ·) := by
  induction values with
  | nil => exact .nil
  | cons u us ih =>
      obtain ⟨hle, hus⟩ := List.pairwise_cons.mp h
      have hkept := ih hus
      rw [withoutRepeats, List.foldr_cons, ← withoutRepeats]
      split
      next => exact hkept
      next hhead =>
        refine List.pairwise_cons.mpr ⟨fun v hv => ?_, hkept⟩
        -- the first kept integer is not `u`, and the others are greater than it
        cases hus' : withoutRepeats us with
        | nil => rw [hus'] at hv; cases hv
        | cons first rest =>
            rw [hus'] at hv hhead hkept
            have hfirst : u ≤ first := hle first (mem_withoutRepeats.mp (hus' ▸ List.mem_cons_self))
            have hne : first ≠ u := fun h => hhead (congrArg some h)
            rcases List.mem_cons.mp hv with rfl | hv
            · omega
            · have := List.rel_of_pairwise_cons hkept hv
              omega

theorem mem_ascending {values : List Int} {v : Int} : v ∈ ascending values ↔ v ∈ values := by
  rw [ascending, mem_withoutRepeats, List.mem_mergeSort]

theorem nodup_ascending (values : List Int) : (ascending values).Nodup := by
  have hsorted : (values.mergeSort (· ≤ ·)).Pairwise (· ≤ ·) := by
    simpa using List.pairwise_mergeSort' (· ≤ ·) values
  exact (pairwise_withoutRepeats hsorted).imp fun h => h.ne

theorem mem_freeColumns {width column : Nat} {fixed : List Int} :
    column ∈ freeColumns width fixed ↔ 1 ≤ column ∧ column ≤ width ∧ (column : Int) ∉ fixed := by
  simp only [freeColumns, List.mem_filter, List.mem_map, List.mem_range, Bool.not_eq_true',
    List.contains_eq_mem, decide_eq_false_iff_not]
  constructor
  · rintro ⟨⟨i, hi, rfl⟩, hfree⟩
    exact ⟨by omega, by omega, hfree⟩
  · rintro ⟨hpos, hle, hfree⟩
    exact ⟨⟨column - 1, by omega, by omega⟩, hfree⟩

theorem nodup_freeColumns (width : Nat) (fixed : List Int) : (freeColumns width fixed).Nodup :=
  (List.nodup_range.map fun _ _ h => Nat.succ_injective h).filter _

/-- All column numbers, one after the other, read all widths. -/
theorem map_getD_columns (widths : List Int) :
    ((List.range widths.length).map fun i => i + 1).map (fun c => widths.getD (c - 1) 0) =
      widths := by
  refine List.ext_getElem (by simp) fun i hi hi' => ?_
  simp [hi']

/-- What the fixed columns take and what the free ones take is the width of all columns. -/
theorem widthOfFixed_add_free {fixed widths : List Int} (hnodup : fixed.Nodup)
    (hinside : ∀ c ∈ fixed, 1 ≤ c ∧ c ≤ widths.length) :
    widthOfFixed fixed widths +
      ((freeColumns widths.length fixed).map fun c => widths.getD (c - 1) 0).sum = widths.sum := by
  have hsplit := List.sum_map_filter_add_sum_map_filter_not (fun c : Nat => (c : Int) ∈ fixed)
    (fun c => widths.getD (c - 1) 0) ((List.range widths.length).map fun i => i + 1)
  rw [map_getD_columns] at hsplit
  -- the fixed columns come in their own order, so they are compared with those picked from all
  -- columns up to a permutation
  have hperm : (fixed.map Int.toNat).Perm
      (((List.range widths.length).map fun i => i + 1).filter
        fun c : Nat => (c : Int) ∈ fixed) := by
    refine (List.perm_ext_iff_of_nodup ?_ ?_).mpr fun c => ?_
    · refine hnodup.map_on fun c hc d hd h => ?_
      have := hinside c hc
      have := hinside d hd
      omega
    · exact (List.nodup_range.map fun _ _ h => Nat.succ_injective h).filter _
    · simp only [List.mem_map, List.mem_filter, List.mem_range, decide_eq_true_eq]
      constructor
      · rintro ⟨d, hd, rfl⟩
        have := hinside d hd
        refine ⟨⟨d.toNat - 1, by omega, by omega⟩, ?_⟩
        rwa [Int.toNat_of_nonneg (by omega)]
      · rintro ⟨-, hc⟩
        exact ⟨c, hc, rfl⟩
  have hfixed : widthOfFixed fixed widths =
      ((fixed.map Int.toNat).map fun c => widths.getD (c - 1) 0).sum := by
    rw [widthOfFixed, ← List.sum_eq_foldl, List.map_map]
    refine congrArg List.sum (List.map_congr_left fun c _ => ?_)
    have hindex : (c - 1).toNat = c.toNat - 1 := by omega
    rw [hindex, Function.comp]
  rw [hfixed, (hperm.map _).sum_eq, ← hsplit]
  simp [freeColumns]

/-! ## Widths put in their places -/

theorem map_fst_zip_eq_take {α β : Type} (left : List α) (right : List β) :
    (left.zip right).map Prod.fst = left.take right.length := by
  rw [List.zip_eq_zip_take_min, List.map_fst_zip (by simp), List.take_eq_take_iff]
  omega

theorem map_snd_zip_eq_take {α β : Type} (left : List α) (right : List β) :
    (left.zip right).map Prod.snd = right.take left.length := by
  rw [List.zip_eq_zip_take_min, List.map_snd_zip (by simp), List.take_eq_take_iff]
  omega

theorem length_scatter (widths : List Int) (given : List (Nat × Int)) :
    (scatter widths given).length = widths.length := by
  induction given generalizing widths with
  | nil => rfl
  | cons pair given ih =>
      rw [scatter, ih, List.length_set]

theorem getElem?_scatter_of_not_mem {widths : List Int} {given : List (Nat × Int)} {i : Nat}
    (h : ∀ pair ∈ given, pair.1 - 1 ≠ i) : (scatter widths given)[i]? = widths[i]? := by
  induction given generalizing widths with
  | nil => rfl
  | cons pair given ih =>
      rw [scatter, ih fun other hother => h other (List.mem_cons_of_mem _ hother),
        List.getElem?_set_ne (h pair List.mem_cons_self)]

theorem getElem?_scatter_of_mem {widths : List Int} {given : List (Nat × Int)} {column : Nat}
    {width : Int} (hnodup : (given.map fun pair => pair.1 - 1).Nodup)
    (hmem : (column, width) ∈ given) (hinside : column - 1 < widths.length) :
    (scatter widths given)[column - 1]? = some width := by
  induction given generalizing widths with
  | nil => cases hmem
  | cons pair given ih =>
      obtain ⟨hfresh, hnodup⟩ := List.nodup_cons.mp hnodup
      rw [scatter]
      rcases List.mem_cons.mp hmem with rfl | hmem
      · rw [getElem?_scatter_of_not_mem fun other hother h =>
          hfresh (List.mem_map.mpr ⟨other, hother, h⟩), List.getElem?_set_self hinside]
      · exact ih hnodup hmem (by rwa [List.length_set])

/-- The widths change in total by what the given ones differ from those they replace. -/
theorem sum_scatter {widths : List Int} {given : List (Nat × Int)}
    (hnodup : (given.map fun pair => pair.1 - 1).Nodup)
    (hinside : ∀ pair ∈ given, pair.1 - 1 < widths.length) :
    (scatter widths given).sum + (given.map fun pair => widths.getD (pair.1 - 1) 0).sum =
      widths.sum + (given.map Prod.snd).sum := by
  induction given generalizing widths with
  | nil => rfl
  | cons pair given ih =>
      obtain ⟨hfresh, hnodup⟩ := List.nodup_cons.mp hnodup
      have hplace := hinside pair List.mem_cons_self
      have hrest := @ih (widths.set (pair.1 - 1) pair.2) hnodup fun other hother => by
        rw [List.length_set]
        exact hinside other (List.mem_cons_of_mem _ hother)
      have hsame : (given.map fun other => (widths.set (pair.1 - 1) pair.2).getD (other.1 - 1) 0) =
          given.map fun other => widths.getD (other.1 - 1) 0 := by
        refine List.map_congr_left fun other hother => ?_
        have hne : pair.1 - 1 ≠ other.1 - 1 := fun h =>
          hfresh (List.mem_map.mpr ⟨other, hother, h.symm⟩)
        rw [List.getD_eq_getElem?_getD, List.getElem?_set_ne hne, ← List.getD_eq_getElem?_getD]
      rw [hsame, List.sum_set', dif_pos hplace] at hrest
      rw [scatter, List.map_cons, List.sum_cons, List.map_cons, List.sum_cons,
        List.getD_eq_getElem _ _ hplace]
      omega

/-! ## The longest cells -/

@[simp] theorem length_columnMaxima (width : Nat) (lengths : List (List Int)) :
    (columnMaxima width lengths).length = width := by
  simp [columnMaxima]

/-- No cell is longer than the greatest length in its column. -/
theorem le_columnMaxima {width column : Nat} {lengths : List (List Int)} {row : List Int}
    (hrow : row ∈ lengths) (hcolumn : column < width) :
    row.getD column 0 ≤ (columnMaxima width lengths).getD column 0 := by
  have hmax : (columnMaxima width lengths).getD column 0 =
      (lengths.map fun row => row.getD column 0).foldl max 0 := by
    simp [columnMaxima, List.getD_eq_getElem?_getD, hcolumn]
  rw [hmax]
  exact le_foldl_max (.inr (List.mem_map.mpr ⟨row, hrow, rfl⟩))

end PipeTable.Narrow
