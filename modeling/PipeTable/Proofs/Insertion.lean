import Mathlib
import PipeTable.Table.Basic

/-! # Separators inserted

Inserting separators adds to the gap after the first so many rows one separator for every position
that is clamped to their number.  The positions are applied in ascending order, each shifted by the
separators that are there already, so all of these stand at or before the gap that comes next.
-/

namespace PipeTable.Table

/-- Rows with `count k` separators after the first `k` of them, for each `k`. -/
def spaced (count : Nat → Nat) (rows : List Row) : List Row :=
  (List.range (rows.length + 1)).flatMap fun k =>
    List.replicate (count k) .separator ++ rows[k]?.toList

/-- A position among so many rows; what lies outside of them is brought to their start or end. -/
def clampTo (rows : Nat) (position : Int) : Nat := (max 0 (min position rows)).toNat

/-- How many positions are clamped to the gap after the first `k` of so many rows. -/
def clampedAt (rows : Nat) (positions : List Int) (k : Nat) : Nat :=
  (positions.map (clampTo rows)).count k

/-! ## One insertion -/

theorem spaced_nil (count : Nat → Nat) : spaced count [] = List.replicate (count 0) .separator := by
  simp [spaced]

theorem spaced_cons (count : Nat → Nat) (row : Row) (rows : List Row) :
    spaced count (row :: rows) =
      List.replicate (count 0) .separator ++ row :: spaced (fun k => count (k + 1)) rows := by
  rw [spaced, List.length_cons, List.range_succ_eq_map, List.flatMap_cons, List.flatMap_map]
  simp [spaced]

theorem spaced_zero (rows : List Row) : spaced (fun _ => 0) rows = rows := by
  induction rows with
  | nil => rfl
  | cons row rows ih => rw [spaced_cons, ih, List.replicate_zero, List.nil_append]

theorem insertIdx_append {α : Type} (left right : List α) (i : Nat) (item : α) :
    (left ++ right).insertIdx (left.length + i) item = left ++ right.insertIdx i item := by
  induction left with
  | nil => rw [List.nil_append, List.nil_append, List.length_nil, Nat.zero_add]
  | cons first left ih =>
      rw [List.cons_append, List.length_cons, Nat.add_right_comm, List.insertIdx_succ_cons, ih,
        List.cons_append]

/-- A separator inserted after the first `k` rows, and after all separators that stand before it, is
one more in its gap. -/
theorem insertIdx_spaced {rows : List Row} {k : Nat} (h : k ≤ rows.length) (count : Nat → Nat) :
    (spaced count rows).insertIdx (k + ∑ j ∈ Finset.range (k + 1), count j) .separator =
      spaced (fun j => count j + if j = k then 1 else 0) rows := by
  induction rows generalizing count k with
  | nil =>
      obtain rfl := Nat.le_zero.mp h
      have hend := List.insertIdx_length_self (l := List.replicate (count 0) Row.separator)
        (x := .separator)
      rw [List.length_replicate] at hend
      rw [spaced_nil, spaced_nil, zero_add, Finset.sum_range_one, hend, if_pos rfl,
        List.replicate_succ']
  | cons row rows ih =>
      -- the separators before the first row are skipped
      have hskip := insertIdx_append (List.replicate (count 0) Row.separator)
        (row :: spaced (fun j => count (j + 1)) rows)
      rw [List.length_replicate] at hskip
      rw [spaced_cons, spaced_cons]
      cases k with
      | zero =>
          have hzero := hskip 0 .separator
          rw [Nat.add_zero, List.insertIdx_zero] at hzero
          rw [zero_add, Finset.sum_range_one, hzero, if_pos rfl, List.replicate_succ',
            List.append_assoc]
          simp
      | succ k =>
          have hplace : k + 1 + ∑ j ∈ Finset.range (k + 1 + 1), count j =
              count 0 + (k + ∑ j ∈ Finset.range (k + 1), count (j + 1) + 1) := by
            rw [Finset.sum_range_succ']
            omega
          rw [hplace, hskip, List.insertIdx_succ_cons,
            ih (Nat.le_of_succ_le_succ h) fun j => count (j + 1)]
          simp

/-! ## All insertions -/

theorem clampTo_le (rows : Nat) (position : Int) : clampTo rows position ≤ rows := by
  rw [clampTo]
  omega

theorem clampTo_mono (rows : Nat) {p q : Int} (h : p ≤ q) : clampTo rows p ≤ clampTo rows q := by
  rw [clampTo, clampTo]
  omega

/-- Positions that are clamped to no later gap are all of them counted up to this one. -/
theorem sum_clampedAt {rows k : Nat} {positions : List Int}
    (h : ∀ p ∈ positions, clampTo rows p ≤ k) :
    ∑ j ∈ Finset.range (k + 1), clampedAt rows positions j = positions.length := by
  have hcard := Multiset.sum_count_eq_card (s := Finset.range (k + 1))
    (m := (positions.map (clampTo rows) : List Nat)) fun j hj => by
      obtain ⟨p, hp, rfl⟩ := List.mem_map.mp (Multiset.mem_coe.mp hj)
      exact Finset.mem_range.mpr (Nat.lt_succ_of_le (h p hp))
  rw [Multiset.coe_card, List.length_map] at hcard
  simpa [clampedAt] using hcard

theorem clampedAt_concat (rows : Nat) (positions : List Int) (p : Int) (j : Nat) :
    clampedAt rows (positions ++ [p]) j =
      clampedAt rows positions j + if j = clampTo rows p then 1 else 0 := by
  rw [clampedAt, List.map_append, List.count_append, ← clampedAt, List.map_singleton,
    List.count_singleton]
  by_cases hj : j = clampTo rows p
  · rw [if_pos hj, if_pos (beq_iff_eq.mpr hj.symm)]
  · rw [if_neg hj, if_neg (mt beq_iff_eq.mp (Ne.symm hj))]

theorem clampedAt_perm (rows : Nat) {positions other : List Int} (h : positions.Perm other) :
    clampedAt rows positions = clampedAt rows other :=
  funext fun k => (h.map (clampTo rows)).count_eq k

/-- After some of the ascending positions, the shift is their number, and the other positions go on
from there. -/
theorem insertShifted_spaced (rows : List Row) {done more : List Int}
    (h : (done ++ more).Pairwise (· ≤ ·)) :
    insertShifted rows.length done.length more (spaced (clampedAt rows.length done) rows) =
      spaced (clampedAt rows.length (done ++ more)) rows := by
  induction more generalizing done with
  | nil => rw [insertShifted, List.append_nil]
  | cons p more ih =>
      have hbefore : ∀ q ∈ done, clampTo rows.length q ≤ clampTo rows.length p := fun q hq =>
        clampTo_mono _ ((List.pairwise_append.mp h).2.2 q hq p List.mem_cons_self)
      have hinsert := insertIdx_spaced (clampTo_le rows.length p) (clampedAt rows.length done)
      rw [sum_clampedAt hbefore] at hinsert
      have hdone : (fun j => clampedAt rows.length done j +
          if j = clampTo rows.length p then 1 else 0) = clampedAt rows.length (done ++ [p]) :=
        funext fun j => (clampedAt_concat _ _ _ j).symm
      rw [List.append_cons] at h ⊢
      rw [insertShifted, ← clampTo, hinsert, hdone, ← ih h, List.length_append]
      rfl

theorem clampedAt_eq_countP (rows : Nat) (positions : List Int) (k : Nat) :
    clampedAt rows positions k =
      positions.countP fun p => max 0 (min p (rows : Int)) = (k : Int) := by
  rw [clampedAt, List.count, List.countP_map]
  refine List.countP_congr fun p _ => ?_
  simp only [Function.comp, beq_iff_eq, decide_eq_true_eq, clampTo]
  omega

theorem insertSeparators_rows (t : Table) (positions : List Int) :
    (t.insertSeparators positions).rows = spaced (clampedAt t.rows.length positions) t.rows := by
  have hsorted : (positions.mergeSort (· ≤ ·)).Pairwise (· ≤ ·) := by
    simpa using List.pairwise_mergeSort' (· ≤ ·) positions
  have hrun := @insertShifted_spaced t.rows [] _ hsorted
  rw [List.nil_append, clampedAt_perm _ (List.mergeSort_perm positions _)] at hrun
  rw [← hrun]
  exact congrArg (insertShifted _ _ _) (spaced_zero t.rows).symm

/-- Inserting separators leaves the rows in their order and puts between the first `k` of them and
the rest, for each `k`, as many separators as there are positions that are clamped to `k`.  The
order of the positions does not matter. -/
theorem insertSeparators_spaced (t : Table) (positions : List Int) :
    (t.insertSeparators positions).rows =
        (List.range (t.rows.length + 1)).flatMap (fun k : Nat =>
          List.replicate (positions.countP fun p : Int => max 0 (min p t.rows.length) = k)
            .separator ++ t.rows[k]?.toList) ∧
      ∀ other : List Int, other.Perm positions →
        t.insertSeparators other = t.insertSeparators positions := by
  refine ⟨?_, fun other h => ?_⟩
  · rw [insertSeparators_rows, spaced]
    simp only [clampedAt_eq_countP]
  · have hrows : (t.insertSeparators other).rows = (t.insertSeparators positions).rows := by
      rw [insertSeparators_rows, insertSeparators_rows, clampedAt_perm _ h]
    exact congrArg Table.mk hrows

/-- Positions out of order, twice the same, below the start and beyond the end. -/
theorem insertSeparators_spaced_unordered :
    let t : Table := ⟨[.data ["a"], .separator, .data ["b"]]⟩
    List.Perm [9, 1, -4, (1 : Int)] [1, -4, 9, 1] ∧
      (t.insertSeparators [1, -4, 9, 1]).rows = [.separator, .data ["a"], .separator, .separator,
        .separator, .data ["b"], .separator] ∧
      t.insertSeparators [9, 1, -4, 1] = t.insertSeparators [1, -4, 9, 1] := by
  intro t
  obtain ⟨hrows, horder⟩ := insertSeparators_spaced t [1, -4, 9, 1]
  have hperm : List.Perm [9, 1, -4, (1 : Int)] [1, -4, 9, 1] := by decide
  exact ⟨hperm, hrows.trans (by decide), horder _ hperm⟩

end PipeTable.Table
