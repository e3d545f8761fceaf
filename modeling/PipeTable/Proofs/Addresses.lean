import Mathlib
import PipeTable.Proofs.Lines
import PipeTable.Proofs.Positions

/-! # Addresses of cells

The numbers of the data lines go through the data positions in order, whatever separators stand
between them.  A line and a column name a cell; writing to it changes this cell alone, and what
cannot be written changes nothing.
-/

namespace PipeTable.Table

/-! ## Numbers of items -/

theorem nth?_map {α β : Type} (f : α → β) (items : List α) (number : Int) :
    nth? (items.map f) number = (nth? items number).map f := by
  unfold nth?
  split
  · exact List.getElem?_map
  · rfl

theorem nth?_set {α : Type} {items : List α} {number : Int} (hfirst : 1 ≤ number)
    (hlast : number ≤ items.length) (a : α) (other : Int) :
    nth? (items.set (number - 1).toNat a) other =
      if other = number then some a else nth? items other := by
  unfold nth?
  by_cases heq : other = number
  · subst heq
    have hindex : (other - 1).toNat < items.length := by omega
    rw [if_pos rfl, if_pos hfirst, List.getElem?_set_self hindex]
  · rw [if_neg heq]
    split
    next hother =>
      have hne : (number - 1).toNat ≠ (other - 1).toNat := by omega
      rw [List.getElem?_set_ne hne]
    next => rfl

theorem eq_of_nth? {α : Type} {items : List α} (hnodup : items.Nodup) {number other : Int} {a : α}
    (h : nth? items number = some a) (h' : nth? items other = some a) : number = other := by
  unfold nth? at h h'
  split at h
  next hnumber =>
    split at h'
    next hother =>
      obtain ⟨hlt, ha⟩ := List.getElem?_eq_some_iff.mp h
      obtain ⟨hlt', ha'⟩ := List.getElem?_eq_some_iff.mp h'
      have hindex := hnodup.getElem_inj_iff.mp (ha.trans ha'.symm)
      omega
    next => cases h'
  next => cases h

variable {t u : Table}

/-! ## Lines -/

/-- The cell at a place stands in the row whose position is the one of its line. -/
theorem content?_eq (t : Table) (place : Cursor) :
    t.content? place =
      (nth? t.dataPositions place.line).bind fun p => nth? (t.rowAt p) place.column := by
  rw [content?, dataRows_eq_map, nth?_map, Option.bind_map]
  rfl

theorem dataRow_eq (t : Table) (line : Int) :
    t.dataRow line = (t.positionOf line).map t.rowAt := by
  rw [dataRow, positionOf, dataRows_eq_map, nth?_map]
  cases nth? t.dataPositions line <;> rfl

/-- In the row of a line, the cell of a column is the only one that gets another content. -/
theorem content?_modifyRow {place : Cursor} {p : Nat}
    (hp : nth? t.dataPositions place.line = some p) (hfirst : 1 ≤ place.column)
    (hlast : place.column ≤ (t.rowAt p).length) (content : String) (other : Cursor) :
    (t.modifyRow p fun cells => cells.set (place.column - 1).toNat content).content? other =
      if other = place then some content else t.content? other := by
  rw [content?_eq, content?_eq,
    dataPositions_of_shape (shape_modifyRow (fun _ => List.length_set) p)]
  cases hline : nth? t.dataPositions other.line with
  | none =>
      have hne : other ≠ place := by
        rintro rfl
        rw [hline] at hp
        cases hp
      rw [if_neg hne]
      rfl
  | some q =>
      rw [Option.bind_some, Option.bind_some, rowAt_modifyRow List.set_nil]
      by_cases hq : q = p
      · -- on the line of the place, the columns tell the cells apart
        subst hq
        have hsame := eq_of_nth? t.pairwise_dataPositions.nodup hp hline
        rw [if_pos rfl, nth?_set hfirst hlast]
        congr 1
        rw [Cursor.mk.injEq]
        simp [hsame]
      · have hne : other ≠ place := by
          rintro rfl
          exact hq (Option.some.inj (hline.symm.trans hp))
        rw [if_neg hq, if_neg hne]

/-- Where there is a cell, setting it gives it a new content, and all other cells and the separators
stay as they are. -/
theorem exists_setCell_of_content? {place : Cursor} {old : String}
    (hold : t.content? place = some old) (content : String) :
    ∃ u, t.setCell place.line place.column content = .ok u ∧ u.shape = t.shape ∧
      ∀ other, u.content? other = if other = place then some content else t.content? other := by
  rw [content?_eq] at hold
  obtain ⟨p, hp, hold⟩ := Option.bind_eq_some_iff.mp hold
  have hcolumn := bounds_of_nth? hold
  have hset : t.setCell place.line place.column content =
      .ok (t.modifyRow p fun cells => cells.set (place.column - 1).toNat content) := by
    simp only [setCell, dataRow_eq, positionOf, hp, Except.map, bind, Except.bind, if_pos hcolumn]
  exact ⟨_, hset, shape_setCell hset, content?_modifyRow hp hcolumn.1 hcolumn.2 content⟩

end PipeTable.Table
