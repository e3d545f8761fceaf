import Mathlib
import PipeTable.Proofs.Cells
import PipeTable.Proofs.Rollback

/-! # Shapes of tables

The shape of a table says where its separators stand and how many cells each of the other rows has.
Setting a cell and flattening a column keep the shape, so that conditions see the same grid however
often they are tested.
-/

namespace PipeTable

namespace Table

/-- The number of cells of each row, and nothing for separators. -/
def shape (t : Table) : List (Option Nat) := t.rows.map fun row => row.cells?.map List.length

variable {t u : Table}

theorem map_length_dataRows (t : Table) : t.dataRows.map List.length = t.shape.filterMap id := by
  simp only [dataRows, shape, List.map_filterMap, List.filterMap_map]
  rfl

theorem columnCount_eq (t : Table) :
    t.columnCount = ((t.dataRows.map List.length).head?).getD 0 := by
  unfold columnCount
  cases t.dataRows <;> rfl

/-- Tables of one shape have their cells at the same places. -/
theorem grid_eq_of_shape (h : t.shape = u.shape) : t.grid = u.grid := by
  have hlengths : t.dataRows.map List.length = u.dataRows.map List.length := by
    rw [map_length_dataRows, map_length_dataRows, h]
  have hheight : t.height = u.height := by
    simpa [height] using congrArg List.length hlengths
  simp only [grid, Grid.mk.injEq]
  exact ⟨hheight, by rw [columnCount_eq, columnCount_eq, hlengths]⟩

theorem shape_modifyRow {f : List String → List String}
    (hf : ∀ cells, (f cells).length = cells.length) (position : Nat) :
    (t.modifyRow position f).shape = t.shape := by
  apply List.ext_getElem?
  intro i
  simp only [shape, modifyRow, List.getElem?_map, List.getElem?_modify]
  -- only the row at the position differs, and it keeps its length
  by_cases hi : position = i
  · rcases t.rows[i]? with _ | row
    · rfl
    · cases row <;> simp [hi, Row.cells?, hf]
  · simp [hi]

theorem shape_setCell {line column : Int} {content : String}
    (h : t.setCell line column content = .ok u) : u.shape = t.shape := by
  unfold setCell at h
  obtain ⟨position, -, h⟩ := Outcome.bind_eq_ok.mp h
  obtain ⟨row, -, h⟩ := Outcome.bind_eq_ok.mp h
  split at h
  · cases h
    exact shape_modifyRow (fun cells => List.length_set) position
  · cases h

theorem shape_foldl_modifyRow {f : List String → List String}
    (hf : ∀ cells, (f cells).length = cells.length) (positions : List Nat) (t : Table) :
    (positions.foldl (fun table p => table.modifyRow p f) t).shape = t.shape := by
  induction positions generalizing t with
  | nil => rfl
  | cons position positions ih => rw [List.foldl_cons, ih, shape_modifyRow hf]

theorem shape_flattenRun {positions : List Nat} {column : Nat} {reducer : Reducer}
    (h : t.flattenRun positions column reducer = .ok u) : u.shape = t.shape := by
  unfold flattenRun at h
  cases positions with
  | nil => cases h; rfl
  | cons start others =>
      obtain ⟨values, -, h⟩ := Outcome.bind_eq_ok.mp h
      cases h
      rw [shape_modifyRow fun cells => List.length_set,
        shape_foldl_modifyRow fun cells => List.length_set]

theorem shape_flattenColumn {line column : Int} {count : Value} {reducer : Except Error Reducer}
    {positions : List Nat}
    (h : t.flattenColumn line column count reducer = .ok (u, positions)) : u.shape = t.shape := by
  unfold flattenColumn at h
  obtain ⟨-, -, h⟩ := Outcome.bind_eq_ok.mp h
  obtain ⟨start, -, h⟩ := Outcome.bind_eq_ok.mp h
  obtain ⟨rows, -, h⟩ := Outcome.bind_eq_ok.mp h
  obtain ⟨reduce, -, h⟩ := Outcome.bind_eq_ok.mp h
  obtain ⟨result, hresult, h⟩ := Outcome.bind_eq_ok.mp h
  cases h
  exact shape_flattenRun (Outcome.mapError_eq_ok.mp hresult)

end Table

/-! ## Functions of sessions -/

namespace Session

variable {s t : Session}

theorem setField_keeps {content : String} {lines columns : Int}
    (h : s.setField content lines columns = .ok (some t)) :
    t.cursor = s.cursor ∧ t.table.shape = s.table.shape := by
  unfold setField at h
  split at h
  · obtain ⟨table, htable, h⟩ := Outcome.bind_eq_ok.mp h
    cases h
    exact ⟨rfl, Table.shape_setCell htable⟩
  · cases h

theorem flatten_keeps {count reducer : Value} (h : s.flatten count reducer = .ok t) :
    t.cursor = s.cursor ∧ t.table.shape = s.table.shape := by
  unfold flatten at h
  obtain ⟨⟨table, positions⟩, htable, h⟩ := Outcome.bind_eq_ok.mp h
  cases h
  exact ⟨rfl, Table.shape_flattenColumn htable⟩

end Session

namespace Jump

open PipeTable.Expr (Bounds Eval Expression)

/-- Changes that leave the cursor and the shape of the table as they are. -/
def still : Bounds Session where
  change s t := t.cursor = s.cursor ∧ t.table.shape = s.table.shape
  failure _ := True
  refl _ := ⟨rfl, rfl⟩
  trans hst htu := ⟨htu.1.trans hst.1, htu.2.trans hst.2⟩
  own _ := trivial

theorem registry_still : Jump.registry.Within still := by
  refine registry_within (fun s t _ _ _ h => Session.setField_keeps h) (fun s t _ _ h => ?_)
    (fun s t _ _ h => Session.flatten_keeps h) fun _ _ _ _ _ => trivial
  rw [Session.remember_ok h]
  exact ⟨rfl, rfl⟩

/-- What a condition is compiled to neither moves the cursor nor changes the shape of the table when
it is tested, if none of the registered functions does. -/
theorem holds_still_of {setting : Setting} (hregistry : setting.registry.Within still)
    {sense : Sense} {room : Nat} {v : Value} {s t : Session} {c : Condition}
    (hcompile : (compile setting sense room v).run s = (.ok c, t)) : c.holds.Within still := by
  apply Condition.holds_within
  apply compile_yields setting sense (fun e he => ?_) room v s c
  · rw [hcompile]
  · rcases he with he | he <;> rw [he]
    · exact registry_still
    · exact hregistry

theorem compile_still (setting : Setting) (sense : Sense) (room : Nat) (v : Value) :
    (compile setting sense room v).Within still :=
  compile_within (b := still) setting sense (fun _ _ _ => ⟨rfl, rfl⟩) room v

/-- The test of a condition neither moves the cursor nor changes the shape of the table. -/
theorem holds_still (presets : Preset.Table) (sense : Sense) {room : Nat} {v : Value}
    {s t : Session} {c : Condition}
    (hcompile : (compile { presets } sense room v).run s = (.ok c, t)) : c.holds.Within still :=
  holds_still_of registry_still hcompile

end Jump

end PipeTable
