import Mathlib
import PipeTable.Proofs.Flattening

/-! # What flattening leaves of a table

The columns of a span take rows of their own, in either direction from the same start.  Of the cells
of a table only those of taken rows change, each column in its own rows, and of the rows only those
go that some column took and that are blank when all columns are done.
-/

namespace PipeTable.Table

variable {t u : Table} {start : Nat} {count : Int} {reduce : Reducer}

/-! ## Rows that a run takes -/

/-- The data rows from one position on to before another. -/
def between (t : Table) (low high : Nat) : List Nat :=
  t.dataPositions.filter fun p => low ≤ p ∧ p < high

/-- A run of a count of rows reaches a position: fewer data rows lie between it and the start, which
counts too, than the run takes.  It takes one row at least. -/
def Reaches (t : Table) (start : Nat) (count : Int) (p : Nat) : Prop :=
  if 0 < count then start ≤ p ∧ (t.between start p).length < max 1 count.natAbs
  else p ≤ start ∧ (t.between (p + 1) (start + 1)).length < max 1 count.natAbs

instance (t : Table) (start : Nat) (count : Int) : DecidablePred (t.Reaches start count) := fun p =>
  inferInstanceAs (Decidable (if 0 < count then start ≤ p ∧ _ else p ≤ start ∧ _))

/-- The data rows that a run takes, from top to bottom. -/
def taken (t : Table) (start : Nat) (count : Int) : List Nat :=
  t.dataPositions.filter fun p => t.Reaches start count p

/-- The rows that a run takes depend on the shape only. -/
theorem taken_of_shape (h : u.shape = t.shape) (start : Nat) (count : Int) :
    u.taken start count = t.taken start count := by
  have hpositions := dataPositions_of_shape h
  have hreaches (p : Nat) : u.Reaches start count p ↔ t.Reaches start count p := by
    unfold Reaches between
    rw [hpositions]
  simp only [taken, hpositions, hreaches]

/-! ## Reduced columns -/

/-- The cell of a row in a column, counted from one. -/
def cellAt (t : Table) (p column : Nat) : String := (t.rowAt p).getD (column - 1) ""

/-- Some columns of a table, each with the count of the rows that it takes, were reduced into one
row, and nothing else has changed. -/
structure Flattened (t : Table) (start : Nat) (reduce : Reducer) (runs : List (Nat × Int))
    (flat : Table) : Prop where
  shape_eq : flat.shape = t.shape
  reduced : ∀ run ∈ runs, flat.cellAt start run.1 =
    (reduce ((t.taken start run.2).map fun p => Text.strip (t.cellAt p run.1))).shown
  emptied : ∀ run ∈ runs, ∀ p ∈ t.taken start run.2, p ≠ start → flat.cellAt p run.1 = ""
  unchanged : ∀ p column, 1 ≤ column →
    (∀ run ∈ runs, run.1 = column → p ∉ t.taken start run.2) →
      flat.cellAt p column = t.cellAt p column

theorem Flattened.refl (t : Table) (start : Nat) (reduce : Reducer) :
    Flattened t start reduce [] t := ⟨rfl, nofun, nofun, fun _ _ _ _ => rfl⟩

/-- One more column goes before the others. -/
theorem Flattened.cons {run : Nat × Int} {runs : List (Nat × Int)} {next flat : Table}
    (hrun : 1 ≤ run.1) (hruns : ∀ other ∈ runs, 1 ≤ other.1 ∧ other.1 ≠ run.1)
    (hfirst : Flattened t start reduce [run] next)
    (hrest : Flattened next start reduce runs flat) :
    Flattened t start reduce (run :: runs) flat := by
  have htaken := taken_of_shape hfirst.shape_eq start
  -- the other columns are as they were when it is their turn
  have hothers : ∀ other ∈ runs, ∀ p, next.cellAt p other.1 = t.cellAt p other.1 := by
    intro other hother p
    obtain ⟨hone, hne⟩ := hruns other hother
    refine hfirst.unchanged p other.1 hone ?_
    rintro r hr heq
    exact absurd ((List.mem_singleton.mp hr) ▸ heq).symm hne
  have hlast : ∀ p, flat.cellAt p run.1 = next.cellAt p run.1 := fun p =>
    hrest.unchanged p run.1 hrun fun other hother heq => absurd heq (hruns other hother).2
  refine ⟨hrest.shape_eq.trans hfirst.shape_eq, ?_, ?_, ?_⟩
  · refine List.forall_mem_cons.mpr ⟨?_, fun other hother => ?_⟩
    · rw [hlast, hfirst.reduced run List.mem_cons_self]
    · rw [hrest.reduced other hother, htaken]
      simp only [hothers other hother]
  · refine List.forall_mem_cons.mpr ⟨fun p hp hne => ?_, fun other hother p hp hne => ?_⟩
    · rw [hlast, hfirst.emptied run List.mem_cons_self p hp hne]
    · exact hrest.emptied other hother p (by rwa [htaken]) hne
  · intro p column hcolumn hnone
    obtain ⟨hnot, hnone⟩ := List.forall_mem_cons.mp hnone
    rw [hrest.unchanged p column hcolumn fun other hother heq => by
        rw [htaken]
        exact hnone other hother heq,
      hfirst.unchanged p column hcolumn fun r hr heq => by
        obtain rfl := List.mem_singleton.mp hr
        exact hnot heq]

/-- What a count of rows asks for at a row: as many as it says, or no count those down to the next
separator. -/
def Asks (t : Table) (start : Nat) (count : Value) (n : Int) : Prop :=
  count = .none ∧ n = t.rowsUntilSeparator start ∨ count ≠ .none ∧ count.toInteger = .ok n

/-- The counts that are given for the columns of a span: a list or a tuple of as many, or the same
one for each of them. -/
def GivesCounts (columns : Nat) (counts : Value) (given : List Value) : Prop :=
  (counts = .list given ∨ counts = .tuple given) ∧ given.length = columns ∨
    (∀ items, counts ≠ .list items ∧ counts ≠ .tuple items) ∧
      given = List.replicate columns counts

theorem GivesCounts.length_eq {columns : Nat} {counts : Value} {given : List Value}
    (h : GivesCounts columns counts given) : given.length = columns := by
  rcases h with ⟨-, hlength⟩ | ⟨-, rfl⟩
  · exact hlength
  · exact List.length_replicate

end PipeTable.Table
