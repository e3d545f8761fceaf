import Mathlib
import PipeTable.Proofs.Calls
import PipeTable.Proofs.Marking
import PipeTable.Proofs.Passes
import PipeTable.Proofs.Ragged

/-! # Selections of selections

A selector comes to numbers of elements that are there, in the order and as often as it asks for
them.  So the cells of a selection are found at numbers of its rows and of its columns, and those of
a selection from a selection at numbers of these numbers.
-/

namespace PipeTable

namespace Selection

/-! ## Numbers that a selector comes to -/

/-- A progression goes one way only and stops before it passes its end. -/
theorem mem_countFrom {stop step : Int} {fuel : Nat} {start n : Int}
    (h : n ∈ countFrom stop step fuel start) :
    0 < step ∧ start ≤ n ∧ n ≤ stop ∨ step < 0 ∧ stop ≤ n ∧ n ≤ start := by
  induction fuel generalizing start with
  | zero => cases h
  | succ fuel ih =>
      rw [countFrom] at h
      split at h
      next hway =>
        rcases List.mem_cons.mp h with rfl | h
        · omega
        · have hrest := ih h
          omega
      next => cases h

section Resolving

variable {length : Nat} (hlength : 0 < length)
include hlength

/-- An end of a range that comes to an integer comes to the number of an element. -/
theorem resolveValue_mem {index v : Value} {n : Int} (h : resolveValue index length = .ok v)
    (hn : v.integer? = some n) : 1 ≤ n ∧ n ≤ length := by
  cases index with
  | int m =>
      cases h
      cases hn
      exact resolveIndex_mem hlength _
  | bool b =>
      cases h
      cases hn
      exact resolveIndex_mem hlength _
  | float x =>
      simp only [resolveValue] at h
      generalize (if x == 0.0 then Float.ofNat length
        else if x < 0.0 then Float.ofNat length + x + 1.0 else x) = position at h
      split at h
      · cases h
        cases hn
        omega
      · split at h
        · cases h
          cases hn
        · cases h
          cases hn
          omega
  | _ => cases h

theorem Atom.mem_resolve {atom : Atom} {numbers : List Int} {n : Int}
    (h : atom.resolve length = .ok numbers) (hn : n ∈ numbers) : 1 ≤ n ∧ n ≤ length := by
  cases atom with
  | index m =>
      cases h
      rw [List.mem_singleton.mp hn]
      exact resolveIndex_mem hlength m
  | range start stop step =>
      rw [Atom.resolve] at h
      split at h
      · cases h
      obtain ⟨first, hfirst, h⟩ := Outcome.bind_eq_ok.mp h
      obtain ⟨last, hlast, h⟩ := Outcome.bind_eq_ok.mp h
      split at h
      next a b s ha hb _ =>
        cases h
        have hstart := resolveValue_mem hlength (Outcome.mapError_eq_ok.mp hfirst) ha
        have hstop := resolveValue_mem hlength (Outcome.mapError_eq_ok.mp hlast) hb
        have hbetween := mem_countFrom hn
        omega
      next => cases h

end Resolving

/-- A selector comes to numbers of elements that are there. -/
theorem mem_resolve {spec : Value} {length : Nat} {numbers : List Int} {n : Int}
    (h : resolve spec length = .ok numbers) (hn : n ∈ numbers) : 1 ≤ n ∧ n ≤ length := by
  obtain ⟨atoms, -, h⟩ := Outcome.bind_eq_ok.mp h
  unfold resolveAtoms at h
  split at h
  · cases h
    cases hn
  next hlength =>
    split at h
    · cases h
      obtain ⟨i, hi, rfl⟩ := List.mem_map.mp hn
      have hbound := List.mem_range.mp hi
      simp only [Int.ofNat_eq_natCast]
      omega
    · obtain ⟨parts, hparts, h⟩ := Outcome.bind_eq_ok.mp h
      cases h
      obtain ⟨part, hpart, hn⟩ := List.mem_flatten.mp hn
      obtain ⟨atom, -, hatom⟩ := Outcome.exists_of_mem_mapM hparts hpart
      exact Atom.mem_resolve (Nat.pos_of_ne_zero hlength) hatom hn

/-! ## Selectors that are resolved -/

/-- A number, or a range with integers for its ends and for its step, which is not zero. -/
def Atom.IsStepped : Atom → Prop
  | .index _ => True
  | .range start stop step =>
    start.integer?.isSome ∧ stop.integer?.isSome ∧ ∃ s, step.integer? = some s ∧ s ≠ 0

/-- A selector that is read as numbers and ranges with steps other than zero. -/
def IsStepped (spec : Value) : Prop :=
  ∃ atoms, ofValue spec = .ok atoms ∧ ∀ atom ∈ atoms, atom.IsStepped

theorem resolveValue_of_integer? {index : Value} {n : Int} (h : index.integer? = some n)
    (length : Nat) : resolveValue index length = .ok (.int (resolveIndex n length)) := by
  cases index <;> cases h <;> rfl

theorem Atom.resolve_range {start stop step : Value} {a b s : Int} (ha : start.integer? = some a)
    (hb : stop.integer? = some b) (hs : step.integer? = some s) (hne : s ≠ 0) (length : Nat) :
    (Atom.range start stop step).resolve length =
      .ok (progression (resolveIndex a length) (resolveIndex b length) s) := by
  rw [Atom.resolve, equals_zero_of_integer? hs hne, resolveValue_of_integer? ha,
    resolveValue_of_integer? hb]
  simp only [hs]
  rfl

theorem Atom.IsStepped.exists_resolve {atom : Atom} (h : atom.IsStepped) (length : Nat) :
    ∃ numbers, atom.resolve length = .ok numbers := by
  cases atom with
  | index n => exact ⟨_, rfl⟩
  | range start stop step =>
      obtain ⟨hstart, hstop, s, hs, hne⟩ := h
      obtain ⟨a, ha⟩ := Option.isSome_iff_exists.mp hstart
      obtain ⟨b, hb⟩ := Option.isSome_iff_exists.mp hstop
      exact ⟨_, Atom.resolve_range ha hb hs hne length⟩

theorem resolve_eq {spec : Value} {atoms : List Atom} (h : ofValue spec = .ok atoms)
    (length : Nat) : resolve spec length = resolveAtoms atoms length := by
  rw [resolve, h]
  rfl

/-- A selector with steps other than zero is resolved whatever there is to select from. -/
theorem IsStepped.exists_resolve {spec : Value} (h : IsStepped spec) (length : Nat) :
    ∃ numbers, resolve spec length = .ok numbers := by
  obtain ⟨atoms, hatoms, hstepped⟩ := h
  obtain ⟨parts, hparts⟩ :=
    Outcome.exists_mapM_iff.mpr fun atom hatom => (hstepped atom hatom).exists_resolve length
  rw [resolve_eq hatoms, resolveAtoms]
  split
  · exact ⟨_, rfl⟩
  · split
    · exact ⟨_, rfl⟩
    · exact ⟨parts.flatten, by rw [hparts]; rfl⟩

end Selection

/-! ## Cells of selections -/

theorem Table.exists_nth? {α : Type} {items : List α} {n : Int} (h : 1 ≤ n ∧ n ≤ items.length) :
    ∃ item, Table.nth? items n = some item := by
  cases hitem : Table.nth? items n with
  | none => exact absurd h (Table.nth?_eq_none_iff.mp hitem)
  | some item => exact ⟨item, rfl⟩

namespace Filter

/-- The rows that are taken are those with the numbers, one after the other. -/
theorem map_pickRows {t : Table} {numbers : List Int}
    (h : ∀ n ∈ numbers, 1 ≤ n ∧ n ≤ t.height) :
    (pickRows t numbers).map some = numbers.map (Table.nth? t.dataRows) := by
  induction numbers with
  | nil => rfl
  | cons n numbers ih =>
      obtain ⟨hn, hnumbers⟩ := List.forall_mem_cons.mp h
      obtain ⟨row, hrow⟩ := Table.exists_nth? hn
      have hrest := ih hnumbers
      unfold pickRows at hrest ⊢
      rw [List.filterMap_cons_some hrow, List.map_cons, List.map_cons, hrow, hrest]

/-- The cells of a projected row are those with the numbers, one after the other. -/
theorem map_project {columns : List Int} {row : List String}
    (h : ∀ n ∈ columns, 1 ≤ n ∧ n ≤ row.length) :
    (project columns row).map some = columns.map (Table.nth? row) := by
  rw [project, List.map_map]
  refine List.map_congr_left fun n hn => ?_
  obtain ⟨cell, hcell⟩ := Table.exists_nth? (h n hn)
  simp [hcell]

end Filter

namespace Table

/-- The table has data rows only, and these consist of the given cells, none of which is missing. -/
def HasCells (t : Table) (places : List (List (Option String))) : Prop :=
  ∃ cells, t = ofCells cells ∧ cells.map (List.map some) = places

namespace HasCells

variable {s : Table} {R C : List Int} {f : Int → Int → Option String}

theorem dataRows_eq {places : List (List (Option String))} (h : s.HasCells places) :
    s.dataRows.map (List.map some) = places := by
  obtain ⟨cells, rfl, hcells⟩ := h
  rw [dataRows_ofCells, hcells]

variable (h : s.HasCells (R.map fun r => C.map (f r)))
include h

theorem height_eq : s.height = R.length := by
  simpa [height] using congrArg List.length h.dataRows_eq

theorem length_row {row : List String} (hrow : row ∈ s.dataRows) : row.length = C.length := by
  have hmem := List.mem_map_of_mem (f := List.map some) hrow
  rw [h.dataRows_eq] at hmem
  obtain ⟨r, -, hr⟩ := List.mem_map.mp hmem
  simpa using (congrArg List.length hr).symm

/-- Without rows there are no columns. -/
theorem columnCount_eq : s.columnCount = if R = [] then 0 else C.length := by
  have hheight := h.height_eq
  rw [height] at hheight
  rw [columnCount]
  cases hrows : s.dataRows with
  | nil =>
      rw [hrows] at hheight
      rw [if_pos (List.length_eq_zero_iff.mp hheight.symm)]
  | cons row rows =>
      rw [hrows] at hheight
      rw [if_neg (List.ne_nil_of_length_eq_add_one hheight.symm)]
      exact h.length_row (by rw [hrows]; exact List.mem_cons_self)

theorem rectangular : s.Rectangular := by
  intro row hrow
  have hne : R ≠ [] := by
    rintro rfl
    have hempty := List.length_eq_zero_iff.mp h.height_eq
    rw [hempty] at hrow
    cases hrow
  rw [h.columnCount_eq, if_neg hne, h.length_row hrow]

/-- A cell is the one at the numbers that its own numbers stand for. -/
theorem content?_eq (i j : Int) :
    s.content? ⟨i, j⟩ = (nth? R i).bind fun r => (nth? C j).bind (f r) := by
  have hjoin (row : List String) : nth? row j = (nth? (row.map some) j).join := by
    rw [nth?_map]
    cases nth? row j <;> rfl
  calc s.content? ⟨i, j⟩
      = (nth? (s.dataRows.map (List.map some)) i).bind fun row => (nth? row j).join := by
        rw [nth?_map, Option.bind_map, content?]
        exact Option.bind_congr fun row _ => hjoin row
    _ = (nth? R i).bind fun r => (nth? (C.map (f r)) j).join := by
        rw [h.dataRows_eq, nth?_map, Option.bind_map]
        rfl
    _ = (nth? R i).bind fun r => (nth? C j).bind (f r) := by
        simp only [nth?_map]
        cases nth? C j <;> rfl

end HasCells

/-- The selectors of two selections, one after the other, come to the given numbers. -/
structure Resolved (t : Table) (r₁ c₁ r₂ c₂ : Value) (R₁ C₁ R₂ C₂ : List Int) : Prop where
  rows₁ : Selection.resolve r₁ t.height = .ok R₁
  columns₁ : Selection.resolve c₁ t.columnCount = .ok C₁
  rows₂ : Selection.resolve r₂ R₁.length = .ok R₂
  columns₂ : Selection.resolve c₂ (if R₁ = [] then 0 else C₁.length) = .ok C₂

section Selecting

variable {t : Table} (hrect : t.Rectangular)
include hrect

/-- Selecting without a condition takes the cells at the numbers that the selectors come to. -/
theorem filter_hasCells {rows columns : Value} {R C : List Int}
    (hrows : Selection.resolve rows t.height = .ok R)
    (hcolumns : Selection.resolve columns t.columnCount = .ok C) (tolerant : Bool) :
    ∃ s, t.filter rows columns .none tolerant = .ok s ∧
      s.HasCells (R.map fun r => C.map fun c => t.content? ⟨r, c⟩) := by
  refine ⟨ofCells ((Filter.pickRows t R).map (Filter.project C)), ?_, _, rfl, ?_⟩
  · rw [filter, select, hrows, hcolumns]
    rfl
  have hpicked := Filter.map_pickRows fun n hn => Selection.mem_resolve hrows hn
  have hproject : ∀ row ∈ Filter.pickRows t R,
      (Filter.project C row).map some = C.map (nth? row) := by
    intro row hrow
    obtain ⟨n, -, hn⟩ := List.mem_filterMap.mp hrow
    refine Filter.map_project fun c hc => ?_
    rw [hrect row (mem_of_nth? hn)]
    exact Selection.mem_resolve hcolumns hc
  calc ((Filter.pickRows t R).map (Filter.project C)).map (List.map some)
      = (Filter.pickRows t R).map fun row => C.map (nth? row) := by
        rw [List.map_map]
        exact List.map_congr_left hproject
    _ = ((Filter.pickRows t R).map some).map fun row => C.map fun c => row.bind (nth? · c) := by
        rw [List.map_map]
        rfl
    _ = R.map fun r => C.map fun c => t.content? ⟨r, c⟩ := by
        rw [hpicked, List.map_map]
        rfl

/-- Selecting from a selection takes the cells of the table at those numbers of the first selectors
that the second ones come to.  Selectors with steps other than zero come to numbers. -/
theorem filter_filter (r₁ c₁ r₂ c₂ : Value) (tolerant₁ tolerant₂ : Bool) :
    (Selection.IsStepped r₁ → Selection.IsStepped c₁ → Selection.IsStepped r₂ →
      Selection.IsStepped c₂ → ∃ R₁ C₁ R₂ C₂, t.Resolved r₁ c₁ r₂ c₂ R₁ C₁ R₂ C₂) ∧
    ∀ R₁ C₁ R₂ C₂, t.Resolved r₁ c₁ r₂ c₂ R₁ C₁ R₂ C₂ →
      ∃ first second, t.filter r₁ c₁ .none tolerant₁ = .ok first ∧
        first.filter r₂ c₂ .none tolerant₂ = .ok second ∧
        second.HasCells (R₂.map fun i => C₂.map fun j =>
          (nth? R₁ i).bind fun r => (nth? C₁ j).bind fun c => t.content? ⟨r, c⟩) := by
  constructor
  · intro hr₁ hc₁ hr₂ hc₂
    obtain ⟨R₁, hR₁⟩ := hr₁.exists_resolve t.height
    obtain ⟨C₁, hC₁⟩ := hc₁.exists_resolve t.columnCount
    obtain ⟨R₂, hR₂⟩ := hr₂.exists_resolve R₁.length
    obtain ⟨C₂, hC₂⟩ := hc₂.exists_resolve (if R₁ = [] then 0 else C₁.length)
    exact ⟨R₁, C₁, R₂, C₂, hR₁, hC₁, hR₂, hC₂⟩
  · intro R₁ C₁ R₂ C₂ h
    obtain ⟨first, hfirst, hcells⟩ := filter_hasCells hrect h.rows₁ h.columns₁ tolerant₁
    have hrows₂ := h.rows₂
    have hcolumns₂ := h.columns₂
    rw [← hcells.height_eq] at hrows₂
    rw [← hcells.columnCount_eq] at hcolumns₂
    obtain ⟨second, hsecond, hplaces⟩ :=
      filter_hasCells hcells.rectangular hrows₂ hcolumns₂ tolerant₂
    refine ⟨first, second, hfirst, hsecond, ?_⟩
    simpa only [hcells.content?_eq] using hplaces

end Selecting

/-- The last row and twice the first one, and of these the last column in reverse order. -/
theorem filter_filter_reversed :
    let t := ofCells [["a", "b"], ["c", "d"]]
    let r₁ : Value := .list [.int (-1), .int 1, .int 1]
    let c₁ : Value := .text "2 1 2"
    let r₂ : Value := .text "0:1:-1"
    let c₂ : Value := .int 9
    t.Rectangular ∧
      (Selection.IsStepped r₁ ∧ Selection.IsStepped c₁ ∧ Selection.IsStepped r₂ ∧
        Selection.IsStepped c₂ ∧ ∃ R₁ C₁ R₂ C₂, t.Resolved r₁ c₁ r₂ c₂ R₁ C₁ R₂ C₂) ∧
      t.Resolved r₁ c₁ r₂ c₂ [2, 1, 1] [2, 1, 2] [3, 2, 1] [3] ∧
      ∃ first second, t.filter r₁ c₁ .none false = .ok first ∧
        first.filter r₂ c₂ .none false = .ok second ∧
        second.HasCells [[some "b"], [some "b"], [some "d"]] := by
  intro t r₁ c₁ r₂ c₂
  have hrect : t.Rectangular := by decide
  have hr₁ : Selection.IsStepped r₁ := ⟨[.index (-1), .index 1, .index 1], rfl, by
    simp [Selection.Atom.IsStepped]⟩
  have hc₁ : Selection.IsStepped c₁ := ⟨[.index 2, .index 1, .index 2], rfl, by
    simp [Selection.Atom.IsStepped]⟩
  have hatoms : Selection.ofValue r₂ = .ok [.range (.int 0) (.int 1) (.int (-1))] := rfl
  have hr₂ : Selection.IsStepped r₂ := ⟨_, hatoms, by
    simp [Selection.Atom.IsStepped, Value.integer?]⟩
  have hc₂ : Selection.IsStepped c₂ := ⟨[.index 9], rfl, by simp [Selection.Atom.IsStepped]⟩
  have hrange : (Selection.Atom.range (.int 0) (.int 1) (.int (-1))).resolve 3 = .ok [3, 2, 1] :=
    Selection.Atom.resolve_range (a := 0) (b := 1) (s := -1) rfl rfl rfl (by decide) 3
  have hreversed : Selection.resolve r₂ 3 = .ok [3, 2, 1] := by
    rw [Selection.resolve_eq hatoms, Selection.resolveAtoms, if_neg (by decide),
      if_neg (by decide), List.mapM_cons, hrange]
    rfl
  have hresolved : t.Resolved r₁ c₁ r₂ c₂ [2, 1, 1] [2, 1, 2] [3, 2, 1] [3] :=
    ⟨rfl, rfl, hreversed, rfl⟩
  obtain ⟨hnumbers, hcells⟩ := filter_filter hrect r₁ c₁ r₂ c₂ false false
  exact ⟨hrect, ⟨hr₁, hc₁, hr₂, hc₂, hnumbers hr₁ hc₁ hr₂ hc₂⟩, hresolved,
    hcells _ _ _ _ hresolved⟩

end Table

end PipeTable
