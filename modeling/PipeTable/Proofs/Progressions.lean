import Mathlib
import PipeTable.Proofs.Selections

/-! # Progressions that selectors come to

Each item of a selector comes to numbers for itself: a single number to the element that it means, a
range to the steps from one element to the other.  A selector comes to the numbers of its items, one
item after the other.
-/

namespace PipeTable.Selection

/-! ## Numbers of elements -/

/-- The number of the element, among so many, that a signed number means. -/
structure Means (length : Nat) (index number : Int) : Prop where
  /-- Numbers of elements stand for themselves. -/
  own : 1 ≤ index ∧ index ≤ length → number = index
  /-- Zero and all numbers beyond the last element mean the last one. -/
  last : index = 0 ∨ length < index → number = length
  /-- Negative numbers count back from the last element. -/
  back : -length ≤ index ∧ index ≤ -1 → number = length + 1 + index
  /-- Negative numbers that count back too far mean the first element. -/
  first : index < -length → number = 1

theorem means_resolveIndex {length : Nat} (hlength : 0 < length) (index : Int) :
    Means length index (resolveIndex index length) := by
  constructor <;> intro hindex <;> simp only [resolveIndex] <;> split_ifs <;> omega

/-! ## Steps -/

/-- From one number on in the direction of the step, and not past another. -/
def Within (start stop step n : Int) : Prop :=
  0 < step ∧ start ≤ n ∧ n ≤ stop ∨ step < 0 ∧ stop ≤ n ∧ n ≤ start

/-- The numbers from `start` on in steps of `step`, as many of them as are not past `stop`. -/
def Steps (start stop step : Int) (numbers : List Int) : Prop :=
  ∃ count : Nat, numbers = (List.range count).map (fun i : Nat => start + i * step) ∧
    ∀ i : Nat, i < count ↔ Within start stop step (start + i * step)

/-- Steps lead in one direction, so that only one end is to be looked at. -/
theorem within_step_iff {start stop step : Int} (i : Nat) :
    Within start stop step (start + i * step) ↔
      0 < step ∧ start + i * step ≤ stop ∨ step < 0 ∧ stop ≤ start + i * step := by
  have hup : 0 < step → 0 ≤ i * step := fun h => Int.mul_nonneg (Int.natCast_nonneg i) h.le
  have hdown : step < 0 → i * step ≤ 0 := fun h =>
    Int.mul_nonpos_of_nonneg_of_nonpos (Int.natCast_nonneg i) h.le
  unfold Within
  omega

/-- Numbers that are past their end at once have no steps. -/
theorem steps_nil {start stop step : Int}
    (h : ¬ (0 < step ∧ start ≤ stop ∨ step < 0 ∧ stop ≤ start)) : Steps start stop step [] := by
  refine ⟨0, rfl, fun i => iff_of_false (Nat.not_lt_zero i) fun hwithin => h ?_⟩
  unfold Within at hwithin
  omega

theorem Steps.cons {start stop step : Int} {numbers : List Int}
    (h : 0 < step ∧ start ≤ stop ∨ step < 0 ∧ stop ≤ start)
    (hrest : Steps (start + step) stop step numbers) : Steps start stop step (start :: numbers) := by
  obtain ⟨count, rfl, hcount⟩ := hrest
  have hnext (i : Nat) : start + step + i * step = start + (i + 1 : Nat) * step := by
    push_cast
    ring
  refine ⟨count + 1, ?_, fun i => ?_⟩
  · rw [List.range_succ_eq_map, List.map_cons, List.map_map, Nat.cast_zero, zero_mul, add_zero]
    exact congrArg (start :: ·) (List.map_congr_left fun i _ => hnext i)
  · rw [within_step_iff]
    cases i with
    | zero =>
        rw [Nat.cast_zero, zero_mul, add_zero]
        exact iff_of_true (Nat.succ_pos count) h
    | succ i => rw [Nat.succ_lt_succ_iff, hcount i, within_step_iff, hnext]

/-- Counting with fuel for all numbers between the ends does not stop early. -/
theorem countFrom_steps {stop step : Int} {fuel : Nat} {start : Int}
    (hup : 0 < step → stop - start < fuel) (hdown : step < 0 → start - stop < fuel) :
    Steps start stop step (countFrom stop step fuel start) := by
  induction fuel generalizing start with
  | zero => exact steps_nil (by omega)
  | succ fuel ih =>
      rw [countFrom]
      split
      next hmore => exact (ih (by omega) (by omega)).cons hmore
      next hpast => exact steps_nil hpast

theorem progression_steps (start stop step : Int) :
    Steps start stop step (progression start stop step) :=
  countFrom_steps (by omega) (by omega)

/-! ## Items -/

/-- An item of a selector: a number, or a range with a step that is not zero. -/
inductive Item where
  | single (n : Int)
  | range (start stop step : Int) (hstep : step ≠ 0)

namespace Item

/-- The item as it is resolved. -/
def atom : Item → Atom
  | .single n => .index n
  | .range start stop step _ => .range (.int start) (.int stop) (.int step)

/-- The items as a list of integers and of tuples of integers. -/
def listed (items : List Item) : Value := .list (items.map fun item => item.atom.toValue)

/-- The numbers that the item is resolved to. -/
def numbers (length : Nat) : Item → List Int
  | .single n => [resolveIndex n length]
  | .range start stop step _ =>
    progression (resolveIndex start length) (resolveIndex stop length) step

/-- The numbers that an item comes to: the one that its number means, or the steps between those
that the ends of its range mean. -/
inductive Selects (length : Nat) : Item → List Int → Prop
  | single {n number : Int} (h : Means length n number) : Selects length (.single n) [number]
  | range {start stop step first last : Int} {hstep : step ≠ 0} {numbers : List Int}
      (hfirst : Means length start first) (hlast : Means length stop last)
      (h : Steps first last step numbers) : Selects length (.range start stop step hstep) numbers

theorem selects_numbers {length : Nat} (hlength : 0 < length) (item : Item) :
    item.Selects length (item.numbers length) := by
  cases item with
  | single n => exact .single (means_resolveIndex hlength n)
  | range start stop step hstep =>
      exact .range (means_resolveIndex hlength start) (means_resolveIndex hlength stop)
        (progression_steps _ _ _)

theorem resolve_atom (length : Nat) (item : Item) :
    item.atom.resolve length = .ok (item.numbers length) := by
  cases item with
  | single n => rfl
  | range start stop step hstep => exact Atom.resolve_range rfl rfl rfl hstep length

theorem resolve_atoms (length : Nat) (items : List Item) :
    (items.map atom).mapM (Atom.resolve length) = .ok (items.map (numbers length)) := by
  rw [List.mapM_map]
  exact Outcome.mapM_eq_ok fun item _ => resolve_atom length item

theorem ofValue_listed (items : List Item) : ofValue (listed items) = .ok (items.map atom) := by
  have hatom : ∀ item : Item, atomOfValue item.atom.toValue = .ok item.atom := fun item => by
    cases item <;> rfl
  change (items.map fun item => item.atom.toValue).mapM atomOfValue = _
  rw [List.mapM_map]
  exact Outcome.mapM_eq_ok fun item _ => hatom item

/-- A list with items comes to what they come to, one after the other. -/
theorem resolve_listed_eq {length : Nat} (hlength : 0 < length) {items : List Item}
    (hne : items ≠ []) : resolve (listed items) length = .ok (items.flatMap (numbers length)) := by
  rw [resolve_eq (ofValue_listed items), resolveAtoms, if_neg hlength.ne',
    if_neg (by simpa using hne), resolve_atoms]
  rfl

/-- Lists are resolved whatever there is to select from. -/
theorem isStepped_listed (items : List Item) : IsStepped (listed items) := by
  refine ⟨_, ofValue_listed items, fun a ha => ?_⟩
  obtain ⟨item, -, rfl⟩ := List.mem_map.mp ha
  cases item with
  | single n => trivial
  | range start stop step hstep => exact ⟨rfl, rfl, step, rfl, hstep⟩

end Item

open Item (listed)

/-- A list of numbers and of ranges with steps other than zero comes to numbers of elements.  Unless
it is empty, these are what its items come to, one after the other, so that two lists put together
come to what the one and then the other comes to. -/
theorem resolve_listed {length : Nat} (hlength : 0 < length) :
    (∀ items, ∃ selected, resolve (listed items) length = .ok selected ∧
      (∀ n ∈ selected, 1 ≤ n ∧ n ≤ length) ∧
      (items ≠ [] → ∃ shares, List.Forall₂ (Item.Selects length) items shares ∧
        selected = shares.flatten)) ∧
    ∀ items more, items ≠ [] → more ≠ [] → ∃ selected further,
      resolve (listed items) length = .ok selected ∧ resolve (listed more) length = .ok further ∧
      resolve (listed (items ++ more)) length = .ok (selected ++ further) := by
  refine ⟨fun items => ?_, fun items more hitems hmore => ?_⟩
  · obtain ⟨selected, hselected⟩ := (Item.isStepped_listed items).exists_resolve length
    refine ⟨selected, hselected, fun n hn => mem_resolve hselected hn, fun hne =>
      ⟨items.map (Item.numbers length), ?_, ?_⟩⟩
    · rw [List.forall₂_map_right_iff, List.forall₂_same]
      exact fun item _ => item.selects_numbers hlength
    · exact Except.ok.inj (hselected.symm.trans (Item.resolve_listed_eq hlength hne))
  · refine ⟨_, _, Item.resolve_listed_eq hlength hitems, Item.resolve_listed_eq hlength hmore, ?_⟩
    rw [Item.resolve_listed_eq hlength (List.append_ne_nil_of_left_ne_nil hitems more),
      List.flatMap_append]

/-- Numbers that count back and go beyond, steps downwards that miss the end, and a range against
the direction of its steps. -/
theorem resolve_listed_mixed :
    let first : List Item := [.single (-2), .range 0 2 (-2) (by decide)]
    let second : List Item := [.range 4 2 1 (by decide), .single 9]
    0 < 5 ∧ first ≠ [] ∧ second ≠ [] ∧ ∃ selected further,
      resolve (listed first) 5 = .ok selected ∧ resolve (listed second) 5 = .ok further ∧
        resolve (listed (first ++ second)) 5 = .ok (selected ++ further) ∧
          selected = [4, 5, 3] ∧ further = [5] := by
  intro first second
  have hlength : 0 < 5 := Nat.succ_pos 4
  have hfirst : first ≠ [] := List.cons_ne_nil _ _
  have hsecond : second ≠ [] := List.cons_ne_nil _ _
  obtain ⟨selected, further, hselected, hfurther, hboth⟩ :=
    (resolve_listed hlength).2 first second hfirst hsecond
  have hlow := hselected.symm.trans (Item.resolve_listed_eq hlength hfirst)
  have hhigh := hfurther.symm.trans (Item.resolve_listed_eq hlength hsecond)
  exact ⟨hlength, hfirst, hsecond, selected, further, hselected, hfurther, hboth,
    Except.ok.inj hlow, Except.ok.inj hhigh⟩

end PipeTable.Selection
