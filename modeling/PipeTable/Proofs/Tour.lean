import Mathlib
import PipeTable.Navigation

/-! # Tours of a grid

The cells of a grid stand in an order for every direction: along the lines to the right and to the
left, along the columns downwards and upwards.  A move goes from each cell to the next one of this
order and from the last cell back to the first, so that as many moves as there are cells visit every
cell once and end where they began.
-/

namespace PipeTable

/-- The direction that takes the part of another one when lines and columns are exchanged. -/
def Direction.swap : Direction → Direction
  | .up => .left
  | .down => .right
  | .left => .up
  | .right => .down

@[simp]
theorem Direction.opposite_opposite (d : Direction) : d.opposite.opposite = d := by
  cases d <;> rfl

/-- The place with its line and its column exchanged. -/
def Cursor.swap (c : Cursor) : Cursor := ⟨c.column, c.line⟩

namespace Grid

/-- The grid with its height and its width exchanged. -/
def swap (g : Grid) : Grid := ⟨g.width, g.height⟩

/-! ## The order of a direction -/

/-- The cell with a number, counted from zero, when the lines are read one after the other. -/
def alongLines (g : Grid) (i : Nat) : Cursor := ⟨(i / g.width : Nat) + 1, (i % g.width : Nat) + 1⟩

/-- The cell with a number, counted from zero, when the columns are read one after the other. -/
def alongColumns (g : Grid) (i : Nat) : Cursor :=
  ⟨(i % g.height : Nat) + 1, (i / g.height : Nat) + 1⟩

/-- The cell with a number in the order of a direction.  Left and up count from the end. -/
def nthCell (g : Grid) : Direction → Nat → Cursor
  | .right, i => g.alongLines i
  | .down, i => g.alongColumns i
  | .left, i => g.alongLines (g.size - 1 - i)
  | .up, i => g.alongColumns (g.size - 1 - i)

/-- All cells in the order of a direction. -/
def tour (g : Grid) (d : Direction) : List Cursor := (List.range g.size).map (g.nthCell d)

/-- The cells in the cyclic order of a direction that starts just after a cursor and ends with the
cursor's own cell. -/
def circuit (g : Grid) (d : Direction) (c : Cursor) : List Cursor :=
  (g.tour d).rotate ((g.tour d).idxOf c + 1)

variable (g : Grid) (d : Direction)

@[simp]
theorem swap_size : g.swap.size = g.size := Nat.mul_comm g.width g.height

@[simp]
theorem length_tour : (g.tour d).length = g.size := by
  simp [tour]

@[simp]
theorem getElem_tour {i : Nat} (hi : i < (g.tour d).length) :
    (g.tour d)[i] = g.nthCell d i := by
  simp [tour]

@[simp]
theorem length_circuit (c : Cursor) : (g.circuit d c).length = g.size := by
  simp [circuit]

theorem contains_iff (c : Cursor) : g.contains c = true ↔
    1 ≤ c.line ∧ c.line ≤ g.height ∧ 1 ≤ c.column ∧ c.column ≤ g.width := by
  simp only [contains, Bool.and_eq_true, decide_eq_true_eq, and_assoc]

@[simp]
theorem contains_swap (c : Cursor) : g.swap.contains c.swap = g.contains c := by
  rw [Bool.eq_iff_iff, contains_iff, contains_iff]
  simp only [swap, Cursor.swap]
  tauto

/-- Exchanging lines and columns carries moves over to the exchanged direction. -/
theorem move_swap (c : Cursor) : g.swap.move d.swap c.swap = (g.move d c).swap := by
  cases d <;> simp only [Direction.swap, move] <;> rw [apply_ite Cursor.swap] <;> rfl

theorem nthCell_swap (i : Nat) : g.swap.nthCell d.swap i = (g.nthCell d i).swap := by
  cases d <;> simp only [nthCell, Direction.swap, swap_size] <;> rfl

/-! ## Numbers of cells -/

theorem contains_alongLines {i : Nat} (hi : i < g.size) : g.contains (g.alongLines i) = true := by
  have hwidth : 0 < g.width := Nat.pos_of_mul_pos_left (Nat.zero_lt_of_lt hi)
  have hcolumn : i % g.width < g.width := Nat.mod_lt _ hwidth
  have hline : i / g.width < g.height := Nat.div_lt_of_lt_mul (by rwa [Nat.mul_comm])
  rw [contains_iff]
  simp only [alongLines]
  generalize i / g.width = l at *
  generalize i % g.width = k at *
  omega

theorem exists_alongLines {c : Cursor} (hc : g.contains c = true) :
    ∃ i < g.size, g.alongLines i = c := by
  obtain ⟨hline, hheight, hcolumn, hwidth⟩ := (g.contains_iff c).mp hc
  obtain ⟨l, hl⟩ := Int.eq_ofNat_of_zero_le (show 0 ≤ c.line - 1 by omega)
  obtain ⟨k, hk⟩ := Int.eq_ofNat_of_zero_le (show 0 ≤ c.column - 1 by omega)
  have hkw : k < g.width := by omega
  refine ⟨k + g.width * l, ?_, ?_⟩
  · calc k + g.width * l < g.width * (l + 1) := by rw [Nat.mul_succ]; omega
      _ ≤ g.width * g.height := Nat.mul_le_mul_left _ (by omega)
      _ = g.size := Nat.mul_comm _ _
  · have hdiv : (k + g.width * l) / g.width = l := by
      rw [Nat.add_mul_div_left _ _ (by omega), Nat.div_eq_of_lt hkw, Nat.zero_add]
    have hmod : (k + g.width * l) % g.width = k := by
      rw [Nat.add_mul_mod_self_left, Nat.mod_eq_of_lt hkw]
    cases c
    simp only [alongLines, hdiv, hmod, Cursor.mk.injEq] at *
    omega

/-- What holds of right and left, on all grids, holds of down and up. -/
theorem of_lines {P : Grid → Direction → Prop} (hright : ∀ g, P g .right) (hleft : ∀ g, P g .left)
    (hswap : ∀ g d, P g.swap d.swap → P g d) : P g d := by
  cases d with
  | right => exact hright g
  | left => exact hleft g
  | down => exact hswap g .down (hright g.swap)
  | up => exact hswap g .up (hleft g.swap)

/-- Every number stands for a cell of the grid. -/
theorem contains_nthCell {i : Nat} (hi : i < g.size) : g.contains (g.nthCell d i) = true := by
  refine of_lines (P := fun g d => i < g.size → g.contains (g.nthCell d i) = true) g d
    (fun g hi => g.contains_alongLines hi)
    (fun g hi => g.contains_alongLines (by omega)) (fun g d hswapped hi => ?_) hi
  rw [← contains_swap, ← nthCell_swap]
  exact hswapped (by rwa [swap_size])

/-- Every cell of the grid has a number. -/
theorem exists_nthCell {c : Cursor} (hc : g.contains c = true) :
    ∃ i < g.size, g.nthCell d i = c := by
  refine of_lines (P := fun g d => ∀ c, g.contains c = true → ∃ i < g.size, g.nthCell d i = c) g d
    (fun g c hc => g.exists_alongLines hc) (fun g c hc => ?_) (fun g d hswapped c hc => ?_) c hc
  · obtain ⟨i, hi, rfl⟩ := g.exists_alongLines hc
    exact ⟨g.size - 1 - i, by omega, congrArg g.alongLines (by omega)⟩
  · obtain ⟨i, hi, heq⟩ := hswapped c.swap ((g.contains_swap c).trans hc)
    rw [nthCell_swap] at heq
    exact ⟨i, by rwa [swap_size] at hi, congrArg Cursor.swap heq⟩

theorem alongLines_injective : Function.Injective g.alongLines := by
  intro i j h
  simp only [alongLines, Cursor.mk.injEq] at h
  rw [← Nat.div_add_mod i g.width, ← Nat.div_add_mod j g.width,
    show i / g.width = j / g.width by omega, show i % g.width = j % g.width by omega]

/-- Different numbers stand for different cells. -/
theorem nthCell_inj {i j : Nat} (hi : i < g.size) (hj : j < g.size)
    (h : g.nthCell d i = g.nthCell d j) : i = j := by
  refine of_lines (P := fun g d => i < g.size → j < g.size →
      g.nthCell d i = g.nthCell d j → i = j) g d
    (fun g _ _ h => g.alongLines_injective h) (fun g hi hj h => ?_)
    (fun g d hswapped hi hj h => ?_) hi hj h
  · have := g.alongLines_injective h
    omega
  · rw [swap_size, nthCell_swap, nthCell_swap] at hswapped
    exact hswapped hi hj (congrArg Cursor.swap h)

theorem nodup_tour : (g.tour d).Nodup := by
  refine List.Nodup.map_on (fun i hi j hj h => ?_) List.nodup_range
  exact g.nthCell_inj d (List.mem_range.mp hi) (List.mem_range.mp hj) h

/-- A circuit passes through no cell twice. -/
theorem nodup_circuit (c : Cursor) : (g.circuit d c).Nodup :=
  List.nodup_rotate.mpr (g.nodup_tour d)

theorem mem_tour (c : Cursor) : c ∈ g.tour d ↔ g.contains c = true := by
  simp only [tour, List.mem_map, List.mem_range]
  constructor
  · rintro ⟨i, hi, rfl⟩
    exact g.contains_nthCell d hi
  · exact g.exists_nthCell d

/-- A circuit passes through all cells of the grid. -/
theorem mem_circuit (c place : Cursor) : place ∈ g.circuit d c ↔ g.contains place = true := by
  rw [circuit, List.mem_rotate, mem_tour]

/-! ## Moves -/

theorem move_right_alongLines {i : Nat} (hi : i < g.size) :
    g.move .right (g.alongLines i) = g.alongLines ((i + 1) % g.size) := by
  have hwidth : 0 < g.width := Nat.pos_of_mul_pos_left (Nat.zero_lt_of_lt hi)
  have hsplit : g.width * (i / g.width) + i % g.width = i := Nat.div_add_mod i g.width
  have hcolumn : i % g.width < g.width := Nat.mod_lt _ hwidth
  have hsize : g.size = g.width * g.height := Nat.mul_comm _ _
  have hline : i / g.width < g.height := Nat.div_lt_of_lt_mul (by rwa [← hsize])
  have hcell : g.alongLines i = ⟨(i / g.width : Nat) + 1, (i % g.width : Nat) + 1⟩ := rfl
  by_cases hinner : i % g.width + 1 < g.width
  · -- the next cell stands on the same line
    have hnext : i + 1 < g.size := by
      have := Nat.mul_le_mul_left g.width (Nat.succ_le_of_lt hline)
      rw [Nat.mul_succ] at this
      omega
    have hdiv : (i + 1) / g.width = i / g.width :=
      Nat.div_eq_of_lt_le (by rw [Nat.mul_comm]; omega) (by rw [Nat.succ_mul, Nat.mul_comm]; omega)
    have hmod : (i + 1) % g.width = i % g.width + 1 := by
      rw [Nat.add_mod, Nat.mod_eq_of_lt (by omega : 1 < g.width), Nat.mod_eq_of_lt hinner]
    rw [Nat.mod_eq_of_lt hnext, hcell, alongLines, hdiv, hmod]
    generalize i % g.width = k at *
    simp only [move]
    rw [if_pos (by omega)]
    rfl
  · -- the line ends here
    have hnext : i + 1 = g.width * (i / g.width + 1) := by rw [Nat.mul_succ]; omega
    rw [hcell]
    generalize i % g.width = k at *
    generalize i / g.width = l at *
    simp only [move]
    rw [if_neg (by omega)]
    by_cases hlast : l + 1 < g.height
    · have hlt : i + 1 < g.size := by
        rw [hnext, hsize]
        exact Nat.mul_lt_mul_of_pos_left hlast hwidth
      rw [Nat.mod_eq_of_lt hlt, alongLines, hnext, Nat.mul_div_cancel_left _ hwidth,
        Nat.mul_mod_right, if_pos (by omega)]
      rfl
    · have heq : i + 1 = g.size := by
        rw [hnext, hsize, show l + 1 = g.height by omega]
      rw [heq, Nat.mod_self, alongLines, Nat.zero_div, Nat.zero_mod, if_neg (by omega)]
      rfl

theorem move_left_right {c : Cursor} (hc : g.contains c = true) :
    g.move .left (g.move .right c) = c := by
  rw [contains_iff] at hc
  cases c
  simp only [move] at *
  split_ifs <;> simp_all <;> omega

/-- Counted from the end, the number after next is the number before. -/
theorem succ_reflected {i n : Nat} (hi : i < n) :
    (n - 1 - (i + 1) % n + 1) % n = n - 1 - i := by
  rcases Nat.lt_or_eq_of_le (Nat.succ_le_of_lt hi) with hlt | heq
  · rw [Nat.mod_eq_of_lt hlt, Nat.mod_eq_of_lt (by omega)]
    omega
  · rw [Nat.succ_eq_add_one] at heq
    rw [heq, Nat.mod_self, show n - 1 - 0 + 1 = n by omega, Nat.mod_self]
    omega

/-- A move goes to the next cell of its direction's order, and from the last cell to the first. -/
theorem move_nthCell {i : Nat} (hi : i < g.size) :
    g.move d (g.nthCell d i) = g.nthCell d ((i + 1) % g.size) := by
  refine of_lines (P := fun g d => i < g.size →
      g.move d (g.nthCell d i) = g.nthCell d ((i + 1) % g.size)) g d
    (fun g hi => g.move_right_alongLines hi) (fun g hi => ?_) (fun g d hswapped hi => ?_) hi
  · -- moving left undoes the move to the right that led here
    have hj : g.size - 1 - (i + 1) % g.size < g.size := by omega
    have hright := g.move_right_alongLines hj
    rw [succ_reflected hi] at hright
    simp only [nthCell]
    rw [← hright, move_left_right g (g.contains_alongLines hj)]
  · have hmove := hswapped (by rwa [swap_size])
    rw [swap_size, nthCell_swap, nthCell_swap, move_swap] at hmove
    exact congrArg Cursor.swap hmove

theorem contains_move {c : Cursor} (hc : g.contains c = true) :
    g.contains (g.move d c) = true := by
  obtain ⟨i, hi, rfl⟩ := g.exists_nthCell d hc
  rw [g.move_nthCell d hi]
  exact g.contains_nthCell d (Nat.mod_lt _ (by omega))

theorem iterate_move_nthCell {i : Nat} (hi : i < g.size) (k : Nat) :
    (g.move d)^[k] (g.nthCell d i) = g.nthCell d ((i + k) % g.size) := by
  induction k with
  | zero => rw [Nat.add_zero, Nat.mod_eq_of_lt hi, Function.iterate_zero, id]
  | succ k ih =>
      rw [Function.iterate_succ_apply', ih, g.move_nthCell d (Nat.mod_lt _ (by omega)),
        Nat.mod_add_mod, Nat.add_assoc]

/-- The cells that as many moves as there are cells lead to are the circuit of the start. -/
theorem iterate_eq_circuit {c : Cursor} (hc : g.contains c = true) :
    List.iterate (g.move d) (g.move d c) g.size = g.circuit d c := by
  have hi : (g.tour d).idxOf c < (g.tour d).length :=
    List.idxOf_lt_length_of_mem ((g.mem_tour d c).mpr hc)
  have hcell : g.nthCell d ((g.tour d).idxOf c) = c := by
    rw [← getElem_tour g d hi]
    exact List.getElem_idxOf hi
  apply List.ext_getElem
  · simp
  · intro k _ _
    simp only [circuit, List.getElem_iterate, List.getElem_rotate, getElem_tour, length_tour]
    rw [← Function.iterate_succ_apply]
    conv_lhs => rw [← hcell]
    rw [g.iterate_move_nthCell d (by rwa [← g.length_tour d])]
    congr 2
    omega

/-- As many moves as there are cells end where they began. -/
theorem iterate_move_size {c : Cursor} (hc : g.contains c = true) :
    (g.move d)^[g.size] c = c := by
  obtain ⟨i, hi, rfl⟩ := g.exists_nthCell d hc
  rw [g.iterate_move_nthCell d hi, Nat.add_mod_right, Nat.mod_eq_of_lt hi]

/-- The last cell of a circuit is the one that it starts from. -/
theorem getLast?_circuit {c : Cursor} (hc : g.contains c = true) :
    (g.circuit d c).getLast? = some c := by
  have hsize : 0 < g.size := by
    obtain ⟨i, hi, -⟩ := g.exists_nthCell d hc
    exact Nat.zero_lt_of_lt hi
  rw [← g.iterate_eq_circuit d hc, List.getLast?_eq_getElem?, List.length_iterate,
    List.getElem?_eq_getElem (by simp; omega), List.getElem_iterate,
    ← Function.iterate_succ_apply, Nat.succ_eq_add_one, Nat.sub_add_cancel hsize,
    g.iterate_move_size d hc]

/-! ## Going around -/

/-- The cells of the grid. -/
def cells : Set Cursor := {c | g.contains c = true}

/-- The order of the opposite direction is the same one, read backwards. -/
theorem nthCell_opposite {i : Nat} (hi : i < g.size) :
    g.nthCell d.opposite i = g.nthCell d (g.size - 1 - i) := by
  have htwice : g.size - 1 - (g.size - 1 - i) = i := by omega
  cases d <;> simp only [Direction.opposite, nthCell, htwice]

/-- A move in the opposite direction goes back to where a move came from. -/
theorem move_opposite {c : Cursor} (hc : g.contains c = true) :
    g.move d.opposite (g.move d c) = c := by
  obtain ⟨i, hi, rfl⟩ := g.exists_nthCell d hc
  have hsize : 0 < g.size := Nat.zero_lt_of_lt hi
  have hback : g.nthCell d ((i + 1) % g.size) =
      g.nthCell d.opposite (g.size - 1 - (i + 1) % g.size) := by
    have hnext : (i + 1) % g.size < g.size := Nat.mod_lt _ hsize
    rw [nthCell_opposite g d (by omega)]
    exact congrArg _ (by omega)
  rw [g.move_nthCell d hi, hback, g.move_nthCell d.opposite (by omega), succ_reflected hi,
    nthCell_opposite g d (by omega)]
  exact congrArg _ (by omega)

/-- The cells that a number of moves in a direction lead to, one after the other. -/
def visits (c : Cursor) (moves : Nat) : List Cursor := List.iterate (g.move d) (g.move d c) moves

/-- On the cells of any grid, the moves in a direction and in the opposite one are bijections and
undo each other, and as many moves as there are cells visit every cell once and the start last. -/
theorem moves_go_around :
    Set.BijOn (g.move d) g.cells g.cells ∧
      Set.InvOn (g.move d.opposite) (g.move d) g.cells g.cells ∧
      ∀ c ∈ g.cells,
        (∀ place ∈ g.cells, (g.visits d c (g.height * g.width)).count place = 1) ∧
          (∀ place ∈ g.visits d c (g.height * g.width), place ∈ g.cells) ∧
          (g.visits d c (g.height * g.width)).getLast? = some c := by
  have hback : Set.InvOn (g.move d.opposite) (g.move d) g.cells g.cells := by
    refine ⟨fun c hc => g.move_opposite d hc, fun c hc => ?_⟩
    have hthere := g.move_opposite d.opposite hc
    rwa [Direction.opposite_opposite] at hthere
  refine ⟨hback.bijOn (fun c hc => g.contains_move d hc) fun c hc => g.contains_move d.opposite hc,
    hback, ?_⟩
  intro c hc
  rw [visits, ← size, g.iterate_eq_circuit d hc]
  refine ⟨fun place hplace => ?_, fun place hplace => (g.mem_circuit d c place).mp hplace,
    g.getLast?_circuit d hc⟩
  exact List.count_eq_one_of_mem (g.nodup_circuit d c) ((g.mem_circuit d c place).mpr hplace)

/-- Three lines of two cells, upwards from the first cell. -/
theorem moves_go_around_upwards :
    let g : Grid := ⟨3, 2⟩
    let upwards : List Cursor := [⟨3, 2⟩, ⟨2, 2⟩, ⟨1, 2⟩, ⟨3, 1⟩, ⟨2, 1⟩, ⟨1, 1⟩]
    (⟨1, 1⟩ : Cursor) ∈ g.cells ∧ g.visits .up ⟨1, 1⟩ 6 = upwards ∧
      (∀ place ∈ g.cells, upwards.count place = 1) ∧ (∀ place ∈ upwards, place ∈ g.cells) ∧
      upwards.getLast? = some ⟨1, 1⟩ := by
  intro g upwards
  have hstart : (⟨1, 1⟩ : Cursor) ∈ g.cells := by
    change g.contains ⟨1, 1⟩ = true
    decide
  have hvisits : g.visits .up ⟨1, 1⟩ 6 = upwards := by decide
  have haround := (moves_go_around g .up).2.2 ⟨1, 1⟩ hstart
  rw [show g.height * g.width = 6 from rfl, hvisits] at haround
  exact ⟨hstart, hvisits, haround⟩

end Grid

end PipeTable
