import Mathlib
import PipeTable.Text.Wrap

/-! # Wrapped lines

Filling lines greedily needs no more of them than any other way to put the words on lines: at every
word, the greedy lines are fewer, or as many with no more on the last one.  So where words can be
put on a number of lines of a width at all, wrapping to this width does so too, and no greater width
has to be tried.  Where they cannot, some greater width will do: at the latest the whole text is one
line.
-/

namespace PipeTable.Text

/-! ## Words on a line -/

theorem length_le_intercalate {separator word : String} {line : List String} (h : word ∈ line) :
    word.length ≤ (separator.intercalate line).length := by
  induction line with
  | nil => cases h
  | cons first rest ih =>
      cases rest with
      | nil =>
          obtain rfl := List.mem_singleton.mp h
          simp
      | cons second rest =>
          rw [String.intercalate_cons_cons, String.length_append, String.length_append]
          rcases List.mem_cons.mp h with rfl | h
          · omega
          · have := ih h
            omega

theorem intercalate_blank (current word : String) (line : List String) :
    " ".intercalate (current :: word :: line) =
      " ".intercalate ((current ++ " " ++ word) :: line) := by
  rw [String.intercalate_cons_cons, String.intercalate_cons_append]

/-! ## Filling lines -/

section Fill

variable {width : Nat}

theorem fillLines_of_le {current word : String} (h : current.length + 1 + word.length ≤ width)
    (more : List String) :
    fillLines width current (word :: more) = fillLines width (current ++ " " ++ word) more := by
  rw [fillLines, if_pos h]

theorem fillLines_of_lt {current word : String} (h : width < current.length + 1 + word.length)
    (more : List String) :
    fillLines width current (word :: more) = current :: fillLines width word more := by
  rw [fillLines, if_neg (by omega)]

theorem length_append_blank (current word : String) :
    (current ++ " " ++ word).length = current.length + 1 + word.length := by
  rw [String.length_append, String.length_append]
  rfl

/-- A shorter line to start from needs no more lines, and whatever the line to start from, one line
more is enough. -/
theorem length_fillLines_le (words : List String) (current other : String) :
    (current.length ≤ other.length →
      (fillLines width current words).length ≤ (fillLines width other words).length) ∧
    (fillLines width current words).length ≤ (fillLines width other words).length + 1 := by
  induction words generalizing current other with
  | nil => simp [fillLines]
  | cons word more ih =>
      -- the next word goes to either line or starts a new one, which the other start may do too
      have hcurrent := ih (current ++ " " ++ word)
      have hword := ih word
      simp only [length_append_blank] at hcurrent hword
      rcases Nat.lt_or_ge width (current.length + 1 + word.length) with hc | hc <;>
        rcases Nat.lt_or_ge width (other.length + 1 + word.length) with ho | ho
      · rw [fillLines_of_lt hc, fillLines_of_lt ho, List.length_cons, List.length_cons]
        omega
      · rw [fillLines_of_lt hc, fillLines_of_le ho, List.length_cons]
        have := (hword (other ++ " " ++ word)).1 (by rw [length_append_blank]; omega)
        omega
      · rw [fillLines_of_le hc, fillLines_of_lt ho, List.length_cons]
        have := (hcurrent word).2
        omega
      · rw [fillLines_of_le hc, fillLines_of_le ho]
        obtain ⟨hmono, hone⟩ := hcurrent (other ++ " " ++ word)
        rw [length_append_blank] at hmono
        exact ⟨fun h => hmono (by omega), hone⟩

/-- What fits on a line together with the words on it already is put there. -/
theorem fillLines_append {current : String} {line : List String}
    (h : (" ".intercalate (current :: line)).length ≤ width) (rest : List String) :
    fillLines width current (line ++ rest) =
      fillLines width (" ".intercalate (current :: line)) rest := by
  induction line generalizing current with
  | nil => rw [List.nil_append, String.intercalate_singleton]
  | cons word line ih =>
      rw [intercalate_blank] at h ⊢
      have hnext : (current ++ " " ++ word).length ≤ width :=
        (length_le_intercalate List.mem_cons_self).trans h
      rw [length_append_blank] at hnext
      rw [List.cons_append, fillLines_of_le hnext, ih h]

theorem length_fillLines_cons_le (width : Nat) (current word : String) (more : List String) :
    (fillLines width current (word :: more)).length ≤ (fillLines width word more).length + 1 := by
  rcases Nat.lt_or_ge width (current.length + 1 + word.length) with h | h
  · rw [fillLines_of_lt h, List.length_cons]
  · rw [fillLines_of_le h]
    exact (length_fillLines_le more _ word).2

/-- No way to put words on lines, each within the width or of a single word, needs fewer lines. -/
theorem length_fillLines_le_of_flatten {lines : List (List String)} {first : String}
    {more : List String} (hwords : lines.flatten = first :: more)
    (hfits : ∀ line ∈ lines, (" ".intercalate line).length ≤ width ∨ line.length = 1) :
    (fillLines width first more).length ≤ lines.length := by
  induction lines generalizing first more with
  | nil => cases hwords
  | cons line lines ih =>
      have hrest := fun {first more} h => @ih first more h fun line hline =>
        hfits line (List.mem_cons_of_mem _ hline)
      cases line with
      | nil =>
          have := hrest hwords
          rw [List.length_cons]
          omega
      | cons head line =>
          rw [List.flatten_cons, List.cons_append, List.cons.injEq] at hwords
          obtain ⟨rfl, rfl⟩ := hwords
          have hline : fillLines width head (line ++ lines.flatten) =
              fillLines width (" ".intercalate (head :: line)) lines.flatten := by
            rcases hfits (head :: line) List.mem_cons_self with h | h
            · exact fillLines_append h _
            · obtain rfl : line = [] := by simpa using h
              rw [List.nil_append, String.intercalate_singleton]
          rw [hline, List.length_cons]
          cases hflatten : lines.flatten with
          | nil => simp [fillLines]
          | cons word words =>
              have := length_fillLines_cons_le width (" ".intercalate (head :: line)) word words
              have := hrest hflatten
              omega

theorem length_le_of_mem_fillLines {current line : String} {words : List String}
    (hcurrent : current.length ≤ width) (hwords : ∀ word ∈ words, word.length ≤ width)
    (h : line ∈ fillLines width current words) : line.length ≤ width := by
  induction words generalizing current with
  | nil =>
      obtain rfl := List.mem_singleton.mp h
      exact hcurrent
  | cons word more ih =>
      have hmore := fun word' h => hwords word' (List.mem_cons_of_mem word h)
      rcases Nat.lt_or_ge width (current.length + 1 + word.length) with hlt | hle
      · rw [fillLines_of_lt hlt] at h
        rcases List.mem_cons.mp h with rfl | h
        · exact hcurrent
        · exact ih (hwords word List.mem_cons_self) hmore h
      · rw [fillLines_of_le hle] at h
        exact ih (by rwa [length_append_blank]) hmore h

end Fill

/-! ## Wrapping -/

/-- The words of a text can be put, in order and joined by single blanks, on a number of lines
within a width. -/
def Breakable (text : String) (width count : Nat) : Prop :=
  ∃ lines : List (List String), lines.length ≤ count ∧ lines.flatten = words text ∧
    ∀ line ∈ lines, (" ".intercalate line).length ≤ width

section Wrap

variable {text : String} {width count : Nat}

theorem wrap_max (text : String) (width : Nat) : wrap text (max 1 width) = wrap text width := by
  simp only [wrap, Nat.max_eq_right (Nat.le_max_left 1 width)]

/-- A text that fits is left as it is, and the words of any other fill lines, if it has words. -/
theorem wrap_cases (text : String) (width : Nat) :
    text.length ≤ max 1 width ∧ wrap text width = [text] ∨
    words text = [] ∧ wrap text width = [""] ∨
    ∃ first more, words text = first :: more ∧
      wrap text width = fillLines (max 1 width) first more := by
  simp only [wrap]
  split
  next hshort => exact .inl ⟨hshort, rfl⟩
  · split
    next hnone => exact .inr (.inl ⟨hnone, rfl⟩)
    next first more hwords => exact .inr (.inr ⟨first, more, hwords, rfl⟩)

/-- However the words of a text are put on lines, wrapping it needs no more of them, or only one. -/
theorem length_wrap_le_of_flatten (hwidth : 1 ≤ width) {lines : List (List String)}
    (hwords : lines.flatten = words text)
    (hfits : ∀ line ∈ lines, (" ".intercalate line).length ≤ width ∨ line.length = 1) :
    (wrap text width).length ≤ max 1 lines.length := by
  rcases wrap_cases text width with ⟨-, hwrap⟩ | ⟨-, hwrap⟩ | ⟨first, more, hfirst, hwrap⟩
  · rw [hwrap]
    exact Nat.le_max_left 1 _
  · rw [hwrap]
    exact Nat.le_max_left 1 _
  · rw [hwrap, Nat.max_eq_right hwidth]
    exact (length_fillLines_le_of_flatten (hwords.trans hfirst) hfits).trans (Nat.le_max_right 1 _)

theorem length_wrap_le (hwidth : 1 ≤ width) (hcount : 1 ≤ count) (h : Breakable text width count) :
    (wrap text width).length ≤ count := by
  obtain ⟨lines, hlines, hwords, hfits⟩ := h
  exact (length_wrap_le_of_flatten hwidth hwords fun line hline => .inl (hfits line hline)).trans
    (Nat.max_le.mpr ⟨hcount, hlines⟩)

theorem length_le_of_mem_wrap (hwidth : 1 ≤ width) (h : Breakable text width count) {line : String}
    (hline : line ∈ wrap text width) : line.length ≤ width := by
  obtain ⟨lines, -, hwords, hfits⟩ := h
  have hword : ∀ word ∈ words text, word.length ≤ width := by
    intro word hword
    rw [← hwords] at hword
    obtain ⟨line, hline, hword⟩ := List.mem_flatten.mp hword
    exact (length_le_intercalate hword).trans (hfits line hline)
  rcases wrap_cases text width with ⟨hshort, hwrap⟩ | ⟨-, hwrap⟩ | ⟨first, more, hfirst, hwrap⟩ <;>
    rw [hwrap] at hline
  · obtain rfl := List.mem_singleton.mp hline
    rwa [Nat.max_eq_right hwidth] at hshort
  · obtain rfl := List.mem_singleton.mp hline
    exact Nat.zero_le width
  · obtain ⟨hhead, hmore⟩ := List.forall_mem_cons.mp (hfirst ▸ hword)
    rw [Nat.max_eq_right hwidth] at hline
    exact length_le_of_mem_fillLines hhead hmore hline

/-- Where the first width will do, no greater one is tried. -/
theorem fit_eq_wrap (h : (wrap text width).length ≤ count) :
    fit text width count = wrap text width := by
  rw [← wrap_max] at h ⊢
  rw [fit]
  cases max (max 1 width) text.length - max 1 width with
  | zero => rw [fitWithin]
  | succ fuel => rw [fitWithin, if_pos h]

/-- Fitting ends with few enough lines: at the latest where the width has grown to the text. -/
theorem length_fitWithin_le (hcount : 1 ≤ count) (fuel width : Nat)
    (h : text.length ≤ width + fuel) : (fitWithin text count fuel width).length ≤ count := by
  induction fuel generalizing width with
  | zero =>
      rw [fitWithin, wrap, if_pos (h.trans (Nat.le_max_right 1 width))]
      exact hcount
  | succ fuel ih =>
      simp only [fitWithin]
      split
      next hfew => exact hfew
      · exact ih (width + 1) (by omega)

theorem length_fit_le (hcount : 1 ≤ count) (text : String) (width : Nat) :
    (fit text width count).length ≤ count :=
  length_fitWithin_le hcount _ _ (by omega)

/-- A text that is within a width, or whose words can be put on as many lines within it, is fitted
without a greater width. -/
theorem length_le_of_mem_fit (hcount : 1 ≤ count)
    (h : text.length ≤ width ∨ 1 ≤ width ∧ Breakable text width count) {line : String}
    (hline : line ∈ fit text width count) : line.length ≤ width := by
  rcases h with h | ⟨hwidth, hbreak⟩
  · have hwrap : wrap text width = [text] := by
      rw [wrap, if_pos (h.trans (Nat.le_max_right 1 width))]
    rw [fit_eq_wrap (by rw [hwrap]; exact hcount), hwrap] at hline
    obtain rfl := List.mem_singleton.mp hline
    exact h
  · rw [fit_eq_wrap (length_wrap_le hwidth hcount hbreak)] at hline
    exact length_le_of_mem_wrap hwidth hbreak hline

end Wrap

end PipeTable.Text
