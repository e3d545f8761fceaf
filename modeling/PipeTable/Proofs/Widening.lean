import Mathlib
import PipeTable.Proofs.Fewest

/-! # Widening

A text that needs too many lines is wrapped to greater and greater widths.  The search ends at the
least width that will do, at the latest at the length of the text.  Nothing is lost by not looking
any further: wrapping to a greater width never takes more lines, whether or not the text is left as
it is there.
-/

namespace PipeTable.Text

variable {text : String} {count : Nat}

/-! ## Greater widths -/

/-- The lines that the words of a text fill are a way to put them on lines. -/
theorem putOnLines_fillLines {first : String} {more : List String}
    (hwords : words text = first :: more) (width : Nat) :
    PutOnLines width (words text) ((fillLines width first more).map words) := by
  obtain ⟨hfirst, hmore⟩ := List.forall_mem_cons.mp fun word (hword : word ∈ first :: more) =>
    words_of_mem (hwords ▸ hword)
  refine ⟨?_, fun line hline => ?_⟩
  · rw [← List.flatMap_def, flatMap_words_fillLines, ← List.flatMap_cons, ← hwords,
      flatMap_words_words]
  · obtain ⟨line, hmem, rfl⟩ := List.mem_map.mp hline
    have hspaced : IsSpaced line := isSpaced_of_mem_fillLines (isSpaced_of_word hfirst)
      (of_words_eq_singleton hfirst).2 hmore hmem
    rw [hspaced]
    exact (fits_of_mem_fillLines (.inr hfirst) hmore hmem).imp_right (congrArg List.length)

theorem fillLines_ne_nil (width : Nat) (current : String) (more : List String) :
    fillLines width current more ≠ [] := by
  induction more generalizing current with
  | nil => exact List.cons_ne_nil _ _
  | cons word more ih =>
      rw [fillLines]
      split
      · exact ih _
      · exact List.cons_ne_nil _ _

/-- Wrapping to a greater width takes no more lines. -/
theorem length_wrap_antitone (text : String) : Antitone fun width => (wrap text width).length := by
  intro narrow wide hle
  have hroom : max 1 narrow ≤ max 1 wide := max_le_max_left 1 hle
  have hwide := Nat.le_max_left 1 wide
  dsimp only
  rw [← wrap_max text wide]
  rcases wrap_cases text narrow with ⟨hshort, hwrap⟩ | ⟨hnone, hwrap⟩ |
    ⟨first, more, hwords, hwrap⟩ <;> rw [hwrap]
  · rw [wrap_max, wrap_eq_self (.inl (hshort.trans hroom))]
  · have hempty : ([] : List (List String)).flatten = words text := hnone.symm
    exact length_wrap_le_of_flatten hwide hempty nofun
  · -- the lines of the smaller width are a way to put the words on lines of the greater one
    have hlines := putOnLines_fillLines hwords (max 1 narrow)
    have hfewest := length_wrap_le_of_flatten hwide hlines.inOrder fun line hline =>
      (hlines.fits line hline).imp_left hroom.trans'
    have hpos := List.length_pos_iff.mpr (fillLines_ne_nil (max 1 narrow) first more)
    rwa [List.length_map, Nat.max_eq_right hpos] at hfewest

/-! ## The search -/

/-- The search for a width, from one width to the one that it ends at: it ends where few enough
lines come out or the limit is reached, and goes on with the next width otherwise. -/
inductive Widens (text : String) (count limit : Nat) : Nat → Nat → Prop
  | done {width : Nat} (h : (wrap text width).length ≤ count ∨ limit ≤ width) :
      Widens text count limit width width
  | next {width last : Nat} (hmany : count < (wrap text width).length) (hlimit : width < limit)
      (hrest : Widens text count limit (width + 1) last) : Widens text count limit width last

namespace Widens

variable {limit width last : Nat} (h : Widens text count limit width last)
include h

theorem enough : (wrap text last).length ≤ count ∨ limit ≤ last := by
  induction h with
  | done h => exact h
  | next _ _ _ ih => exact ih

/-- All widths that are passed over need too many lines. -/
theorem passed : width ≤ last ∧ ∀ w, width ≤ w → w < last → count < (wrap text w).length := by
  induction h with
  | done => exact ⟨le_rfl, fun w hle hlt => absurd hlt hle.not_gt⟩
  | @next width last hmany _ _ ih =>
      obtain ⟨hle, hpassed⟩ := ih
      refine ⟨Nat.le_of_succ_le hle, fun w hw hlt => ?_⟩
      rcases hw.eq_or_lt with rfl | hw
      · exact hmany
      · exact hpassed w hw hlt

/-- A search up to the length of the text ends at the least width that will do. -/
theorem isLeast (hcount : 1 ≤ count) (hlimit : text.length ≤ limit) :
    IsLeast {w | width ≤ w ∧ (wrap text w).length ≤ count} last := by
  obtain ⟨hle, hpassed⟩ := h.passed
  refine ⟨⟨hle, ?_⟩, fun w ⟨hw, hfew⟩ => ?_⟩
  · rcases h.enough with hfew | hend
    · exact hfew
    · rw [wrap_eq_self (.inl ((hlimit.trans hend).trans (Nat.le_max_right 1 last)))]
      exact hcount
  · by_contra hlt
    exact (hpassed w hw (not_le.mp hlt)).not_ge hfew

end Widens

/-- With as many tries as there are widths up to the limit, the search comes to its end. -/
theorem exists_widens (text : String) (count fuel width : Nat) :
    ∃ last, Widens text count (width + fuel) width last ∧
      fitWithin text count fuel width = wrap text last := by
  induction fuel generalizing width with
  | zero => exact ⟨width, .done (.inr le_rfl), rfl⟩
  | succ fuel ih =>
      simp only [fitWithin]
      split
      next hfew => exact ⟨width, .done (.inl hfew), rfl⟩
      next hmany =>
        obtain ⟨last, hlast, hwrap⟩ := ih (width + 1)
        rw [Nat.add_right_comm, Nat.add_assoc] at hlast
        exact ⟨last, .next (not_le.mp hmany) (by omega) hlast, hwrap⟩

/-- Fitting a text on some lines wraps it to the least width, from the given one on, that needs no
more lines than these; the search for it ends, and no greater width needs more lines either. -/
theorem fit_least (text : String) {width : Nat} (hwidth : 1 ≤ width) (hcount : 1 ≤ count) :
    (∃ last, Widens text count (max width text.length) width last ∧
      IsLeast {w | width ≤ w ∧ (wrap text w).length ≤ count} last ∧
      fit text width count = wrap text last ∧
      ∀ w, last ≤ w → (wrap text w).length ≤ count) ∧
    Antitone fun w => (wrap text w).length := by
  have hanti := length_wrap_antitone text
  obtain ⟨last, hlast, hwrap⟩ :=
    exists_widens text count (max width text.length - width) width
  rw [Nat.add_sub_of_le (Nat.le_max_left width text.length)] at hlast
  have hleast := hlast.isLeast hcount (Nat.le_max_right width text.length)
  refine ⟨⟨last, hlast, hleast, ?_, fun w hw => (hanti hw).trans hleast.1.2⟩, hanti⟩
  rw [fit, Nat.max_eq_right hwidth, hwrap]

/-- The words need four lines of the width 2 and two lines of the width 6. -/
theorem fit_least_widened :
    let text := "aa bb ccc dd"
    1 ≤ 2 ∧ ∃ last, Widens text 2 12 2 last ∧
      IsLeast {w | 2 ≤ w ∧ (wrap text w).length ≤ 2} last ∧
      wrap text last = ["aa bb", "ccc dd"] ∧ ∀ w, last ≤ w → (wrap text w).length ≤ 2 := by
  intro text
  obtain ⟨⟨last, hlast, hleast, hfit, hwider⟩, -⟩ :=
    fit_least text (show 1 ≤ 2 by decide) (show 1 ≤ 2 by decide)
  have hlimit : max 2 text.length = 12 := by decide
  rw [hlimit] at hlast
  exact ⟨by decide, last, hlast, hleast, hfit.symm.trans (by decide), hwider⟩

end PipeTable.Text
