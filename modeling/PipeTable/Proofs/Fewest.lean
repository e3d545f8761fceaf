import Mathlib
import PipeTable.Proofs.Words

/-! # Fewest lines

The lines of a wrapped text hold its words, each line within the width or a single word, and no way
to put the words on such lines in their order needs fewer of them.
-/

namespace PipeTable.Text

/-- Words put on lines in their order, each line within a width or of a single word; what stands on
a line are its words with single blanks between them. -/
structure PutOnLines (width : Nat) (words : List String) (lines : List (List String)) : Prop where
  inOrder : lines.flatten = words
  fits : ∀ line ∈ lines, (" ".intercalate line).length ≤ width ∨ line.length = 1

section Lines

variable {width : Nat} {text line : String}

/-- Lines that are filled from a line that fits, or from a word, fit too or are words. -/
theorem fits_of_mem_fillLines {current : String} {more : List String}
    (hcurrent : current.length ≤ width ∨ words current = [current])
    (hmore : ∀ word ∈ more, words word = [word]) (h : line ∈ fillLines width current more) :
    line.length ≤ width ∨ words line = [line] := by
  induction more generalizing current with
  | nil =>
      obtain rfl := List.mem_singleton.mp h
      exact hcurrent
  | cons word more ih =>
      obtain ⟨hword, hmore⟩ := List.forall_mem_cons.mp hmore
      rcases Nat.lt_or_ge width (current.length + 1 + word.length) with hlt | hle
      · rw [fillLines_of_lt hlt] at h
        rcases List.mem_cons.mp h with rfl | h
        · exact hcurrent
        · exact ih (.inr hword) hmore h
      · rw [fillLines_of_le hle] at h
        exact ih (.inl (by rwa [length_append_blank])) hmore h

/-- A line of a wrapped text is within the width, or it is a word. -/
theorem fits_of_mem_wrap (h : line ∈ wrap text width) :
    line.length ≤ max 1 width ∨ words line = [line] := by
  rcases wrap_cases text width with ⟨hshort, hwrap⟩ | ⟨-, hwrap⟩ | ⟨first, more, hwords, hwrap⟩ <;>
    rw [hwrap] at h
  · obtain rfl := List.mem_singleton.mp h
    exact .inl hshort
  · obtain rfl := List.mem_singleton.mp h
    exact .inl (Nat.zero_le _)
  · obtain ⟨hfirst, hmore⟩ := List.forall_mem_cons.mp fun word (hword : word ∈ first :: more) =>
      words_of_mem (hwords ▸ hword)
    exact fits_of_mem_fillLines (.inr hfirst) hmore h

/-- A text that fits, or that is a word, needs no wrapping. -/
theorem wrap_eq_self (h : text.length ≤ max 1 width ∨ words text = [text]) :
    wrap text width = [text] := by
  simp only [wrap]
  split
  · rfl
  next hlong =>
    rw [h.resolve_left hlong]
    rfl

/-- The lines of a wrapped text stay as they are when they are wrapped to as great a width. -/
theorem wrap_of_mem_wrap {wider : Nat} (hle : width ≤ wider) (h : line ∈ wrap text width) :
    wrap line wider = [line] :=
  wrap_eq_self ((fits_of_mem_wrap h).imp_left fun hfits => hfits.trans (by omega))

/-- Wrapping a text keeps its words in their order, breaks it into lines that are within the width
or single words, and needs no more lines than any other way to do so. -/
theorem wrap_fewest_lines (text : String) (hwidth : 1 ≤ width) :
    (wrap text width).flatMap words = words text ∧
    (∀ line ∈ wrap text width, line.length ≤ width ∨ words line = [line]) ∧
    ∀ lines ≠ [], PutOnLines width (words text) lines →
      (wrap text width).length ≤ lines.length := by
  refine ⟨flatMap_words_wrap text width, fun line hline => ?_, fun lines hne h => ?_⟩
  · have hfits := fits_of_mem_wrap hline
    rwa [Nat.max_eq_right hwidth] at hfits
  · have hfewest := length_wrap_le_of_flatten hwidth h.inOrder h.fits
    rwa [Nat.max_eq_right (List.length_pos_iff.mpr hne)] at hfewest

end Lines

/-- Three lines, one of them a word that is too long, beside a way that needs four. -/
theorem wrap_fewest_lines_overlong :
    let text := " ab  cd unbreakable e"
    let lines := [["ab"], ["cd"], ["unbreakable"], ["e"]]
    (1 ≤ 5 ∧ lines ≠ [] ∧ PutOnLines 5 (words text) lines) ∧
      wrap text 5 = ["ab cd", "unbreakable", "e"] ∧ (wrap text 5).length ≤ lines.length := by
  intro text lines
  have hne : lines ≠ [] := List.cons_ne_nil _ _
  have hlines : PutOnLines 5 (words text) lines := ⟨by decide, by decide⟩
  obtain ⟨-, -, hfewest⟩ := wrap_fewest_lines text (show 1 ≤ 5 by decide)
  exact ⟨⟨by decide, hne, hlines⟩, by decide, hfewest lines hne hlines⟩

end PipeTable.Text
