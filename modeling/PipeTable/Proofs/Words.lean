import Mathlib
import PipeTable.Proofs.Lines
import PipeTable.Proofs.Wrapping

/-! # Words of texts

A blank character ends a word wherever it stands, so that the words of texts with blanks between
them are the words of the one and then those of the other.  Putting words on lines keeps them and
their order, whatever the width.
-/

namespace PipeTable.Text

/-! ## Words -/

theorem pieces_ne_nil (p : Char → Bool) (cs : List Char) : pieces p cs ≠ [] := by
  fun_cases pieces p cs <;> simp

/-- A separator cuts a text in two, and both parts are cut for themselves. -/
theorem pieces_append_cons {p : Char → Bool} {c : Char} (hc : p c = true) (left right : List Char) :
    pieces p (left ++ c :: right) = pieces p left ++ pieces p right := by
  induction left with
  | nil => simp [pieces, hc]
  | cons d left ih =>
      rw [List.cons_append, pieces, pieces, ih]
      obtain ⟨piece, more, hpieces⟩ := List.exists_cons_of_ne_nil (pieces_ne_nil p left)
      by_cases hd : p d = true
      · simp [hd]
      · simp [hd, hpieces]

theorem of_mem_pieces {p : Char → Bool} {cs piece : List Char} (h : piece ∈ pieces p cs) :
    ∀ c ∈ piece, p c = false := by
  induction cs generalizing piece with
  | nil =>
      obtain rfl := List.mem_singleton.mp h
      nofun
  | cons c cs ih =>
      obtain ⟨first, more, hpieces⟩ := List.exists_cons_of_ne_nil (pieces_ne_nil p cs)
      rw [pieces, hpieces] at h
      rw [hpieces] at ih
      split at h
      · rcases List.mem_cons.mp h with rfl | h
        · nofun
        · exact ih h
      next hc =>
        rcases List.mem_cons.mp h with rfl | h
        · intro d hd
          rcases List.mem_cons.mp hd with rfl | hd
          · simpa using hc
          · exact ih List.mem_cons_self d hd
        · exact ih (List.mem_cons_of_mem _ h)

/-- The maximal runs of characters that do not satisfy `p`. -/
def runs (p : Char → Bool) (cs : List Char) : List (List Char) :=
  (pieces p cs).filter fun piece => !piece.isEmpty

section Runs

variable {p : Char → Bool}

theorem runs_append_cons {c : Char} (hc : p c = true) (left right : List Char) :
    runs p (left ++ c :: right) = runs p left ++ runs p right := by
  rw [runs, pieces_append_cons hc, List.filter_append]
  rfl

theorem runs_append_left {left : List Char} (h : ∀ c ∈ left, p c = true) (cs : List Char) :
    runs p (left ++ cs) = runs p cs := by
  induction left with
  | nil => rfl
  | cons c left ih =>
      have hrest := runs_append_cons (h c List.mem_cons_self) [] (left ++ cs)
      rw [List.cons_append, ← List.nil_append (c :: _), hrest,
        ih fun d hd => h d (List.mem_cons_of_mem _ hd)]
      rfl

theorem runs_of_all {cs : List Char} (h : ∀ c ∈ cs, p c = true) : runs p cs = [] := by
  rw [← List.append_nil cs, runs_append_left h]
  rfl

theorem runs_of_none {run : List Char} (hne : run ≠ []) (h : ∀ c ∈ run, p c = false) :
    runs p run = [run] := by
  rw [runs, pieces_of_none h]
  simpa using hne

theorem runs_append_of_none {run rest : List Char} (hne : run ≠ []) (h : ∀ c ∈ run, p c = false)
    (hrest : ∀ c ∈ rest.head?, p c = true) : runs p (run ++ rest) = run :: runs p rest := by
  cases rest with
  | nil =>
      rw [List.append_nil, runs_of_none hne h]
      rfl
  | cons c rest =>
      have hc := hrest c rfl
      have hskip := @runs_append_left p [c] (by simpa using hc) rest
      rw [runs_append_cons hc, runs_of_none hne h, ← hskip]
      rfl

end Runs

theorem wordsChars_append_blank {c : Char} (hc : isBlank c = true) (left right : List Char) :
    wordsChars (left ++ c :: right) = wordsChars left ++ wordsChars right :=
  runs_append_cons hc left right

theorem wordsChars_append_left {left : List Char} (h : ∀ c ∈ left, isBlank c = true)
    (cs : List Char) : wordsChars (left ++ cs) = wordsChars cs :=
  runs_append_left h cs

theorem wordsChars_of_blank {cs : List Char} (h : ∀ c ∈ cs, isBlank c = true) :
    wordsChars cs = [] :=
  runs_of_all h

theorem wordsChars_append_right (cs : List Char) {right : List Char}
    (h : ∀ c ∈ right, isBlank c = true) : wordsChars (cs ++ right) = wordsChars cs := by
  cases right with
  | nil => rw [List.append_nil]
  | cons c right =>
      rw [wordsChars_append_blank (h c List.mem_cons_self),
        wordsChars_of_blank fun d hd => h d (List.mem_cons_of_mem _ hd), List.append_nil]

theorem wordsChars_of_solid {word : List Char} (hne : word ≠ [])
    (h : ∀ c ∈ word, isBlank c = false) : wordsChars word = [word] :=
  runs_of_none hne h

theorem wordsChars_append_solid {word rest : List Char} (hne : word ≠ [])
    (h : ∀ c ∈ word, isBlank c = false) (hrest : ∀ c ∈ rest.head?, isBlank c = true) :
    wordsChars (word ++ rest) = word :: wordsChars rest :=
  runs_append_of_none hne h hrest

/-- A word has itself as its only word. -/
theorem wordsChars_of_mem {cs word : List Char} (h : word ∈ wordsChars cs) :
    wordsChars word = [word] := by
  obtain ⟨hpiece, hne⟩ := List.mem_filter.mp h
  exact wordsChars_of_solid (by simpa using hne) (of_mem_pieces hpiece)

/-! ## Stripped texts -/

theorem dropEndWhile_append_takeEndWhile (p : Char → Bool) (cs : List Char) :
    dropEndWhile p cs ++ (cs.reverse.takeWhile p).reverse = cs := by
  rw [dropEndWhile, ← List.reverse_append, List.takeWhile_append_dropWhile, List.reverse_reverse]

/-- What is stripped off a text are blanks. -/
theorem exists_stripChars (cs : List Char) :
    ∃ left right, (∀ c ∈ left, isBlank c = true) ∧ (∀ c ∈ right, isBlank c = true) ∧
      left ++ stripChars cs ++ right = cs := by
  refine ⟨cs.takeWhile isBlank, ((cs.dropWhile isBlank).reverse.takeWhile isBlank).reverse,
    fun c hc => List.mem_takeWhile_imp hc,
    fun c hc => List.mem_takeWhile_imp (List.mem_reverse.mp hc), ?_⟩
  rw [List.append_assoc, stripChars, dropEndWhile_append_takeEndWhile,
    List.takeWhile_append_dropWhile]

theorem wordsChars_stripChars (cs : List Char) : wordsChars (stripChars cs) = wordsChars cs := by
  obtain ⟨left, right, hleft, hright, hcs⟩ := exists_stripChars cs
  -- the text occurs in the stripped one too, so only one side may be rewritten
  conv_rhs => rw [← hcs, wordsChars_append_right _ hright, wordsChars_append_left hleft]

theorem of_mem_head?_dropWhile (p : Char → Bool) (cs : List Char) {c : Char}
    (h : c ∈ (cs.dropWhile p).head?) : p c = false := by
  have hnot := List.head?_dropWhile_not p cs
  rw [Option.mem_def.mp h] at hnot
  exact hnot

theorem of_mem_head?_stripChars {cs : List Char} {c : Char} (h : c ∈ (stripChars cs).head?) :
    isBlank c = false := by
  -- unless nothing is left, the first character is still there once the end is stripped
  apply of_mem_head?_dropWhile isBlank cs
  rw [← dropEndWhile_append_takeEndWhile isBlank (cs.dropWhile isBlank), List.head?_append,
    ← stripChars, Option.mem_def.mp h]
  rfl

theorem of_mem_getLast?_stripChars {cs : List Char} {c : Char} (h : c ∈ (stripChars cs).getLast?) :
    isBlank c = false := by
  rw [stripChars, dropEndWhile, List.getLast?_reverse] at h
  exact of_mem_head?_dropWhile _ _ h

/-- Stripped texts with nothing between them have nothing to be stripped off. -/
theorem stripChars_flatten (parts : List (List Char)) :
    stripChars (parts.map stripChars).flatten = (parts.map stripChars).flatten := by
  apply dropBothEnds_eq_self
  · intro c hc
    rw [List.head?_flatten] at hc
    obtain ⟨part, hpart, hfirst⟩ := List.exists_of_findSome?_eq_some hc
    obtain ⟨cs, -, rfl⟩ := List.mem_map.mp hpart
    exact of_mem_head?_stripChars hfirst
  · intro c hc
    rw [List.getLast?_flatten] at hc
    obtain ⟨part, hpart, hlast⟩ := List.exists_of_findSome?_eq_some hc
    obtain ⟨cs, -, rfl⟩ := List.mem_map.mp (List.mem_reverse.mp hpart)
    exact of_mem_getLast?_stripChars hlast

theorem stripChars_stripChars (cs : List Char) : stripChars (stripChars cs) = stripChars cs := by
  simpa using stripChars_flatten [cs]

/-! ## Strings -/

theorem toList_strip (s : String) : (strip s).toList = stripChars s.toList := by
  rw [strip, String.toList_ofList]

theorem strip_strip (s : String) : strip (strip s) = strip s := by
  rw [← String.toList_inj, toList_strip, toList_strip, stripChars_stripChars]

/-- Stripped texts with nothing between them have no blanks at the ends. -/
theorem strip_join (texts : List String) :
    strip (String.join (texts.map strip)) = String.join (texts.map strip) := by
  have hchars : (String.join (texts.map strip)).toList =
      ((texts.map String.toList).map stripChars).flatten := by
    simp [List.flatMap_def, Function.comp_def, toList_strip]
  rw [← String.toList_inj, toList_strip, hchars, stripChars_flatten]

@[simp]
theorem words_strip (s : String) : words (strip s) = words s := by
  rw [words, words, strip, String.toList_ofList, wordsChars_stripChars]

@[simp]
theorem words_empty : words "" = [] := rfl

theorem words_append_blank (s t : String) : words (s ++ " " ++ t) = words s ++ words t := by
  have hchars : (s ++ " " ++ t).toList = s.toList ++ ' ' :: t.toList := by simp
  rw [words, hchars, wordsChars_append_blank rfl, List.map_append]
  rfl

/-- The words of texts with blanks between them are the words of the texts. -/
theorem words_intercalate (texts : List String) :
    words (" ".intercalate texts) = texts.flatMap words := by
  induction texts with
  | nil => rfl
  | cons s texts ih =>
      cases texts with
      | nil => simp
      | cons t texts =>
          rw [String.intercalate_cons_cons, words_append_blank, ih, ← List.flatMap_cons]

theorem words_of_mem {s word : String} (h : word ∈ words s) : words word = [word] := by
  obtain ⟨chars, hchars, rfl⟩ := List.mem_map.mp h
  rw [words, String.toList_ofList, wordsChars_of_mem hchars]
  rfl

theorem flatMap_words_words (s : String) : (words s).flatMap words = words s := by
  conv_rhs => rw [← List.flatMap_singleton' (words s)]
  exact List.flatMap_congr fun word hword => words_of_mem hword

/-! ## Wrapped texts -/

theorem flatMap_words_fillLines (width : Nat) (current : String) (more : List String) :
    (fillLines width current more).flatMap words = words current ++ more.flatMap words := by
  induction more generalizing current with
  | nil => simp [fillLines]
  | cons word more ih =>
      rw [fillLines]
      split
      · rw [ih, words_append_blank, List.append_assoc, List.flatMap_cons]
      · rw [List.flatMap_cons, ih, List.flatMap_cons]

/-- The lines of a wrapped text have its words in their order. -/
theorem flatMap_words_wrap (text : String) (width : Nat) :
    (wrap text width).flatMap words = words text := by
  rcases wrap_cases text width with ⟨-, hwrap⟩ | ⟨hnone, hwrap⟩ | ⟨first, more, hwords, hwrap⟩
  · simp [hwrap]
  · rw [hwrap, hnone]
    rfl
  · rw [hwrap, flatMap_words_fillLines, ← List.flatMap_cons, ← hwords, flatMap_words_words]

theorem flatMap_words_fitWithin (text : String) (rows fuel width : Nat) :
    (fitWithin text rows fuel width).flatMap words = words text := by
  induction fuel generalizing width with
  | zero => exact flatMap_words_wrap text width
  | succ fuel ih =>
      simp only [fitWithin]
      split
      · exact flatMap_words_wrap text width
      · exact ih (width + 1)

/-- However far the width has to grow for them, the lines have the words of the text. -/
theorem flatMap_words_fit (text : String) (width rows : Nat) :
    (fit text width rows).flatMap words = words text :=
  flatMap_words_fitWithin text rows _ _

/-! ## Single spaces -/

theorem of_mem_head?_of_stripChars {cs : List Char} (h : stripChars cs = cs) {c : Char}
    (hc : c ∈ cs.head?) : isBlank c = false := by
  rw [← h] at hc
  exact of_mem_head?_stripChars hc

theorem of_mem_getLast?_of_stripChars {cs : List Char} (h : stripChars cs = cs) {c : Char}
    (hc : c ∈ cs.getLast?) : isBlank c = false := by
  rw [← h] at hc
  exact of_mem_getLast?_stripChars hc

/-- Texts that are not empty keep what is put between them away from the ends. -/
theorem stripChars_intercalate (separator : List Char) {runs : List (List Char)}
    (h : ∀ run ∈ runs, stripChars run = run ∧ run ≠ []) :
    stripChars (separator.intercalate runs) = separator.intercalate runs := by
  apply dropBothEnds_eq_self
  · intro c hc
    cases runs with
    | nil => cases hc
    | cons run runs =>
        obtain ⟨hrun, hne⟩ := h run List.mem_cons_self
        refine of_mem_head?_of_stripChars hrun ?_
        cases runs with
        | nil => simpa using hc
        | cons next runs =>
            rw [List.intercalate_cons_cons, List.append_assoc,
              List.head?_append_of_ne_nil _ hne] at hc
            exact hc
  · intro c hc
    induction runs with
    | nil => cases hc
    | cons run runs ih =>
        have hrest := ih fun other hother => h other (List.mem_cons_of_mem _ hother)
        cases runs with
        | nil =>
            rw [List.intercalate_singleton] at hc
            exact of_mem_getLast?_of_stripChars (h run List.mem_cons_self).1 hc
        | cons next runs =>
            have hne : separator.intercalate (next :: runs) ≠ [] := by
              have hnext := (h next (by simp)).2
              cases runs <;> simp [List.intercalate_cons_cons, hnext]
            rw [List.intercalate_cons_cons, List.getLast?_append_of_ne_nil _ hne] at hc
            exact hrest hc

theorem strip_intercalate (separator : String) {texts : List String}
    (h : ∀ s ∈ texts, strip s = s ∧ s ≠ "") :
    strip (separator.intercalate texts) = separator.intercalate texts := by
  rw [← String.toList_inj, toList_strip, String.toList_intercalate]
  apply stripChars_intercalate
  intro run hrun
  obtain ⟨s, hs, rfl⟩ := List.mem_map.mp hrun
  obtain ⟨hstrip, hne⟩ := h s hs
  rw [← toList_strip, hstrip]
  exact ⟨rfl, by simpa using hne⟩

/-- A text is nothing but its words, one blank after each but the last. -/
def IsSpaced (s : String) : Prop := " ".intercalate (words s) = s

instance (s : String) : Decidable (IsSpaced s) :=
  inferInstanceAs (Decidable (" ".intercalate (words s) = s))

theorem isSpaced_empty : IsSpaced "" := rfl

theorem isSpaced_of_word {word : String} (h : words word = [word]) : IsSpaced word := by
  rw [IsSpaced, h, String.intercalate_singleton]

theorem IsSpaced.words_eq_nil_iff {s : String} (h : IsSpaced s) : words s = [] ↔ s = "" := by
  constructor
  · intro hwords
    rw [← h, hwords]
    rfl
  · rintro rfl
    rfl

/-- A word is stripped and not empty. -/
theorem of_words_eq_singleton {word : String} (h : words word = [word]) :
    strip word = word ∧ word ≠ "" := by
  have hmem : word.toList ∈ wordsChars word.toList := by
    obtain ⟨chars, hchars, rfl⟩ := List.mem_map.mp (h ▸ List.mem_singleton_self word)
    rwa [String.toList_ofList] at hchars ⊢
  obtain ⟨hpiece, hne⟩ := List.mem_filter.mp hmem
  have hnone := of_mem_pieces hpiece
  constructor
  · rw [← String.toList_inj, toList_strip]
    exact dropBothEnds_of_none hnone
  · rintro rfl
    cases h

theorem IsSpaced.strip_eq {s : String} (h : IsSpaced s) : strip s = s := by
  have hwords := strip_intercalate " " fun word (hword : word ∈ words s) =>
    of_words_eq_singleton (words_of_mem hword)
  rwa [h] at hwords

theorem IsSpaced.append_word {s word : String} (h : IsSpaced s) (hne : s ≠ "")
    (hword : words word = [word]) : IsSpaced (s ++ " " ++ word) := by
  rw [IsSpaced, words_append_blank, hword, String.intercalate_append_of_ne_nil
    (mt h.words_eq_nil_iff.mp hne) (List.cons_ne_nil _ _), h, String.intercalate_singleton]

theorem isSpaced_of_mem_fillLines {width : Nat} {current : String} {more : List String}
    (hcurrent : IsSpaced current) (hne : current ≠ "")
    (hmore : ∀ word ∈ more, words word = [word]) {line : String}
    (hline : line ∈ fillLines width current more) : IsSpaced line := by
  induction more generalizing current with
  | nil =>
      obtain rfl := List.mem_singleton.mp hline
      exact hcurrent
  | cons word more ih =>
      obtain ⟨hword, hmore⟩ := List.forall_mem_cons.mp hmore
      rw [fillLines] at hline
      split at hline
      · exact ih (hcurrent.append_word hne hword) (by simp) hmore hline
      · rcases List.mem_cons.mp hline with rfl | hline
        · exact hcurrent
        · exact ih (isSpaced_of_word hword) (of_words_eq_singleton hword).2 hmore hline

/-- A text that has to be wrapped keeps single blanks between its words, whatever they were. -/
theorem eq_or_isSpaced_of_mem_wrap {text line : String} {width : Nat}
    (h : line ∈ wrap text width) : line = text ∨ IsSpaced line := by
  rcases wrap_cases text width with ⟨-, hwrap⟩ | ⟨-, hwrap⟩ | ⟨first, more, hwords, hwrap⟩ <;>
    rw [hwrap] at h
  · exact .inl (List.mem_singleton.mp h)
  · rw [List.mem_singleton.mp h]
    exact .inr isSpaced_empty
  · obtain ⟨hfirst, hmore⟩ := List.forall_mem_cons.mp fun word (hword : word ∈ first :: more) =>
      words_of_mem (hwords ▸ hword)
    exact .inr (isSpaced_of_mem_fillLines (isSpaced_of_word hfirst)
      (of_words_eq_singleton hfirst).2 hmore h)

/-- Spaced texts, joined by blanks where they are not empty, are their words joined by blanks. -/
theorem intercalate_flatMap_words {texts : List String} (h : ∀ s ∈ texts, IsSpaced s) :
    " ".intercalate (texts.flatMap words) = " ".intercalate (texts.filter (· != "")) := by
  induction texts with
  | nil => rfl
  | cons s texts ih =>
      obtain ⟨hs, htexts⟩ := List.forall_mem_cons.mp h
      by_cases hempty : s = ""
      · simpa [hempty] using ih htexts
      · rw [List.flatMap_cons, List.filter_cons_of_pos (by simpa using hempty)]
        by_cases hrest : texts.flatMap words = []
        · -- nothing follows, neither words nor texts
          have hnone : texts.filter (· != "") = [] := by
            rw [List.filter_eq_nil_iff]
            intro t ht
            rw [List.flatMap_eq_nil_iff] at hrest
            simpa using (htexts t ht).words_eq_nil_iff.mp (hrest t ht)
          rw [hrest, hnone, List.append_nil, String.intercalate_singleton, hs]
        · have hsome : texts.filter (· != "") ≠ [] := by
            intro hnone
            apply hrest
            rw [List.flatMap_eq_nil_iff]
            intro t ht
            have ht' := List.filter_eq_nil_iff.mp hnone t ht
            exact (htexts t ht).words_eq_nil_iff.mpr (by simpa using ht')
          rw [String.intercalate_append_of_ne_nil (mt hs.words_eq_nil_iff.mp hempty) hrest,
            String.intercalate_cons_of_ne_nil hsome, hs, ih htexts]

/-! ## Characters -/

theorem mem_of_mem_pieces {p : Char → Bool} {cs piece : List Char} (h : piece ∈ pieces p cs)
    {c : Char} (hc : c ∈ piece) : c ∈ cs := by
  induction cs generalizing piece with
  | nil =>
      obtain rfl := List.mem_singleton.mp h
      exact hc
  | cons d cs ih =>
      obtain ⟨first, more, hpieces⟩ := List.exists_cons_of_ne_nil (pieces_ne_nil p cs)
      rw [pieces, hpieces] at h
      rw [hpieces] at ih
      split at h
      · rcases List.mem_cons.mp h with rfl | h
        · cases hc
        · exact List.mem_cons_of_mem d (ih h hc)
      · rcases List.mem_cons.mp h with rfl | h
        · rcases List.mem_cons.mp hc with rfl | hc
          · exact List.mem_cons_self
          · exact List.mem_cons_of_mem d (ih List.mem_cons_self hc)
        · exact List.mem_cons_of_mem d (ih (List.mem_cons_of_mem _ h) hc)

theorem mem_of_mem_stripChars {cs : List Char} {c : Char} (h : c ∈ stripChars cs) : c ∈ cs := by
  obtain ⟨left, right, -, -, hcs⟩ := exists_stripChars cs
  rw [← hcs]
  exact List.mem_append_left _ (List.mem_append_right _ h)

theorem mem_stripChars_of_not_blank {cs : List Char} {c : Char} (h : c ∈ cs)
    (hc : isBlank c = false) : c ∈ stripChars cs := by
  obtain ⟨left, right, hleft, hright, hcs⟩ := exists_stripChars cs
  rw [← hcs, List.mem_append, List.mem_append] at h
  rcases h with (h | h) | h
  · rw [hleft c h] at hc
    cases hc
  · exact h
  · rw [hright c h] at hc
    cases hc

theorem mem_of_mem_words {s word : String} (h : word ∈ words s) {c : Char}
    (hc : c ∈ word.toList) : c ∈ s.toList := by
  obtain ⟨chars, hchars, rfl⟩ := List.mem_map.mp h
  rw [String.toList_ofList] at hc
  exact mem_of_mem_pieces (List.mem_filter.mp hchars).1 hc

theorem of_mem_toList_intercalate {separator : String} {texts : List String} {c : Char}
    (h : c ∈ (separator.intercalate texts).toList) :
    c ∈ separator.toList ∨ ∃ s ∈ texts, c ∈ s.toList := by
  induction texts with
  | nil => cases h
  | cons s texts ih =>
      cases texts with
      | nil =>
          rw [String.intercalate_singleton] at h
          exact .inr ⟨s, List.mem_cons_self, h⟩
      | cons t texts =>
          rw [String.intercalate_cons_cons, String.toList_append, String.toList_append,
            List.mem_append, List.mem_append] at h
          rcases h with (h | h) | h
          · exact .inr ⟨s, List.mem_cons_self, h⟩
          · exact .inl h
          · exact (ih h).imp_right fun ⟨other, hother, hc⟩ =>
              ⟨other, List.mem_cons_of_mem _ hother, hc⟩

theorem of_mem_fillLines {width : Nat} {current line : String} {more : List String}
    (h : line ∈ fillLines width current more) {c : Char} (hc : c ∈ line.toList) :
    c = ' ' ∨ c ∈ current.toList ∨ ∃ word ∈ more, c ∈ word.toList := by
  induction more generalizing current with
  | nil =>
      obtain rfl := List.mem_singleton.mp h
      exact .inr (.inl hc)
  | cons word more ih =>
      have hrest (start : String) (h : line ∈ fillLines width start more)
          (hstart : c ∈ start.toList → c = ' ' ∨ c ∈ current.toList ∨ c ∈ word.toList) :
          c = ' ' ∨ c ∈ current.toList ∨ ∃ w ∈ word :: more, c ∈ w.toList := by
        rcases ih h with hc | hc | ⟨w, hw, hc⟩
        · exact .inl hc
        · exact (hstart hc).imp_right (.imp_right fun hc => ⟨word, List.mem_cons_self, hc⟩)
        · exact .inr (.inr ⟨w, List.mem_cons_of_mem _ hw, hc⟩)
      rw [fillLines] at h
      split at h
      · refine hrest _ h fun hc => ?_
        simp only [String.toList_append, List.mem_append] at hc
        rcases hc with (hc | hc) | hc
        · exact .inr (.inl hc)
        · exact .inl (List.mem_singleton.mp hc)
        · exact .inr (.inr hc)
      · rcases List.mem_cons.mp h with rfl | h
        · exact .inr (.inl hc)
        · exact hrest _ h fun hc => .inr (.inr hc)

/-- Wrapping a text adds no characters but blanks between its words. -/
theorem of_mem_wrap {text line : String} {width : Nat} (h : line ∈ wrap text width) {c : Char}
    (hc : c ∈ line.toList) : c = ' ' ∨ c ∈ text.toList := by
  rcases wrap_cases text width with ⟨-, hwrap⟩ | ⟨-, hwrap⟩ | ⟨first, more, hwords, hwrap⟩ <;>
    rw [hwrap] at h
  · rw [List.mem_singleton.mp h] at hc
    exact .inr hc
  · rw [List.mem_singleton.mp h] at hc
    cases hc
  · rcases of_mem_fillLines h hc with hc | hc | ⟨word, hword, hc⟩
    · exact .inl hc
    · exact .inr (mem_of_mem_words (hwords ▸ List.mem_cons_self) hc)
    · exact .inr (mem_of_mem_words (hwords ▸ List.mem_cons_of_mem _ hword) hc)

end PipeTable.Text
