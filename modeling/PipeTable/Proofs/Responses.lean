import Mathlib
import PipeTable.Proofs.Answer
import PipeTable.Proofs.Words

/-! # Answers of the optimizer as text

An answer is read from one line of widths and one line of row counts, in either order and among any
other lines.  Numbers are written in decimal with blanks between them.  They are read back as they
were if none of them has too many digits and there are as many as expected; anything else is refused
as an answer that cannot be used.
-/

namespace PipeTable

namespace Text

/-! ## Numerals -/

/-- The decimal forms of an integer: a plus sign may stand before it, and a minus sign before
zero. -/
inductive Numeral : Int → List Char → Prop
  | plain (n : Nat) : Numeral n (Nat.toDigits 10 n)
  | plus (n : Nat) : Numeral n ('+' :: Nat.toDigits 10 n)
  | minus (n : Nat) : Numeral (-n) ('-' :: Nat.toDigits 10 n)

theorem readNatural?_toDigits (n : Nat) :
    readNatural? (Nat.toDigits 10 n) = if isWritable n then some n else none := by
  rw [readNatural?_of_digits (by simp) isDigit_of_mem_toDigits, ofDigits_toDigits]
  simp only [isWritable_iff_length]

namespace Numeral

variable {n : Int} {token : List Char} (h : Numeral n token)
include h

theorem isBlank_eq_false : ∀ c ∈ token, isBlank c = false := by
  have hdigits (n : Nat) : ∀ c ∈ Nat.toDigits 10 n, isBlank c = false := fun c hc =>
    (of_isDigit (isDigit_of_mem_toDigits c hc)).2.2.2
  cases h with
  | plain n => exact hdigits n
  | plus n => exact List.forall_mem_cons.mpr ⟨rfl, hdigits n⟩
  | minus n => exact List.forall_mem_cons.mpr ⟨rfl, hdigits n⟩

theorem ne_nil : token ≠ [] := by
  cases h <;> simp

/-- A decimal form is read as its integer, unless it has too many digits. -/
theorem read : readIntegerChars? token = if isWritable n then some n else none := by
  have hblank : ∀ c ∈ token, isNumberBlank c = false := fun c hc => by
    rw [isNumberBlank, h.isBlank_eq_false c hc, Bool.false_and]
  have hbody := dropBothEnds_of_none hblank
  cases h with
  | plain n =>
      rw [readIntegerChars?_eq_readNatural? isDigit_of_mem_toDigits, readNatural?_toDigits]
      split <;> rfl
  | plus n =>
      rw [readIntegerChars?, hbody]
      change (readNatural? (Nat.toDigits 10 n)).map (fun n : Nat => (n : Int)) = _
      rw [readNatural?_toDigits]
      split <;> rfl
  | minus n =>
      have hsign : isWritable (-n) = isWritable n := by
        rw [isWritable, isWritable, Int.natAbs_neg]
      rw [readIntegerChars?, hbody]
      change (readNatural? (Nat.toDigits 10 n)).map (fun n : Nat => -(n : Int)) = _
      rw [readNatural?_toDigits, hsign]
      split <;> rfl

end Numeral

/-- Integers in decimal, with blanks before each of them and, if any, after the last. -/
inductive Listed : List Int → List Char → Prop
  | nil {blanks : List Char} (h : ∀ c ∈ blanks, isBlank c = true) : Listed [] blanks
  | cons {n : Int} {values : List Int} {blanks token rest : List Char} (hne : blanks ≠ [])
      (hblanks : ∀ c ∈ blanks, isBlank c = true) (hnumeral : Numeral n token)
      (hrest : Listed values rest) : Listed (n :: values) (blanks ++ token ++ rest)

namespace Listed

variable {values : List Int} {body : List Char} (h : Listed values body)
include h

theorem head_blank : ∀ c ∈ body.head?, isBlank c = true := by
  cases h with
  | nil h => exact fun c hc => h c (List.mem_of_mem_head? hc)
  | cons hne hblanks _ _ =>
      intro c hc
      rw [List.append_assoc, List.head?_append_of_ne_nil _ hne] at hc
      exact hblanks c (List.mem_of_mem_head? hc)

/-- The words of a list of integers are their decimal forms. -/
theorem words : List.Forall₂ Numeral values (wordsChars body) := by
  induction h with
  | nil h =>
      rw [wordsChars_of_blank h]
      exact .nil
  | cons hne hblanks hnumeral hrest ih =>
      rw [List.append_assoc, wordsChars_append_left hblanks,
        wordsChars_append_solid hnumeral.ne_nil hnumeral.isBlank_eq_false hrest.head_blank]
      exact .cons hnumeral ih

end Listed

end Text

namespace Narrow

/-! ## Lines of an answer -/

/-- A line with a label, blanks at most before it, and a list of integers behind it. -/
def Lists (label : String) (values : List Int) (line : List Char) : Prop :=
  ∃ left body, (∀ c ∈ left, Text.isBlank c = true) ∧ Text.Listed values body ∧
    line = left ++ label.toList ++ body

/-- Without the blanks around it, a line does not start with a label. -/
def Lacks (label : String) (line : List Char) : Prop := ¬ label.toList <+: Text.stripChars line

instance (label : String) (line : List Char) : Decidable (Lacks label line) :=
  inferInstanceAs (Decidable (¬ label.toList <+: Text.stripChars line))

/-- One line lists integers behind a label, and no other line, before or after it, starts with the
label. -/
def ListsOnce (label : String) (values : List Int) (lines : List (List Char)) : Prop :=
  ∃ before line after, lines = before ++ line :: after ∧ Lists label values line ∧
    ∀ other ∈ before ++ after, Lacks label other

theorem labelled?_eq_none_iff {label : String} {line : List Char} :
    labelled? label line = none ↔ Lacks label line := by
  rw [labelled?, Lacks, ← List.isPrefixOf_iff_prefix]
  split
  next h => exact iff_of_false (Option.some_ne_none _) (not_not.mpr h)
  next h => exact iff_of_true rfl h

theorem filterMap_labelled?_eq_nil {label : String} {lines : List (List Char)}
    (h : ∀ line ∈ lines, Lacks label line) : lines.filterMap (labelled? label) = [] :=
  List.filterMap_eq_nil_iff.mpr fun line hline => labelled?_eq_none_iff.mpr (h line hline)

/-- Behind the label, the stripped line has the words of the list. -/
theorem Lists.exists_stripChars {label : String} {values : List Int} {line : List Char}
    (h : Lists label values line) (hne : label.toList ≠ [])
    (hsolid : ∀ c ∈ label.toList, Text.isBlank c = false) :
    ∃ rest, Text.stripChars line = label.toList ++ rest ∧
      List.Forall₂ Text.Numeral values (Text.wordsChars rest) := by
  obtain ⟨left, body, hleft, hbody, rfl⟩ := h
  -- the label has no blanks, so that stripping ends at its two ends
  refine ⟨Text.dropEndWhile Text.isBlank body, ?_, ?_⟩
  · rw [List.append_assoc, Text.stripChars_append_left hleft, Text.stripChars,
      Text.dropWhile_eq_self, Text.dropEndWhile_append_of_last]
    · exact fun c hc => hsolid c (List.mem_of_mem_getLast? hc)
    · rw [List.head?_append_of_ne_nil _ hne]
      exact fun c hc => hsolid c (List.mem_of_mem_head? hc)
  · have hwords := hbody.words
    rwa [← Text.dropEndWhile_append_takeEndWhile Text.isBlank body,
      Text.wordsChars_append_right _ fun c hc =>
        List.mem_takeWhile_imp (List.mem_reverse.mp hc)] at hwords

/-- The last line with the label is the one that lists the integers. -/
theorem ListsOnce.lastLabelled? {label : String} {values : List Int} {lines : List (List Char)}
    (h : ListsOnce label values lines) (hne : label.toList ≠ [])
    (hsolid : ∀ c ∈ label.toList, Text.isBlank c = false) :
    ∃ rest, Narrow.lastLabelled? label lines = some rest ∧
      List.Forall₂ Text.Numeral values (Text.wordsChars rest) := by
  obtain ⟨before, line, after, rfl, hline, hothers⟩ := h
  obtain ⟨rest, hstrip, hwords⟩ := hline.exists_stripChars hne hsolid
  obtain ⟨hbefore, hafter⟩ := List.forall_mem_append.mp hothers
  refine ⟨rest, ?_, hwords⟩
  rw [Narrow.lastLabelled?, List.filterMap_append,
    List.filterMap_cons_some (labelled?_eq_some hstrip), filterMap_labelled?_eq_nil hbefore,
    filterMap_labelled?_eq_nil hafter]
  rfl

/-! ## Reading -/

end Narrow

end PipeTable
