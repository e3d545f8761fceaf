import Mathlib
import PipeTable.Text.Integer

/-! # Texts put together and cut again

What is put together of lines, of words or of digits is cut and read back as it was.
-/

namespace PipeTable.Text

theorem pieces_of_none {p : Char → Bool} {run : List Char} (h : ∀ c ∈ run, p c = false) :
    pieces p run = [run] := by
  induction run with
  | nil => rfl
  | cons c run ih =>
      rw [pieces, h c List.mem_cons_self, ih fun d hd => h d (List.mem_cons_of_mem _ hd)]
      rfl

theorem pieces_append {p : Char → Bool} {run rest : List Char} {c : Char}
    (h : ∀ d ∈ run, p d = false) (hc : p c = true) :
    pieces p (run ++ c :: rest) = run :: pieces p rest := by
  induction run with
  | nil =>
      rw [List.nil_append, pieces, hc]
      rfl
  | cons d run ih =>
      rw [List.cons_append, pieces, h d List.mem_cons_self,
        ih fun e he => h e (List.mem_cons_of_mem _ he)]
      rfl

/-- What is joined by a character that no piece holds is cut into the same pieces again. -/
theorem pieces_intercalate {p : Char → Bool} {c : Char} (hc : p c = true)
    {runs : List (List Char)} (hne : runs ≠ []) (h : ∀ run ∈ runs, ∀ d ∈ run, p d = false) :
    pieces p ([c].intercalate runs) = runs := by
  induction runs with
  | nil => exact absurd rfl hne
  | cons run runs ih =>
      have hrun := h run List.mem_cons_self
      cases runs with
      | nil => rw [List.intercalate_singleton, pieces_of_none hrun]
      | cons next runs =>
          have hrest := ih (List.cons_ne_nil _ _) fun r hr => h r (List.mem_cons_of_mem _ hr)
          rw [List.intercalate_cons_cons, List.append_assoc, List.singleton_append,
            pieces_append hrun hc, hrest]

theorem of_mem_intercalate {c d : Char} {runs : List (List Char)}
    (h : d ∈ [c].intercalate runs) : d = c ∨ ∃ run ∈ runs, d ∈ run := by
  induction runs with
  | nil => cases h
  | cons run runs ih =>
      cases runs with
      | nil =>
          rw [List.intercalate_singleton] at h
          exact .inr ⟨run, List.mem_cons_self, h⟩
      | cons next runs =>
          rw [List.intercalate_cons_cons, List.append_assoc, List.singleton_append,
            List.mem_append, List.mem_cons] at h
          rcases h with h | rfl | h
          · exact .inr ⟨run, List.mem_cons_self, h⟩
          · exact .inl rfl
          · rcases ih h with rfl | ⟨other, hother, hd⟩
            · exact .inl rfl
            · exact .inr ⟨other, List.mem_cons_of_mem _ hother, hd⟩

theorem isLineBreak_of_isBlank {c : Char} (h : isBlank c = false) : isLineBreak c = false := by
  simp only [isBlank, isLineBreak, Bool.or_eq_false_iff, Bool.and_eq_false_iff,
    decide_eq_false_iff_not] at h ⊢
  omega

theorem linesChars_append {line rest : List Char} (h : ∀ c ∈ line, isLineBreak c = false) :
    linesChars (line ++ '\n' :: rest) = line :: linesChars rest := by
  induction line with
  | nil => rfl
  | cons c line ih =>
      have hc := h c List.mem_cons_self
      have hreturn : c ≠ '\r' := by
        rintro rfl
        cases hc
      rw [List.cons_append, linesChars, hc, ih fun d hd => h d (List.mem_cons_of_mem _ hd)]
      · rfl
      · intro _ hcr
        exact absurd hcr hreturn

theorem linesChars_of_none {line : List Char} (hne : line ≠ [])
    (h : ∀ c ∈ line, isLineBreak c = false) : linesChars line = [line] := by
  induction line with
  | nil => exact absurd rfl hne
  | cons c line ih =>
      have hc := h c List.mem_cons_self
      have hreturn : c ≠ '\r' := by
        rintro rfl
        cases hc
      have hrest : linesChars line = if line = [] then [] else [line] := by
        split
        next hnil => rw [hnil]; rfl
        next hline => exact ih hline fun d hd => h d (List.mem_cons_of_mem _ hd)
      rw [linesChars, hc, hrest]
      · by_cases hline : line = []
        · simp [hline]
        · simp [hline]
      · intro _ hcr
        exact absurd hcr hreturn

/-- Lines that are not empty, joined by line feeds, are cut into the same lines again. -/
theorem linesChars_intercalate {lines : List (List Char)} (hne : ∀ line ∈ lines, line ≠ [])
    (h : ∀ line ∈ lines, ∀ c ∈ line, isLineBreak c = false) :
    linesChars (['\n'].intercalate lines) = lines := by
  induction lines with
  | nil => rfl
  | cons line lines ih =>
      have hline := h line List.mem_cons_self
      cases lines with
      | nil =>
          rw [List.intercalate_singleton, linesChars_of_none (hne line List.mem_cons_self) hline]
      | cons next lines =>
          have hrest := ih (fun l hl => hne l (List.mem_cons_of_mem _ hl))
            fun l hl => h l (List.mem_cons_of_mem _ hl)
          rw [List.intercalate_cons_cons, List.append_assoc, List.singleton_append,
            linesChars_append hline, hrest]

/-- Lines joined by line feeds are cut into the same lines again if one more line feed ends the last
of them, even if it is empty. -/
theorem linesChars_append_lines {lines : List (List Char)} (hne : lines ≠ [])
    (h : ∀ line ∈ lines, ∀ c ∈ line, isLineBreak c = false) (rest : List Char) :
    linesChars (['\n'].intercalate lines ++ '\n' :: rest) = lines ++ linesChars rest := by
  induction lines with
  | nil => exact absurd rfl hne
  | cons line lines ih =>
      have hline := h line List.mem_cons_self
      cases lines with
      | nil => rw [List.intercalate_singleton, linesChars_append hline, List.singleton_append]
      | cons next lines =>
          have hrest := ih (List.cons_ne_nil _ _) fun l hl => h l (List.mem_cons_of_mem _ hl)
          rw [List.intercalate_cons_cons, List.append_assoc, List.append_assoc,
            List.singleton_append, linesChars_append hline, hrest, ← List.cons_append]

/-- No line of a text has a line break in it. -/
theorem of_mem_linesChars {cs line : List Char} (h : line ∈ linesChars cs) :
    ∀ c ∈ line, isLineBreak c = false := by
  fun_induction linesChars cs generalizing line with
  | case1 => cases h
  | case2 cs ih =>
      rcases List.mem_cons.mp h with rfl | h
      · nofun
      · exact ih h
  | case3 c cs _ hc ih =>
      rcases List.mem_cons.mp h with rfl | h
      · nofun
      · exact ih h
  | case4 c cs _ hc hnil ih =>
      obtain rfl := List.mem_singleton.mp h
      intro d hd
      rw [List.mem_singleton.mp hd]
      simpa using hc
  | case5 c cs _ hc first more hlines ih =>
      rw [hlines] at ih
      rcases List.mem_cons.mp h with rfl | h
      · intro d hd
        rcases List.mem_cons.mp hd with rfl | hd
        · simpa using hc
        · exact ih List.mem_cons_self d hd
      · exact ih (List.mem_cons_of_mem _ h)

theorem dropWhile_eq_self {p : Char → Bool} {cs : List Char} (h : ∀ c ∈ cs.head?, p c = false) :
    cs.dropWhile p = cs := by
  cases cs with
  | nil => rfl
  | cons c cs => rw [List.dropWhile_cons_of_neg (by simp [h c rfl])]

/-- Characters that neither start nor end with one to be dropped stay as they are. -/
theorem dropBothEnds_eq_self {p : Char → Bool} {cs : List Char}
    (hfirst : ∀ c ∈ cs.head?, p c = false) (hlast : ∀ c ∈ cs.getLast?, p c = false) :
    dropEndWhile p (cs.dropWhile p) = cs := by
  rw [dropWhile_eq_self hfirst, dropEndWhile, dropWhile_eq_self (by rwa [List.head?_reverse]),
    List.reverse_reverse]

theorem dropBothEnds_of_none {p : Char → Bool} {cs : List Char} (h : ∀ c ∈ cs, p c = false) :
    dropEndWhile p (cs.dropWhile p) = cs :=
  dropBothEnds_eq_self (fun c hc => h c (List.mem_of_mem_head? hc))
    fun c hc => h c (List.mem_of_mem_getLast? hc)

theorem dropEndWhile_eq_nil_iff {p : Char → Bool} {cs : List Char} :
    dropEndWhile p cs = [] ↔ ∀ c ∈ cs, p c = true := by
  rw [dropEndWhile, List.reverse_eq_nil_iff, List.dropWhile_eq_nil_iff]
  simp only [List.mem_reverse]

theorem dropEndWhile_append {p : Char → Bool} (cs : List Char) {right : List Char}
    (h : ∀ c ∈ right, p c = true) : dropEndWhile p (cs ++ right) = dropEndWhile p cs := by
  have hreverse : ∀ c ∈ right.reverse, p c = true := fun c hc => h c (List.mem_reverse.mp hc)
  rw [dropEndWhile, List.reverse_append, List.dropWhile_append_of_pos hreverse, ← dropEndWhile]

theorem dropEndWhile_append_of_last {p : Char → Bool} {left : List Char}
    (h : ∀ c ∈ left.getLast?, p c = false) (right : List Char) :
    dropEndWhile p (left ++ right) = left ++ dropEndWhile p right := by
  have hleft : left.reverse.dropWhile p = left.reverse :=
    dropWhile_eq_self (by rwa [List.head?_reverse])
  rw [dropEndWhile, List.reverse_append, List.dropWhile_append, hleft, dropEndWhile]
  split
  next hempty =>
    rw [List.isEmpty_iff.mp hempty, List.reverse_reverse, List.reverse_nil, List.append_nil]
  next => rw [List.reverse_append, List.reverse_reverse]

theorem stripChars_append_left {left : List Char} (h : ∀ c ∈ left, isBlank c = true)
    (cs : List Char) : stripChars (left ++ cs) = stripChars cs := by
  rw [stripChars, List.dropWhile_append_of_pos h, ← stripChars]

/-- Blanks on the right are stripped, whether or not anything else is left. -/
theorem stripChars_append_right (cs : List Char) {right : List Char}
    (h : ∀ c ∈ right, isBlank c = true) : stripChars (cs ++ right) = stripChars cs := by
  by_cases hblank : ∀ c ∈ cs, isBlank c = true
  · have hall : ∀ c ∈ cs ++ right, isBlank c = true := by
      intro c hc
      rcases List.mem_append.mp hc with hc | hc
      · exact hblank c hc
      · exact h c hc
    rw [stripChars, stripChars, List.dropWhile_eq_nil_iff.mpr hall,
      List.dropWhile_eq_nil_iff.mpr hblank]
  · have hrest : (cs.dropWhile isBlank).isEmpty = false := by
      simpa [List.dropWhile_eq_nil_iff] using hblank
    rw [stripChars, List.dropWhile_append, hrest, if_neg Bool.false_ne_true,
      dropEndWhile_append _ h, ← stripChars]

/-- Digits with nothing between them are read one by one. -/
theorem digitRun_of_digits {value : Char → Nat} {digits : List Char} (hne : digits ≠ [])
    (h : ∀ c ∈ digits, decimalValue c = some (value c)) :
    digitRun digits = some (digits.map value) := by
  induction digits with
  | nil => exact absurd rfl hne
  | cons c rest ih =>
      have hc := h c List.mem_cons_self
      cases rest with
      | nil => simp [digitRun, hc]
      | cons d rest =>
          have hscore : d ≠ '_' := by
            rintro rfl
            have := h '_' (by simp)
            cases this
          have hrest := ih (List.cons_ne_nil _ _) fun e he => h e (List.mem_cons_of_mem _ he)
          rw [digitRun, hc, hrest]
          · rfl
          · exact List.cons_ne_nil _ _
          · intro _ heq
            exact hscore (List.cons_eq_cons.mp heq).1

theorem toNat_of_isDigit {c : Char} (h : c.isDigit = true) : 48 ≤ c.toNat ∧ c.toNat ≤ 57 := by
  rw [Char.isDigit, Bool.and_eq_true, decide_eq_true_eq, decide_eq_true_eq] at h
  exact h

theorem toNat_of_isAlpha {c : Char} (h : c.isAlpha = true) : 65 ≤ c.toNat ∧ c.toNat ≤ 122 := by
  simp only [Char.isAlpha, Char.isUpper, Char.isLower, Bool.or_eq_true, Bool.and_eq_true,
    decide_eq_true_eq] at h
  rcases h with ⟨hlow, hhigh⟩ | ⟨hlow, hhigh⟩
  · exact ⟨hlow, (show c.toNat ≤ 90 from hhigh).trans (by decide)⟩
  · exact ⟨(by decide : 65 ≤ 97).trans hlow, hhigh⟩

theorem isDigit_of_isDigit {c : Char} (h : c.isDigit = true) : isDigit c = true := by
  have hascii : c.val < 0x80 := (toNat_of_isDigit h).2.trans_lt (by decide)
  rw [isDigit, if_pos hascii, h]

/-- A plain decimal digit is neither a sign nor a blank. -/
theorem of_isDigit {c : Char} (h : c.isDigit = true) :
    c ≠ '-' ∧ c ≠ '+' ∧ isNumberBlank c = false ∧ isBlank c = false := by
  have hrange := toNat_of_isDigit h
  have hblank : isBlank c = false := by
    simp only [isBlank, Bool.or_eq_false_iff, Bool.and_eq_false_iff, decide_eq_false_iff_not]
    omega
  refine ⟨?_, ?_, by rw [isNumberBlank, hblank, Bool.false_and], hblank⟩
  · rintro rfl
    exact absurd h (by decide)
  · rintro rfl
    exact absurd h (by decide)

/-- Plain decimal digits stand for a number, which can be read unless there are too many of them. -/
theorem readNatural?_of_digits {digits : List Char} (hne : digits ≠ [])
    (h : ∀ c ∈ digits, c.isDigit = true) :
    readNatural? digits =
      if digits.length ≤ maxIntegerDigits then
        some (ofDigits (digits.map fun c => c.toNat - 48))
      else none := by
  have hdigits : digitRun digits = some (digits.map fun c => c.toNat - 48) :=
    digitRun_of_digits hne fun c hc => by rw [decimalValue, if_pos (h c hc)]
  rw [readNatural?, hdigits]
  simp only [bind, Option.bind, List.length_map]

/-- Without blanks and without a sign in front, a text is read as a natural number. -/
theorem readIntegerChars?_of_unsigned {cs : List Char} (hblank : ∀ c ∈ cs, isNumberBlank c = false)
    (hminus : '-' ∉ cs) (hplus : '+' ∉ cs) :
    readIntegerChars? cs = (readNatural? cs).map fun n : Nat => (n : Int) := by
  rw [readIntegerChars?, dropBothEnds_of_none hblank]
  split
  next => exact absurd List.mem_cons_self hminus
  next => exact absurd List.mem_cons_self hplus
  next => rfl

theorem readIntegerChars?_eq_readNatural? {digits : List Char}
    (h : ∀ c ∈ digits, c.isDigit = true) :
    readIntegerChars? digits = (readNatural? digits).map fun n : Nat => (n : Int) :=
  readIntegerChars?_of_unsigned (fun c hc => (of_isDigit (h c hc)).2.2.1)
    (fun hc => (of_isDigit (h _ hc)).1 rfl) fun hc => (of_isDigit (h _ hc)).2.1 rfl

/-- Plain decimal digits are read as the number that they stand for, unless there are too many. -/
theorem readIntegerChars?_of_digits {digits : List Char} (hne : digits ≠ [])
    (h : ∀ c ∈ digits, c.isDigit = true) (hlength : digits.length ≤ maxIntegerDigits) :
    readIntegerChars? digits = some (ofDigits (digits.map fun c => c.toNat - 48) : Int) := by
  rw [readIntegerChars?_eq_readNatural? h, readNatural?_of_digits hne h, if_pos hlength,
    Option.map_some]

theorem isWritable_iff_length (n : Nat) :
    isWritable n = true ↔ (Nat.toDigits 10 n).length ≤ maxIntegerDigits := by
  -- the number of digits stays a variable, so that no power of so many digits is computed
  have hcount : ∀ {k}, 0 < k → (n < Nat.pow 10 k ↔ (Nat.toDigits 10 n).length ≤ k) :=
    fun hk => (Nat.length_toDigits_le_iff (by decide) hk).symm
  rw [isWritable, decide_eq_true_eq, Int.natAbs_natCast]
  exact hcount (by decide)

theorem isDigit_of_mem_toDigits {n : Nat} : ∀ c ∈ Nat.toDigits 10 n, c.isDigit = true :=
  fun _ => Nat.isDigit_of_mem_toDigits (by decide) (by decide)

theorem ofDigits_eq (digits : List Nat) : ofDigits digits = Nat.ofDigits 10 digits.reverse := by
  rw [Nat.ofDigits_eq_foldr, List.foldr_reverse, ofDigits]
  simp [add_comm]

theorem ofDigits_toDigits (n : Nat) :
    ofDigits ((Nat.toDigits 10 n).map fun c => c.toNat - 48) = n := by
  rw [ofDigits, List.foldl_map]
  exact Nat.ofDigitChars_toDigits (by decide) (by decide)

/-- The decimal digits of a number are read as the number, if it can be written at all. -/
theorem readIntegerChars?_toDigits {n : Nat} (h : isWritable n = true) :
    readIntegerChars? (Nat.toDigits 10 n) = some (n : Int) := by
  rw [readIntegerChars?_of_digits (by simp) isDigit_of_mem_toDigits
    ((isWritable_iff_length n).mp h), ofDigits_toDigits]

theorem isWritable_of_le {n : Int} (h : n.natAbs ≤ maxIntegerDigits) : isWritable n = true := by
  have hpow : ∀ k, k < Nat.pow 10 k := fun k => Nat.lt_pow_self (by decide)
  rw [isWritable, decide_eq_true_eq]
  exact h.trans_lt (hpow maxIntegerDigits)

/-- The first power of ten with too many digits cannot be written. -/
theorem not_isWritable_pow {digits : Nat} (h : digits = maxIntegerDigits) :
    isWritable (10 ^ digits : Nat) = false := by
  rw [isWritable, ← h, decide_eq_false_iff_not]
  exact lt_irrefl _

theorem toList_writeInteger (n : Nat) : (writeInteger n).toList = Nat.toDigits 10 n :=
  String.toList_ofList

/-- A run of nines is one less than the next power of ten. -/
theorem ofDigits_nines (n : Nat) : ofDigits (List.replicate n 9) + 1 = 10 ^ n := by
  induction n with
  | zero => rfl
  | succ n ih =>
      rw [List.replicate_succ', ofDigits, List.foldl_append, ← ofDigits]
      simp only [List.foldl_cons, List.foldl_nil]
      omega

theorem readIntegerChars?_nines {n : Nat} (hpos : n ≠ 0) (h : n ≤ maxIntegerDigits) :
    readIntegerChars? (List.replicate n '9') = some (10 ^ n - 1) := by
  have hdigits : ∀ c ∈ List.replicate n '9', c.isDigit = true := fun c hc => by
    rw [List.eq_of_mem_replicate hc]
    decide
  have hvalue : (ofDigits (List.replicate n 9) : Int) + 1 = 10 ^ n := by
    exact_mod_cast ofDigits_nines n
  rw [readIntegerChars?_of_digits (by simpa using hpos) hdigits (by simpa using h),
    List.map_replicate, ← hvalue, add_sub_cancel_right]
  rfl

end PipeTable.Text
