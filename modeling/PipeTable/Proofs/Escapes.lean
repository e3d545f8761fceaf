import Mathlib
import PipeTable.Expr.Lexer
import PipeTable.Text.Quoted

/-! # Quoted texts read back

A quoted text shows some characters as themselves and the others as escapes.  Whatever the text, the
reader of literals finds the end of its quotes and decodes what is between them.
-/

namespace PipeTable

namespace Text

/-! ## Hexadecimal digits -/

theorem hexValue?_digitChar {d : Nat} (h : d < 16) : hexValue? d.digitChar = some d := by
  revert d
  decide

theorem isAlphanum_digitChar {d : Nat} (h : d < 16) : d.digitChar.isAlphanum = true := by
  revert d
  decide

/-- The number that hexadecimal digits stand for, most significant first. -/
def ofHexDigits (ds : List Nat) : Nat := ds.foldl (fun value d => 16 * value + d) 0

theorem exists_toDigits (n : Nat) :
    ∃ ds : List Nat, (∀ d ∈ ds, d < 16) ∧ Nat.toDigits 16 n = ds.map Nat.digitChar ∧
      ofHexDigits ds = n := by
  induction n using Nat.strongRecOn with
  | ind n ih =>
      rw [Nat.toDigits_eq_if (by decide)]
      split
      next hlt => exact ⟨[n], by simpa using hlt, rfl, by simp [ofHexDigits]⟩
      next hge =>
        obtain ⟨ds, hds, hdigits, hvalue⟩ := ih (n / 16) (by omega)
        refine ⟨ds ++ [n % 16], ?_, by rw [hdigits]; simp, ?_⟩
        · intro d hd
          rcases List.mem_append.mp hd with hd | hd
          · exact hds d hd
          · rw [List.mem_singleton.mp hd]
            omega
        · rw [ofHexDigits, List.foldl_append, ← ofHexDigits, hvalue]
          simp only [List.foldl_cons, List.foldl_nil]
          omega

/-- A number below a power of sixteen has as many hexadecimal digits as the exponent says, with
zeros in front. -/
theorem exists_hexDigits {width n : Nat} (hwidth : 0 < width) (h : n < 16 ^ width) :
    ∃ ds : List Nat, ds.length = width ∧ (∀ d ∈ ds, d < 16) ∧
      hexDigits width n = ds.map Nat.digitChar ∧ ofHexDigits ds = n := by
  obtain ⟨ds, hds, hdigits, hvalue⟩ := exists_toDigits n
  have hlength : ds.length ≤ width := by
    have hcount := (Nat.length_toDigits_le_iff (by decide) hwidth).mpr h
    rwa [hdigits, List.length_map] at hcount
  refine ⟨List.replicate (width - ds.length) 0 ++ ds, ?_, ?_, ?_, ?_⟩
  · rw [List.length_append, List.length_replicate]
    omega
  · intro d hd
    rcases List.mem_append.mp hd with hd | hd
    · rw [List.eq_of_mem_replicate hd]
      decide
    · exact hds d hd
  · rw [hexDigits, hdigits, List.length_map, List.map_append, List.map_replicate]
    rfl
  · have hzeros : ∀ k, (List.replicate k 0).foldl (fun value d => 16 * value + d) 0 = 0 := by
      intro k
      induction k with
      | zero => rfl
      | succ k ih => rwa [List.replicate_succ, List.foldl_cons]
    rw [ofHexDigits, List.foldl_append, hzeros, ← ofHexDigits, hvalue]

theorem takeHex?_digits {ds : List Nat} (h : ∀ d ∈ ds, d < 16) (value : Nat) (rest : List Char) :
    takeHex? ds.length value (ds.map Nat.digitChar ++ rest) =
      some (ds.foldl (fun value d => 16 * value + d) value, rest) := by
  induction ds generalizing value with
  | nil => rfl
  | cons d ds ih =>
      rw [List.map_cons, List.cons_append, List.length_cons, takeHex?,
        hexValue?_digitChar (h d List.mem_cons_self), Option.bind_some,
        ih (fun e he => h e (List.mem_cons_of_mem _ he)), List.foldl_cons]

/-- Hexadecimal digits are read as the number that they were written for. -/
theorem takeHex?_hexDigits {width n : Nat} (hwidth : 0 < width) (h : n < 16 ^ width)
    (rest : List Char) : takeHex? width 0 (hexDigits width n ++ rest) = some (n, rest) := by
  obtain ⟨ds, hlength, hds, hdigits, hvalue⟩ := exists_hexDigits hwidth h
  rw [hdigits, ← hlength, takeHex?_digits hds, ← ofHexDigits, hvalue]

theorem isAlphanum_of_mem_hexDigits {width n : Nat} (hwidth : 0 < width) (h : n < 16 ^ width)
    {c : Char} (hc : c ∈ hexDigits width n) : c.isAlphanum = true := by
  obtain ⟨ds, -, hds, hdigits, -⟩ := exists_hexDigits hwidth h
  rw [hdigits] at hc
  obtain ⟨d, hd, rfl⟩ := List.mem_map.mp hc
  exact isAlphanum_digitChar (hds d hd)

/-! ## Characters between quotes -/

/-- The letters of the escapes by number, with how many digits follow. -/
def numberEscapes : List (Char × Nat) := [('x', 2), ('u', 4), ('U', 8)]

/-- The ways in which a character stands between quotes of a kind. -/
inductive Stands (mark c : Char) : List Char → Prop
  | itself (hmark : c ≠ mark) (hslash : c ≠ '\\') (hshown : isPrintable c = true) :
      Stands mark c [c]
  | letter {e : Char} (h : Expr.simpleEscape? e = some c.toNat) (hbreak : e ≠ '\n')
      (hreturn : e ≠ '\r') : Stands mark c ['\\', e]
  | number {letter : Char} {width : Nat} (hletter : (letter, width) ∈ numberEscapes)
      (hfits : c.toNat < 16 ^ width) :
      Stands mark c ('\\' :: letter :: hexDigits width c.toNat)

theorem quoteFor_cases (cs : List Char) : quoteFor cs = '\'' ∨ quoteFor cs = '"' := by
  unfold quoteFor
  split
  · exact .inr rfl
  · exact .inl rfl

theorem stands_escapeNumber (mark c : Char) : Stands mark c (escapeNumber c) := by
  have hbound : c.toNat < 16 ^ 8 := (UInt32.toNat_lt c.val).trans_le (by norm_num)
  unfold escapeNumber
  split
  next h => exact .number (by simp [numberEscapes]) h
  next =>
    split
    next h => exact .number (by simp [numberEscapes]) h
    next => exact .number (by simp [numberEscapes]) hbound

/-- Every character has its way to stand between quotes. -/
theorem stands_escapeChar {mark : Char} (hmark : mark = '\'' ∨ mark = '"') (c : Char) :
    Stands mark c (escapeChar mark c) := by
  unfold escapeChar
  split
  next h =>
    simp only [Bool.or_eq_true, decide_eq_true_eq] at h
    rcases h with rfl | rfl
    · rcases hmark with rfl | rfl <;> exact .letter rfl (by decide) (by decide)
    · exact .letter rfl (by decide) (by decide)
  next h =>
    simp only [Bool.or_eq_true, decide_eq_true_eq, not_or] at h
    split
    next hline => exact hline ▸ .letter rfl (by decide) (by decide)
    next =>
      split
      next hreturn => exact hreturn ▸ .letter rfl (by decide) (by decide)
      next =>
        split
        next htab => exact htab ▸ .letter rfl (by decide) (by decide)
        next =>
          split
          next hshown => exact .itself h.1 h.2 hshown
          next => exact stands_escapeNumber mark c

/-- A character of a class is none of those outside it. -/
theorem ne_of_class {p : Char → Bool} {c d : Char} (hc : p c = true) (hd : p d = false) :
    c ≠ d := by
  rintro rfl
  rw [hc] at hd
  cases hd

theorem isAlphanum_of_numberEscape {n : Nat} {letter : Char} {width : Nat}
    (hletter : (letter, width) ∈ numberEscapes) (hfits : n < 16 ^ width) :
    ∀ c ∈ letter :: hexDigits width n, c.isAlphanum = true := by
  have hall : ∀ e ∈ numberEscapes, e.1.isAlphanum = true ∧ 0 < e.2 := by decide
  intro c hc
  rcases List.mem_cons.mp hc with rfl | hc
  · exact (hall _ hletter).1
  · exact isAlphanum_of_mem_hexDigits (hall _ hletter).2 hfits hc

/-- A character is no part of a quoted text: it is neither shown nor part of an escape. -/
structure Hidden (d : Char) : Prop where
  shown : isPrintable d = false
  alphanum : d.isAlphanum = false
  escape : Expr.simpleEscape? d = none

theorem hidden_return : Hidden '\r' := ⟨by decide, by decide, rfl⟩

theorem hidden_null : Hidden '\x00' := ⟨by decide, by decide, rfl⟩

/-- No character stands between quotes with a hidden one. -/
theorem Stands.ne_hidden {mark c : Char} {cs : List Char} (h : Stands mark c cs) {d : Char}
    (hd : Hidden d) : ∀ e ∈ cs, e ≠ d := by
  have hslash : '\\' ≠ d := ne_of_class (p := isPrintable) (by decide) hd.shown
  intro e he
  cases h with
  | itself _ _ hshown =>
      rw [List.mem_singleton.mp he]
      exact ne_of_class hshown hd.shown
  | letter hletter =>
      rcases List.mem_cons.mp he with rfl | he
      · exact hslash
      · rw [List.mem_singleton.mp he]
        rintro rfl
        rw [hd.escape] at hletter
        cases hletter
  | number hletter hfits =>
      rcases List.mem_cons.mp he with rfl | he
      · exact hslash
      · exact ne_of_class (isAlphanum_of_numberEscape hletter hfits e he) hd.alphanum

/-- What stands for the first character between quotes does not start with the quote. -/
theorem Stands.head_ne {mark c : Char} {cs : List Char} (hmark : mark = '\'' ∨ mark = '"')
    (h : Stands mark c cs) : ∃ d rest, cs = d :: rest ∧ d ≠ mark := by
  cases h with
  | itself hne => exact ⟨c, [], rfl, hne⟩
  | letter => exact ⟨_, _, rfl, by rcases hmark with rfl | rfl <;> decide⟩
  | number => exact ⟨_, _, rfl, by rcases hmark with rfl | rfl <;> decide⟩

end Text

namespace Expr

open Text (Stands escapeChar hexDigits numberEscapes quoteChars quoteFor quoteFor_cases
  stands_escapeChar)

/-! ## The end of the quotes -/

theorem quotedBody?_cons {c : Char} (hslash : c ≠ '\\') (mark : Char) (more : List Char) :
    quotedBody? mark false (c :: more) =
      if c = mark then some ([], more)
      else if c = '\n' then none
      else (quotedBody? mark false more).map fun (body, after) => (c :: body, after) := by
  rw [quotedBody?.eq_def]
  split
  next heq => cases heq
  next heq => exact absurd (List.cons.inj heq).1 hslash
  next heq =>
    obtain ⟨rfl, rfl⟩ := List.cons.inj heq
    simp

theorem quotedBody?_plain {mark c : Char} (hmark : c ≠ mark) (hslash : c ≠ '\\')
    (hbreak : c ≠ '\n') (more : List Char) :
    quotedBody? mark false (c :: more) =
      (quotedBody? mark false more).map fun (body, after) => (c :: body, after) := by
  rw [quotedBody?_cons hslash, if_neg hmark, if_neg hbreak]

theorem quotedBody?_alphanum {mark : Char} (hmark : mark = '\'' ∨ mark = '"') {cs : List Char}
    (h : ∀ c ∈ cs, c.isAlphanum = true) (more : List Char) :
    quotedBody? mark false (cs ++ more) =
      (quotedBody? mark false more).map fun (body, after) => (cs ++ body, after) := by
  induction cs with
  | nil => simp
  | cons c cs ih =>
      have hc := h c List.mem_cons_self
      have hne : c ≠ mark := by
        rcases hmark with rfl | rfl <;> exact Text.ne_of_class hc (by decide)
      rw [List.cons_append, quotedBody?_plain hne (Text.ne_of_class hc (by decide))
        (Text.ne_of_class hc (by decide)), ih fun d hd => h d (List.mem_cons_of_mem _ hd),
        Option.map_map]
      rfl

section Stands

variable {mark c : Char} {cs : List Char}

/-- The end of the quotes is looked for behind what stands for a character. -/
theorem quotedBody?_stands (hmark : mark = '\'' ∨ mark = '"') (h : Stands mark c cs)
    (more : List Char) :
    quotedBody? mark false (cs ++ more) =
      (quotedBody? mark false more).map fun (body, after) => (cs ++ body, after) := by
  cases h with
  | itself hne hslash hshown =>
      exact quotedBody?_plain hne hslash (Text.ne_of_class hshown (by decide)) more
  | letter => rfl
  | number hletter hfits =>
      -- the backslash takes the letter with it, and the digits are plain
      have hdigits : ∀ d ∈ hexDigits _ c.toNat, d.isAlphanum = true := fun d hd =>
        Text.isAlphanum_of_numberEscape hletter hfits d (List.mem_cons_of_mem _ hd)
      rw [List.cons_append, List.cons_append, quotedBody?, quotedBody?_alphanum hmark hdigits,
        Option.map_map]
      rfl

/-- The quotes end behind the last character. -/
theorem quotedBody?_flatMap (hmark : mark = '\'' ∨ mark = '"') (cs after : List Char) :
    quotedBody? mark false (cs.flatMap (escapeChar mark) ++ mark :: after) =
      some (cs.flatMap (escapeChar mark), after) := by
  induction cs with
  | nil =>
      have hslash : mark ≠ '\\' := by rcases hmark with rfl | rfl <;> decide
      rw [List.flatMap_nil, List.nil_append, quotedBody?_cons hslash, if_pos rfl]
  | cons c cs ih =>
      rw [List.flatMap_cons, List.append_assoc,
        quotedBody?_stands hmark (stands_escapeChar hmark c), ih, Option.map_some]

/-! ## Decoding -/

/-- An escape by number is read as the character with that number. -/
theorem readEscape?_number {letter : Char} {width : Nat} (hletter : (letter, width) ∈ numberEscapes)
    (hfits : c.toNat < 16 ^ width) (more : List Char) :
    readEscape? true (letter :: (hexDigits width c.toNat ++ more)) = some ([c.toNat], more) := by
  have hcode : c.toNat ≤ 0x10FFFF := by
    rcases c.valid with hlow | ⟨-, hhigh⟩
    · exact (Nat.le_of_lt hlow).trans (by decide)
    · exact Nat.le_of_lt_succ hhigh
  simp only [numberEscapes, List.mem_cons, Prod.mk.injEq, List.not_mem_nil, or_false] at hletter
  rcases hletter with ⟨rfl, rfl⟩ | ⟨rfl, rfl⟩ | ⟨rfl, rfl⟩
  all_goals simp [readEscape?, simpleEscape?, Text.takeHex?_hexDigits _ hfits, hcode]

/-- What stands for a character is decoded as the character. -/
theorem unescape?_stands (h : Stands mark c cs) (fuel : Nat) (more : List Char) :
    unescape? true (fuel + 1) (cs ++ more) = (unescape? true fuel more).map (c.toNat :: ·) := by
  cases h with
  | itself _ hslash _ =>
      rw [List.singleton_append, unescape?]
      rintro rfl
      exact absurd rfl hslash
  | letter he hbreak =>
      rw [List.cons_append, List.singleton_append, unescape?, readEscape?]
      simp only [if_neg hbreak, he, List.singleton_append]
  | number hletter hfits =>
      rw [List.cons_append, List.cons_append, unescape?, readEscape?_number hletter hfits]
      rfl

end Stands

theorem unescape?_flatMap {mark : Char} (hmark : mark = '\'' ∨ mark = '"') {cs : List Char}
    {fuel : Nat} (hfuel : cs.length ≤ fuel) :
    unescape? true fuel (cs.flatMap (escapeChar mark)) = some (cs.map Char.toNat) := by
  induction cs generalizing fuel with
  | nil => cases fuel <;> rfl
  | cons c cs ih =>
      cases fuel with
      | zero => cases hfuel
      | succ fuel =>
          rw [List.flatMap_cons, unescape?_stands (stands_escapeChar hmark c),
            ih (Nat.le_of_succ_le_succ hfuel)]
          rfl

theorem length_le_flatMap {mark : Char} (hmark : mark = '\'' ∨ mark = '"') (cs : List Char) :
    cs.length ≤ (cs.flatMap (escapeChar mark)).length := by
  induction cs with
  | nil => exact Nat.le_refl 0
  | cons c cs ih =>
      obtain ⟨d, rest, heq, -⟩ := (stands_escapeChar hmark c).head_ne hmark
      rw [List.flatMap_cons, heq]
      simp only [List.length_cons, List.length_append]
      omega

/-- What is between the quotes is decoded as the text. -/
theorem decodeText?_flatMap {mark : Char} (hmark : mark = '\'' ∨ mark = '"') (cs : List Char) :
    decodeText? false (cs.flatMap (escapeChar mark)) = some (String.ofList cs) := by
  rw [decodeText?, decode?, if_neg Bool.false_ne_true,
    unescape?_flatMap hmark (length_le_flatMap hmark cs), Option.map_some, List.map_map]
  have hchars : (Char.ofNat ∘ Char.toNat) = id := funext Char.ofNat_toNat
  rw [hchars, List.map_id]

/-- A quote that is not followed by two more opens a literal with single quotes. -/
theorem readQuoted?_single {mark : Char} {inside body after : List Char} {s : String}
    (h : ∀ more, inside ≠ mark :: mark :: more)
    (hbody : quotedBody? mark false inside = some (body, after))
    (htext : decodeText? false body = some s) :
    readQuoted? {} (mark :: inside) = some (.text s, after) := by
  have hlexeme : quotedLexeme? {} body = some (.text s) := by
    simp only [quotedLexeme?, htext, Bool.false_eq_true, if_false, Option.map_some]
  match inside with
  | [] => cases hbody
  | [d] => simp only [readQuoted?, hbody, hlexeme, bind, Option.bind, pure]
  | d :: e :: more =>
      have hsingle : ¬ (d = mark ∧ e = mark) := by
        rintro ⟨rfl, rfl⟩
        exact h more rfl
      simp only [readQuoted?, if_neg hsingle, hbody, hlexeme, bind, Option.bind, pure]

/-- A quoted text is read as the text, unless a further quote of its kind follows. -/
theorem readQuoted?_quoteChars (cs : List Char) {rest : List Char}
    (hrest : rest.head? ≠ some (quoteFor cs)) :
    readQuoted? {} (quoteChars cs ++ rest) = some (.text (String.ofList cs), rest) := by
  have hmark := quoteFor_cases cs
  have hchars : quoteChars cs ++ rest =
      quoteFor cs :: (cs.flatMap (escapeChar (quoteFor cs)) ++ quoteFor cs :: rest) := by
    simp [quoteChars]
  rw [hchars]
  refine readQuoted?_single (fun more heq => ?_) (quotedBody?_flatMap hmark cs rest)
    (decodeText?_flatMap hmark cs)
  cases hcs : cs with
  | nil =>
      rw [hcs] at heq hrest
      obtain ⟨-, rfl⟩ := List.cons.inj heq
      exact hrest rfl
  | cons c more' =>
      obtain ⟨d, tail, hd, hne⟩ := (stands_escapeChar hmark c).head_ne hmark
      rw [hcs, List.flatMap_cons, ← hcs, hd] at heq
      exact hne (List.cons.inj heq).1

end Expr

end PipeTable
