import Mathlib
import PipeTable.Number.Reading
import PipeTable.Proofs.Words

/-! # Texts of numbers

A number is written with digits, signs, a point and the letters of an exponent or of a word for
infinity.  A text with any other character is no number, and neither are digits before a character
that cannot follow them.
-/

namespace PipeTable.Number

/-! ## Characters of numbers -/

/-- Whether a letter, small or capital, is one of an exponent or of a word for infinity. -/
def isLetter (c : Char) : Bool := c.toLower ∈ ['e', 'i', 'n', 'f', 't', 'y']

/-- Whether a number can have a character in its text. -/
def isPart (c : Char) : Bool :=
  c.isDigit || c ∈ ['.', '+', '-'] || isLetter c

theorem isLetter_of_infinity {cs : List Char}
    (h : cs.map Char.toLower = "inf".toList ∨ cs.map Char.toLower = "infinity".toList) :
    ∀ c ∈ cs, isLetter c = true := by
  intro c hc
  have hsmall : c.toLower ∈ cs.map Char.toLower := List.mem_map_of_mem hc
  rw [isLetter, decide_eq_true_eq]
  rcases h with h | h <;> rw [h] at hsmall
  · exact (by simp : "inf".toList ⊆ ['e', 'i', 'n', 'f', 't', 'y']) hsmall
  · exact (by simp : "infinity".toList ⊆ ['e', 'i', 'n', 'f', 't', 'y']) hsmall

theorem isAlpha_of_isLetter {c : Char} (h : isLetter c = true) : c.isAlpha = true := by
  have hsmall : c.toLower.isAlpha = true :=
    List.all_eq_true.mp (by decide : ['e', 'i', 'n', 'f', 't', 'y'].all Char.isAlpha = true) _
      (decide_eq_true_eq.mp h)
  by_cases hupper : c.val ≥ 'A'.val ∧ c.val ≤ 'Z'.val
  · rw [Char.isAlpha, Char.isUpper, decide_eq_true hupper, Bool.true_or]
  · rwa [Char.toLower, dif_neg hupper] at hsmall

theorem isPart_of_isDigit {c : Char} (h : c.isDigit = true) : isPart c = true := by
  rw [isPart, h, Bool.true_or, Bool.true_or]

theorem isPart_of_readExponent? {cs : List Char} {n : Int} (h : readExponent? cs = some n) :
    ∀ c ∈ cs, isPart c = true := by
  have hdigits {ds : List Char} (h : (!ds.isEmpty && ds.all Char.isDigit) = true) :
      ∀ c ∈ ds, isPart c = true := fun c hc =>
    isPart_of_isDigit (List.all_eq_true.mp (Bool.and_eq_true_iff.mp h).2 c hc)
  simp only [readExponent?] at h
  split at h <;> split at h
  next hall => exact List.forall_mem_cons.mpr ⟨by decide, hdigits hall⟩
  next => cases h
  next hall => exact List.forall_mem_cons.mpr ⟨by decide, hdigits hall⟩
  next => cases h
  next hall => exact hdigits hall
  next => cases h

theorem isPart_of_readTail? {cs : List Char} {n : Int} (h : readTail? cs = some n) :
    ∀ c ∈ cs, isPart c = true := by
  unfold readTail? at h
  split at h
  · simp
  · exact List.forall_mem_cons.mpr ⟨by decide, isPart_of_readExponent? h⟩
  · exact List.forall_mem_cons.mpr ⟨by decide, isPart_of_readExponent? h⟩
  · cases h

theorem isPart_of_readDecimal? {cs : List Char} {d : Decimal} (h : readDecimal? cs = some d) :
    ∀ c ∈ cs, isPart c = true := by
  have hwhole (cs : List Char) : ∀ c ∈ cs.takeWhile Char.isDigit, isPart c = true := fun c hc =>
    isPart_of_isDigit (List.mem_takeWhile_imp hc)
  have hsplit {cs : List Char} (hrest : ∀ c ∈ cs.dropWhile Char.isDigit, isPart c = true) :
      ∀ c ∈ cs, isPart c = true := by
    rw [← cs.takeWhile_append_dropWhile (p := Char.isDigit)]
    exact List.forall_mem_append.mpr ⟨hwhole cs, hrest⟩
  simp only [readDecimal?] at h
  split at h
  next more hrest =>
    obtain ⟨-, h⟩ := Option.ite_none_left_eq_some.mp h
    obtain ⟨power, hpower, -⟩ := Option.map_eq_some_iff.mp h
    refine hsplit ?_
    rw [hrest]
    exact List.forall_mem_cons.mpr ⟨by decide, hsplit (isPart_of_readTail? hpower)⟩
  next =>
    obtain ⟨-, h⟩ := Option.ite_none_left_eq_some.mp h
    obtain ⟨power, hpower, -⟩ := Option.map_eq_some_iff.mp h
    exact hsplit (isPart_of_readTail? hpower)

theorem isPart_of_readUnsigned? {negative : Bool} {cs : List Char} {x : Float}
    (h : readUnsigned? negative cs = some x) : ∀ c ∈ cs, isPart c = true := by
  simp only [readUnsigned?] at h
  split at h
  next hword =>
    rw [Bool.or_eq_true, decide_eq_true_eq, decide_eq_true_eq] at hword
    intro c hc
    rw [isPart, isLetter_of_infinity hword c hc, Bool.or_true]
  next =>
    obtain ⟨d, hd, -⟩ := Option.map_eq_some_iff.mp h
    exact isPart_of_readDecimal? hd

theorem isPart_of_read? {cs : List Char} {x : Float} (h : read? cs = some x) :
    ∀ c ∈ cs, isPart c = true := by
  unfold read? at h
  split at h
  · exact List.forall_mem_cons.mpr ⟨by decide, isPart_of_readUnsigned? h⟩
  · exact List.forall_mem_cons.mpr ⟨by decide, isPart_of_readUnsigned? h⟩
  · exact isPart_of_readUnsigned? h

/-- A text with a character that no number has is no number. -/
theorem place?_ofText_of_not_isPart {s : String} {c : Char} (hmem : c ∈ s.toList)
    (hblank : Text.isBlank c = false) (hc : isPart c = false) : place? (ofText s) = none := by
  have hread : read? (Text.stripChars s.toList) = none := by
    by_contra hsome
    obtain ⟨x, hx⟩ := Option.ne_none_iff_exists'.mp hsome
    rw [isPart_of_read? hx c (Text.mem_stripChars_of_not_blank hmem hblank)] at hc
    cases hc
  rw [ofText, hread]
  decide +kernel

/-! ## Digits before something else -/

section Digits

variable {digits more : List Char} {c : Char}

theorem readDecimal?_append (hdigits : ∀ d ∈ digits, d.isDigit = true) (hc : c.isDigit = false)
    (halpha : c.isAlpha = false) (hpoint : c ≠ '.') :
    readDecimal? (digits ++ c :: more) = none := by
  have htake : (digits ++ c :: more).takeWhile Char.isDigit = digits := by
    rw [List.takeWhile_append_of_pos hdigits, List.takeWhile_cons_of_neg (by simp [hc]),
      List.append_nil]
  have hdrop : (digits ++ c :: more).dropWhile Char.isDigit = c :: more := by
    rw [List.dropWhile_append_of_pos hdigits, List.dropWhile_cons_of_neg (by simp [hc])]
  have htail : readTail? (c :: more) = none := by
    unfold readTail?
    split
    next h => cases h
    next h => cases h; cases halpha
    next h => cases h; cases halpha
    next => rfl
  simp only [readDecimal?, htake, hdrop]
  split
  next h => exact absurd (List.cons.inj h).1 hpoint
  next => rw [htail, Option.map_none, ite_self]

/-- Digits are no number if what follows them belongs to none. -/
theorem read?_append (hdigits : ∀ d ∈ digits, d.isDigit = true) (hc : c.isDigit = false)
    (halpha : c.isAlpha = false) (hpoint : c ≠ '.') (hsign : digits = [] → c ≠ '-' ∧ c ≠ '+') :
    read? (digits ++ c :: more) = none := by
  have hunsigned : readUnsigned? false (digits ++ c :: more) = none := by
    have hword : ¬ ((digits ++ c :: more).map Char.toLower = "inf".toList ∨
        (digits ++ c :: more).map Char.toLower = "infinity".toList) := fun h => by
      rw [isAlpha_of_isLetter (isLetter_of_infinity h c (by simp))] at halpha
      cases halpha
    rw [readUnsigned?, readDecimal?_append hdigits hc halpha hpoint]
    exact if_neg (by rwa [Bool.or_eq_true, decide_eq_true_eq, decide_eq_true_eq])
  have hfirst : ∀ d rest, digits ++ c :: more = d :: rest → d ≠ '-' ∧ d ≠ '+' := by
    intro d rest h
    cases digits with
    | nil => exact (List.cons.inj h).1 ▸ hsign rfl
    | cons e digits =>
        have hdigit := hdigits e List.mem_cons_self
        rw [(List.cons.inj h).1] at hdigit
        constructor <;> rintro rfl <;> cases hdigit
  unfold read?
  split
  next h => exact absurd rfl (hfirst _ _ h).1
  next h => exact absurd rfl (hfirst _ _ h).2
  next => exact hunsigned

end Digits

end PipeTable.Number
