import Mathlib
import PipeTable.Proofs.Spellings

/-! # Digits of any script

A table of characters counts its bounds at or below a character by halving.  Every decimal digit is
a digit in the wider sense too, and no digit in the wider sense is a blank, a sign or an underscore.
So digits in the wider sense are read as a number exactly if each of them has a value and there are
not too many.
-/

namespace PipeTable.Text

namespace CharTable

variable {t u : CharTable} {point : Nat}

/-- The bounds of the table stand in ascending order. -/
def Ascending (t : CharTable) : Prop :=
  ∀ i j, i ≤ j → j < t.bounds.size → t.bounds.getD i 0 ≤ t.bounds.getD j 0

/-- So many bounds of the table lie at or below a point, and all others above it. -/
structure Counts (t : CharTable) (point count : Nat) : Prop where
  le_size : count ≤ t.bounds.size
  below : ∀ i < count, t.bounds.getD i 0 ≤ point
  above : ∀ i, count ≤ i → i < t.bounds.size → point < t.bounds.getD i 0

theorem Counts.unique {m n : Nat} (hm : t.Counts point m) (hn : t.Counts point n) : m = n := by
  rcases Nat.lt_trichotomy m n with hlt | heq | hlt
  · exact absurd (hn.below m hlt) (not_le.mpr (hm.above m le_rfl (hlt.trans_le hn.le_size)))
  · exact heq
  · exact absurd (hm.below n hlt) (not_le.mpr (hn.above n le_rfl (hlt.trans_le hm.le_size)))

/-- Halving keeps the bounds that it has passed on their sides of the point. -/
theorem counts_search (h : t.Ascending) {fuel lo hi : Nat} (hfuel : hi - lo < 2 ^ fuel)
    (hle : lo ≤ hi) (hsize : hi ≤ t.bounds.size) (hlow : ∀ i < lo, t.bounds.getD i 0 ≤ point)
    (hhigh : ∀ i, hi ≤ i → i < t.bounds.size → point < t.bounds.getD i 0) :
    t.Counts point (search t.bounds point fuel lo hi) := by
  induction fuel generalizing lo hi with
  | zero =>
      obtain rfl : lo = hi := by omega
      exact ⟨hsize, hlow, hhigh⟩
  | succ fuel ih =>
      rw [search]
      split
      next hlt =>
        have hhalf : hi - lo < 2 * 2 ^ fuel := by rwa [← pow_succ']
        dsimp only
        split
        next hmid =>
          refine ih (by omega) (by omega) hsize (fun i hi' => ?_) hhigh
          exact (h i _ (by omega) (by omega)).trans hmid
        next hmid =>
          refine ih (by omega) (by omega) (by omega) hlow fun i hi' hi'' => ?_
          exact (not_le.mp hmid).trans_le (h _ i hi' hi'')
      next hnot =>
        obtain rfl : lo = hi := by omega
        exact ⟨hsize, hlow, hhigh⟩

theorem counts_rank (h : t.Ascending) (point : Nat) : t.Counts point (t.rank point) := by
  refine counts_search h ?_ (Nat.zero_le _) le_rfl (fun i hi => absurd hi (Nat.not_lt_zero i))
    fun i hi hi' => absurd hi' (not_lt.mpr hi)
  exact (Nat.lt_succ_self _).trans Nat.lt_log2_self

theorem pairwise_sums (start : Nat) (gaps : List Nat) :
    (∀ n ∈ sums start gaps, start ≤ n) ∧ (sums start gaps).Pairwise (· ≤ ·) := by
  induction gaps generalizing start with
  | nil => exact ⟨nofun, .nil⟩
  | cons gap gaps ih =>
      obtain ⟨hle, hpairwise⟩ := ih (start + gap)
      refine ⟨List.forall_mem_cons.mpr ⟨Nat.le_add_right _ _, fun n hn => ?_⟩,
        List.pairwise_cons.mpr ⟨hle, hpairwise⟩⟩
      exact (Nat.le_add_right _ _).trans (hle n hn)

theorem ascending_ofGaps (gaps : String) : (ofGaps gaps).Ascending := by
  have hget : ∀ k, (ofGaps gaps).bounds.getD k 0 = (sums 0 (readNumbers gaps)).getD k 0 :=
    fun k => by simp [ofGaps]
  intro i j hij hj
  replace hj : j < (sums 0 (readNumbers gaps)).length := hj
  rw [hget, hget, List.getD_eq_getElem _ _ (hij.trans_lt hj), List.getD_eq_getElem _ _ hj]
  rcases hij.lt_or_eq with hlt | rfl
  · exact List.pairwise_iff_getElem.mp (pairwise_sums 0 _).2 i j _ _ hlt
  · exact le_rfl

/-- Every run of the first table lies within a run of the second. -/
def RunsWithin (t u : CharTable) : Prop :=
  ∀ i < t.bounds.size, i % 2 = 0 → i + 1 < t.bounds.size ∧
    u.rank (t.bounds.getD i 0) % 2 = 1 ∧ (u.rank (t.bounds.getD i 0) < u.bounds.size →
      t.bounds.getD (i + 1) 0 ≤ u.bounds.getD (u.rank (t.bounds.getD i 0)) 0)

instance (t u : CharTable) : Decidable (t.RunsWithin u) :=
  inferInstanceAs (Decidable (∀ i < _, _))

theorem contains_of_runsWithin (ht : t.Ascending) (hu : u.Ascending) (h : t.RunsWithin u)
    {c : Char} (hc : t.contains c = true) : u.contains c = true := by
  rw [contains, decide_eq_true_eq] at hc ⊢
  have hcount := counts_rank ht c.toNat
  have hsize := hcount.le_size
  obtain ⟨i, hi⟩ : ∃ i, t.rank c.toNat = i + 1 := Nat.exists_eq_succ_of_ne_zero (by omega)
  rw [hi] at hc hcount hsize
  obtain ⟨hnext, hodd, hend⟩ := h i (by omega) (by omega)
  -- the character lies between the ends of a run, so no bound of the second table parts it from
  -- the start of the run
  have hstart := counts_rank hu (t.bounds.getD i 0)
  have hsame : u.Counts c.toNat (u.rank (t.bounds.getD i 0)) := by
    refine ⟨hstart.le_size, fun j hj => ?_, fun j hj hj' => ?_⟩
    · exact (hstart.below j hj).trans (hcount.below i (Nat.lt_succ_self i))
    · calc c.toNat
        _ < t.bounds.getD (i + 1) 0 := hcount.above _ le_rfl hnext
        _ ≤ u.bounds.getD (u.rank (t.bounds.getD i 0)) 0 := hend (hj.trans_lt hj')
        _ ≤ u.bounds.getD j 0 := hu _ j hj hj'
  rwa [(counts_rank hu c.toNat).unique hsame]

end CharTable

/-! ## Digits -/

set_option maxRecDepth 20000 in
theorem decimalTable_runsWithin : decimalTable.RunsWithin digitTable := by
  rw [decimalTable, digitTable, CharTable.ofGaps_ofList (by decide +kernel),
    CharTable.ofGaps_ofList (by decide +kernel)]
  decide +kernel

theorem isDigit_of_isDecimal {c : Char} (h : isDecimal c = true) : isDigit c = true := by
  rw [isDecimal] at h
  rw [isDigit]
  split at h
  next hascii => rwa [if_pos hascii]
  next hwide =>
    rw [if_neg hwide]
    exact CharTable.contains_of_runsWithin (CharTable.ascending_ofGaps _)
      (CharTable.ascending_ofGaps _) decimalTable_runsWithin h

set_option maxRecDepth 20000 in
theorem digitTable_wideBlanks : ∀ n ∈ wideBlanks, digitTable.rank n % 2 = 0 := by
  rw [digitTable, CharTable.ofGaps_ofList (by decide +kernel)]
  decide +kernel

section Digit

variable {c : Char} (h : isDigit c = true)
include h

/-- The codes of digits; most of those beyond ASCII are none. -/
theorem toNat_of_isWideDigit : 48 ≤ c.toNat ∧ c.toNat ≤ 57 ∨ 128 ≤ c.toNat := by
  rw [isDigit] at h
  split at h
  next => exact .inl (toNat_of_isDigit h)
  next hwide => exact .inr (not_lt.mp hwide)

theorem isBlank_of_isWideDigit : isBlank c = false := by
  by_contra hblank
  have hcode := toNat_of_isWideDigit h
  rcases isBlank_cases (Bool.of_not_eq_false hblank) with hlow | hwide
  · omega
  · have hascii : ¬ c.val < 0x80 :=
      not_lt.mpr ((by decide : ∀ n ∈ wideBlanks, 128 ≤ n) c.toNat hwide)
    rw [isDigit, if_neg hascii, CharTable.contains, digitTable_wideBlanks c.toNat hwide] at h
    cases h

theorem isNumberBlank_of_isWideDigit : isNumberBlank c = false := by
  rw [isNumberBlank, isBlank_of_isWideDigit h, Bool.false_and]

/-- A digit is none of the characters between punctuation and letters. -/
theorem ne_of_isWideDigit {d : Char} (hd : ¬ (48 ≤ d.toNat ∧ d.toNat ≤ 57) ∧ d.toNat < 128) :
    c ≠ d := by
  rintro rfl
  have hcode := toNat_of_isWideDigit h
  omega

end Digit

/-! ## Texts of digits -/

/-- Characters without underscores among them are digits of a number exactly if each has a value. -/
theorem digitRun_eq_some_iff {cs : List Char} (hne : cs ≠ []) (hscore : '_' ∉ cs) {ds : List Nat} :
    digitRun cs = some ds ↔ cs.map decimalValue = ds.map some := by
  fun_induction digitRun cs generalizing ds with
  | case1 => exact absurd rfl hne
  | case2 c =>
      rw [Option.map_eq_some_iff, List.map_singleton]
      constructor
      · rintro ⟨d, hd, rfl⟩
        rw [hd, List.map_singleton]
      · intro h
        obtain ⟨d, rest, rfl⟩ := List.exists_cons_of_ne_nil
          (show ds ≠ [] by rintro rfl; cases h)
        obtain ⟨hd, hrest⟩ := List.cons.inj h
        exact ⟨d, hd, by rw [List.map_eq_nil_iff.mp hrest.symm]⟩
  | case3 => simp at hscore
  | case4 c cs hnil hunder ih =>
      have hrest := @ih hnil (fun hmem => hscore (List.mem_cons_of_mem _ hmem))
      cases hvalue : decimalValue c with
      | none => cases ds <;> simp [hvalue]
      | some d =>
          cases ds with
          | nil => simp [hvalue, Option.bind_eq_some_iff]
          | cons e es => simp [hvalue, Option.bind_eq_some_iff, ← hrest, and_comm]

/-- Digits in the wider sense are read as a number exactly if there are not too many and each of
them has a value. -/
theorem readIntegerChars?_of_isWideDigit {cs : List Char} (hne : cs ≠ [])
    (h : ∀ c ∈ cs, isDigit c = true) {n : Int} :
    readIntegerChars? cs = some n ↔ cs.length ≤ maxIntegerDigits ∧
      ∃ ds : List Nat, cs.map decimalValue = ds.map some ∧
        n = (Nat.ofDigits 10 ds.reverse : Nat) := by
  have hscore : '_' ∉ cs := fun hmem => ne_of_isWideDigit (h _ hmem) (by decide) rfl
  have hunsigned := readIntegerChars?_of_unsigned
    (fun c hc => isNumberBlank_of_isWideDigit (h c hc))
    (fun hmem => ne_of_isWideDigit (h _ hmem) (by decide) rfl)
    fun hmem => ne_of_isWideDigit (h _ hmem) (by decide) rfl
  rw [hunsigned, readNatural?, Option.map_eq_some_iff]
  simp only [Option.bind_eq_bind, Option.bind_eq_some_iff, Option.ite_none_right_eq_some,
    digitRun_eq_some_iff hne hscore]
  constructor
  · rintro ⟨_, ⟨ds, hds, hlength, hvalue⟩, rfl⟩
    obtain rfl := Option.some.inj hvalue
    have hsame : cs.length = ds.length := by simpa using congrArg List.length hds
    exact ⟨hsame ▸ hlength, ds, hds, by rw [ofDigits_eq]⟩
  · rintro ⟨hlength, ds, hds, rfl⟩
    have hsame : cs.length = ds.length := by simpa using congrArg List.length hds
    exact ⟨_, ⟨ds, hds, hsame ▸ hlength, rfl⟩, by rw [ofDigits_eq]⟩

end PipeTable.Text
