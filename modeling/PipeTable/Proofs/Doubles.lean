import Mathlib
import PipeTable.Number.Binary64

/-! # Integers as doubles

The double nearest to an integer beyond one is itself at least two, so that rounding an integer
never takes it for zero or one.
-/

namespace PipeTable.Number

open Float.Model (Format)
open Float.Model.UnpackedFloat (pack unpack packComponents unpackExponent unpackMantissa
  unpackExponent_packComponents)

/-! ## Bit patterns -/

/-- The exponent of a bit pattern. -/
theorem toNat_unpackExponent (b : BitVec Format.binary64.numBits) :
    (unpackExponent b).toNat = b.toNat / 2 ^ 52 % 2 ^ 11 := by
  rw [unpackExponent, BitVec.toNat_cast, BitVec.extractLsb_toNat, Nat.shiftRight_eq_div_pow]
  rfl

theorem log2_one_append (b : BitVec 52) : (1#1 ++ b).toNat.log2 = 52 := by
  have hvalue : (1#1 ++ b).toNat = 2 ^ 52 + b.toNat := by
    rw [BitVec.toNat_append, ← Nat.shiftLeft_add_eq_or_of_lt b.isLt, Nat.shiftLeft_eq]
    rfl
  have hlt := b.isLt
  rw [hvalue, Nat.log2_eq_iff (by omega)]
  omega

/-- Packing what a normal bit pattern unpacks to keeps the exponent. -/
theorem unpackExponent_pack_unpack (b : BitVec Format.binary64.numBits)
    (hlow : 1 ≤ (unpackExponent b).toNat) (hhigh : (unpackExponent b).toNat ≤ 2046) :
    unpackExponent (pack .binary64 (unpack .binary64 b)) = unpackExponent b := by
  have hinfinite : unpackExponent b ≠ -1#11 := by
    intro h
    rw [h] at hhigh
    exact absurd hhigh (by decide)
  have hsubnormal : unpackExponent b ≠ 0#11 := by
    intro h
    rw [h] at hlow
    exact absurd hlow (by decide)
  have hbias : Format.binary64.exponentBias = 1023 := rfl
  have hnormal : 52 + 1 = Format.binary64.mantissaBits := rfl
  have hexponent : ((unpackExponent b).toNat - ((1023 : Nat) + (52 : Nat)) + (1023 : Nat) +
      (52 : Nat) : Int).toNat = (unpackExponent b).toNat := by omega
  simp only [unpack, hinfinite, hsubnormal, if_false, pack, log2_one_append, hbias]
  rw [hexponent, if_neg (by omega), if_pos hnormal, unpackExponent_packComponents,
    BitVec.ofNat_toNat, BitVec.setWidth_eq]

/-- A double of normal bits has their exponent, whatever its sign. -/
theorem exponent_ofMagnitude {negative : Bool} {bits : Nat} (hlow : 2 ^ 52 ≤ bits)
    (hhigh : bits < infinityBits) :
    (ofMagnitude negative bits).toBits.toNat / 2 ^ 52 % 2 ^ 11 = bits / 2 ^ 52 := by
  have hinfinity : infinityBits = 2047 * 2 ^ 52 := rfl
  obtain ⟨pattern, hpattern, hsize, hexponent⟩ : ∃ pattern,
      bits + (if negative then Nat.pow 2 63 else 0) = pattern ∧ pattern < 2 ^ 64 ∧
        pattern / 2 ^ 52 % 2 ^ 11 = bits / 2 ^ 52 := by
    refine ⟨_, rfl, ?_⟩
    have hsign : Nat.pow 2 63 = 2 ^ 63 := rfl
    cases negative <;> simp only [Bool.false_eq_true, if_false, if_true, hsign] <;> omega
  have hbits : (UInt64.ofNat pattern).toBitVec.toNat = pattern := by
    rw [UInt64.toNat_toBitVec, UInt64.toNat_ofNat', Nat.mod_eq_of_lt hsize]
  have hfield : (@unpackExponent .binary64 (UInt64.ofNat pattern).toBitVec).toNat =
      bits / 2 ^ 52 := by
    rw [toNat_unpackExponent, hbits, hexponent]
  have hkept := unpackExponent_pack_unpack (UInt64.ofNat pattern).toBitVec (by omega) (by omega)
  rw [ofMagnitude, hpattern, ← hfield, ← hkept, toNat_unpackExponent]
  rfl

/-! ## Rounding integers -/

theorem le_roundQuotient (num den : Nat) : num / den ≤ roundQuotient num den := by
  simp only [roundQuotient]
  split
  · exact le_rfl
  · split
    · exact Nat.le_succ _
    · exact Nat.le_add_right _ _

theorem roundQuotient_le_succ (num den : Nat) : roundQuotient num den ≤ num / den + 1 := by
  simp only [roundQuotient]
  split
  · exact Nat.le_succ _
  · split <;> omega

theorem roundQuotient_one (num : Nat) : roundQuotient num 1 = num := by
  simp [roundQuotient, Nat.mod_one]

/-- A quotient rounds to more than an odd integer from the middle of the step after it on. -/
theorem roundQuotient_le_iff {num half bound : Nat} (hhalf : 0 < half) (hodd : bound % 2 = 1)
    (hlt : num < (bound + 1) * (2 * half)) :
    roundQuotient num (2 * half) ≤ bound ↔ num < bound * (2 * half) + half := by
  have hden : 0 < 2 * half := by omega
  have hsplit := Nat.div_add_mod num (2 * half)
  have hmod := Nat.mod_lt num hden
  have hquotient : num / (2 * half) < bound + 1 := (Nat.div_lt_iff_lt_mul hden).mpr hlt
  simp only [roundQuotient]
  generalize num / (2 * half) = q at *
  generalize num % (2 * half) = r at *
  rcases Nat.lt_or_ge q bound with hbelow | hat
  · have hnum : num < bound * (2 * half) := by
      have hstep : (q + 1) * (2 * half) ≤ bound * (2 * half) := Nat.mul_le_mul_right _ hbelow
      have hexpand : (q + 1) * (2 * half) = 2 * half * q + 2 * half := by ring
      omega
    refine iff_of_true ?_ (by omega)
    split
    · omega
    · split <;> omega
  · obtain rfl : q = bound := by omega
    have hcomm : q * (2 * half) = 2 * half * q := Nat.mul_comm _ _
    split
    · omega
    · split <;> omega

/-- The mantissa of the double nearest to an integer: the integer brought to fifty-three bits. -/
def roundedMantissa (num : Nat) : Nat :=
  if 52 ≤ num.log2 then roundQuotient num (2 ^ (num.log2 - 52)) else num * 2 ^ (52 - num.log2)

/-- The mantissa has fifty-three bits, or is the next power of two if it was rounded up to that. -/
theorem roundedMantissa_bounds {num : Nat} (h : num ≠ 0) :
    2 ^ 52 ≤ roundedMantissa num ∧ roundedMantissa num ≤ 2 ^ 53 := by
  have hleast := Nat.log2_self_le h
  have hmost := @Nat.lt_log2_self num
  unfold roundedMantissa
  split
  next hlarge =>
    have hpos : 0 < 2 ^ (num.log2 - 52) := Nat.two_pow_pos _
    have hlower : 2 ^ 52 ≤ num / 2 ^ (num.log2 - 52) := by
      rw [Nat.le_div_iff_mul_le hpos, ← pow_add, Nat.add_sub_cancel' hlarge]
      exact hleast
    have hupper : num / 2 ^ (num.log2 - 52) < 2 ^ 53 := by
      rw [Nat.div_lt_iff_lt_mul hpos, ← pow_add, show 53 + (num.log2 - 52) = num.log2 + 1 by omega]
      exact hmost
    exact ⟨hlower.trans (le_roundQuotient _ _), (roundQuotient_le_succ _ _).trans hupper⟩
  next hsmall =>
    have hpos : 0 < 2 ^ (52 - num.log2) := Nat.two_pow_pos _
    constructor
    · calc 2 ^ 52
        _ = 2 ^ num.log2 * 2 ^ (52 - num.log2) := by
          rw [← pow_add, show num.log2 + (52 - num.log2) = 52 by omega]
        _ ≤ num * 2 ^ (52 - num.log2) := Nat.mul_le_mul_right _ hleast
    · calc num * 2 ^ (52 - num.log2)
        _ ≤ 2 ^ (num.log2 + 1) * 2 ^ (52 - num.log2) := Nat.mul_le_mul_right _ hmost.le
        _ = 2 ^ 53 := by rw [← pow_add, show num.log2 + 1 + (52 - num.log2) = 53 by omega]

/-- The bits of the double nearest to an integer are its exponent and its mantissa, whose first bit
counts for the exponent. -/
theorem nearestBits_one {num : Nat} (h : num ≠ 0) :
    nearestBits num 1 =
      min ((num.log2 + 1022) * 2 ^ 52 + roundedMantissa num) infinityBits := by
  have hone : Nat.log2 1 = 0 := rfl
  have hrough : decide (num < Nat.pow 2 num.log2) = false :=
    decide_eq_false_iff_not.mpr (not_lt.mpr (Nat.log2_self_le h))
  have hexponent : max ((num.log2 : Int) - 52) (-1074) = num.log2 - 52 := by omega
  have hbiased : ((num.log2 : Int) - 52 + 1074).toNat = num.log2 + 1022 := by omega
  have hup : ((num.log2 : Int) - 52).toNat = num.log2 - 52 := by omega
  have hdown : (-((num.log2 : Int) - 52)).toNat = 52 - num.log2 := by omega
  have hlarge : (0 ≤ (num.log2 : Int) - 52) = (52 ≤ num.log2) := by
    rw [eq_iff_iff]
    omega
  simp only [nearestBits, h, hone, if_false, Nat.cast_zero, sub_zero, Int.toNat_natCast,
    Int.natCast_nonneg, if_true, hrough, Bool.false_eq_true, hexponent, hbiased, hup, hdown,
    hlarge, one_mul, roundQuotient_one]
  rfl

/-- The exponent of the double nearest to an integer beyond one is that of two at least. -/
theorem le_nearestBits {num : Nat} (h : 2 ≤ num) : 1024 * 2 ^ 52 ≤ nearestBits num 1 := by
  have hne : num ≠ 0 := by omega
  have hlog : 1 ≤ num.log2 := (Nat.le_log2 hne).mpr h
  have hmantissa := (roundedMantissa_bounds hne).1
  rw [nearestBits_one hne]
  exact le_min (by omega) (by decide)

/-- No double comes near an integer from the middle between the greatest double and the next power
of two on. -/
theorem infinityBits_le_nearestBits_iff (num : Nat) :
    infinityBits ≤ nearestBits num 1 ↔ 2 ^ 1024 - 2 ^ 970 ≤ num := by
  have hinfinity : infinityBits = 2047 * 2 ^ 52 := rfl
  obtain ⟨power, hpower⟩ : ∃ power, power = 970 := ⟨_, rfl⟩
  obtain ⟨half, hhalf⟩ : ∃ half, half = 2 ^ power := ⟨_, rfl⟩
  have habove : 2 ^ 1024 = 2 ^ 54 * half := by rw [hhalf, hpower, ← pow_add]
  have hpos : 0 < half := hhalf ▸ Nat.two_pow_pos power
  rw [habove, ← hpower, ← hhalf]
  rcases Nat.eq_zero_or_pos num with rfl | hnum
  · exact iff_of_false (by decide) (by omega)
  have hne := hnum.ne'
  have hmantissa := roundedMantissa_bounds hne
  rw [nearestBits_one hne, le_min_iff, and_iff_left le_rfl]
  -- only the exponent of the greatest doubles leaves the answer to the mantissa
  rcases Nat.lt_trichotomy num.log2 (53 + power) with hlog | hlog | hlog
  · have hsmall := (Nat.log2_lt hne).mp hlog
    rw [pow_add, ← hhalf] at hsmall
    exact iff_of_false (by omega) (by omega)
  · have hmost := @Nat.lt_log2_self num
    rw [hlog, add_right_comm, pow_add, ← hhalf] at hmost
    have hden : 2 ^ (num.log2 - 52) = 2 * half := by
      rw [hhalf, ← pow_succ', show num.log2 - 52 = power + 1 by omega]
    have hround := roundQuotient_le_iff hpos (show (2 ^ 53 - 1) % 2 = 1 by rfl)
      (show num < _ by omega)
    rw [roundedMantissa, if_pos (by omega), hden]
    omega
  · have hlarge := (Nat.le_log2 hne).mp (show 54 + power ≤ num.log2 by omega)
    rw [pow_add, ← hhalf] at hlarge
    exact iff_of_true (by omega) (by omega)

theorem ofInteger?_eq_none_iff (n : Int) :
    ofInteger? n = none ↔ 2 ^ 1024 - 2 ^ 970 ≤ n.natAbs := by
  rw [← infinityBits_le_nearestBits_iff]
  simp only [ofInteger?]
  split
  next h => exact iff_of_false nofun (not_le.mpr h)
  next h => exact iff_of_true rfl (not_lt.mp h)

/-! ## Places of rounded integers -/

theorem exists_unit_eq : ∃ power, power = 1074 ∧ unit = 2 ^ power := by
  unfold unit
  generalize 1074 = power
  exact ⟨power, rfl, Nat.pow_eq⟩

/-- A double with the exponent of two or a larger one lies at least two away from zero. -/
theorem exists_place?_of_exponent {x : Float} (hlow : 1024 ≤ x.toBits.toNat / 2 ^ 52 % 2 ^ 11)
    (hhigh : x.toBits.toNat / 2 ^ 52 % 2 ^ 11 ≤ 2046) :
    ∃ n : Int, place? x = some (.at n) ∧ 2 * unit ≤ n.natAbs := by
  obtain ⟨negative, mantissa, exponent, hshape, hmantissa, hexponent⟩ :
      ∃ negative mantissa exponent, shape x = .finite negative mantissa exponent ∧
        2 ^ 52 ≤ mantissa ∧ 1023 ≤ exponent := by
    refine ⟨x.toBits.toNat / 2 ^ 63 = 1, 2 ^ 52 + x.toBits.toNat % 2 ^ 52,
      x.toBits.toNat / 2 ^ 52 % 2 ^ 11 - 1, ?_, Nat.le_add_right _ _, by omega⟩
    exact (if_neg (hhigh.trans_lt (by decide)).ne).trans
      (if_neg (lt_of_lt_of_le (by decide) hlow).ne')
  obtain ⟨power, hpower, hunit⟩ := exists_unit_eq
  have hmagnitude : 2 * unit ≤ mantissa * 2 ^ exponent :=
    calc 2 * unit
      _ = 2 ^ (power + 1) := by rw [hunit, pow_succ']
      _ ≤ 2 ^ (52 + exponent) := Nat.pow_le_pow_right Nat.two_pos (by omega)
      _ ≤ mantissa * 2 ^ exponent := by
        rw [pow_add]
        exact Nat.mul_le_mul_right _ hmantissa
  have hplace : place? x = some (.at (if negative then -(mantissa * 2 ^ exponent : Nat)
      else (mantissa * 2 ^ exponent : Nat))) := by
    simp only [place?, scaled?, hshape]
    rfl
  refine ⟨_, hplace, ?_⟩
  split
  · rwa [Int.natAbs_neg, Int.natAbs_natCast]
  · rwa [Int.natAbs_natCast]

theorem unit_pos : 0 < unit := by
  obtain ⟨power, -, hunit⟩ := exists_unit_eq
  exact hunit ▸ Nat.two_pow_pos power

@[simp]
theorem placeOfInteger_inj {n m : Int} : placeOfInteger n = placeOfInteger m ↔ n = m := by
  have hunit : (unit : Int) ≠ 0 := by exact_mod_cast unit_pos.ne'
  rw [placeOfInteger, placeOfInteger, Place.at.injEq, mul_left_inj' hunit]

/-- An integer that rounds to zero or to one is that itself. -/
theorem place?_ofInteger? {n m : Int} (hm : m = 0 ∨ m = 1) {x : Float}
    (h : ofInteger? n = some x) : place? x = some (placeOfInteger m) ↔ n = m := by
  by_cases hlarge : 2 ≤ n.natAbs
  · have hne : n ≠ m := by omega
    refine iff_of_false (fun hplace => ?_) hne
    have hleast := le_nearestBits hlarge
    simp only [ofInteger?] at h
    split at h
    next hmost =>
      obtain rfl := Option.some.inj h
      have hexponent := @exponent_ofMagnitude (n < 0) _ (by omega) hmost
      have hinfinity : infinityBits = 2047 * 2 ^ 52 := rfl
      obtain ⟨k, hk, hfar⟩ := exists_place?_of_exponent (x := ofMagnitude (n < 0) _)
        (by rw [hexponent]; omega) (by rw [hexponent]; omega)
      obtain rfl : k = m * unit := Place.at.inj (Option.some.inj (hk.symm.trans hplace))
      have hunit := unit_pos
      rcases hm with rfl | rfl
      · rw [zero_mul, Int.natAbs_zero] at hfar
        omega
      · rw [one_mul, Int.natAbs_natCast] at hfar
        omega
    next => cases h
  · obtain rfl | rfl | rfl : n = -1 ∨ n = 0 ∨ n = 1 := by omega
    all_goals
      obtain rfl := Option.some.inj h
      rcases hm with rfl | rfl <;> decide +kernel

end PipeTable.Number
