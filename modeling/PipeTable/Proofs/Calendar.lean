import Mathlib
import PipeTable.Proofs.Orderings

/-! # The calendar

A moment that the calendar has is a number of seconds: those of all days before it, and those of its
own day.  The order of moments by year, month, day, hour, minute and second is the order of these
numbers.
-/

namespace PipeTable.Timestamp

/-! ## Counting days -/

/-- The days of the months of a year before a month. -/
def daysBeforeMonth (year month : Nat) : Nat := ∑ m ∈ Finset.Ico 1 month, daysIn year m

/-- The days of all years before a year. -/
def daysBeforeYear (year : Nat) : Nat := ∑ y ∈ Finset.range year, daysBeforeMonth y 13

/-- The days before the day of a moment. -/
def daysBefore (t : Timestamp) : Nat :=
  daysBeforeYear t.year + daysBeforeMonth t.year t.month + (t.day - 1)

/-- The seconds of a moment's own day before it. -/
def secondOfDay (t : Timestamp) : Nat := t.hour * 3600 + t.minute * 60 + t.second

/-- The seconds between the start of the year zero and a moment. -/
def instant (t : Timestamp) : Nat := t.daysBefore * 86400 + t.secondOfDay

theorem daysBeforeMonth_add_daysIn_le {year month later : Nat} (hmonth : 1 ≤ month)
    (hlater : month < later) :
    daysBeforeMonth year month + daysIn year month ≤ daysBeforeMonth year later := by
  rw [daysBeforeMonth, ← Finset.sum_Ico_succ_top hmonth]
  exact Finset.sum_le_sum_of_subset (Finset.Ico_subset_Ico_right hlater)

theorem daysBeforeYear_add_le {year later : Nat} (hlater : year < later) :
    daysBeforeYear year + daysBeforeMonth year 13 ≤ daysBeforeYear later := by
  rw [daysBeforeYear, ← Finset.sum_range_succ]
  exact Finset.sum_le_sum_of_subset (Finset.range_subset_range.mpr hlater)

/-! ## Chronological order -/

variable {t u : Timestamp}

theorem isValid_iff : t.isValid = true ↔
    (1 ≤ t.month ∧ t.month ≤ 12) ∧ (1 ≤ t.day ∧ t.day ≤ daysIn t.year t.month) ∧
      t.hour ≤ 23 ∧ t.minute ≤ 59 ∧ t.second ≤ 59 := by
  simp only [isValid, Bool.and_eq_true, decide_eq_true_eq]
  tauto

/-- A moment is less than another one in the first part in which they differ. -/
theorem compare_eq_lt_iff : t.compare u = .lt ↔
    t.year < u.year ∨ t.year = u.year ∧ (t.month < u.month ∨ t.month = u.month ∧
      (t.day < u.day ∨ t.day = u.day ∧ (t.hour < u.hour ∨ t.hour = u.hour ∧
        (t.minute < u.minute ∨ t.minute = u.minute ∧ t.second < u.second)))) := by
  simp only [compare, Ordering.then_eq_lt, compare_lt_iff_lt, compare_eq_iff_eq]

theorem secondOfDay_lt (ht : t.isValid = true) : t.secondOfDay < 86400 := by
  obtain ⟨-, -, hhour, hminute, hsecond⟩ := isValid_iff.mp ht
  unfold secondOfDay
  omega

/-- The days of a moment's month, up to its own, fit between those before and those of the months
that follow. -/
theorem daysBefore_lt (ht : t.isValid = true) (hu : u.isValid = true)
    (h : t.year < u.year ∨ t.year = u.year ∧ (t.month < u.month ∨ t.month = u.month ∧
      t.day < u.day)) : t.daysBefore < u.daysBefore := by
  obtain ⟨⟨hmonth, hmonth'⟩, ⟨hday, hday'⟩, -⟩ := isValid_iff.mp ht
  obtain ⟨-, ⟨hday₂, -⟩, -⟩ := isValid_iff.mp hu
  unfold daysBefore
  rcases h with hyear | ⟨hyear, hmonths | ⟨hmonths, hdays⟩⟩
  · have hrest : daysBeforeMonth t.year t.month + daysIn t.year t.month ≤
        daysBeforeMonth t.year 13 := daysBeforeMonth_add_daysIn_le hmonth (by omega)
    have hyears := daysBeforeYear_add_le hyear
    omega
  · have hrest : daysBeforeMonth t.year t.month + daysIn t.year t.month ≤
        daysBeforeMonth t.year u.month := daysBeforeMonth_add_daysIn_le hmonth hmonths
    rw [← hyear]
    omega
  · rw [← hyear, ← hmonths]
    omega

theorem instant_lt_of_compare (ht : t.isValid = true) (hu : u.isValid = true)
    (h : t.compare u = .lt) : t.instant < u.instant := by
  have hsecond := secondOfDay_lt ht
  rw [compare_eq_lt_iff] at h
  unfold instant
  by_cases hdays : t.year < u.year ∨ t.year = u.year ∧ (t.month < u.month ∨ t.month = u.month ∧
      t.day < u.day)
  · have := daysBefore_lt ht hu hdays
    omega
  · obtain ⟨hyear, hmonth, hday, hrest⟩ : t.year = u.year ∧ t.month = u.month ∧ t.day = u.day ∧
        (t.hour < u.hour ∨ t.hour = u.hour ∧
          (t.minute < u.minute ∨ t.minute = u.minute ∧ t.second < u.second)) := by
      tauto
    obtain ⟨-, -, -, hminute, hsecond'⟩ := isValid_iff.mp ht
    have hsame : t.daysBefore = u.daysBefore := by
      unfold daysBefore
      rw [hyear, hmonth, hday]
    rw [hsame]
    unfold secondOfDay
    omega

/-- The order of two moments of the calendar is that of the seconds before them. -/
theorem compare_eq_compare_instant (ht : t.isValid = true) (hu : u.isValid = true) :
    t.compare u = Ord.compare t.instant u.instant := by
  cases h : t.compare u with
  | lt => exact (compare_lt_iff_lt.mpr (instant_lt_of_compare ht hu h)).symm
  | eq => rw [compare_eq_iff.mp h, compare_eq_iff_eq.mpr rfl]
  | gt =>
      have hswap : u.compare t = .lt := by rw [← compare_swap, h]; rfl
      exact (compare_gt_iff_gt.mpr (instant_lt_of_compare hu ht hswap)).symm

/-- The seconds of the epoch. -/
example : instant ⟨1970, 1, 1, 0, 0, 0⟩ = 62167219200 := by decide +kernel

end PipeTable.Timestamp
