import Mathlib
import PipeTable.Proofs.Orderings

/-! # Intervals of values

A value lies between two others if it is at least the lower and at most the upper one.  Each of
these comparisons goes its own way: by numbers, by moments or by characters.  Where all three values
are compared in one way, the lower end is at most the upper one.  Where the ways differ, a value may
lie between ends that are the wrong way round.
-/

namespace PipeTable

/-! ## Orders are transitive -/

namespace Number

instance : Std.OrientedCmp Place.compare where
  eq_swap := (Place.compare_swap _ _).symm

instance : Std.TransCmp Place.compare where
  isLE_trans {a b c} hab hbc := by
    cases a with
    | negativeInfinity => cases c <;> rfl
    | «at» x =>
        cases b with
        | negativeInfinity => cases hab
        | «at» y =>
            cases c with
            | negativeInfinity => cases hbc
            | «at» z => exact Std.TransOrd.isLE_trans hab hbc
            | positiveInfinity => rfl
        | positiveInfinity =>
            cases c with
            | positiveInfinity => rfl
            | _ => cases hbc
    | positiveInfinity =>
        cases b with
        | positiveInfinity => exact hbc
        | _ => cases hab

end Number

namespace Timestamp

instance : Std.TransCmp compare :=
  inferInstanceAs <| Std.TransCmp <| compareLex (compareOn year) <| compareLex (compareOn month) <|
    compareLex (compareOn day) <| compareLex (compareOn hour) <|
      compareLex (compareOn minute) (compareOn second)

end Timestamp

namespace Value

open Number (Place place?)

/-! ## Ways of comparing -/

section Readings

variable {α : Type} (cmp : α → α → Ordering)

/-- The order of two readings, if there are two. -/
def compareReadings? : Option α → Option α → Option Ordering
  | some p, some q => some (cmp p q)
  | _, _ => Option.none

variable {cmp} {p q r : Option α} {o o' : Ordering}

theorem compareReadings?_swap [Std.OrientedCmp cmp] :
    (compareReadings? cmp p q).map Ordering.swap = compareReadings? cmp q p := by
  cases p <;> cases q <;> first | rfl | exact congrArg some Std.OrientedCmp.eq_swap.symm

theorem compareReadings?_eq_none_iff :
    compareReadings? cmp p q = Option.none ↔ p = Option.none ∨ q = Option.none := by
  cases p <;> cases q <;> simp [compareReadings?]

theorem compareReadings?_trans [Std.TransCmp cmp] (hpq : compareReadings? cmp p q = some o)
    (hqr : compareReadings? cmp q r = some o') (ho : o.isLE = true) (ho' : o'.isLE = true) :
    ∃ o'', compareReadings? cmp p r = some o'' ∧ o''.isLE = true := by
  rcases p with - | p <;> rcases q with - | q <;> rcases r with - | r <;> cases hpq <;> cases hqr
  exact ⟨_, rfl, Std.TransCmp.isLE_trans ho ho'⟩

end Readings

/-- How two values are compared. -/
inductive Way where
  | numbers
  | moments
  | texts
  deriving DecidableEq, Repr

/-- The place of the number that a value is or reads as. -/
def readPlace? (v : Value) : Option Place :=
  match v.toNumber with
  | .ok x => place? x
  | .error _ => Option.none

/-- The timestamp that the text of a value reads as. -/
def readMoment? (v : Value) : Option Timestamp := Timestamp.ofText? v.cellText

/-- Whether the text of a value reads as a number. -/
def readsNumber (v : Value) : Bool := (place? (Number.ofText v.cellText)).isSome

/-- The way in which two values are compared. -/
def way (a b : Value) : Way :=
  if a.isNumber || b.isNumber || (a.readsNumber && b.readsNumber) then .numbers
  else if a.readMoment?.isSome && b.readMoment?.isSome then .moments
  else .texts

/-- The order of two values in a given way. -/
def compareIn? : Way → Value → Value → Option Ordering
  | .numbers, a, b => compareReadings? Place.compare a.readPlace? b.readPlace?
  | .moments, a, b => compareReadings? Timestamp.compare a.readMoment? b.readMoment?
  | .texts, a, b => some (Ord.compare a.cellText b.cellText)

theorem compareIn?_swap (w : Way) (a b : Value) :
    (compareIn? w a b).map Ordering.swap = compareIn? w b a := by
  cases w with
  | numbers | moments =>
      rw [compareIn?, compareIn?]
      exact compareReadings?_swap
  | texts => exact congrArg some Std.OrientedOrd.eq_swap.symm

/-- In one way, values are ordered transitively. -/
theorem compareIn?_trans {w : Way} {a b c : Value} {o o' : Ordering}
    (hab : compareIn? w a b = some o) (hbc : compareIn? w b c = some o') (ho : o.isLE = true)
    (ho' : o'.isLE = true) : ∃ o'', compareIn? w a c = some o'' ∧ o''.isLE = true := by
  cases w with
  | numbers | moments =>
      rw [compareIn?] at hab hbc ⊢
      exact compareReadings?_trans hab hbc ho ho'
  | texts =>
      cases hab
      cases hbc
      exact ⟨_, rfl, Std.TransOrd.isLE_trans ho ho'⟩

/-- What reads as a number has this number. -/
theorem readPlace?_of_readsNumber {v : Value} (hnumber : v.isNumber = false)
    (h : v.readsNumber = true) : v.readPlace? = place? (Number.ofText v.cellText) := by
  cases v with
  | int n | float x => cases hnumber
  | none => exact absurd h (by decide)
  | bool b => cases b <;> exact absurd h (by decide)
  | _ => rfl

theorem exists_toNumber_of_not_isNumber {v : Value} (h : v.isNumber = false) :
    ∃ x, v.toNumber = .ok x := by
  cases v with
  | int n | float x => cases h
  | _ => exact ⟨_, rfl⟩

variable {a b v low high : Value}

theorem exists_toNumber_of_compare? {o : Option Ordering} (h : compare? a b = .ok o) :
    (∃ x, a.toNumber = .ok x) ∧ ∃ y, b.toNumber = .ok y := by
  cases hnumber : a.isNumber || b.isNumber with
  | true =>
      rw [compare?, if_pos hnumber] at h
      cases ha : a.toNumber with
      | error fault => rw [ha] at h; cases h
      | ok x =>
          cases hb : b.toNumber with
          | error fault => rw [ha, hb] at h; cases h
          | ok y => exact ⟨⟨x, rfl⟩, y, rfl⟩
  | false =>
      obtain ⟨ha, hb⟩ := Bool.or_eq_false_iff.mp hnumber
      exact ⟨exists_toNumber_of_not_isNumber ha, exists_toNumber_of_not_isNumber hb⟩

/-- Texts that are not both numbers are compared as moments or as characters. -/
theorem compareTexts_of_not_numbers (hnumber : (a.readsNumber && b.readsNumber) = false) :
    some (compareTexts a.cellText b.cellText) =
      compareIn? (if a.readMoment?.isSome && b.readMoment?.isSome then .moments else .texts)
        a b := by
  have hplaces : comparePlaces? (place? (Number.ofText a.cellText))
      (place? (Number.ofText b.cellText)) = Option.none := by
    revert hnumber
    unfold readsNumber
    cases place? (Number.ofText a.cellText) <;> cases place? (Number.ofText b.cellText) <;>
      first
      | exact fun _ => rfl
      | exact nofun
  rw [compareTexts, compareNumbers?_eq, hplaces]
  dsimp only
  rw [← readMoment?, ← readMoment?]
  cases hp : a.readMoment? <;> cases hq : b.readMoment? <;>
    simp [compareIn?, compareReadings?, hp, hq]

/-- Values are compared in their way, if they can be compared at all. -/
theorem compare?_eq_compareIn? {x y : Float} (hx : a.toNumber = .ok x) (hy : b.toNumber = .ok y) :
    compare? a b = .ok (compareIn? (way a b) a b) := by
  cases hnumber : a.isNumber || b.isNumber with
  | true =>
      have hplaces : comparePlaces? (place? x) (place? y) =
          compareReadings? Place.compare a.readPlace? b.readPlace? := by
        simp only [readPlace?, hx, hy]
        cases place? x <;> cases place? y <;> rfl
      rw [compare?_of_numbers hnumber hx hy, way, hnumber, hplaces]
      rfl
  | false =>
      obtain ⟨ha, hb⟩ := Bool.or_eq_false_iff.mp hnumber
      rw [compare?, if_neg (by rw [hnumber]; exact Bool.false_ne_true), way, hnumber, Bool.false_or]
      cases hreads : a.readsNumber && b.readsNumber with
      | true =>
          obtain ⟨hra, hrb⟩ := Bool.and_eq_true_iff.mp hreads
          rw [if_pos rfl, compareIn?, readPlace?_of_readsNumber ha hra,
            readPlace?_of_readsNumber hb hrb, compareTexts, compareNumbers?_eq]
          obtain ⟨p, hp⟩ := Option.isSome_iff_exists.mp hra
          obtain ⟨q, hq⟩ := Option.isSome_iff_exists.mp hrb
          rw [hp, hq]
          rfl
      | false =>
          rw [if_neg Bool.false_ne_true, compareTexts_of_not_numbers hreads]

/-- Two values have no order only where one of them is a number and one does not read as any. -/
theorem compareIn?_way_eq_none_iff : compareIn? (way a b) a b = Option.none ↔
    (a.isNumber = true ∨ b.isNumber = true) ∧
      (a.readPlace? = Option.none ∨ b.readPlace? = Option.none) := by
  cases hnumber : a.isNumber || b.isNumber with
  | true =>
      rw [way, hnumber, ← Bool.or_eq_true_iff, hnumber, eq_self, true_and]
      exact compareReadings?_eq_none_iff
  | false =>
      obtain ⟨ha, hb⟩ := Bool.or_eq_false_iff.mp hnumber
      refine iff_of_false ?_ (by simp [ha, hb])
      rw [way, hnumber, Bool.false_or]
      split
      next hreads =>
        obtain ⟨hra, hrb⟩ := Bool.and_eq_true_iff.mp hreads
        rw [compareIn?, compareReadings?_eq_none_iff, readPlace?_of_readsNumber ha hra,
          readPlace?_of_readsNumber hb hrb]
        simpa [readsNumber, Option.isSome_iff_ne_none] using hreads
      next =>
        split
        next hreads =>
          rw [compareIn?, compareReadings?_eq_none_iff]
          simpa [Option.isSome_iff_ne_none] using hreads
        next => nofun

/-! ## Between two ends -/

theorem isBetween_iff : isBetween v low high = .ok true ↔
    ∃ o o', compare? v low = .ok (some o) ∧ compare? v high = .ok (some o') ∧
      o.isGE = true ∧ o'.isLE = true := by
  have hends : ∀ o o' : Ordering, (o != .lt && o' != .gt) = (o.isGE && o'.isLE) := by decide
  unfold isBetween
  rcases compare? v low with fault | - | o <;> rcases compare? v high with fault | - | o' <;>
    simp [bind, Except.bind, pure, Except.pure, hends]

/-- Between two ends of which each is compared with a value in the way in which they are compared
with each other, the ends are the right way round.  Ends have no order only if one is a number and
the other one reads as none. -/
theorem isBetween_ends (h : isBetween v low high = .ok true) :
    ∃ o, compare? low high = .ok o ∧
      (way v low = way v high → way v high = way low high → o = some .lt ∨ o = some .eq) ∧
      (o = Option.none ↔ (low.isNumber = true ∨ high.isNumber = true) ∧
        (low.readPlace? = Option.none ∨ high.readPlace? = Option.none)) := by
  obtain ⟨o, o', hlow, hhigh, ho, ho'⟩ := isBetween_iff.mp h
  obtain ⟨⟨x, hx⟩, y, hy⟩ := exists_toNumber_of_compare? hlow
  obtain ⟨-, z, hz⟩ := exists_toNumber_of_compare? hhigh
  refine ⟨_, compare?_eq_compareIn? hy hz, fun hends hbounds => ?_, compareIn?_way_eq_none_iff⟩
  rw [compare?_eq_compareIn? hx hy, hends, hbounds] at hlow
  rw [compare?_eq_compareIn? hx hz, hbounds] at hhigh
  have hswap := compareIn?_swap (way low high) v low
  rw [Except.ok.inj hlow] at hswap
  obtain ⟨o'', ho'', hle⟩ := compareIn?_trans hswap.symm (Except.ok.inj hhigh)
    (by rwa [Ordering.isLE_swap]) ho'
  rw [ho'']
  cases o'' with
  | lt => exact .inl rfl
  | eq => exact .inr rfl
  | gt => cases hle

/-- Three moments, each written in its own form. -/
theorem isBetween_ends_moments :
    let v : Value := .text "<2024-01-05 Fri>"
    let low : Value := .text "[2024-1-1]"
    let high : Value := .text "2024-01-10 12:00"
    isBetween v low high = .ok true ∧ (way v low = way v high ∧ way v high = way low high) ∧
      compare? low high = .ok (some .lt) := by
  intro v low high
  have hbetween : isBetween v low high = .ok true := by decide
  have hways : way v low = way v high ∧ way v high = way low high := by decide
  obtain ⟨o, horder, hends, -⟩ := isBetween_ends hbetween
  refine ⟨hbetween, hways, ?_⟩
  obtain rfl | rfl := hends hways.1 hways.2
  · exact horder
  · exact absurd horder (by decide)

/-- A number that is above a smaller one and, as a text, below a text with a letter: as texts the
ends are the wrong way round. -/
theorem isBetween_ends_reversed :
    isBetween (.text "10") (.text "9") (.text "1a") = .ok true ∧
      compare? (.text "9") (.text "1a") = .ok (some .gt) := by
  constructor <;> decide +kernel

end Value

end PipeTable
