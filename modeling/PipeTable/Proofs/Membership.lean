import Mathlib
import PipeTable.Proofs.Doubles
import PipeTable.Proofs.Numerals
import PipeTable.Proofs.Orderings

/-! # Membership beside equality

A value is in a sequence if it equals one of the items as what it is.  The comparison "equal" is
another one where a number stands beside something that is none: there a text counts as the number
that it spells, and a complex number as no number at all.  The two agree everywhere else.
-/

namespace PipeTable

namespace Value

open Number (place?)

/-- A value without a text of its own is written with a character that no number has. -/
theorem exists_mem_literal {v : Value} (hnone : v.isNone = false) (hnumber : v.isNumber = false)
    (htext : v.isText = false) (hbool : ∀ b, v ≠ .bool b) :
    ∃ c ∈ v.literal.toList, Text.isBlank c = false ∧ Number.isPart c = false := by
  cases v with
  | none => cases hnone
  | bool b => exact absurd rfl (hbool b)
  | int n | float x => cases hnumber
  | text s => cases htext
  | complex re im =>
      refine ⟨'j', ?_, by decide⟩
      rw [literal, writeComplex]
      split <;> simp
  | bytes data => exact ⟨'b', by simp [literal, Text.quoteBytes], by decide⟩
  | ellipsis => exact ⟨'l', by simp [literal], by decide⟩
  | list items => exact ⟨'[', by simp [literal], by decide⟩
  | tuple items =>
      refine ⟨'(', ?_, by decide⟩
      rw [literal]
      unfold writeTuple
      split <;> simp
  | set items =>
      cases h : items.isEmpty with
      | true => exact ⟨'(', by simp [literal, h], by decide⟩
      | false => exact ⟨'\x7b', by simp [literal, h], by decide⟩
  | dict entries => exact ⟨'\x7b', by simp [literal], by decide⟩
  | slice lower upper step => exact ⟨'l', by simp [literal], by decide⟩
  | expression source context => exact ⟨'(', by simp [literal], by decide⟩

/-- Of the values that are no numbers, only texts and truth values read as numbers. -/
theorem place?_of_toNumber {v : Value} (hnumber : v.isNumber = false) (htext : v.isText = false)
    (hbool : ∀ b, v ≠ .bool b) {x : Float} (h : v.toNumber = .ok x) :
    place? x = Option.none := by
  cases hnone : v.isNone with
  | true =>
      cases v with
      | none =>
          obtain rfl := Except.ok.inj h
          exact Number.place?_nan
      | _ => cases hnone
  | false =>
      have hreads : v.toNumber = .ok (Number.ofText v.literal) := by
        cases v with
        | none => cases hnone
        | bool b => exact absurd rfl (hbool b)
        | int n | float x => cases hnumber
        | text s => cases htext
        | _ => rfl
      obtain rfl := Except.ok.inj (hreads.symm.trans h)
      obtain ⟨c, hmem, hblank, hc⟩ := exists_mem_literal hnone hnumber htext hbool
      exact Number.place?_ofText_of_not_isPart hmem hblank hc

/-- Two values that read as one number. -/
def ReadAsOne (a b : Value) : Prop :=
  ∃ x y p, a.toNumber = .ok x ∧ b.toNumber = .ok y ∧ place? x = some p ∧ place? y = some p

theorem ReadAsOne.symm {a b : Value} (h : ReadAsOne a b) : ReadAsOne b a := by
  obtain ⟨x, y, p, hx, hy, hp, hq⟩ := h
  exact ⟨y, x, p, hy, hx, hq, hp⟩

theorem readAsOne_comm {a b : Value} : ReadAsOne a b ↔ ReadAsOne b a := ⟨.symm, .symm⟩

theorem ReadAsOne.isNone {a b : Value} (h : ReadAsOne a b) : a.isNone = false := by
  obtain ⟨x, y, p, hx, hy, hp, hq⟩ := h
  cases a with
  | none =>
      obtain rfl := Except.ok.inj hx
      cases Number.place?_nan.symm.trans hp
  | _ => rfl

theorem not_readAsOne {a b : Value} (hnumber : b.isNumber = false) (htext : b.isText = false)
    (hbool : ∀ p, b ≠ .bool p) : ¬ ReadAsOne a b := by
  rintro ⟨x, y, p, hx, hy, hp, hq⟩
  rw [place?_of_toNumber hnumber htext hbool hy] at hq
  cases hq

theorem comparePlaces?_eq_some_eq_iff {p q : Option Number.Place} :
    comparePlaces? p q = some .eq ↔ ∃ place, p = some place ∧ q = some place := by
  cases p <;> cases q <;> simp [comparePlaces?, Number.Place.compare_eq_iff.trans eq_comm]

/-- Where a number takes part, the order is level for values that read as one number. -/
theorem compare?_eq_level_iff {a b : Value} (h : (a.isNumber || b.isNumber) = true) :
    compare? a b = .ok (some .eq) ↔ ReadAsOne a b := by
  constructor
  · intro horder
    cases hx : a.toNumber with
    | error fault => rw [compare?, if_pos h, hx] at horder; cases horder
    | ok x =>
        cases hy : b.toNumber with
        | error fault => rw [compare?, if_pos h, hx, hy] at horder; cases horder
        | ok y =>
            rw [compare?_of_numbers h hx hy] at horder
            obtain ⟨p, hp, hq⟩ := comparePlaces?_eq_some_eq_iff.mp (Except.ok.inj horder)
            exact ⟨x, y, p, hx, hy, hp, hq⟩
  · rintro ⟨x, y, p, hx, hy, hp, hq⟩
    rw [compare?_of_numbers h hx hy, comparePlaces?_eq_some_eq_iff.mpr ⟨p, hp, hq⟩]

end Value

namespace Expr

open Value (ReadAsOne)
open Number (place?)

variable {a b : Value}

/-! ## Where membership and equality differ -/

/-- One of two values is a number, and the other is a text that spells it. -/
def IsSpelled (a b : Value) : Prop :=
  (a.isNumber = true ∧ b.isText = true ∨ a.isText = true ∧ b.isNumber = true) ∧ ReadAsOne a b

/-- One of two values is a number, and the other is the same as a complex number. -/
def IsTwin (a b : Value) : Prop :=
  (a.isNumber = true ∧ (∃ re im, b = .complex re im) ∨
    (∃ re im, a = .complex re im) ∧ b.isNumber = true) ∧ a.equals b = true

/-- A number equals what stands at its place, whichever side it is on. -/
theorem equals_iff_of_number (ha : a.isNumber = true) :
    (a.equals b = true ↔
      ∃ p, a.numberPlace? = some p ∧ b.places? = some (some p, some (.at 0))) ∧
    b.equals a = a.equals b := by
  cases a with
  | int n =>
      cases b with
      | float y =>
          cases hy : place? y <;>
            simp [Value.equals, Value.places?, Value.numberPlace?, hy, eq_comm]
      | complex re im =>
          cases hre : place? re <;> cases him : place? im <;>
            simp [Value.equals, Value.places?, Value.numberPlace?, hre, him]
          grind
      | _ => simp [Value.equals, Value.places?, Value.numberPlace?, eq_comm]
  | float x =>
      cases hx : place? x <;> cases b with
      | float y =>
          cases hy : place? y <;>
            simp [Value.equals, Value.places?, Value.numberPlace?, hx, hy, eq_comm]
      | complex re im =>
          cases hre : place? re <;> cases him : place? im <;>
            simp [Value.equals, Value.places?, Value.numberPlace?, hx, hre, him] <;> grind
      | _ => simp [Value.equals, Value.places?, Value.numberPlace?, hx, eq_comm]
  | _ => cases ha

theorem equals_comm_of_number (ha : a.isNumber = true) : b.equals a = a.equals b :=
  (equals_iff_of_number ha).2

theorem IsSpelled.isNumber_ne (h : IsSpelled a b) : a.isNumber ≠ b.isNumber := by
  have hkind : ∀ {v : Value}, v.isText = true → v.isNumber = false := by
    intro v hv
    cases v with
    | text s => rfl
    | _ => cases hv
  rcases h.1 with ⟨ha, hb⟩ | ⟨ha, hb⟩
  · simp [ha, hkind hb]
  · simp [hkind ha, hb]

theorem IsTwin.isNumber_ne (h : IsTwin a b) : a.isNumber ≠ b.isNumber := by
  rcases h.1 with ⟨ha, re, im, rfl⟩ | ⟨⟨re, im, rfl⟩, hb⟩
  · rw [ha]
    exact Bool.false_ne_true.symm
  · rw [hb]
    exact Bool.false_ne_true

theorem isSpelled_comm : IsSpelled a b ↔ IsSpelled b a := by
  rw [IsSpelled, IsSpelled, Value.readAsOne_comm, or_comm, and_comm (a := a.isText = true),
    and_comm (a := a.isNumber = true)]

theorem isTwin_comm : IsTwin a b ↔ IsTwin b a := by
  have hsymm {a b : Value} (h : IsTwin a b) : IsTwin b a := by
    obtain ⟨hkinds, hequals⟩ := h
    refine ⟨hkinds.symm.imp And.symm And.symm, ?_⟩
    rcases hkinds with ⟨ha, -⟩ | ⟨-, hb⟩
    · rw [equals_comm_of_number ha, hequals]
    · rw [← equals_comm_of_number hb, hequals]
  exact ⟨hsymm, hsymm⟩

/-- A number and a value that is none are equal where they read as one number. -/
theorem areEqual_eq_true_iff_readAsOne (h : a.isNumber ≠ b.isNumber) :
    areEqual a b = .ok true ↔ ReadAsOne a b := by
  by_cases hnone : a.isNone = false ∧ b.isNone = false
  · have horder : areEqual a b = (do return (← Value.compare? a b) = some .eq) := by
      rw [areEqual, if_pos (by simp [h, hnone])]
    have hone : (a.isNumber || b.isNumber) = true := by
      revert h
      cases a.isNumber <;> cases b.isNumber <;> decide
    rw [horder, ← Value.compare?_eq_level_iff hone]
    cases Value.compare? a b with
    | error fault => simp [bind, Except.bind]
    | ok o => simp [bind, Except.bind, pure, Except.pure]
  · -- beside the absent value even equality compares the values themselves
    refine iff_of_false ?_ fun hread => hnone ⟨hread.isNone, hread.symm.isNone⟩
    have hplain : areEqual a b = .ok (a.equals b) := by
      rw [areEqual, if_neg (by simpa [h] using hnone)]
    have hdiffer : a.equals b = false := by
      cases a <;> cases b <;> simp_all [Value.equals, Value.places?, Value.isNone, Value.isNumber]
    simp [hplain, hdiffer]

theorem equals_of_places? (ha : a.isNumber = true) (hb : b.places? = none) :
    a.equals b = false := by
  rw [Bool.eq_false_iff, ne_eq, (equals_iff_of_number ha).1, hb]
  simp

/-- A number that reads as one with a truth value stands at its place. -/
theorem readAsOne_bool_iff (ha : a.isNumber = true) (b : Bool) :
    ReadAsOne a (.bool b) ↔ a.equals (.bool b) = true := by
  obtain ⟨m, hm, hplace, hbool⟩ : ∃ m : Int, (m = 0 ∨ m = 1) ∧
      place? (if b then 1.0 else 0.0) = some (Number.placeOfInteger m) ∧
      (Value.bool b).places? = some (some (Number.placeOfInteger m), some (.at 0)) := by
    cases b
    · exact ⟨0, .inl rfl, by decide +kernel, rfl⟩
    · exact ⟨1, .inr rfl, by decide +kernel, rfl⟩
  have hread : ReadAsOne a (.bool b) ↔
      ∃ x, a.toNumber = .ok x ∧ place? x = some (Number.placeOfInteger m) := by
    constructor
    · rintro ⟨x, y, p, hx, hy, hp, hq⟩
      obtain rfl := Except.ok.inj hy
      exact ⟨x, hx, hp.trans (hq.symm.trans hplace)⟩
    · rintro ⟨x, hx, hp⟩
      exact ⟨x, _, _, hx, rfl, hp, hplace⟩
  have hequals : a.equals (.bool b) = true ↔
      a.numberPlace? = some (Number.placeOfInteger m) := by
    rw [(equals_iff_of_number ha).1, hbool]
    simp
  rw [hread, hequals]
  cases a with
  | int n =>
      simp only [Value.numberPlace?, Option.some_inj, Number.placeOfInteger_inj]
      constructor
      · rintro ⟨x, hx, hp⟩
        rw [Value.toNumber] at hx
        cases hsome : Number.ofInteger? n with
        | none => rw [hsome] at hx; cases hx
        | some y =>
            rw [hsome] at hx
            obtain rfl := Except.ok.inj hx
            exact (Number.place?_ofInteger? hm hsome).mp hp
      · rintro rfl
        obtain ⟨x, hx⟩ : ∃ x, Number.ofInteger? n = some x := by
          rcases hm with rfl | rfl <;> exact ⟨_, rfl⟩
        exact ⟨x, by rw [Value.toNumber, hx], (Number.place?_ofInteger? hm hx).mpr rfl⟩
  | float x =>
      refine ⟨?_, fun hp => ⟨x, rfl, hp⟩⟩
      rintro ⟨y, hy, hp⟩
      obtain rfl := Except.ok.inj hy
      exact hp
  | _ => cases ha

/-- A number equals what it reads as one with, but for texts, which are equal to none, and complex
numbers, which read as none. -/
theorem readAsOne_iff (ha : a.isNumber = true) (hb : b.isNumber = false) :
    ReadAsOne a b ↔ a.equals b = true ∧ ¬ IsTwin a b ∨ IsSpelled a b := by
  have hplain (htext : b.isText = false) (hcomplex : ∀ re im, b ≠ .complex re im) :
      ¬ IsTwin a b ∧ ¬ IsSpelled a b := by
    constructor
    · rintro ⟨⟨-, re, im, hb'⟩ | ⟨-, hb'⟩, -⟩
      · exact hcomplex re im hb'
      · exact absurd (hb'.symm.trans hb) (by decide)
    · rintro ⟨⟨-, hb'⟩ | ⟨-, hb'⟩, -⟩
      · exact absurd (hb'.symm.trans htext) (by decide)
      · exact absurd (hb'.symm.trans hb) (by decide)
  cases b with
  | int n | float x => cases hb
  | bool p =>
      rw [readAsOne_bool_iff ha]
      simp [hplain rfl nofun]
  | text s =>
      refine ⟨fun hread => .inr ⟨.inl ⟨ha, rfl⟩, hread⟩, ?_⟩
      rintro (⟨hequals, -⟩ | ⟨-, hread⟩)
      · cases (equals_of_places? ha rfl).symm.trans hequals
      · exact hread
  | complex re im =>
      have hread : ¬ ReadAsOne a (.complex re im) := Value.not_readAsOne rfl rfl nofun
      refine iff_of_false hread ?_
      rintro (⟨hequals, htwin⟩ | ⟨-, hread'⟩)
      · exact htwin ⟨.inl ⟨ha, re, im, rfl⟩, hequals⟩
      · exact hread hread'
  | _ =>
      refine iff_of_false (Value.not_readAsOne rfl rfl nofun) ?_
      rw [equals_of_places? ha rfl]
      simp [hplain rfl nofun]

/-- Two values count as equal if they are equal as what they are and no twins, or if one of them
spells the other. -/
theorem areEqual_eq_true_iff :
    areEqual a b = .ok true ↔ a.equals b = true ∧ ¬ IsTwin a b ∨ IsSpelled a b := by
  by_cases hone : a.isNumber = b.isNumber
  · have hplain : areEqual a b = .ok (a.equals b) := by
      rw [areEqual, if_neg (by simp [hone])]
    rw [hplain, Except.ok.injEq]
    simp [mt IsTwin.isNumber_ne (not_not.mpr hone), mt IsSpelled.isNumber_ne (not_not.mpr hone)]
  · rw [areEqual_eq_true_iff_readAsOne hone]
    cases ha : a.isNumber with
    | true => exact readAsOne_iff ha (by rw [ha] at hone; simpa using hone)
    | false =>
        have hb : b.isNumber = true := by rw [ha] at hone; simpa using hone
        rw [Value.readAsOne_comm, readAsOne_iff hb ha, isTwin_comm, isSpelled_comm,
          equals_comm_of_number hb]

theorem IsSpelled.equals_eq_false (h : IsSpelled a b) : a.equals b = false := by
  rcases h.1 with ⟨ha, hb⟩ | ⟨ha, hb⟩
  · cases b with
    | text s => exact equals_of_places? ha rfl
    | _ => cases hb
  · cases a with
    | text s => exact (equals_comm_of_number hb).trans (equals_of_places? hb rfl)
    | _ => cases ha

/-! ## Membership -/

/-- A value equals another one as what it is if they count as equal and do not just spell each
other, or if they are twins. -/
theorem equals_eq_true_iff : a.equals b = true ↔
    Comparison.eq.holds a b = .ok true ∧ ¬ IsSpelled a b ∨ IsTwin a b := by
  have hequal : Comparison.eq.holds a b = .ok true ↔
      a.equals b = true ∧ ¬ IsTwin a b ∨ IsSpelled a b := areEqual_eq_true_iff
  have hspelled : IsSpelled a b → ¬ a.equals b = true := fun h => by simp [h.equals_eq_false]
  have htwin : IsTwin a b → a.equals b = true := And.right
  tauto

/-- A value is in a sequence if it counts as equal to one of the items, but for texts that only
spell it, and for complex numbers, which are in their twins' sequences without counting as equal.
So membership says what the comparisons with the items say exactly if one of them holds for another
reason than spelling, or if spellings and twins are both among the items or both missing. -/
theorem membership_agrees_iff {v container : Value} {items : List Value} (hv : v.isNaN = false)
    (hcontainer : container = .list items ∨ container = .tuple items) :
    ∃ found, Comparison.isIn.holds v container = .ok found ∧
      Comparison.notIn.holds v container = .ok (!found) ∧
      (found = true ↔ ∃ e ∈ items,
        Comparison.eq.holds v e = .ok true ∧ ¬ IsSpelled v e ∨ IsTwin v e) ∧
      ((found = true ↔ ∃ e ∈ items, Comparison.eq.holds v e = .ok true) ↔
        (∃ e ∈ items, Comparison.eq.holds v e = .ok true ∧ ¬ IsSpelled v e) ∨
          ((∃ e ∈ items, IsSpelled v e) ↔ ∃ e ∈ items, IsTwin v e)) := by
  have hfound : v.isAmong items = true ↔ ∃ e ∈ items,
      Comparison.eq.holds v e = .ok true ∧ ¬ IsSpelled v e ∨ IsTwin v e := by
    rw [Value.isAmong, List.any_eq_true]
    refine exists_congr fun e => and_congr_right fun _ => ?_
    rw [Value.sameItem, hv, Bool.false_and, Bool.false_or, equals_eq_true_iff]
  have hspelled : ∀ e, IsSpelled v e → Comparison.eq.holds v e = .ok true := fun e h =>
    areEqual_eq_true_iff.mpr (.inr h)
  refine ⟨v.isAmong items, ?_, ?_, hfound, ?_⟩
  · rcases hcontainer with rfl | rfl <;> rfl
  · rcases hcontainer with rfl | rfl <;> rfl
  · have hsplit : (∃ e ∈ items, Comparison.eq.holds v e = .ok true) ↔
        (∃ e ∈ items, Comparison.eq.holds v e = .ok true ∧ ¬ IsSpelled v e) ∨
          ∃ e ∈ items, IsSpelled v e := by
      grind
    have hunion : (∃ e ∈ items, Comparison.eq.holds v e = .ok true ∧ ¬ IsSpelled v e ∨
        IsTwin v e) ↔ (∃ e ∈ items, Comparison.eq.holds v e = .ok true ∧ ¬ IsSpelled v e) ∨
          ∃ e ∈ items, IsTwin v e := by
      grind
    have hcases : ∀ A B C : Prop, ((A ∨ C ↔ A ∨ B) ↔ A ∨ (B ↔ C)) := by
      clear * -
      tauto
    rw [hfound, hunion, hsplit]
    exact hcases _ _ _

/-- Beside the number that it spells, a text is in a sequence that has the text itself. -/
theorem membership_agrees_beside_spelling :
    let v : Value := .text "5"
    let items : List Value := [.int 5, .text "5"]
    (v.isNaN = false ∧ (Value.tuple items = .list items ∨ Value.tuple items = .tuple items)) ∧
      Comparison.isIn.holds v (.tuple items) = .ok true ∧
      Comparison.notIn.holds v (.tuple items) = .ok false ∧
      ∃ e ∈ items, Comparison.eq.holds v e = .ok true := by
  intro v items
  have hequal : Comparison.eq.holds v v = .ok true := by decide
  have hplain : ¬ IsSpelled v v := fun h => h.isNumber_ne rfl
  obtain ⟨found, hin, hnot, hfound, hagree⟩ :=
    @membership_agrees_iff v (.tuple items) items rfl (.inr rfl)
  have hself : ∃ e ∈ items, Comparison.eq.holds v e = .ok true ∧ ¬ IsSpelled v e :=
    ⟨v, by simp [items, v], hequal, hplain⟩
  obtain rfl : found = true := by
    obtain ⟨e, he, h⟩ := hself
    exact hfound.mpr ⟨e, he, .inl h⟩
  exact ⟨⟨rfl, .inr rfl⟩, hin, hnot, (hagree.mpr (.inl hself)).mp rfl⟩

/-- A text counts as equal to the number that it spells and is not in the list of that number. -/
theorem membership_misses_spelling :
    let v : Value := .text "5"
    let items : List Value := [.int 5]
    v.isNaN = false ∧ Comparison.isIn.holds v (.list items) = .ok false ∧
      ∃ e ∈ items, Comparison.eq.holds v e = .ok true := by
  refine ⟨rfl, rfl, .int 5, List.mem_singleton_self _, ?_⟩
  decide +kernel

end Expr

end PipeTable
