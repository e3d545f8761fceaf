import Mathlib
import PipeTable.Expr.Eval

/-! # Orderings of values

Two values are ordered as numbers, as timestamps or as texts.  Which of these it is depends on both
in the same way, so the order turns around with its operands, and all comparisons but those with not
a number follow from it.  Equality agrees with the order where a number takes part in it; values
that are no numbers are equal as what they are, however they read.
-/

namespace PipeTable

/-! ## Orders turned around -/

namespace Number

theorem Place.compare_swap (p q : Place) : (p.compare q).swap = q.compare p := by
  cases p <;> cases q <;> first | rfl | exact Std.OrientedOrd.eq_swap.symm

theorem Place.compare_eq_iff {p q : Place} : p.compare q = .eq ↔ p = q := by
  cases p <;> cases q <;> simp [Place.compare]

/-- Not a number is the only double without a place. -/
theorem place?_eq_none_iff (x : Float) : place? x = none ↔ isNaN x = true := by
  unfold place? isNaN scaled?
  cases shape x <;> simp

theorem place?_nan : place? nan = none := by decide

end Number

namespace Timestamp

theorem compare_swap (a b : Timestamp) : (a.compare b).swap = b.compare a := by
  simp only [compare, Ordering.swap_then, ← Std.OrientedOrd.eq_swap]

theorem compare_eq_iff {a b : Timestamp} : a.compare b = .eq ↔ a = b := by
  cases a
  cases b
  simp [compare, Ordering.then_eq_eq]

end Timestamp

namespace Value

open Number (Place place?)

/-- The order of two places, if there are two. -/
def comparePlaces? : Option Place → Option Place → Option Ordering
  | some p, some q => some (p.compare q)
  | _, _ => Option.none

theorem comparePlaces?_swap (p q : Option Place) :
    (comparePlaces? p q).map Ordering.swap = comparePlaces? q p := by
  cases p <;> cases q <;> first | rfl | exact congrArg some (Place.compare_swap _ _)

theorem compareNumbers?_eq (x y : Float) :
    compareNumbers? x y = comparePlaces? (place? x) (place? y) := by
  unfold compareNumbers?
  cases place? x <;> cases place? y <;> rfl

theorem compareNumbers?_swap (x y : Float) :
    (compareNumbers? x y).map Ordering.swap = compareNumbers? y x := by
  rw [compareNumbers?_eq, compareNumbers?_eq, comparePlaces?_swap]

theorem compareTexts_swap (s t : String) : (compareTexts s t).swap = compareTexts t s := by
  unfold compareTexts
  rw [← compareNumbers?_swap (Number.ofText s)]
  cases compareNumbers? (Number.ofText s) (Number.ofText t) with
  | some order => rfl
  | none =>
      cases Timestamp.ofText? s <;> cases Timestamp.ofText? t <;>
        first | exact Timestamp.compare_swap _ _ | exact Std.OrientedOrd.eq_swap.symm

theorem compare?_swap {a b : Value} {o : Option Ordering} (h : compare? a b = .ok o) :
    compare? b a = .ok (o.map Ordering.swap) := by
  unfold compare? at h ⊢
  rw [Bool.or_comm]
  split at h
  next hnumber =>
    rw [if_pos hnumber]
    cases ha : a.toNumber with
    | error fault => rw [ha] at h; cases h
    | ok x =>
        cases hb : b.toNumber with
        | error fault => rw [ha, hb] at h; cases h
        | ok y =>
            rw [ha, hb] at h
            cases h
            exact congrArg Except.ok (compareNumbers?_swap x y).symm
  next hnumber =>
    rw [if_neg hnumber]
    cases h
    exact congrArg (fun o => Except.ok (some o)) (compareTexts_swap _ _).symm

/-- Where a number takes part, values are ordered as numbers. -/
theorem compare?_of_numbers {a b : Value} {x y : Float}
    (hnumber : (a.isNumber || b.isNumber) = true) (hx : a.toNumber = .ok x)
    (hy : b.toNumber = .ok y) : compare? a b = .ok (comparePlaces? (place? x) (place? y)) := by
  unfold compare?
  rw [if_pos hnumber, hx, hy, ← compareNumbers?_eq]
  rfl

/-! ## Operands -/

/-- A value that an operand of a comparison can have: a number within the range of doubles, a text,
a truth value, the absent value, or a sequence that can be written. -/
def isOperand : Value → Bool
  | .none | .bool _ | .text _ | .float _ => true
  | .int n => (Number.ofInteger? n).isSome
  | .list items | .tuple items => areWritable items
  | _ => false

/-- Whether the value, read as a number, is not one. -/
def readsNaN (v : Value) : Bool :=
  match v.toNumber with
  | .ok x => Number.isNaN x
  | .error _ => false

/-- The place of a number on the number line. -/
def numberPlace? : Value → Option Place
  | .int n => some (Number.placeOfInteger n)
  | .float x => place? x
  | _ => Option.none

theorem exists_toNumber {v : Value} (h : v.isOperand = true) : ∃ x, v.toNumber = .ok x := by
  cases v with
  | int n =>
      obtain ⟨x, hx⟩ := Option.isSome_iff_exists.mp h
      exact ⟨x, by rw [toNumber, hx]⟩
  | _ => exact ⟨_, rfl⟩

theorem readsNaN_iff {v : Value} {x : Float} (h : v.toNumber = .ok x) :
    v.readsNaN = true ↔ place? x = Option.none := by
  rw [readsNaN, h, Number.place?_eq_none_iff]

theorem readsNaN_of_numberPlace? {v : Value} (hnumber : v.isNumber = true)
    (h : v.numberPlace? = Option.none) : v.readsNaN = true := by
  cases v with
  | int n => cases h
  | float x => exact (Number.place?_eq_none_iff x).mp h
  | _ => cases hnumber

end Value

namespace Expr

variable {a b : Value}

/-- Numbers are ordered by their places. -/
theorem order?_of_numbers (ha : a.isOperand = true) (hb : b.isOperand = true)
    (hanumber : a.isNumber = true) (hbnumber : b.isNumber = true) :
    order? a b = .ok (Value.comparePlaces? a.numberPlace? b.numberPlace?) := by
  have hsize : ∀ {v : Value}, v.isOperand = true → v.isNumber = true → checkSize v = .ok () := by
    intro v hv hnumber
    cases v with
    | int n => exact if_pos hv
    | float x => rfl
    | _ => cases hnumber
  have hplaces : ∀ {v : Value}, v.isNumber = true →
      v.places? = some (v.numberPlace?, some (.at 0)) := by
    intro v hnumber
    cases v with
    | int n | float x => rfl
    | _ => cases hnumber
  have hnan : ∀ {v : Value}, v.isNumber = true → (v.isNaN = true ↔ v.numberPlace? = none) := by
    intro v hnumber
    cases v with
    | int n => simp [Value.isNaN, Value.numberPlace?]
    | float x => exact (Number.place?_eq_none_iff x).symm
    | _ => cases hnumber
  unfold order?
  rw [hanumber, hbnumber, Bool.and_self, if_pos rfl, hsize ha hanumber, hplaces hanumber,
    hplaces hbnumber]
  cases hpa : a.numberPlace? with
  | none => rw [if_pos ((hnan hanumber).mpr hpa)]; rfl
  | some p =>
      rw [if_neg fun h => by simp [(hnan hanumber).mp h] at hpa]
      cases hpb : b.numberPlace? with
      | none => simp only [(hnan hbnumber).mpr hpb]; rfl
      | some q =>
          have : b.isNaN = false := by
            cases h : b.isNaN with
            | false => rfl
            | true => simp [(hnan hbnumber).mp h] at hpb
          rw [this, hsize hb hbnumber]
          rfl

/-- Values of which one at least is no number are ordered as cells are. -/
theorem order?_of_not_numbers (h : (a.isNumber && b.isNumber) = false) :
    order? a b = Value.compare? a b := by
  unfold order?
  rw [h]
  rfl

/-- Operands have an order, or one of them is not a number.  Turned around, the order of the one and
the other is the same. -/
theorem exists_order (ha : a.isOperand = true) (hb : b.isOperand = true) :
    ∃ o, order? a b = .ok o ∧ order? b a = .ok (o.map Ordering.swap) ∧
      (o = none → (a.isNumber = true ∨ b.isNumber = true) ∧
        (a.readsNaN = true ∨ b.readsNaN = true)) := by
  cases hboth : a.isNumber && b.isNumber with
  | true =>
      obtain ⟨hanumber, hbnumber⟩ := Bool.and_eq_true_iff.mp hboth
      refine ⟨_, order?_of_numbers ha hb hanumber hbnumber, ?_, fun hnone => ⟨.inl hanumber, ?_⟩⟩
      · rw [order?_of_numbers hb ha hbnumber hanumber, Value.comparePlaces?_swap]
      · cases hpa : a.numberPlace? with
        | none => exact .inl (Value.readsNaN_of_numberPlace? hanumber hpa)
        | some p =>
            cases hpb : b.numberPlace? with
            | none => exact .inr (Value.readsNaN_of_numberPlace? hbnumber hpb)
            | some q => rw [hpa, hpb] at hnone; cases hnone
  | false =>
      rw [order?_of_not_numbers hboth, order?_of_not_numbers (Bool.and_comm _ _ ▸ hboth)]
      obtain ⟨x, hx⟩ := Value.exists_toNumber ha
      obtain ⟨y, hy⟩ := Value.exists_toNumber hb
      cases hone : a.isNumber || b.isNumber with
      | true =>
          have horder := Value.compare?_of_numbers hone hx hy
          refine ⟨_, horder, Value.compare?_swap horder, fun hnone =>
            ⟨Bool.or_eq_true_iff.mp hone, ?_⟩⟩
          rw [Value.readsNaN_iff hx, Value.readsNaN_iff hy]
          cases hpx : Number.place? x with
          | none => exact .inl rfl
          | some p =>
              cases hpy : Number.place? y with
              | none => exact .inr rfl
              | some q => rw [hpx, hpy] at hnone; cases hnone
      | false =>
          have horder : Value.compare? a b =
              .ok (some (Value.compareTexts a.cellText b.cellText)) := by
            unfold Value.compare?
            rw [if_neg (by rw [hone]; exact Bool.false_ne_true)]
          exact ⟨_, horder, Value.compare?_swap horder, nofun⟩

/-- What the four comparisons make of an order. -/
theorem holds_of_order {o : Option Ordering} (h : order? a b = .ok o) :
    Comparison.lt.holds a b = .ok (decide (o = some .lt)) ∧
      Comparison.le.holds a b = .ok (o.any fun o => o != .gt) ∧
      Comparison.gt.holds a b = .ok (decide (o = some .gt)) ∧
      Comparison.ge.holds a b = .ok (o.any fun o => o != .lt) := by
  simp only [Comparison.holds, h]
  exact ⟨rfl, rfl, rfl, rfl⟩

/-- The orderings turn around with their operands.  They all fail for numbers of which one is none,
and else any two that exclude each other have one that holds. -/
theorem orderings_agree (ha : a.isOperand = true) (hb : b.isOperand = true) :
    Comparison.lt.holds a b = Comparison.gt.holds b a ∧
      Comparison.le.holds a b = Comparison.ge.holds b a ∧
      (((a.isNumber = true ∨ b.isNumber = true) ∧ (a.readsNaN = true ∨ b.readsNaN = true) ∧
          ∀ op ∈ [Comparison.lt, .le, .gt, .ge], op.holds a b = .ok false) ∨
        ∃ above below : Bool,
          Comparison.le.holds a b = .ok (!above) ∧ Comparison.gt.holds a b = .ok above ∧
            Comparison.ge.holds a b = .ok (!below) ∧ Comparison.lt.holds a b = .ok below) := by
  obtain ⟨o, horder, hswapped, hnone⟩ := exists_order ha hb
  obtain ⟨hlt, hle, hgt, hge⟩ := holds_of_order horder
  obtain ⟨-, -, hgt', hge'⟩ := holds_of_order hswapped
  refine ⟨?_, ?_, ?_⟩
  · rw [hlt, hgt']
    rcases o with - | (- | - | -) <;> rfl
  · rw [hle, hge']
    rcases o with - | (- | - | -) <;> rfl
  · rw [hlt, hle, hgt, hge]
    rcases o with - | o
    · refine .inl ⟨(hnone rfl).1, (hnone rfl).2, ?_⟩
      simp [hlt, hle, hgt, hge]
    · refine .inr ⟨decide (o = .gt), decide (o = .lt), ?_⟩
      cases o <;> exact ⟨rfl, rfl, rfl, rfl⟩

/-- An integer between two doubles lies above the lower one, though it rounds to it. -/
theorem orderings_agree_between_doubles :
    let a : Value := .int 9007199254740993
    let b : Value := .float 9007199254740992.0
    (a.isOperand = true ∧ b.isOperand = true) ∧
      Comparison.lt.holds a b = Comparison.gt.holds b a ∧
      Comparison.le.holds a b = Comparison.ge.holds b a ∧
      Comparison.le.holds a b = .ok false ∧ Comparison.gt.holds a b = .ok true ∧
      Comparison.ge.holds a b = .ok true ∧ Comparison.lt.holds a b = .ok false := by
  intro a b
  have ha : a.isOperand = true := by decide
  have hb : b.isOperand = true := rfl
  have hplaces : Value.comparePlaces? a.numberPlace? b.numberPlace? = some .gt := by decide +kernel
  have hgt : Comparison.gt.holds a b = .ok true := by
    rw [(holds_of_order (order?_of_numbers ha hb rfl rfl)).2.2.1, hplaces]
    rfl
  obtain ⟨hswap, hswap', ⟨-, -, hnone⟩ | ⟨above, below, hle, habove, hge, hlt⟩⟩ :=
    orderings_agree ha hb
  · cases hgt.symm.trans (hnone .gt (by decide))
  · obtain rfl : true = above := Except.ok.inj (hgt.symm.trans habove)
    have hbelow : Comparison.lt.holds a b = .ok false := by
      rw [(holds_of_order (order?_of_numbers ha hb rfl rfl)).1, hplaces]
      rfl
    obtain rfl : false = below := Except.ok.inj (hbelow.symm.trans hlt)
    exact ⟨⟨ha, hb⟩, hswap, hswap', hle, hgt, hge, hlt⟩

/-- Not a number is at most nothing, a text that reads as a number included. -/
example : Comparison.le.holds (.float Number.nan) (.text "1") = .ok false := rfl

/-! ## Equality beside the orderings -/

/-- Two texts that the order cannot tell apart: one number in two spellings or, if one of them is no
number, one timestamp in two spellings or one text. -/
def ReadAlike (s t : String) : Prop :=
  (∃ p, Number.place? (Number.ofText s) = some p ∧ Number.place? (Number.ofText t) = some p) ∨
    ((Number.place? (Number.ofText s) = none ∨ Number.place? (Number.ofText t) = none) ∧
      (s = t ∨ ∃ moment, Timestamp.ofText? s = some moment ∧ Timestamp.ofText? t = some moment))

theorem ReadAlike.refl (s : String) : ReadAlike s s := by
  cases hs : Number.place? (Number.ofText s) with
  | some p => exact .inl ⟨p, hs, hs⟩
  | none => exact .inr ⟨.inl hs, .inl rfl⟩

theorem compareTexts_eq_iff {s t : String} : Value.compareTexts s t = .eq ↔ ReadAlike s t := by
  by_cases hst : s = t
  · subst hst
    refine iff_of_true ?_ (.refl s)
    have := Value.compareTexts_swap s s
    cases h : Value.compareTexts s s <;> rw [h] at this <;> first | rfl | cases this
  have hchars : Ord.compare s t ≠ .eq := fun h => hst (compare_eq_iff_eq.mp h)
  unfold Value.compareTexts ReadAlike
  rw [Value.compareNumbers?_eq]
  cases Number.place? (Number.ofText s) <;> cases Number.place? (Number.ofText t) <;>
    cases Timestamp.ofText? s <;> cases Timestamp.ofText? t <;>
      simp [Value.comparePlaces?, Number.Place.compare_eq_iff.trans eq_comm,
        Timestamp.compare_eq_iff.trans eq_comm, hst, hchars]

/-- Two values that are no numbers and differ, though their texts read alike. -/
def DifferAlike (a b : Value) : Prop :=
  a.isNumber = false ∧ b.isNumber = false ∧ a.equals b = false ∧ ReadAlike a.cellText b.cellText

/-- Two values that are no numbers and are equal, though their texts do not read alike. -/
def EqualUnlike (a b : Value) : Prop :=
  a.isNumber = false ∧ b.isNumber = false ∧ a.equals b = true ∧ ¬ ReadAlike a.cellText b.cellText

/-- Of "less", "equal" and "greater" exactly the given comparisons hold. -/
def OnlyHold (ops : List Comparison) (a b : Value) : Prop :=
  ∀ op ∈ [Comparison.lt, .eq, .gt], op.holds a b = .ok (decide (op ∈ ops))

/-- Numbers are equal at one place. -/
theorem equals_of_numbers (ha : a.isNumber = true) (hb : b.isNumber = true) :
    a.equals b = true ↔ Value.comparePlaces? a.numberPlace? b.numberPlace? = some .eq := by
  have hequals : a.equals b = (match a.numberPlace?, b.numberPlace? with
      | some p, some q => decide (p = q)
      | _, _ => false) := by
    cases a with
    | int n =>
        cases b with
        | int m => simp [Value.equals, Value.places?, Value.numberPlace?]
        | float y =>
            cases h : Number.place? y <;> simp [Value.equals, Value.places?, Value.numberPlace?, h]
        | _ => cases hb
    | float x =>
        cases b with
        | int m =>
            cases h : Number.place? x <;> simp [Value.equals, Value.places?, Value.numberPlace?, h]
        | float y =>
            cases h : Number.place? x <;> cases h' : Number.place? y <;>
              simp [Value.equals, Value.places?, Value.numberPlace?, h, h']
        | _ => cases hb
    | _ => cases ha
  rw [hequals]
  cases a.numberPlace? <;> cases b.numberPlace? <;>
    simp [Value.comparePlaces?, Number.Place.compare_eq_iff]

/-- The absent value has no order with a number. -/
theorem isNone_of_compare? {o : Ordering} (hb : b.isOperand = true)
    (hnumber : (a.isNumber || b.isNumber) = true) (h : Value.compare? a b = .ok (some o)) :
    a.isNone = false := by
  cases a with
  | none =>
      obtain ⟨y, hy⟩ := Value.exists_toNumber hb
      rw [Value.compare?_of_numbers hnumber (rfl : Value.none.toNumber = _) hy, Number.place?_nan] at h
      cases h
  | _ => rfl

/-- Where a number takes part in an order, equality is what the order says. -/
theorem areEqual_of_number {o : Ordering} (ha : a.isOperand = true) (hb : b.isOperand = true)
    (hnumber : (a.isNumber || b.isNumber) = true) (horder : order? a b = .ok (some o)) :
    areEqual a b = .ok (decide (o = .eq)) := by
  cases hboth : a.isNumber && b.isNumber with
  | true =>
      obtain ⟨hanumber, hbnumber⟩ := Bool.and_eq_true_iff.mp hboth
      have hplaces : Value.comparePlaces? a.numberPlace? b.numberPlace? = some o :=
        Except.ok.inj ((order?_of_numbers ha hb hanumber hbnumber).symm.trans horder)
      have hequals := equals_of_numbers hanumber hbnumber
      rw [hplaces, Option.some_inj, ← decide_eq_true_iff (p := o = .eq),
        ← Bool.eq_iff_iff] at hequals
      simp [areEqual, hanumber, hbnumber, hequals]
  | false =>
      rw [order?_of_not_numbers hboth] at horder
      have hdiffer : (a.isNumber != b.isNumber) = true := by
        revert hnumber hboth
        cases a.isNumber <;> cases b.isNumber <;> decide
      have hanone := isNone_of_compare? hb hnumber horder
      have hbnone := isNone_of_compare? ha (Bool.or_comm _ _ ▸ hnumber) (Value.compare?_swap horder)
      simp [areEqual, hdiffer, hanone, hbnone, horder]

/-- Operands that are no numbers are ordered by their texts and equal as what they are. -/
theorem order?_of_texts (ha : a.isNumber = false) (hb : b.isNumber = false) :
    order? a b = .ok (some (Value.compareTexts a.cellText b.cellText)) := by
  rw [order?_of_not_numbers (by rw [ha]; rfl), Value.compare?, ha, hb]
  rfl

theorem areEqual_of_texts (ha : a.isNumber = false) (hb : b.isNumber = false) :
    areEqual a b = .ok (a.equals b) := by
  rw [areEqual, ha, hb]
  rfl

/-- Operands that are no numbers and are equal are sequences of one kind or have one text. -/
theorem sequences_or_cellText_eq (haoperand : a.isOperand = true) (hboperand : b.isOperand = true)
    (ha : a.isNumber = false) (hb : b.isNumber = false) (h : a.equals b = true) :
    ((∃ xs ys, a = .list xs ∧ b = .list ys) ∨ ∃ xs ys, a = .tuple xs ∧ b = .tuple ys) ∨
      a.cellText = b.cellText := by
  cases a with
  | int n | float x => cases ha
  | none | text s => cases b <;> simp_all [Value.equals, Value.places?]
  | bool p =>
      cases b with
      | int n | float x => cases hb
      | complex re im => cases hboperand
      | bool q =>
          have : ∀ p q : Bool, (Value.bool p).equals (.bool q) = true → p = q := by decide +kernel
          rw [this p q h]
          exact .inr rfl
      | _ => simp_all [Value.equals, Value.places?]
  | list xs =>
      cases b with
      | list ys => exact .inl (.inl ⟨xs, ys, rfl, rfl⟩)
      | _ => simp_all [Value.equals, Value.places?]
  | tuple xs =>
      cases b with
      | tuple ys => exact .inl (.inr ⟨xs, ys, rfl, rfl⟩)
      | _ => simp_all [Value.equals, Value.places?]
  | _ => cases haoperand

theorem onlyHold_of_order {ops : List Comparison} {o : Ordering} {equal : Bool}
    (horder : order? a b = .ok (some o)) (hequal : areEqual a b = .ok equal)
    (hlt : decide (o = .lt) = decide (.lt ∈ ops)) (heq : equal = decide (.eq ∈ ops))
    (hgt : decide (o = .gt) = decide (.gt ∈ ops)) : OnlyHold ops a b := by
  obtain ⟨hlt', -, hgt', -⟩ := holds_of_order horder
  have heq' : Comparison.eq.holds a b = .ok equal := hequal
  intro op hop
  simp only [List.mem_cons, List.not_mem_nil, or_false] at hop
  obtain rfl | rfl | rfl := hop
  · simp only [hlt', ← hlt, Option.some_inj]
  · rw [heq', heq]
  · simp only [hgt', ← hgt, Option.some_inj]

/-- Where equality is what the order says, one of the three comparisons holds. -/
theorem exists_onlyHold {o : Ordering} (horder : order? a b = .ok (some o))
    (hequal : areEqual a b = .ok (decide (o = .eq))) :
    ∃ op ∈ [Comparison.lt, .eq, .gt], OnlyHold [op] a b := by
  cases o with
  | lt => exact ⟨.lt, by decide, onlyHold_of_order horder hequal rfl rfl rfl⟩
  | eq => exact ⟨.eq, by decide, onlyHold_of_order horder hequal rfl rfl rfl⟩
  | gt => exact ⟨.gt, by decide, onlyHold_of_order horder hequal rfl rfl rfl⟩

/-- Operands at most and at least each other are level. -/
theorem level_of_le_of_ge {o : Ordering} (horder : order? a b = .ok (some o))
    (hle : Comparison.le.holds a b = .ok true) (hge : Comparison.ge.holds a b = .ok true) :
    o = .eq := by
  obtain ⟨-, hle', -, hge'⟩ := holds_of_order horder
  cases o with
  | lt => cases hge'.symm.trans hge
  | eq => rfl
  | gt => cases hle'.symm.trans hle

/-- Operands that are no numbers are level where their texts read alike. -/
theorem level_iff_readAlike {o : Ordering} (ha : a.isNumber = false) (hb : b.isNumber = false)
    (horder : order? a b = .ok (some o)) : o = .eq ↔ ReadAlike a.cellText b.cellText := by
  rw [← compareTexts_eq_iff, ← Option.some_inj,
    Except.ok.inj (horder.symm.trans (order?_of_texts ha hb)), Option.some_inj]

theorem DifferAlike.onlyHold (h : DifferAlike a b) :
    OnlyHold [] a b ∧ Comparison.le.holds a b = .ok true ∧ Comparison.ge.holds a b = .ok true := by
  obtain ⟨hanumber, hbnumber, hdiffer, halike⟩ := h
  have horder := order?_of_texts hanumber hbnumber
  rw [(level_iff_readAlike hanumber hbnumber horder).mpr halike] at horder
  have hequal := areEqual_of_texts hanumber hbnumber
  rw [hdiffer] at hequal
  obtain ⟨-, hle, -, hge⟩ := holds_of_order horder
  exact ⟨onlyHold_of_order horder hequal rfl rfl rfl, hle, hge⟩

/-- Operands that are equal and do not read alike are sequences of one kind. -/
theorem EqualUnlike.onlyHold (h : EqualUnlike a b) (ha : a.isOperand = true)
    (hb : b.isOperand = true) :
    ((∃ xs ys, a = .list xs ∧ b = .list ys) ∨ ∃ xs ys, a = .tuple xs ∧ b = .tuple ys) ∧
      (OnlyHold [.lt, .eq] a b ∨ OnlyHold [.eq, .gt] a b) := by
  obtain ⟨hanumber, hbnumber, hequals, hunlike⟩ := h
  refine ⟨(sequences_or_cellText_eq ha hb hanumber hbnumber hequals).resolve_right
    fun h => hunlike (h ▸ .refl _), ?_⟩
  have horder := order?_of_texts hanumber hbnumber
  have hlevel := mt (level_iff_readAlike hanumber hbnumber horder).mp hunlike
  have hequal := areEqual_of_texts hanumber hbnumber
  rw [hequals] at hequal
  cases ho : Value.compareTexts a.cellText b.cellText with
  | lt => exact .inl (onlyHold_of_order (ho ▸ horder) hequal rfl rfl rfl)
  | eq => exact absurd ho hlevel
  | gt => exact .inr (onlyHold_of_order (ho ▸ horder) hequal rfl rfl rfl)

/-- For all other operands that have an order, equality is what the order says. -/
theorem areEqual_unless {o : Ordering} (ha : a.isOperand = true) (hb : b.isOperand = true)
    (hdiffer : ¬ DifferAlike a b) (hunlike : ¬ EqualUnlike a b)
    (horder : order? a b = .ok (some o)) : areEqual a b = .ok (decide (o = .eq)) := by
  cases hnumber : a.isNumber || b.isNumber with
  | true => exact areEqual_of_number ha hb hnumber horder
  | false =>
      obtain ⟨hanumber, hbnumber⟩ := Bool.or_eq_false_iff.mp hnumber
      have hlevel := level_iff_readAlike hanumber hbnumber horder
      rw [areEqual_of_texts hanumber hbnumber]
      cases hequals : a.equals b with
      | true =>
          have halike : ReadAlike a.cellText b.cellText :=
            by_contra fun h => hunlike ⟨hanumber, hbnumber, hequals, h⟩
          rw [decide_eq_true (hlevel.mpr halike)]
      | false =>
          have halike : ¬ ReadAlike a.cellText b.cellText :=
            fun h => hdiffer ⟨hanumber, hbnumber, hequals, h⟩
          rw [decide_eq_false (mt hlevel.mp halike)]

/-- Of two operands that have an order, exactly one of "less", "equal" and "greater" holds, but for
two kinds of operands that are no numbers: such as differ and read alike, of which none holds, and
equal sequences that do not read alike, of which one is the lesser one besides. -/
theorem one_holds_unless (ha : a.isOperand = true) (hb : b.isOperand = true)
    (hsome : ∃ op ∈ [Comparison.lt, .le, .gt, .ge], op.holds a b = .ok true) :
    (DifferAlike a b ∧ OnlyHold [] a b ∧ Comparison.le.holds a b = .ok true ∧
        Comparison.ge.holds a b = .ok true ∨
      EqualUnlike a b ∧
        ((∃ xs ys, a = .list xs ∧ b = .list ys) ∨ ∃ xs ys, a = .tuple xs ∧ b = .tuple ys) ∧
        (OnlyHold [.lt, .eq] a b ∨ OnlyHold [.eq, .gt] a b) ∨
      ¬ DifferAlike a b ∧ ¬ EqualUnlike a b ∧
        ∃ op ∈ [Comparison.lt, .eq, .gt], OnlyHold [op] a b) ∧
      (Comparison.le.holds a b = .ok true → Comparison.ge.holds a b = .ok true →
        Comparison.eq.holds a b = .ok true ∨ DifferAlike a b) := by
  obtain ⟨o, horder, -, -⟩ := exists_order ha hb
  obtain ⟨hlt, hle, hgt, hge⟩ := holds_of_order horder
  rcases o with - | o
  · simp [hlt, hle, hgt, hge] at hsome
  by_cases hdiffer : DifferAlike a b
  · exact ⟨.inl ⟨hdiffer, hdiffer.onlyHold⟩, fun _ _ => .inr hdiffer⟩
  by_cases hunlike : EqualUnlike a b
  · refine ⟨.inr (.inl ⟨hunlike, hunlike.onlyHold ha hb⟩), fun _ _ => .inl ?_⟩
    have hequal := areEqual_of_texts hunlike.1 hunlike.2.1
    rwa [hunlike.2.2.1] at hequal
  have hequal := areEqual_unless ha hb hdiffer hunlike horder
  refine ⟨.inr (.inr ⟨hdiffer, hunlike, exists_onlyHold horder hequal⟩), fun hle' hge' => .inl ?_⟩
  rwa [level_of_le_of_ge horder hle' hge'] at hequal

/-- Equal lists whose texts differ: the list of the integer stands above that of the double. -/
theorem one_holds_unless_equal_unlike :
    let a : Value := .list [.int 1]
    let b : Value := .list [.float 1.0]
    (a.isOperand = true ∧ b.isOperand = true ∧
      ∃ op ∈ [Comparison.lt, .le, .gt, .ge], op.holds a b = .ok true) ∧
      EqualUnlike a b ∧ OnlyHold [.eq, .gt] a b := by
  intro a b
  have horder : order? a b = .ok (some .gt) :=
    (order?_of_texts rfl rfl).trans (congrArg (Except.ok ∘ some) (by decide +kernel))
  have hgt : Comparison.gt.holds a b = .ok true := (holds_of_order horder).2.2.1
  have heq : Comparison.eq.holds a b = .ok true :=
    (areEqual_of_texts rfl rfl).trans (congrArg Except.ok (by decide +kernel))
  have hsome : ∃ op ∈ [Comparison.lt, .le, .gt, .ge], op.holds a b = .ok true :=
    ⟨.gt, by decide, hgt⟩
  have ha : a.isOperand = true := by decide +kernel
  refine ⟨⟨ha, rfl, hsome⟩, ?_⟩
  obtain ⟨h | ⟨hunlike, -, h | h⟩ | ⟨-, -, op, -, h⟩, -⟩ := one_holds_unless ha rfl hsome
  · cases hgt.symm.trans (h.2.1 .gt (by decide))
  · cases hgt.symm.trans (h .gt (by decide))
  · exact ⟨hunlike, h⟩
  · have hopgt := Except.ok.inj (hgt.symm.trans (h .gt (by decide)))
    have hopeq := Except.ok.inj (heq.symm.trans (h .eq (by decide)))
    cases op <;> simp at hopgt hopeq

/-- Two spellings of a number are level, and as texts they differ. -/
theorem level_texts_differ :
    let a : Value := .text "1"
    let b : Value := .text "1.0"
    (a.isOperand = true ∧ b.isOperand = true) ∧
      Comparison.le.holds a b = .ok true ∧ Comparison.ge.holds a b = .ok true ∧
      Comparison.lt.holds a b = .ok false ∧ Comparison.eq.holds a b = .ok false ∧
      Comparison.gt.holds a b = .ok false := by
  intro a b
  have horder : order? a b = .ok (some .eq) :=
    (order?_of_texts rfl rfl).trans (congrArg (Except.ok ∘ some) (by decide +kernel))
  obtain ⟨hlt, hle, hgt, hge⟩ := holds_of_order horder
  exact ⟨⟨rfl, rfl⟩, hle, hge, hlt, rfl, hgt⟩

end Expr

end PipeTable
