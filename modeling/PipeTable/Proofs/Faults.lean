import Mathlib
import PipeTable.Expr.Eval
import PipeTable.Filter.Functions

/-! # Faults of operations on values

What an operator or a built-in function refuses, it refuses for the type of a value, for the value
itself, for an index or a key.  None of them asks a value for an operation that values lack
altogether: only what a program makes of a whole value can end so.
-/

namespace PipeTable

/-! ## Outcomes -/

namespace Outcome

variable {ε δ α β : Type}

theorem bind_eq_ok {x : Except ε α} {f : α → Except ε β} {b : β} :
    x >>= f = .ok b ↔ ∃ a, x = .ok a ∧ f a = .ok b := by
  cases x <;> simp [bind, Except.bind]

theorem bind_eq_error {x : Except ε α} {f : α → Except ε β} {e : ε} :
    x >>= f = .error e ↔ x = .error e ∨ ∃ a, x = .ok a ∧ f a = .error e := by
  cases x <;> simp [bind, Except.bind]

theorem map_eq_ok {x : Except ε α} {f : α → β} {b : β} :
    x.map f = .ok b ↔ ∃ a, x = .ok a ∧ f a = b := by
  cases x <;> simp [Except.map]

theorem map_eq_error {x : Except ε α} {f : α → β} {e : ε} :
    x.map f = .error e ↔ x = .error e := by
  cases x <;> simp [Except.map]

theorem mapError_eq_ok {x : Except ε α} {f : ε → δ} {a : α} :
    x.mapError f = .ok a ↔ x = .ok a := by
  cases x <;> simp [Except.mapError]

/-- What is done to each item without failing is done to all of them. -/
theorem mapM_eq_ok {f : α → Except ε β} {g : α → β} {items : List α}
    (h : ∀ a ∈ items, f a = .ok (g a)) : items.mapM f = .ok (items.map g) := by
  induction items with
  | nil => rfl
  | cons a items ih =>
      rw [List.mapM_cons, h a List.mem_cons_self,
        ih fun b hb => h b (List.mem_cons_of_mem a hb)]
      rfl

/-- What is done to all items is done to each of them. -/
theorem exists_of_mem_mapM {f : α → Except ε β} {items : List α} {results : List β}
    (h : items.mapM f = .ok results) {b : β} (hb : b ∈ results) : ∃ a ∈ items, f a = .ok b := by
  induction items generalizing results with
  | nil =>
      cases h
      cases hb
  | cons a items ih =>
      rw [List.mapM_cons] at h
      obtain ⟨first, hfirst, h⟩ := bind_eq_ok.mp h
      obtain ⟨more, hmore, h⟩ := bind_eq_ok.mp h
      cases h
      rcases List.mem_cons.mp hb with rfl | hb
      · exact ⟨a, List.mem_cons_self, hfirst⟩
      · obtain ⟨other, hother, heq⟩ := ih hmore hb
        exact ⟨other, List.mem_cons_of_mem a hother, heq⟩

/-- Something is done to all items if it is done to each of them. -/
theorem exists_mapM_iff {f : α → Except ε β} {items : List α} :
    (∃ results, items.mapM f = .ok results) ↔ ∀ a ∈ items, ∃ b, f a = .ok b := by
  constructor
  · rintro ⟨results, h⟩
    induction items generalizing results with
    | nil => exact nofun
    | cons a items ih =>
        rw [List.mapM_cons] at h
        obtain ⟨b, hb, h⟩ := bind_eq_ok.mp h
        obtain ⟨more, hmore, -⟩ := bind_eq_ok.mp h
        exact List.forall_mem_cons.mpr ⟨⟨b, hb⟩, ih more hmore⟩
  · intro h
    induction items with
    | nil => exact ⟨[], rfl⟩
    | cons a items ih =>
        obtain ⟨⟨b, hb⟩, hmore⟩ := List.forall_mem_cons.mp h
        obtain ⟨more, hmore⟩ := ih hmore
        exact ⟨b :: more, by rw [List.mapM_cons, hb, hmore]; rfl⟩

/-- Doing something to all items stops at the first one for which it fails. -/
theorem mapM_eq_error {f : α → Except ε β} {items : List α} {e : ε} :
    items.mapM f = .error e ↔
      ∃ before a after, items = before ++ a :: after ∧ (∀ b ∈ before, ∃ c, f b = .ok c) ∧
        f a = .error e := by
  constructor
  · intro h
    induction items with
    | nil => cases h
    | cons a items ih =>
        rw [List.mapM_cons] at h
        rcases bind_eq_error.mp h with h | ⟨b, hb, h⟩
        · exact ⟨[], a, items, rfl, nofun, h⟩
        · rcases bind_eq_error.mp h with h | ⟨bs, -, h⟩
          · obtain ⟨before, a', after, rfl, hbefore, ha'⟩ := ih h
            exact ⟨a :: before, a', after, rfl, List.forall_mem_cons.mpr ⟨⟨b, hb⟩, hbefore⟩, ha'⟩
          · cases h
  · rintro ⟨before, a, after, rfl, hbefore, ha⟩
    induction before with
    | nil =>
        rw [List.nil_append, List.mapM_cons, ha]
        rfl
    | cons b before ih =>
        obtain ⟨⟨c, hc⟩, hbefore⟩ := List.forall_mem_cons.mp hbefore
        rw [List.cons_append, List.mapM_cons, hc, ih hbefore]
        rfl

/-- Steps whose outcome does not depend on the state end at the first item that fails. -/
theorem foldlM_eq_error_iff {σ : Type} {step : σ → α → Except ε σ} (Good : α → Prop)
    (Bad : α → ε → Prop) (hgood : ∀ s a, (∃ s', step s a = .ok s') ↔ Good a)
    (hbad : ∀ s a e, step s a = .error e ↔ Bad a e) {items : List α} {s : σ} {e : ε} :
    items.foldlM step s = .error e ↔
      ∃ before a after, items = before ++ a :: after ∧ (∀ b ∈ before, Good b) ∧ Bad a e := by
  constructor
  · intro h
    induction items generalizing s with
    | nil => cases h
    | cons a items ih =>
        rw [List.foldlM_cons] at h
        rcases bind_eq_error.mp h with h | ⟨t, ht, h⟩
        · exact ⟨[], a, items, rfl, nofun, (hbad s a e).mp h⟩
        · obtain ⟨before, b, after, rfl, hbefore, hb⟩ := ih h
          exact ⟨a :: before, b, after, rfl,
            List.forall_mem_cons.mpr ⟨(hgood s a).mp ⟨t, ht⟩, hbefore⟩, hb⟩
  · rintro ⟨before, a, after, rfl, hbefore, ha⟩
    induction before generalizing s with
    | nil =>
        rw [List.nil_append, List.foldlM_cons, (hbad s a e).mpr ha]
        rfl
    | cons b before ih =>
        obtain ⟨hb, hbefore⟩ := List.forall_mem_cons.mp hbefore
        obtain ⟨t, ht⟩ := (hgood s b).mpr hb
        rw [List.cons_append, List.foldlM_cons, ht]
        exact ih hbefore

theorem mapError_eq_error {x : Except ε α} {f : ε → δ} {e : δ} :
    x.mapError f = .error e ↔ ∃ cause, x = .error cause ∧ f cause = e := by
  cases x <;> simp [Except.mapError]

end Outcome

/-! ## Operations that values have -/

/-- The operation is one that values have, although it may fail. -/
def Supported {α : Type} (x : Except Fault α) : Prop := x ≠ .error .noMember

namespace Supported

variable {α β δ : Type}

@[simp]
theorem ok (a : α) : Supported (.ok a) := nofun

@[simp]
theorem error_iff {fault : Fault} :
    Supported (.error fault : Except Fault α) ↔ fault ≠ .noMember := by
  simp [Supported]

theorem bind {x : Except Fault α} {f : α → Except Fault β} (hx : Supported x)
    (hf : ∀ a, Supported (f a)) : Supported (x >>= f) := by
  intro h
  rcases Outcome.bind_eq_error.mp h with h | ⟨a, -, h⟩
  · exact hx h
  · exact hf a h

theorem map {x : Except Fault α} (hx : Supported x) (f : α → β) : Supported (x.map f) :=
  fun h => hx (Outcome.map_eq_error.mp h)

theorem mapError {x : Except δ α} {f : δ → Fault} (hf : ∀ cause, f cause ≠ .noMember) :
    Supported (x.mapError f) := by
  intro h
  obtain ⟨cause, -, hcause⟩ := Outcome.mapError_eq_error.mp h
  exact hf cause hcause

end Supported

namespace Value

/-! ## Numbers -/

theorem toInteger_supported (v : Value) : Supported v.toInteger := by
  unfold toInteger
  grind [Supported]

theorem toNumber_supported (v : Value) : Supported v.toNumber := by
  unfold toNumber
  grind [Supported]

theorem realOfInteger_supported (n : Int) : Supported (realOfInteger n) := by
  grind [realOfInteger, Supported]

theorem toComplex_supported (x : Numeric) : Supported x.toComplex := by
  cases x with
  | integer n => exact (realOfInteger_supported n).map _
  | real => exact .ok _
  | complex => exact .ok _

theorem toReal_supported (x : Numeric) : Supported x.toReal := by
  cases x with
  | integer n => exact realOfInteger_supported n
  | real => exact .ok _
  | complex => simp [Numeric.toReal]

theorem pair_supported (x y : Numeric) : Supported (x.pair y) := by
  have hcomplex : Supported (do return Pair.complexes (← x.toComplex) (← y.toComplex)) :=
    (toComplex_supported x).bind fun _ => (toComplex_supported y).bind fun _ => .ok _
  unfold Numeric.pair
  split
  · exact .ok _
  · exact hcomplex
  · exact hcomplex
  · exact (toReal_supported x).bind fun _ => (toReal_supported y).bind fun _ => .ok _

theorem onPair_supported {f : Pair → Except Fault Value} (hf : ∀ p, Supported (f p))
    (a b : Value) : Supported (onPair f a b) := by
  unfold onPair
  split
  · exact (pair_supported _ _).bind hf
  · simp

theorem addPair_supported (p : Pair) : Supported (addPair p) := by cases p <;> simp [addPair]

theorem subtractPair_supported (p : Pair) : Supported (subtractPair p) := by
  cases p <;> simp [subtractPair]

theorem multiplyPair_supported (p : Pair) : Supported (multiplyPair p) := by
  cases p <;> simp [multiplyPair]

theorem dividePair_supported (p : Pair) : Supported (dividePair p) := by
  cases p <;> grind [dividePair, divideIntegers, Supported]

theorem floorQuotientPair_supported (p : Pair) : Supported (floorQuotientPair p) := by
  cases p <;> grind [floorQuotientPair, Supported]

theorem moduloPair_supported (p : Pair) : Supported (moduloPair p) := by
  cases p <;> grind [moduloPair, Supported]

theorem realPower_supported (x y : Float) : Supported (realPower x y) := by
  unfold realPower
  grind [Supported]

theorem realPowerOfTruth_supported (x y : Float) : Supported (realPowerOfTruth x y) := by
  grind [realPowerOfTruth, Supported]

theorem integerPowerOfTruth_supported (m n : Int) : Supported (integerPowerOfTruth m n) := by
  unfold integerPowerOfTruth
  split
  · exact (realOfInteger_supported m).bind fun _ =>
      (realOfInteger_supported n).bind fun _ => realPowerOfTruth_supported _ _
  · split
    · exact .ok _
    · split <;> exact .ok _

theorem complexPower_supported (x y : Number.FloatPair) : Supported (complexPower x y) := by
  grind [complexPower, Supported]

theorem power_supported (a b : Value) : Supported (power a b) := by
  unfold power
  split
  · split
    · exact (toReal_supported _).bind fun _ => (toReal_supported _).bind fun _ =>
        (realPower_supported _ _).bind fun _ => .ok _
    · refine (pair_supported _ _).bind fun p => ?_
      cases p with
      | integers => exact integerPowerOfTruth_supported _ _
      | reals => exact realPowerOfTruth_supported _ _
      | complexes => exact complexPower_supported _ _
  · simp

theorem add_supported (a b : Value) : Supported (add a b) := by
  unfold add
  split
  case h_5 => exact onPair_supported addPair_supported a b
  all_goals exact .ok _

theorem floorQuotient_supported (a b : Value) : Supported (floorQuotient a b) := by
  unfold floorQuotient
  split
  · simp
  · simp
  · exact onPair_supported floorQuotientPair_supported a b

theorem remainder_supported (a b : Value) : Supported (remainder a b) := by
  unfold remainder
  split
  · simp
  · simp
  · exact onPair_supported moduloPair_supported a b

theorem checkCopies_supported (v count : Value) : Supported (checkCopies v count) := by
  grind [checkCopies, Supported]

theorem repeatBy_supported (v : Value) (n : Int) : Supported (repeatBy v n) := by
  grind [repeatBy, Supported]

theorem multiply_supported (a b : Value) : Supported (multiply a b) := by
  refine (checkCopies_supported a b).bind fun _ => (checkCopies_supported b a).bind fun _ => ?_
  split
  · exact onPair_supported multiplyPair_supported a b
  · exact repeatBy_supported a _
  · exact repeatBy_supported b _
  · simp

/-! ## Sequences -/

theorem contains_supported (container v : Value) : Supported (contains container v) := by
  unfold contains
  grind [Supported]

theorem bound?_supported (v : Value) : Supported (bound? v) := by
  unfold bound?
  grind [Supported]

theorem slicePositions_supported (length : Nat) (lower upper step : Value) :
    Supported (slicePositions length lower upper step) := by
  refine (bound?_supported step).bind fun stride => ?_
  dsimp only
  split
  · exact Supported.bind (by simp) fun _ => (bound?_supported lower).bind fun _ =>
      (bound?_supported upper).bind fun _ => by split <;> exact .ok _
  · exact (bound?_supported lower).bind fun _ => (bound?_supported upper).bind fun _ => by
      split <;> exact .ok _

theorem part_supported {α : Type} (one : α → Value) (many : List α → Value) (items : List α)
    (index : Value) : Supported (part one many items index) := by
  unfold part
  split
  · exact (slicePositions_supported _ _ _ _).bind fun _ => .ok _
  · split
    · split <;> simp
    · simp

theorem item_supported (container index : Value) : Supported (item container index) := by
  unfold item
  split
  · exact part_supported _ _ _ _
  · exact part_supported _ _ _ _
  · exact part_supported _ _ _ _
  · exact part_supported _ _ _ _
  · split
    · split <;> simp
    · simp
  · simp

/-! ## Comparisons -/

theorem compare?_supported (a b : Value) : Supported (compare? a b) := by
  unfold compare?
  split
  · exact (toNumber_supported a).bind fun _ => (toNumber_supported b).bind fun _ => .ok _
  · exact .ok _

theorem isBetween_supported (v low high : Value) : Supported (isBetween v low high) :=
  (compare?_supported v low).bind fun _ => (compare?_supported v high).bind fun _ => by
    split <;> exact .ok _

/-! ## Templates -/

/-- Whatever values are there to be taken, the computation does only what values can do. -/
def Fill.Supported {α : Type} (x : Fill α) : Prop := ∀ supply, PipeTable.Supported (x.run supply)

namespace Fill.Supported

variable {α β : Type}

theorem pure (a : α) : Fill.Supported (pure a) := fun _ => .ok _

theorem throw {fault : Fault} (h : fault ≠ .noMember) : Fill.Supported (throw fault : Fill α) :=
  fun _ => PipeTable.Supported.error_iff.mpr h

theorem lift {x : Except Fault α} (hx : PipeTable.Supported x) :
    Fill.Supported (liftM x : Fill α) :=
  fun _ => hx.bind fun _ => .ok _

theorem bind {x : Fill α} {f : α → Fill β} (hx : x.Supported) (hf : ∀ a, (f a).Supported) :
    (x >>= f).Supported :=
  fun supply => (hx supply).bind fun (a, left) => hf a left

theorem get : Fill.Supported (get : Fill Supply) := fun _ => .ok _

theorem modify (f : Supply → Supply) : Fill.Supported (modify f : Fill PUnit) := fun _ => .ok _

end Fill.Supported

theorem take_supported : Fill.take.Supported := by
  refine .bind .get fun supply => ?_
  split
  · exact .bind (.modify _) fun _ => .pure _
  · exact .throw nofun

theorem takeInteger_supported : Fill.takeInteger.Supported := by
  refine take_supported.bind fun v => ?_
  split
  · exact .pure _
  · exact .throw nofun

theorem chooseKey_supported (isBytes : Bool) (cs : List Char) :
    (chooseKey isBytes cs).Supported := by
  unfold chooseKey
  split
  · refine .bind .get fun supply => ?_
    split
    · exact .throw nofun
    · split
      · exact .throw nofun
      · exact (Fill.Supported.lift (item_supported _ _)).bind fun _ =>
          .bind (.modify _) fun _ => .pure _
  · exact .pure _

theorem readCount_supported (most : Int) (cs : List Char) : Supported (readCount most cs) := by
  grind [readCount, Supported]

theorem readWidth_supported (d : Directive) (cs : List Char) : (readWidth d cs).Supported := by
  unfold readWidth
  split
  · refine takeInteger_supported.bind fun n => ?_
    dsimp only
    split
    · exact .bind (.throw nofun) fun _ => .pure _
    · exact .pure _
  · split
    · exact (Fill.Supported.lift (readCount_supported _ _)).bind fun _ => .pure _
    · exact .pure _
  · exact .pure _

theorem readPrecision_supported (d : Directive) (cs : List Char) :
    (readPrecision d cs).Supported := by
  unfold readPrecision
  split
  · refine takeInteger_supported.bind fun n => ?_
    dsimp only
    split
    · exact .bind (.throw nofun) fun _ => .pure _
    · exact .pure _
  · exact (Fill.Supported.lift (readCount_supported _ _)).bind fun _ => .pure _
  · exact .pure _

theorem integerFor_supported (letter : Char) (v : Value) : Supported (integerFor letter v) := by
  unfold integerFor
  split
  · split <;> simp
  · exact .ok _
  · split
    · simp
    · exact toInteger_supported _
  · simp

theorem realFor_supported (isBytes : Bool) (v : Value) : Supported (realFor isBytes v) := by
  unfold realFor
  split
  · split
    · exact .mapError nofun
    · exact toReal_supported _
  · simp

theorem characterFor_supported (isBytes : Bool) (v : Value) :
    Supported (characterFor isBytes v) := by
  unfold characterFor
  grind [Supported]

theorem textFor_supported (isBytes : Bool) (letter : Char) (v : Value) :
    Supported (textFor isBytes letter v) := by
  unfold textFor
  grind [Supported]

theorem fillWith_supported (isBytes : Bool) (letter : Char) (d : Directive) (v : Value) :
    Supported (fillWith isBytes letter d v) := by
  unfold fillWith
  split
  · exact (textFor_supported _ _ _).bind fun _ => .ok _
  · split
    · exact (integerFor_supported _ _).bind fun _ => .ok _
    · split
      · exact (realFor_supported _ _).bind fun _ => .ok _
      · split
        · exact (characterFor_supported _ _).bind fun _ => .ok _
        · exact Supported.error_iff.mpr nofun

theorem fillOne_supported (isBytes : Bool) (cs : List Char) : (fillOne isBytes cs).Supported := by
  unfold fillOne
  split
  · exact .pure _
  · refine (chooseKey_supported _ _).bind fun _ => (readWidth_supported _ _).bind fun _ =>
      (readPrecision_supported _ _).bind fun (d, after) => ?_
    dsimp only
    split
    · exact .throw nofun
    · exact take_supported.bind fun _ =>
        (Fill.Supported.lift (fillWith_supported _ _ _ _)).bind fun _ => .pure _

theorem fillAll_supported (isBytes : Bool) (fuel : Nat) (cs : List Char) :
    (fillAll isBytes fuel cs).Supported := by
  fun_induction fillAll isBytes fuel cs with
  | case1 => exact .pure _
  | case2 => exact .pure _
  | case3 fuel cs ih =>
      exact (fillOne_supported _ _).bind fun (_, rest) => (ih rest).bind fun _ => .pure _
  | case4 fuel c cs _ ih => exact ih.bind fun _ => .pure _

theorem fillTemplate_supported (isBytes : Bool) (template : List Char) (supply : Supply) :
    Supported (fillTemplate isBytes template supply) := by
  refine (fillAll_supported _ _ _ supply).bind fun (cs, left) => ?_
  dsimp only
  split
  · exact Supported.bind (by simp) fun _ => .ok _
  · exact .ok _

theorem modulo_supported (a b : Value) : Supported (modulo a b) := by
  unfold modulo
  split
  · exact (fillTemplate_supported _ _ _).map _
  · exact (fillTemplate_supported _ _ _).map _
  · exact remainder_supported a b

end Value

/-! ## Operators and functions -/

namespace Expr

theorem sign_supported (s : Sign) (v : Value) : Supported (s.apply v) := by
  unfold Sign.apply
  cases s <;> dsimp only <;> split
  · exact .ok _
  · exact ((Value.toNumber_supported v).map _).bind fun _ => .ok _
  · exact .ok _
  · exact ((Value.toNumber_supported v).map _).bind fun _ => .ok _

theorem arithmetic_supported (op : Arithmetic) (a b : Value) : Supported (op.apply a b) := by
  cases op with
  | add => exact Value.add_supported a b
  | sub => exact Value.onPair_supported Value.subtractPair_supported a b
  | mul => exact Value.multiply_supported a b
  | div => exact Value.onPair_supported Value.dividePair_supported a b
  | floorDiv => exact Value.floorQuotient_supported a b
  | mod => exact Value.modulo_supported a b
  | pow => exact Value.power_supported a b

theorem checkSize_supported (v : Value) : Supported (checkSize v) := by
  unfold checkSize
  grind [Supported]

theorem order?_supported (a b : Value) : Supported (order? a b) := by
  unfold order?
  split
  · split
    · exact .ok _
    · refine (checkSize_supported a).bind fun _ => ?_
      split
      · exact .ok _
      · exact (checkSize_supported b).bind fun _ => by split <;> exact .ok _
  · exact Value.compare?_supported a b

theorem areEqual_supported (a b : Value) : Supported (areEqual a b) := by
  unfold areEqual
  split
  · exact (Value.compare?_supported a b).bind fun _ => .ok _
  · exact .ok _

theorem holds_supported (op : Comparison) (a b : Value) : Supported (op.holds a b) := by
  cases op with
  | isIn => exact Value.contains_supported b a
  | notIn => exact (Value.contains_supported b a).bind fun _ => .ok _
  | eq => exact areEqual_supported a b
  | ne => exact (areEqual_supported a b).bind fun _ => .ok _
  | lt => exact (order?_supported a b).bind fun _ => .ok _
  | le => exact (order?_supported a b).bind fun _ => .ok _
  | gt => exact (order?_supported a b).bind fun _ => .ok _
  | ge => exact (order?_supported a b).bind fun _ => .ok _

end Expr

theorem Pattern.occurs_supported (pattern : Value) (text : String) :
    Supported (Pattern.occurs pattern text) := by
  have hrefusal (cause : Pattern.Refusal) : cause.fault ≠ .noMember := by cases cause <;> nofun
  refine .bind ?_ fun _ => .ok _
  unfold Compiled.ofValue
  split
  · exact (Supported.mapError hrefusal).bind fun _ => .ok _
  · exact (Supported.mapError hrefusal).bind fun _ => Supported.error_iff.mpr nofun
  · exact Supported.error_iff.mpr nofun

namespace Filter

theorem textOf_supported (v : Value) : Supported (textOf v) := by
  unfold textOf
  split <;> simp

theorem cellAt_supported (row : List String) (index : Value) : Supported (cellAt row index) := by
  unfold cellAt
  split
  · exact .ok _
  · exact (Value.toInteger_supported index).bind fun _ => .ok _

theorem anyCell_supported (pattern : Value) (row : List String) :
    Supported (anyCell pattern row) := by
  induction row with
  | nil => exact .ok _
  | cons cell cells ih =>
      refine (Pattern.occurs_supported pattern cell).bind fun found => ?_
      split
      · exact .ok _
      · exact ih

end Filter

end PipeTable
