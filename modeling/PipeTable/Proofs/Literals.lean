import Mathlib
import PipeTable.Expr.Literal
import PipeTable.Proofs.Doubles
import PipeTable.Proofs.Faults

/-! # Literals without a value

A text that is no literal is a bad value.  Some texts have the form of a literal and stand for no
value all the same: a set or a mapping would have a member or a key that cannot be compared by what
it holds, or a sum would have a real part that no double comes near.  Such a place may lie inside
other literals, and it is the first one that counts.
-/

namespace PipeTable.Expr

/-- The term is a literal. -/
def Term.HasValue (t : Term) : Prop := ∃ v, t.literal = .ok v

/-- The term is a literal that can be a member of a set and a key of a mapping. -/
def Term.HasKey (t : Term) : Prop := ∃ v, t.literal = .ok v ∧ v.isKey = true

/-- The term cannot be a member of a set, for this reason. -/
def Term.NoMember (t : Term) (f : Fault) : Prop :=
  t.literal = .error f ∨ ∃ v, t.literal = .ok v ∧ f = .mismatch ∧ v.isKey = false

/-- The terms cannot be a key and a value of a mapping, for this reason. -/
def NoEntry (entry : Term × Term) (f : Fault) : Prop :=
  entry.1.literal = .error f ∨ ∃ k, entry.1.literal = .ok k ∧
    (entry.2.literal = .error f ∨ entry.2.HasValue ∧ f = .mismatch ∧ k.isKey = false)

/-- A term of the form of a literal that has no value, with what is wrong with it. -/
inductive Term.Valueless : Term → Fault → Prop
  | tuple {before after : List Term} {t : Term} {f : Fault} (hbefore : ∀ s ∈ before, s.HasValue)
      (h : t.Valueless f) : Term.Valueless (.tuple (before ++ t :: after)) f
  | list {before after : List Term} {t : Term} {f : Fault} (hbefore : ∀ s ∈ before, s.HasValue)
      (h : t.Valueless f) : Term.Valueless (.list (before ++ t :: after)) f
  | set {before after : List Term} {t : Term} {f : Fault} {place : Stretch}
      (hbefore : ∀ s ∈ before, s.HasKey) (h : t.Valueless f) :
      Term.Valueless (.set (before ++ t :: after) place) f
  /-- A set would have a list, a set or a mapping as a member, or a tuple of such. -/
  | member {before after : List Term} {t : Term} {v : Value} {place : Stretch}
      (hbefore : ∀ s ∈ before, s.HasKey) (hvalue : t.literal = .ok v) (hkey : v.isKey = false) :
      Term.Valueless (.set (before ++ t :: after) place) .mismatch
  | key {before after : List (Term × Term)} {key value : Term} {f : Fault} {spread : Bool}
      {place : Stretch} (hbefore : ∀ entry ∈ before, entry.1.HasKey ∧ entry.2.HasValue)
      (h : key.Valueless f) :
      Term.Valueless (.dict (before ++ (key, value) :: after) spread place) f
  | value {before after : List (Term × Term)} {key value : Term} {f : Fault} {spread : Bool}
      {place : Stretch} (hbefore : ∀ entry ∈ before, entry.1.HasKey ∧ entry.2.HasValue)
      (hkey : key.HasValue) (h : value.Valueless f) :
      Term.Valueless (.dict (before ++ (key, value) :: after) spread place) f
  /-- A mapping would have a list, a set or a mapping as a key, or a tuple of such. -/
  | entry {before after : List (Term × Term)} {key value : Term} {k : Value} {spread : Bool}
      {place : Stretch} (hbefore : ∀ entry ∈ before, entry.1.HasKey ∧ entry.2.HasValue)
      (hvalue : value.HasValue) (hliteral : key.literal = .ok k) (hkey : k.isKey = false) :
      Term.Valueless (.dict (before ++ (key, value) :: after) spread place) .mismatch
  /-- The real part of a complex number lies beyond all doubles. -/
  | sum {left right : Term} {op : BinaryOp} {n : Int} {re im : Float}
      (hop : op = .add ∨ op = .sub) (hleft : left.signedNumber? = some (.int n))
      (hright : right.number? = some (.complex re im)) (hlarge : 2 ^ 1024 - 2 ^ 970 ≤ n.natAbs) :
      Term.Valueless (.binary left op right) .overflow

/-! ## Complex numbers -/

theorem realOfInteger_eq_error_iff {n : Int} {f : Fault} :
    Value.realOfInteger n = .error f ↔ f = .overflow ∧ Number.ofInteger? n = none := by
  rw [Value.realOfInteger]
  cases Number.ofInteger? n <;> simp [eq_comm]

/-- A number meets a complex one as a complex one, unless it is an integer beyond all doubles. -/
theorem onPair_complex_eq_error_iff {g : Value.Pair → Except Fault Value}
    (hg : ∀ x y f, g (.complexes x y) ≠ .error f) {l : Value} (hl : l.isNumber = true)
    {re im : Float} {f : Fault} :
    Value.onPair g l (.complex re im) = .error f ↔
      f = .overflow ∧ ∃ n, l = .int n ∧ Number.ofInteger? n = none := by
  cases l with
  | int n =>
      have hpair : Value.onPair g (.int n) (.complex re im) =
          ((Value.realOfInteger n).map Number.FloatPair.ofReal >>= fun x =>
            g (.complexes x ⟨re, im⟩)) := by
        change ((Value.realOfInteger n).map Number.FloatPair.ofReal >>= fun x =>
          Except.ok (Value.Pair.complexes x ⟨re, im⟩)) >>= g = _
        cases Value.realOfInteger n <;> rfl
      rw [hpair, Outcome.bind_eq_error, Outcome.map_eq_error, realOfInteger_eq_error_iff]
      simp [hg]
  | float x =>
      refine iff_of_false (hg _ _ f) ?_
      rintro ⟨-, n, h, -⟩
      cases h
  | _ => cases hl

theorem add_complex_eq_error_iff {l : Value} (hl : l.isNumber = true) {re im : Float} {f : Fault} :
    l.add (.complex re im) = .error f ↔
      f = .overflow ∧ ∃ n, l = .int n ∧ Number.ofInteger? n = none := by
  have hpair : l.add (.complex re im) = Value.onPair Value.addPair l (.complex re im) := by
    cases l <;> rfl
  rw [hpair, onPair_complex_eq_error_iff (by simp [Value.addPair]) hl]

theorem subtract_complex_eq_error_iff {l : Value} (hl : l.isNumber = true) {re im : Float}
    {f : Fault} : l.subtract (.complex re im) = .error f ↔
      f = .overflow ∧ ∃ n, l = .int n ∧ Number.ofInteger? n = none := by
  rw [Value.subtract, onPair_complex_eq_error_iff (by simp [Value.subtractPair]) hl]

theorem complexOf_eq_error_iff {left right : Option Value} {op : BinaryOp} {f : Fault} :
    complexOf left op right = .error f ∧ f ≠ .badValue ↔
      f = .overflow ∧ (op = .add ∨ op = .sub) ∧ ∃ n re im, left = some (.int n) ∧
        right = some (.complex re im) ∧ Number.ofInteger? n = none := by
  constructor
  · rintro ⟨h, hf⟩
    have hbad : Except.error Fault.badValue ≠ (Except.error f : Except Fault Value) :=
      fun h => hf (Except.error.inj h).symm
    unfold complexOf at h
    split at h
    next l re im =>
      split at h
      next hl =>
        split at h
        next =>
          obtain ⟨rfl, n, rfl, hn⟩ := (add_complex_eq_error_iff hl).mp h
          exact ⟨rfl, .inl rfl, n, re, im, rfl, rfl, hn⟩
        next =>
          obtain ⟨rfl, n, rfl, hn⟩ := (subtract_complex_eq_error_iff hl).mp h
          exact ⟨rfl, .inr rfl, n, re, im, rfl, rfl, hn⟩
        next => exact absurd h hbad
      next => exact absurd h hbad
    next => exact absurd h hbad
  · rintro ⟨rfl, hop, n, re, im, rfl, rfl, hn⟩
    refine ⟨?_, nofun⟩
    rcases hop with rfl | rfl
    · exact (add_complex_eq_error_iff rfl).mpr ⟨rfl, n, rfl, hn⟩
    · exact (subtract_complex_eq_error_iff rfl).mpr ⟨rfl, n, rfl, hn⟩

/-! ## Members -/

theorem literalItems_eq_mapM (items : List Term) :
    literalItems items = items.mapM Term.literal := by
  induction items with
  | nil => rfl
  | cons t items ih => rw [literalItems, List.mapM_cons, ih]

theorem literalItems_eq_error_iff {items : List Term} {f : Fault} :
    literalItems items = .error f ↔ ∃ before t after, items = before ++ t :: after ∧
      (∀ s ∈ before, s.HasValue) ∧ t.literal = .error f := by
  rw [literalItems_eq_mapM, Outcome.mapM_eq_error]
  rfl

theorem insertItem_eq_error_iff {found : List Value} {v : Value} {f : Fault} :
    insertItem found v = .error f ↔ f = .mismatch ∧ v.isKey = false := by
  rw [insertItem]
  cases v.isKey with
  | false => simp [eq_comm]
  | true => cases v.isAmong found <;> simp

theorem insertItem_eq_ok_iff {found : List Value} {v : Value} :
    (∃ items, insertItem found v = .ok items) ↔ v.isKey = true := by
  rw [insertItem]
  cases v.isKey with
  | false => simp
  | true => cases v.isAmong found <;> simp

theorem insertEntry_eq_error_iff {found : List (Value × Value)} {k v : Value} {f : Fault} :
    insertEntry found k v = .error f ↔ f = .mismatch ∧ k.isKey = false := by
  rw [insertEntry]
  cases k.isKey <;> simp [eq_comm]

theorem insertEntry_eq_ok_iff {found : List (Value × Value)} {k v : Value} :
    (∃ entries, insertEntry found k v = .ok entries) ↔ k.isKey = true := by
  rw [insertEntry]
  cases k.isKey <;> simp

theorem literalSet_eq_foldlM (items : List Term) (found : List Value) :
    literalSet found items =
      items.foldlM (fun found t => do insertItem found (← t.literal)) found := by
  induction items generalizing found with
  | nil => rfl
  | cons t items ih =>
      rw [literalSet, List.foldlM_cons]
      cases t.literal with
      | error f => rfl
      | ok v =>
          change insertItem found v >>= _ = insertItem found v >>= _
          simp only [ih]

theorem literalSet_eq_error_iff {items : List Term} {found : List Value} {f : Fault} :
    literalSet found items = .error f ↔ ∃ before t after, items = before ++ t :: after ∧
      (∀ s ∈ before, s.HasKey) ∧ t.NoMember f := by
  rw [literalSet_eq_foldlM]
  refine Outcome.foldlM_eq_error_iff Term.HasKey Term.NoMember (fun found t => ?_)
    fun found t f => ?_
  · simp only [Outcome.bind_eq_ok, Term.HasKey]
    constructor
    · rintro ⟨items, v, hv, hitems⟩
      exact ⟨v, hv, insertItem_eq_ok_iff.mp ⟨items, hitems⟩⟩
    · rintro ⟨v, hv, hkey⟩
      obtain ⟨items, hitems⟩ := insertItem_eq_ok_iff.mpr hkey
      exact ⟨items, v, hv, hitems⟩
  · simp only [Outcome.bind_eq_error, insertItem_eq_error_iff, Term.NoMember]

theorem literalDict_eq_foldlM (entries : List (Term × Term)) (found : List (Value × Value)) :
    literalDict found entries = entries.foldlM (fun found entry => do
      let k ← entry.1.literal
      let v ← entry.2.literal
      insertEntry found k v) found := by
  induction entries generalizing found with
  | nil => rfl
  | cons entry entries ih =>
      obtain ⟨key, value⟩ := entry
      rw [literalDict, List.foldlM_cons]
      cases key.literal with
      | error f => rfl
      | ok k =>
          cases value.literal with
          | error f => rfl
          | ok v =>
              change insertEntry found k v >>= _ = insertEntry found k v >>= _
              simp only [ih]

theorem literalDict_eq_error_iff {entries : List (Term × Term)} {found : List (Value × Value)}
    {f : Fault} :
    literalDict found entries = .error f ↔
      ∃ before entry after, entries = before ++ entry :: after ∧
        (∀ entry ∈ before, entry.1.HasKey ∧ entry.2.HasValue) ∧ NoEntry entry f := by
  rw [literalDict_eq_foldlM]
  refine Outcome.foldlM_eq_error_iff (fun entry => entry.1.HasKey ∧ entry.2.HasValue) NoEntry
    (fun found entry => ?_) fun found entry f => ?_
  · simp only [Outcome.bind_eq_ok, Term.HasKey, Term.HasValue]
    constructor
    · rintro ⟨entries, k, hk, v, hv, hentries⟩
      exact ⟨⟨k, hk, insertEntry_eq_ok_iff.mp ⟨entries, hentries⟩⟩, v, hv⟩
    · rintro ⟨⟨k, hk, hkey⟩, v, hv⟩
      obtain ⟨entries, hentries⟩ := insertEntry_eq_ok_iff.mpr hkey
      exact ⟨entries, k, hk, v, hv, hentries⟩
  · simp only [Outcome.bind_eq_error, insertEntry_eq_error_iff, NoEntry, Term.HasValue,
      exists_and_right]

/-! ## Terms -/

variable {t : Term} {f : Fault}

theorem Term.Valueless.literal_eq_error (h : t.Valueless f) :
    t.literal = .error f ∧ f ≠ .badValue := by
  induction h with
  | tuple hbefore _ ih =>
      rw [Term.literal, literalItems_eq_error_iff.mpr ⟨_, _, _, rfl, hbefore, ih.1⟩]
      exact ⟨rfl, ih.2⟩
  | list hbefore _ ih =>
      rw [Term.literal, literalItems_eq_error_iff.mpr ⟨_, _, _, rfl, hbefore, ih.1⟩]
      exact ⟨rfl, ih.2⟩
  | set hbefore _ ih =>
      rw [Term.literal, literalSet_eq_error_iff.mpr ⟨_, _, _, rfl, hbefore, .inl ih.1⟩]
      exact ⟨rfl, ih.2⟩
  | member hbefore hvalue hkey =>
      rw [Term.literal, literalSet_eq_error_iff.mpr
        ⟨_, _, _, rfl, hbefore, .inr ⟨_, hvalue, rfl, hkey⟩⟩]
      exact ⟨rfl, nofun⟩
  | key hbefore _ ih =>
      rw [Term.literal, literalDict_eq_error_iff.mpr ⟨_, _, _, rfl, hbefore, .inl ih.1⟩]
      exact ⟨rfl, ih.2⟩
  | value hbefore hkey _ ih =>
      obtain ⟨k, hk⟩ := hkey
      rw [Term.literal, literalDict_eq_error_iff.mpr
        ⟨_, _, _, rfl, hbefore, .inr ⟨k, hk, .inl ih.1⟩⟩]
      exact ⟨rfl, ih.2⟩
  | entry hbefore hvalue hliteral hkey =>
      rw [Term.literal, literalDict_eq_error_iff.mpr
        ⟨_, _, _, rfl, hbefore, .inr ⟨_, hliteral, .inr ⟨hvalue, rfl, hkey⟩⟩⟩]
      exact ⟨rfl, nofun⟩
  | sum hop hleft hright hlarge =>
      rw [Term.literal]
      exact complexOf_eq_error_iff.mpr
        ⟨rfl, hop, _, _, _, hleft, hright, (Number.ofInteger?_eq_none_iff _).mpr hlarge⟩

theorem sizeOf_lt_of_eq {α : Type} [SizeOf α] {items before after : List α} {a : α}
    (h : items = before ++ a :: after) : sizeOf a < sizeOf items :=
  List.sizeOf_lt_of_mem (h ▸ List.mem_append_cons_self)

/-- Every term that has no value for another reason than not being a literal is such a term. -/
theorem Term.Valueless.of_literal {t : Term} {f : Fault} (h : t.literal = .error f)
    (hf : f ≠ .badValue) : t.Valueless f := by
  have hbad : Except.error Fault.badValue ≠ (Except.error f : Except Fault Value) :=
    fun h => hf (Except.error.inj h).symm
  -- the first part that fails decides, and only that part may itself hide such a place
  match t with
  | .tuple items =>
      rw [Term.literal] at h
      obtain ⟨before, t, after, rfl, hbefore, ht⟩ := literalItems_eq_error_iff.mp
        (Outcome.map_eq_error.mp h)
      exact .tuple hbefore (of_literal ht hf)
  | .list items =>
      rw [Term.literal] at h
      obtain ⟨before, t, after, rfl, hbefore, ht⟩ := literalItems_eq_error_iff.mp
        (Outcome.map_eq_error.mp h)
      exact .list hbefore (of_literal ht hf)
  | .set items place =>
      rw [Term.literal] at h
      obtain ⟨before, t, after, rfl, hbefore, ht | ⟨v, hv, rfl, hkey⟩⟩ :=
        literalSet_eq_error_iff.mp (Outcome.map_eq_error.mp h)
      · exact .set hbefore (of_literal ht hf)
      · exact .member hbefore hv hkey
  | .dict entries spread place =>
      rw [Term.literal] at h
      rcases Outcome.bind_eq_error.mp h with h | ⟨found, -, h⟩
      · obtain ⟨before, ⟨key, value⟩, after, rfl, hbefore, hkey | ⟨k, hk, hvalue⟩⟩ :=
          literalDict_eq_error_iff.mp h
        · exact .key hbefore (of_literal hkey hf)
        · obtain hvalue | ⟨hvalue, rfl, hkey⟩ := hvalue
          · exact .value hbefore ⟨k, hk⟩ (of_literal hvalue hf)
          · exact .entry hbefore hvalue hk hkey
      · cases spread
        · cases h
        · exact absurd h hbad
  | .binary left op right =>
      rw [Term.literal] at h
      obtain ⟨rfl, hop, n, re, im, hleft, hright, hn⟩ := complexOf_eq_error_iff.mp ⟨h, hf⟩
      exact .sum hop hleft hright ((Number.ofInteger?_eq_none_iff n).mp hn)
  | .unary op operand =>
      rw [Term.literal] at h
      split at h
      · cases h
      · exact absurd h hbad
  | .call function arguments keywords =>
      unfold Term.literal at h
      split at h <;> contradiction
  | .constant v => cases h
  | .name _ | .all _ | .any _ | .compare .. | .ifElse .. | .subscript .. | .slice .. | .starred .. |
    .unsupported .. => exact absurd h hbad
termination_by sizeOf t
decreasing_by
  · have hsize := sizeOf_lt_of_eq ‹items = before ++ t :: after›
    simp only [tuple.sizeOf_spec]
    omega
  · have hsize := sizeOf_lt_of_eq ‹items = before ++ t :: after›
    simp only [list.sizeOf_spec]
    omega
  · have hsize := sizeOf_lt_of_eq ‹items = before ++ t :: after›
    simp only [set.sizeOf_spec]
    omega
  · have hsize := sizeOf_lt_of_eq ‹entries = before ++ (key, value) :: after›
    simp only [dict.sizeOf_spec, Prod.mk.sizeOf_spec] at hsize ⊢
    omega
  · have hsize := sizeOf_lt_of_eq ‹entries = before ++ (key, value) :: after›
    simp only [dict.sizeOf_spec, Prod.mk.sizeOf_spec] at hsize ⊢
    omega

/-- A term fails to be read for another reason than not being a literal exactly if it has the form
of one and no value. -/
theorem Term.literal_eq_error_iff : t.literal = .error f ∧ f ≠ .badValue ↔ t.Valueless f :=
  ⟨fun h => .of_literal h.1 h.2, Term.Valueless.literal_eq_error⟩

end PipeTable.Expr
