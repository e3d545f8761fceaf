import Mathlib
import PipeTable.Filter.Block
import PipeTable.Proofs.Check
import PipeTable.Proofs.Doubles
import PipeTable.Proofs.Joining
import PipeTable.Proofs.Spans

/-! # Filter blocks end in a table or a refusal

Each step of a filter block has a result or refuses what it was asked for, whatever the parameters
say, but for two steps that let a fault of a value through: looking up a position that is not
written as a number, and compiling a condition that is no text or has a null character in it.
-/

namespace PipeTable

/-- Whether an error is one in which a filter block refuses what it is asked for. -/
def Error.isRefusal : Error → Bool
  | .parse _ | .foreignFunction .. | .evaluation _ | .precondition _ | .noTable _ => true
  | _ => false

/-- Whether an error says that a text or a condition is not written as it should be. -/
def Error.isMalformed : Error → Bool
  | .parse _ | .foreignFunction .. => true
  | _ => false

namespace Outcome

variable {α β : Type} {P : α → Prop} {Q : β → Prop}

/-- The outcome is a result with a property, or a refusal. -/
def Gives (P : α → Prop) : Except Error α → Prop
  | .ok a => P a
  | .error e => e.isRefusal = true

/-- The outcome is a result or a refusal. -/
abbrev Answers (x : Except Error α) : Prop := Gives (fun _ => True) x

theorem Gives.bind {x : Except Error α} {f : α → Except Error β} (hx : Gives P x)
    (hf : ∀ a, x = .ok a → P a → Gives Q (f a)) : Gives Q (x >>= f) := by
  cases x with
  | ok a => exact hf a rfl hx
  | error e => exact hx

theorem Gives.of_ok {x : Except Error α} (hx : Gives P x) {a : α} (h : x = .ok a) : P a := by
  rw [h] at hx
  exact hx

theorem Gives.mapM {f : α → Except Error β} {items : List α} (h : ∀ a ∈ items, Gives Q (f a)) :
    Gives (fun bs => ∀ b ∈ bs, Q b) (items.mapM f) := by
  induction items with
  | nil => exact nofun
  | cons a items ih =>
      rw [List.mapM_cons]
      refine (h a List.mem_cons_self).bind fun b _ hb => ?_
      refine (ih fun c hc => h c (List.mem_cons_of_mem a hc)).bind fun bs _ hbs => ?_
      exact List.forall_mem_cons.mpr ⟨hb, hbs⟩

end Outcome

open Outcome (Gives Answers)

/-! ## Selectors -/

/-- A value as a parameter of a block has it: absent, a switch, or text. -/
inductive IsSetting : Value → Prop
  | absent : IsSetting .none
  | switch : IsSetting (.bool true)
  | text (s : String) : IsSetting (.text s)

namespace Selection

/-- The atom has integers for the parts of a range, and its step is not zero. -/
def Atom.IsPlain : Atom → Prop
  | .index _ => True
  | .range start stop step => ∃ a b c, start = .int a ∧ stop = .int b ∧ step = .int c ∧ c ≠ 0

theorem readPart_answers (text atom : String) (default : Int) :
    Answers (readPart text atom default) := by
  unfold readPart
  split
  · trivial
  · split
    · trivial
    · rfl

theorem readAtom_gives (atom : String) : Gives Atom.IsPlain (readAtom atom) := by
  unfold readAtom
  split
  · exact (readPart_answers _ _ _).bind fun _ _ _ => trivial
  · refine (readPart_answers _ _ _).bind fun start _ _ => ?_
    refine (readPart_answers _ _ _).bind fun stop _ _ => ?_
    exact ⟨start, stop, 1, rfl, rfl, rfl, one_ne_zero⟩
  · refine (readPart_answers _ _ _).bind fun start _ _ => ?_
    refine (readPart_answers _ _ _).bind fun stop _ _ => ?_
    refine (readPart_answers _ _ _).bind fun step _ _ => ?_
    by_cases hstep : step = 0
    · rw [if_pos hstep]
      rfl
    · rw [if_neg hstep]
      exact ⟨start, stop, step, rfl, rfl, rfl, hstep⟩
  · rfl

theorem equals_zero_of_integer? {v : Value} {n : Int} (h : v.integer? = some n) (hn : n ≠ 0) :
    v.equals (.int 0) = false := by
  cases v with
  | int m =>
      cases h
      simp [Value.equals, Value.places?, hn]
  | bool b =>
      cases h
      simp only [Value.equals, Value.places?, Number.placeOfInteger_inj, hn,
        decide_false, Bool.false_and]
  | _ => cases h

end Selection

/-! ## Conditions -/

namespace Filter

open PipeTable.Expr (Environment Expression)

/-- A condition that compiling does not refuse but breaks on: the switch that stands for a key
without a value, and a text with a null character. -/
inductive Breaks : Value → Prop
  | switch : Breaks (.bool true)
  | null {s : String} : '\x00' ∈ s.toList → Breaks (.text s)

/-- A source without null characters that does not compile is malformed. -/
theorem compile_malformed {σ : Type} {source : String} {registry : Expr.Registry σ}
    (h : '\x00' ∉ source.toList) {e : Error}
    (he : Expression.compile source registry = .error e) : e.isMalformed = true := by
  have hallow : ∀ name given e, registry.allow source name given = .error e →
      e.isMalformed = true := by
    intro name given e he
    unfold Expr.Registry.allow at he
    split at he
    · cases he
      rfl
    · split at he
      · split at he
        · cases he
        · cases he
          rfl
      · cases he
  simp only [Expression.compile] at he
  split at he
  · cases he
    rfl
  · split at he
    next hnull => exact absurd (Text.mem_of_mem_stripChars (List.contains_iff_mem.mp hnull)) h
    next =>
      split at he
      · cases he
        rfl
      next term _ =>
        split at he
        · cases he
        next complaint hcheck =>
          cases he
          exact term.check_blames (P := fun e => e.isMalformed = true) (fun _ => rfl) hallow 0
            complaint hcheck

theorem compile_null {σ : Type} {source : String} {registry : Expr.Registry σ}
    (h : '\x00' ∈ source.toList) :
    Expression.compile source registry = .error (.fault .badValue) := by
  have hmem : '\x00' ∈ Text.stripChars source.toList :=
    Text.mem_stripChars_of_not_blank h (by decide)
  have hne : (Text.stripChars source.toList).isEmpty = false := by
    rw [List.isEmpty_eq_false_iff]
    exact List.ne_nil_of_mem hmem
  simp only [Expression.compile]
  rw [hne, if_neg Bool.false_ne_true, if_pos (List.contains_iff_mem.mpr hmem)]

theorem valueAt_isEvaluation {e : Expression Unit} (he : e.registry = registry) {columns k : Nat}
    {row : List String} {cause : Error} (h : valueAt e columns k row = .error cause) :
    cause.IsEvaluation := by
  have hfunctions : ∀ f ∈ e.registry.functions, f.LooksAtRow := by
    rw [he]
    exact functions_lookAtRow
  have henv : (Environment.ofRow row k columns).AgreesOn e.formula.names
      (.ofRow row k columns) := ⟨rfl, fun _ _ => rfl⟩
  -- the evaluation agrees with itself, so if it fails then as one that is reported
  have hagree := (e.formula.eval_agrees e.source e.source hfunctions henv ()).2.mapError
    (Expression.isEvaluation_explain e.source) (Expression.isEvaluation_explain e.source)
  rw [← valueAt_eq e columns k row, h] at hagree
  obtain ⟨_, _, _, hcause⟩ := hagree.of_error
  exact hcause

end Filter

namespace Document

/-- A reference that asks for a position in digits which are not those of a number, or are too
many. -/
def IsUnreadable (reference : String) : Prop :=
  ∃ digits, position? (Text.strip reference).toList = some digits ∧
    Text.readIntegerChars? digits = none

theorem fetchTable_unreadable (d : Document) {reference : String} (h : IsUnreadable reference) :
    d.fetchTable reference = .error (.fault .badValue) := by
  obtain ⟨digits, hdigits, hread⟩ := h
  have hspan : d.findSpan reference = .error (.fault .badValue) := by
    simp only [findSpan, hdigits, hread]
  rw [fetchTable, tableText, hspan]
  rfl

theorem findSpan_gives (d : Document) {reference : String} (h : ¬ IsUnreadable reference) :
    Gives (· ∈ d.spans) (d.findSpan reference) := by
  simp only [findSpan]
  split
  next digits hdigits =>
    split
    next hread => exact absurd ⟨digits, hdigits, hread⟩ h
    next position hread =>
      split
      next span hspan => exact Table.mem_of_nth? hspan
      next =>
        split
        next span hspan => exact List.mem_of_find?_eq_some hspan
        next => rfl
  next =>
    split
    next span hspan => exact List.mem_of_find?_eq_some hspan
    next => rfl

theorem fetchTable_answers_iff (text reference : String) :
    Answers ((ofText text).fetchTable reference) ↔ ¬ IsUnreadable reference := by
  constructor
  · intro h hunreadable
    rw [fetchTable_unreadable _ hunreadable] at h
    cases h
  · intro h
    have hspan := findSpan_gives (ofText text) h
    rw [fetchTable, tableText]
    cases hfound : (ofText text).findSpan reference with
    | error e =>
        rw [hfound] at hspan
        exact hspan
    | ok span =>
        change Answers (Table.parse ((ofText text).spanText span))
        rw [parse_spanText (hspan.of_ok hfound)]
        trivial

section Merge

variable {references : List String} (hne : references ≠ []) {placement : Placement}
  {padding : String}
include hne

end Merge

end Document

/-! ## Parameters -/

namespace Filter

/-- Every value of a layer is what some words spell for its key. -/
def Layer.Spelled (layer : Layer) : Prop :=
  ∀ entry ∈ layer, ∃ words, entry.2 = valueOf entry.1 words

namespace Layer

variable {layer : Layer}

theorem spelled_nil : Spelled [] := nofun

theorem Spelled.put (h : layer.Spelled) (key : String) (words : List String) :
    (layer.put key (valueOf key words)).Spelled := by
  intro entry hentry
  unfold Layer.put at hentry
  split at hentry
  · obtain ⟨⟨k, v⟩, hkept, rfl⟩ := List.mem_map.mp hentry
    by_cases hk : k = key
    · exact ⟨words, by simp [hk]⟩
    · simpa [hk] using h _ hkept
  · rcases List.mem_append.mp hentry with hentry | hentry
    · exact h entry hentry
    · rw [List.mem_singleton.mp hentry]
      exact ⟨words, rfl⟩

theorem Spelled.merge {layers : List Layer} (h : ∀ layer ∈ layers, layer.Spelled) :
    (merge layers).Spelled := by
  refine List.foldlRecOn layers _ spelled_nil fun merged hmerged layer hlayer =>
    List.foldlRecOn layer _ hmerged fun merged hmerged entry hentry => ?_
  obtain ⟨words, hwords⟩ := h layer hlayer entry hentry
  dsimp only
  split
  · exact hmerged
  · rw [hwords]
    exact hmerged.put entry.1 words

theorem Spelled.lookup (h : layer.Spelled) (key : String) :
    (layer.lookup key).getD .none = .none ∨
      ∃ words, (layer.lookup key).getD .none = valueOf key words := by
  cases hvalue : layer.lookup key with
  | none => exact .inl rfl
  | some v =>
      obtain ⟨before, after, hlayer, -⟩ := List.lookup_eq_some_iff.mp hvalue
      obtain ⟨words, hwords⟩ := h (key, v) (by simp [hlayer])
      exact .inr ⟨words, hwords⟩

end Layer

/-- The parameters select rows, columns and a condition by what words can spell. -/
structure Params.IsSpelled (p : Params) : Prop where
  rows : IsSetting p.rows
  columns : IsSetting p.columns
  condition : IsSetting p.condition

end Filter

end PipeTable
