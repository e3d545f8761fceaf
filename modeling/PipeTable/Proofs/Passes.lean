import Mathlib
import PipeTable.Filter.Select
import PipeTable.Proofs.Cells
import PipeTable.Proofs.Names

/-! # Filtering in passes

Filtering by one expression and then by another comes to the same as filtering once by their
conjunction.  The second pass numbers the rows anew, so neither expression may ask for the number of
a row.
-/

namespace PipeTable

open Outcome (Agree)

/-- Whether an error is one of the evaluation of an expression. -/
def Error.IsEvaluation (e : Error) : Prop := ∃ cause, e = .evaluation cause

namespace Expr

variable {σ : Type}

/-- The conjunction of two expressions: its value is that of the first one unless this holds. -/
def Expression.conj (e₁ e₂ : Expression σ) (source : String) : Expression σ :=
  ⟨source, e₁.registry, .all [e₁.formula, e₂.formula]⟩

theorem Eval.run_bind_unit {α β : Type} (x : Eval Unit α) (f : α → Eval Unit β) :
    ((x >>= f).run ()).1 = (x.run ()).1 >>= fun a => ((f a).run ()).1 := by
  rw [run_bind]
  rcases x.run () with ⟨_ | _, _⟩ <;> rfl

theorem Formula.eval_all_pair (registry : Registry σ) (source : String) (env : Environment)
    (φ₁ φ₂ : Formula) :
    (Formula.all [φ₁, φ₂]).eval registry source env = (do
      let v ← φ₁.eval registry source env
      if v.holds then φ₂.eval registry source env else return v) := by
  simp [Formula.eval, evalAll]

theorem Expression.isEvaluation_explain (source : String) (e : Error) (h : e.IsReported) :
    (explain source e).IsEvaluation := by
  cases e with
  | evaluation cause => exact ⟨cause, rfl⟩
  | fault cause =>
      have hcause : cause ≠ .noMember := h
      exact ⟨.failed source cause, by cases cause <;> first | rfl | exact absurd rfl hcause⟩
  | _ => exact h.elim

theorem Environment.ofRow_agreesOn {names : List String} (h : "n" ∉ names) (row : List String)
    (k k' columns : Int) : AgreesOn names (.ofRow row k columns) (.ofRow row k' columns) := by
  refine ⟨rfl, fun id hid => ?_⟩
  have hne : (id == "n") = false := by
    rw [beq_eq_false_iff_ne]
    rintro rfl
    exact h hid
  simp only [find?, ofRow, List.lookup, hne]

end Expr

namespace Filter

open PipeTable.Expr (Environment Eval Expression Function Registry Signature)

/-! ## The functions of filters -/

theorem pureFunction_looksAtRow (signature : Signature)
    {f : Environment → List Value → Except Fault Value}
    (hf : ∀ env env' arguments, env.row = env'.row → f env arguments = f env' arguments)
    (hsupported : ∀ env arguments, Supported (f env arguments)) :
    (pureFunction (σ := Unit) signature f).LooksAtRow := by
  intro env env' arguments hrow
  simp only [pureFunction, hf env env' arguments hrow]
  exact .ofFault (hsupported _ _)

theorem textFunction_looksAtRow (signature : Signature) (f : String → Value) :
    (textFunction (σ := Unit) signature f).LooksAtRow := by
  apply pureFunction_looksAtRow
  · exact fun _ _ _ _ => rfl
  · intro _ arguments
    split
    · exact (textOf_supported _).map f
    · simp

/-- The functions of filters look at the row and at their arguments only. -/
theorem functions_lookAtRow : ∀ f ∈ functions (σ := Unit), f.LooksAtRow := by
  simp only [functions, List.forall_mem_cons]
  refine ⟨?between, ?pattern, ?contains, textFunction_looksAtRow _ _, ?num, ?cell, ?anyCell,
    ?rowSum, textFunction_looksAtRow _ _, textFunction_looksAtRow _ _, textFunction_looksAtRow _ _,
    textFunction_looksAtRow _ _, nofun⟩
  case between =>
    refine pureFunction_looksAtRow _ (fun _ _ _ _ => rfl) fun _ arguments => ?_
    split
    · exact (Value.isBetween_supported _ _ _).map _
    · simp
  case pattern =>
    refine pureFunction_looksAtRow _ (fun _ _ _ _ => rfl) fun _ arguments => ?_
    split
    · exact (textOf_supported _).bind fun _ => (Pattern.occurs_supported _ _).bind fun _ => .ok _
    · simp
  case contains =>
    refine pureFunction_looksAtRow _ (fun _ _ _ _ => rfl) fun _ arguments => ?_
    split
    · exact (textOf_supported _).bind fun _ => (textOf_supported _).bind fun _ => .ok _
    · simp
  case num =>
    refine pureFunction_looksAtRow _ (fun _ _ _ _ => rfl) fun _ arguments => ?_
    split
    · exact (Value.toNumber_supported _).map _
    · simp
  case cell =>
    refine pureFunction_looksAtRow _ (fun _ _ _ hrow => by rw [hrow]) fun _ arguments => ?_
    split
    · exact cellAt_supported _ _
    · simp
  case anyCell =>
    refine pureFunction_looksAtRow _ (fun _ _ _ hrow => by rw [hrow]) fun _ arguments => ?_
    split
    · exact (anyCell_supported _ _).map _
    · simp
  case rowSum =>
    exact pureFunction_looksAtRow _ (fun _ _ _ hrow => by rw [hrow]) fun _ _ => .ok _

/-- The functions of filters and others registered besides. -/
def extendedRegistry (extra : List (Function Unit)) : Registry Unit :=
  extra.foldl Registry.register registry

/-! ## Rows -/

section Rows

theorem valueAt_eq (e : Expression Unit) (columns k : Nat) (row : List String) :
    valueAt e columns k row =
      ((e.formula.eval e.registry e.source (.ofRow row k columns)).run ()).1.mapError
        (Expression.explain e.source) :=
  rfl

/-- Whether a row is kept for which an expression has the given outcome. -/
def verdict (tolerant : Bool) (number : Nat) : Except Error Value → Except Error Bool
  | .ok v => .ok v.holds
  | .error (.evaluation cause) =>
    if tolerant then .ok false else .error (.evaluation (.inRow number cause))
  | .error e => .error e

theorem isKept_eq (e : Expression Unit) (tolerant : Bool) (columns k : Nat) (row : List String) :
    isKept e tolerant columns k row = verdict tolerant k (valueAt e columns k row) := by
  unfold isKept
  rcases valueAt e columns k row with cause | v
  · cases cause <;> rfl
  · rfl

theorem verdict_agree {x y : Except Error Value} (h : Agree Error.IsEvaluation x y)
    (tolerant : Bool) (k k' : Nat) :
    Agree Error.IsEvaluation (verdict tolerant k x) (verdict tolerant k' y) := by
  cases h with
  | ok v => exact .ok v.holds
  | error he he' =>
      obtain ⟨_, rfl⟩ := he
      obtain ⟨_, rfl⟩ := he'
      cases tolerant with
      | false => exact .error ⟨_, rfl⟩ ⟨_, rfl⟩
      | true => exact .ok false

theorem keepRows_cons_of_ok {e : Expression Unit} {tolerant kept : Bool} {columns k : Nat}
    {row : List String} (h : isKept e tolerant columns k row = .ok kept)
    (rows : List (List String)) :
    keepRows e tolerant columns k (row :: rows) =
      (keepRows e tolerant columns (k + 1) rows).map fun more =>
        if kept then row :: more else more := by
  simp only [keepRows, h]
  cases keepRows e tolerant columns (k + 1) rows <;> rfl

theorem keepRows_cons_of_dropped {e : Expression Unit} {tolerant : Bool} {columns k : Nat}
    {row : List String} (h : isKept e tolerant columns k row = .ok false)
    (rows : List (List String)) :
    keepRows e tolerant columns k (row :: rows) = keepRows e tolerant columns (k + 1) rows := by
  rw [keepRows_cons_of_ok h]
  cases keepRows e tolerant columns (k + 1) rows <;> rfl

theorem keepRows_cons_of_error {e : Expression Unit} {tolerant : Bool} {columns k : Nat}
    {row : List String} {cause : Error} (h : isKept e tolerant columns k row = .error cause)
    (rows : List (List String)) :
    keepRows e tolerant columns k (row :: rows) = .error cause := by
  simp only [keepRows, h]
  rfl

variable {extra : List (Function Unit)} (hextra : ∀ f ∈ extra, f.LooksAtRow)
include hextra

theorem extendedRegistry_looksAtRow : ∀ f ∈ (extendedRegistry extra).functions, f.LooksAtRow := by
  intro f hf
  rcases Registry.mem_foldl_register extra hf with hf | hf
  · exact hextra f hf
  · exact functions_lookAtRow f hf

variable {e e₁ e₂ : Expression Unit} (tolerant : Bool) (columns : Nat)

theorem valueAt_agree (he : e.registry = extendedRegistry extra) (hn : "n" ∉ e.formula.names)
    (k k' : Nat) (row : List String) :
    Agree Error.IsEvaluation (valueAt e columns k row) (valueAt e columns k' row) := by
  have hregistry := extendedRegistry_looksAtRow hextra
  rw [← he] at hregistry
  have hformula := e.formula.eval_agrees e.source e.source hregistry
    (Environment.ofRow_agreesOn hn row k k' columns) ()
  exact hformula.2.mapError (Expression.isEvaluation_explain _) (Expression.isEvaluation_explain _)

variable (he₁ : e₁.registry = extendedRegistry extra) (he₂ : e₂.registry = extendedRegistry extra)
  (hn₁ : "n" ∉ e₁.formula.names) (hn₂ : "n" ∉ e₂.formula.names) (source : String)
include he₁ he₂ hn₁ hn₂

/-- The conjunction has the value of the first expression, and where this holds that of the second
one. -/
theorem valueAt_conj (k k₁ k₂ : Nat) (row : List String) :
    Agree Error.IsEvaluation (valueAt (e₁.conj e₂ source) columns k row)
      (do
        let v ← valueAt e₁ columns k₁ row
        if v.holds then valueAt e₂ columns k₂ row else return v) := by
  have hregistry := extendedRegistry_looksAtRow hextra
  have hfirst := (e₁.formula.eval_agrees source e₁.source hregistry
    (Environment.ofRow_agreesOn hn₁ row k k₁ columns) ()).2
  have hsecond := (e₂.formula.eval_agrees source e₂.source hregistry
    (Environment.ofRow_agreesOn hn₂ row k k₂ columns) ()).2
  have hboth := Expr.Formula.eval_all_pair (extendedRegistry extra) source
    (.ofRow row k columns) e₁.formula e₂.formula
  simp only [valueAt_eq, Expression.conj, he₁, he₂, hboth, Eval.run_bind_unit]
  refine (hfirst.mapError (Expression.isEvaluation_explain source)
    (Expression.isEvaluation_explain e₁.source)).bind_mapError fun v => ?_
  split
  · exact hsecond.mapError (Expression.isEvaluation_explain _) (Expression.isEvaluation_explain _)
  · exact .ok v

/-- The conjunction keeps a row if the first expression keeps it and then the second one does. -/
theorem isKept_conj (k k₁ k₂ : Nat) (row : List String) :
    Agree Error.IsEvaluation (isKept (e₁.conj e₂ source) tolerant columns k row)
      (do
        if ← isKept e₁ tolerant columns k₁ row then isKept e₂ tolerant columns k₂ row
        else return false) := by
  have hvalue := valueAt_conj hextra columns he₁ he₂ hn₁ hn₂ source k k₁ k₂ row
  have hfirst := valueAt_agree hextra columns he₁ hn₁ k₁ k₁ row
  have hsecond := valueAt_agree hextra columns he₂ hn₂ k₂ k₂ row
  simp only [isKept_eq]
  refine (verdict_agree hvalue tolerant k k).trans ?_
  generalize valueAt e₁ columns k₁ row = y at hfirst ⊢
  cases hfirst with
  | ok v =>
      change Agree _ (verdict tolerant k (if v.holds then _ else .ok v))
        (if v.holds then verdict tolerant k₂ _ else .ok false)
      by_cases hholds : v.holds
      · simp only [hholds, ↓reduceIte]
        exact verdict_agree hsecond tolerant k k₂
      · rw [if_neg hholds, if_neg hholds, ← Bool.eq_false_iff.mpr hholds]
        exact .ok v.holds
  | error he _ =>
      obtain ⟨cause, rfl⟩ := he
      -- a tolerant filter drops the row in either pass
      cases tolerant with
      | false => exact .error ⟨_, rfl⟩ ⟨_, rfl⟩
      | true => exact .ok false

/-- The rows that the conjunction keeps are those of the first expression that the second one keeps,
however the passes number them. -/
theorem keepRows_conj (rows : List (List String)) (k k₁ k₂ : Nat) :
    Agree Error.IsEvaluation (keepRows (e₁.conj e₂ source) tolerant columns k rows)
      (keepRows e₁ tolerant columns k₁ rows >>= keepRows e₂ tolerant columns k₂) := by
  -- a dropped row counts in the first pass only, so the numbers of the passes drift apart
  induction rows generalizing k k₁ k₂ with
  | nil => exact .ok []
  | cons row rows ih =>
      have hrow := isKept_conj hextra tolerant columns he₁ he₂ hn₁ hn₂ source k k₁ k₂ row
      have hrest := ih (k + 1) (k₁ + 1)
      rcases hfirst : isKept e₁ tolerant columns k₁ row with e | _ | _ <;> rw [hfirst] at hrow
      · -- both stop at this row
        obtain ⟨e', hboth, he', he⟩ := hrow.of_error
        rw [keepRows_cons_of_error hfirst, keepRows_cons_of_error hboth]
        exact .error he' he
      · -- the second pass does not see the row
        have hboth := hrow.of_ok
        rw [keepRows_cons_of_dropped hfirst, keepRows_cons_of_dropped hboth]
        exact hrest k₂
      · rw [keepRows_cons_of_ok hfirst]
        change Agree _ _ (isKept e₂ tolerant columns k₂ row) at hrow
        rcases hsecond : isKept e₂ tolerant columns k₂ row with e | kept <;> rw [hsecond] at hrow
        · -- the second pass stops at this row if the first one gets through
          obtain ⟨e', hboth, he', he⟩ := hrow.of_error
          rw [keepRows_cons_of_error hboth, Outcome.map_bind]
          simp only [↓reduceIte, keepRows_cons_of_error hsecond]
          specialize hrest 1
          rcases hpassed : keepRows e₁ tolerant columns (k₁ + 1) rows with cause | more <;>
            rw [hpassed] at hrest
          · obtain ⟨_, _, _, hcause⟩ := hrest.of_error
            exact .error he' hcause
          · exact .error he' he
        · have hboth := hrow.of_ok
          rw [keepRows_cons_of_ok hboth, Outcome.map_bind]
          simp only [↓reduceIte, keepRows_cons_of_ok hsecond, ← Outcome.bind_map]
          exact (hrest (k₂ + 1)).map _

end Rows

/-! ## Tables -/

theorem sublist_of_keepRows {e : Expression Unit} {tolerant : Bool} {columns k : Nat}
    {rows kept : List (List String)} (h : keepRows e tolerant columns k rows = .ok kept) :
    kept.Sublist rows := by
  induction rows generalizing k kept with
  | nil =>
      cases h
      exact .refl []
  | cons row rows ih =>
      rcases hrow : isKept e tolerant columns k row with cause | _ | _
      · rw [keepRows_cons_of_error hrow] at h
        cases h
      · rw [keepRows_cons_of_dropped hrow] at h
        exact (ih h).cons row
      · rw [keepRows_cons_of_ok hrow, Outcome.map_eq_ok] at h
        obtain ⟨more, hmore, rfl⟩ := h
        exact (ih hmore).cons_cons row

theorem resolve_none (length : Nat) :
    Selection.resolve .none length = .ok ((List.range length).map fun i => Int.ofNat (i + 1)) := by
  cases length <;> rfl

theorem filterMap_getElem?_range {α : Type} (items : List α) :
    (List.range items.length).filterMap (fun i => items[i]?) = items := by
  induction items with
  | nil => rfl
  | cons item items ih =>
      simp [List.range_succ_eq_map, List.filterMap_map, ih]

theorem pickRows_all (t : Table) :
    pickRows t ((List.range t.height).map fun i => Int.ofNat (i + 1)) = t.dataRows := by
  rw [pickRows, List.filterMap_map]
  simp only [Function.comp_def, Table.nth?_succ]
  exact filterMap_getElem?_range t.dataRows

theorem project_all (row : List String) :
    project ((List.range row.length).map fun i => Int.ofNat (i + 1)) row = row := by
  apply List.ext_getElem
  · simp [project]
  · intro i h h'
    simp [project, -Int.ofNat_eq_natCast, Table.nth?_succ, h']

end Filter

namespace Table

open PipeTable.Expr (Expression Function)

@[simp]
theorem dataRows_ofCells (rows : List (List String)) : (ofCells rows).dataRows = rows := by
  simp [dataRows, ofCells, List.filterMap_map, Function.comp_def, Row.cells?]

/-- Without selectors a selection keeps rows as they are. -/
theorem select_all {t : Table} (hrect : t.Rectangular) (e : Expression Unit) (tolerant : Bool) :
    t.select .none .none (.ok (some e)) tolerant =
      (Filter.keepRows e tolerant t.columnCount 1 t.dataRows).map ofCells := by
  simp only [select, Filter.resolve_none]
  change (do
    let kept ← Filter.keepRows e tolerant t.columnCount 1 (Filter.pickRows t _)
    return ofCells (kept.map (Filter.project _))) = _
  rw [Filter.pickRows_all]
  rcases hkept : Filter.keepRows e tolerant t.columnCount 1 t.dataRows with cause | kept
  · rfl
  · have hsame : kept.map (Filter.project
        ((List.range t.columnCount).map fun i => Int.ofNat (i + 1))) = kept := by
      rw [List.map_congr_left (g := id), List.map_id]
      intro row hrow
      rw [← hrect row ((Filter.sublist_of_keepRows hkept).subset hrow)]
      exact Filter.project_all row
    exact congrArg (Except.ok <| ofCells ·) hsame

theorem rectangular_ofCells {rows : List (List String)} {width : Nat}
    (h : ∀ row ∈ rows, row.length = width) : (ofCells rows).Rectangular := by
  intro row hrow
  rw [dataRows_ofCells] at hrow
  rw [h row hrow, columnCount, dataRows_ofCells]
  cases rows with
  | nil => cases hrow
  | cons first rows => exact (h first List.mem_cons_self).symm

/-- A second pass over the rows that a first one kept. -/
theorem select_ofCells {t : Table} (hrect : t.Rectangular) {kept : List (List String)}
    (hkept : kept.Sublist t.dataRows) (e : Expression Unit) (tolerant : Bool) :
    (ofCells kept).select .none .none (.ok (some e)) tolerant =
      (Filter.keepRows e tolerant t.columnCount 1 kept).map ofCells := by
  have hwide : ∀ row ∈ kept, row.length = t.columnCount :=
    fun row hrow => hrect row (hkept.subset hrow)
  rw [select_all (rectangular_ofCells hwide), dataRows_ofCells]
  -- without rows the count of columns is lost, but then nothing is evaluated
  cases kept with
  | nil => rfl
  | cons first kept =>
      have hcount : (ofCells (first :: kept)).columnCount = t.columnCount := by
        rw [columnCount, dataRows_ofCells]
        exact hwide first List.mem_cons_self
      rw [hcount]

/-- Filtering by one expression and then by another has the outcome of filtering by their
conjunction: the same table, or an error of an evaluation both times.  Neither expression asks for
the number of a row. -/
theorem select_twice {t : Table} (hrect : t.Rectangular) {extra : List (Function Unit)}
    (hextra : ∀ f ∈ extra, f.LooksAtRow) {e₁ e₂ : Expression Unit}
    (he₁ : e₁.registry = Filter.extendedRegistry extra)
    (he₂ : e₂.registry = Filter.extendedRegistry extra)
    (hn₁ : "n" ∉ e₁.formula.names) (hn₂ : "n" ∉ e₂.formula.names) (source : String)
    (tolerant : Bool) :
    Agree Error.IsEvaluation
      (do
        let kept ← t.select .none .none (.ok (some e₁)) tolerant
        kept.select .none .none (.ok (some e₂)) tolerant)
      (t.select .none .none (.ok (some (e₁.conj e₂ source))) tolerant) := by
  have hrows := Filter.keepRows_conj hextra tolerant t.columnCount he₁ he₂ hn₁ hn₂ source
    t.dataRows 1 1 1
  have hpasses : (do
      let kept ← Filter.keepRows e₁ tolerant t.columnCount 1 t.dataRows
      (ofCells kept).select .none .none (.ok (some e₂)) tolerant) =
      (Filter.keepRows e₁ tolerant t.columnCount 1 t.dataRows >>=
        Filter.keepRows e₂ tolerant t.columnCount 1).map ofCells := by
    rcases hkept : Filter.keepRows e₁ tolerant t.columnCount 1 t.dataRows with cause | kept
    · rfl
    · exact select_ofCells hrect (Filter.sublist_of_keepRows hkept) e₂ tolerant
  rw [select_all hrect, select_all hrect, Outcome.map_bind, hpasses]
  exact hrows.symm.map ofCells

/-- Rows are kept for a letter in the first cell, and of these for their last cell, which a
registered function gives.  The empty cell of the last row is no text to look into. -/
theorem select_letter_then_last :
    let last : Function Unit := Filter.pureFunction ⟨"last", 0, 0, "last cell of the row"⟩
      fun env _ => .ok (.text (env.row.getLastD ""))
    let registry := Filter.extendedRegistry [last]
    let e₁ : Expression Unit :=
      ⟨"'a' in c1", registry, .compare (.constant (.text "a")) [(.isIn, .name "c1")]⟩
    let e₂ : Expression Unit :=
      ⟨"last() == 'x'", registry, .compare (.call "last" []) [(.eq, .constant (.text "x"))]⟩
    let e := e₁.conj e₂ "'a' in c1 and last() == 'x'"
    let t : Table := ⟨[.data ["ab", "x"], .separator, .data ["ba", "y"], .data ["", "x"]]⟩
    (t.Rectangular ∧ (∀ f ∈ [last], f.LooksAtRow) ∧ "n" ∉ e₁.formula.names ∧
      "n" ∉ e₂.formula.names) ∧
      t.select .none .none (.ok (some e)) true = .ok (ofCells [["ab", "x"]]) ∧
      ∃ cause, t.select .none .none (.ok (some e)) false = .error (.evaluation cause) := by
  intro last registry e₁ e₂ e t
  have hlast : ∀ f ∈ [last], f.LooksAtRow := by
    intro f hf
    obtain rfl := List.mem_singleton.mp hf
    exact Filter.pureFunction_looksAtRow _ (fun _ _ _ hrow => by rw [hrow]) fun _ _ => .ok _
  have hrect : t.Rectangular := by decide
  have hn₁ : "n" ∉ e₁.formula.names := by decide
  have hn₂ : "n" ∉ e₂.formula.names := by decide
  have he₁ : e₁.registry = Filter.extendedRegistry [last] := rfl
  have he₂ : e₂.registry = Filter.extendedRegistry [last] := rfl
  refine ⟨⟨hrect, hlast, hn₁, hn₂⟩, ?_, ?_⟩
  · have htolerant : Agree _ (.ok (ofCells [["ab", "x"]])) _ :=
      select_twice hrect hlast he₁ he₂ hn₁ hn₂ e.source true
    exact htolerant.symm.of_ok
  · have hstrict : Agree _ (.error _) _ :=
      select_twice hrect hlast he₁ he₂ hn₁ hn₂ e.source false
    obtain ⟨_, herror, ⟨cause, rfl⟩, -⟩ := hstrict.symm.of_error
    exact ⟨cause, herror⟩

end Table

end PipeTable
