import Mathlib
import PipeTable.Proofs.Requests
import PipeTable.Proofs.Selections

/-! # Tolerant filters

A tolerant filter drops the rows on which the evaluation fails and keeps those for which the
expression holds; every row counts, whether it is kept or not.  A filter that is not tolerant comes
to the same table if no evaluation fails, and else stops at the first row on which one does.
-/

namespace PipeTable

namespace Filter

open PipeTable.Expr (Expression Term)

/-! ## Rows -/

section Rows

variable (e : Expression Unit) (columns : Nat)

/-- Whether an expression has a value for a row, and one that holds. -/
def holdsAt (number : Nat) (row : List String) : Bool :=
  match valueAt e columns number row with
  | .ok v => v.holds
  | .error _ => false

/-- The rows for which an expression holds, numbered from `number`. -/
def matching (number : Nat) (rows : List (List String)) : List (List String) :=
  ((rows.zipIdx number).filter fun p => holdsAt e columns p.2 p.1).map Prod.fst

/-- The expression has a value for each of the rows, numbered from `number`. -/
def HasValues (number : Nat) (rows : List (List String)) : Prop :=
  ∀ p ∈ rows.zipIdx number, ∃ v, valueAt e columns p.2 p.1 = .ok v

variable {e columns} {number : Nat} {row : List String} {rows : List (List String)}

theorem matching_cons :
    matching e columns number (row :: rows) =
      if holdsAt e columns number row then row :: matching e columns (number + 1) rows
      else matching e columns (number + 1) rows := by
  rw [matching, List.zipIdx_cons, List.filter_cons]
  split <;> rfl

theorem hasValues_nil : HasValues e columns number [] := nofun

theorem hasValues_cons :
    HasValues e columns number (row :: rows) ↔
      (∃ v, valueAt e columns number row = .ok v) ∧ HasValues e columns (number + 1) rows := by
  rw [HasValues, List.zipIdx_cons, List.forall_mem_cons]
  rfl

/-- A row for which the expression has a value is kept if this holds. -/
theorem isKept_of_value {v : Value} (h : valueAt e columns number row = .ok v) (tolerant : Bool) :
    isKept e tolerant columns number row = .ok (holdsAt e columns number row) := by
  rw [isKept_eq, holdsAt, h]
  rfl

/-- A row that is looked at without an error counts, and is kept if the expression holds for it. -/
theorem keepRows_cons_of_looked {tolerant : Bool}
    (hrow : isKept e tolerant columns number row = .ok (holdsAt e columns number row))
    (hmore : keepRows e tolerant columns (number + 1) rows =
      .ok (matching e columns (number + 1) rows)) :
    keepRows e tolerant columns number (row :: rows) =
      .ok (matching e columns number (row :: rows)) := by
  rw [keepRows_cons_of_ok hrow, hmore, matching_cons]
  rfl

variable (he : e.registry = registry)
include he

/-- A tolerant filter keeps the rows for which the expression holds, and never fails. -/
theorem keepRows_tolerant (number : Nat) (rows : List (List String)) :
    keepRows e true columns number rows = .ok (matching e columns number rows) := by
  induction rows generalizing number with
  | nil => rfl
  | cons row rows ih =>
      refine keepRows_cons_of_looked ?_ (ih (number + 1))
      cases hvalue : valueAt e columns number row with
      | ok v => exact isKept_of_value hvalue true
      | error cause =>
          obtain ⟨reason, rfl⟩ := valueAt_isEvaluation he hvalue
          rw [isKept_eq, holdsAt, hvalue]
          rfl

/-- A filter that is not tolerant keeps the same rows if the expression has a value for all of them,
and else stops at the first one for which it has none. -/
theorem keepRows_strict (number : Nat) (rows : List (List String)) :
    HasValues e columns number rows ∧
        keepRows e false columns number rows = .ok (matching e columns number rows) ∨
      ∃ before row after reason, rows = before ++ row :: after ∧
        HasValues e columns number before ∧
        valueAt e columns (number + before.length) row = .error (.evaluation reason) ∧
        keepRows e false columns number rows =
          .error (.evaluation (.inRow (number + before.length) reason)) := by
  induction rows generalizing number with
  | nil => exact .inl ⟨hasValues_nil, rfl⟩
  | cons row rows ih =>
      cases hvalue : valueAt e columns number row with
      | error cause =>
          obtain ⟨reason, rfl⟩ := valueAt_isEvaluation he hvalue
          refine .inr ⟨[], row, rows, reason, rfl, hasValues_nil, hvalue, ?_⟩
          refine keepRows_cons_of_error ?_ rows
          rw [isKept_eq, hvalue]
          rfl
      | ok v =>
          have hrow := isKept_of_value hvalue false
          rcases ih (number + 1) with ⟨hvalues, hkept⟩ | ⟨before, failing, after, reason, rfl,
            hbefore, hfailing, hstopped⟩
          · exact .inl ⟨hasValues_cons.mpr ⟨⟨v, hvalue⟩, hvalues⟩,
              keepRows_cons_of_looked hrow hkept⟩
          · have hnumber : number + (row :: before).length = number + 1 + before.length := by
              rw [List.length_cons]
              omega
            refine .inr ⟨row :: before, failing, after, reason, rfl,
              hasValues_cons.mpr ⟨⟨v, hvalue⟩, hbefore⟩, ?_, ?_⟩
            · rw [hnumber]
              exact hfailing
            · rw [keepRows_cons_of_ok hrow, hstopped, hnumber]
              rfl

end Rows

/-! ## Conditions -/

/-- What compiles is not blank. -/
theorem strip_ne_of_compile {σ : Type} {source : String} {registry : Expr.Registry σ}
    {e : Expression σ} (h : Expression.compile source registry = .ok e) :
    Text.strip source ≠ "" := by
  intro hblank
  have hempty : Text.stripChars source.toList = [] := by
    rw [← Text.toList_strip, hblank]
    rfl
  simp only [Expression.compile, hempty] at h
  cases h

/-- The text of an expression starts with a letter. -/
theorem strip_expression_ne (source : String) (context : Context) :
    Text.strip (Value.expression source context).toText ≠ "" := by
  have hletter : 'E' ∈ (Value.expression source context).toText.toList := by
    simp [Value.toText, Value.literal]
  have hmem := Text.mem_stripChars_of_not_blank hletter (by decide)
  rw [← Text.toList_strip] at hmem
  intro hblank
  rw [hblank] at hmem
  cases hmem

/-- A condition that compiles is the one that a filter uses. -/
theorem conditionOf_of_compiles {v : Value} {e : Expression Unit}
    (h : Expression.ofValue v registry registry = .ok e) :
    conditionOf v = .ok (some e) ∧ e.registry = registry := by
  have hfilled : v.isNone = false ∧ Text.strip v.toText ≠ "" ∧ e.registry = registry := by
    cases v with
    | text s => exact ⟨rfl, strip_ne_of_compile h, (Expression.compile_ok h).2.1⟩
    | expression source context =>
        have hcompile : Expression.compile source registry = .ok e := by
          simpa [Expression.ofValue] using h
        exact ⟨rfl, strip_expression_ne source context, (Expression.compile_ok hcompile).2.1⟩
    | _ =>
        simp only [Expression.ofValue] at h
        split at h <;> cases h
  obtain ⟨hnone, hne, hregistry⟩ := hfilled
  refine ⟨?_, hregistry⟩
  rw [conditionOf, hnone, if_neg (by simpa using hne), h]
  rfl

end Filter

namespace Table

open PipeTable.Expr (Expression Term)

/-! ## Tables -/

/-- A tolerant filter comes to the projections of exactly those rows taken for which the expression
holds at their number among all rows taken.  A filter that is not tolerant comes to the same table
if the expression has a value for all rows taken, and else to an error that names the first one for
which it has none. -/
theorem filter_tolerant (t : Table) {rows columns condition : Value} {numbers chosen : List Int}
    {e : Expression Unit} (hrows : Selection.resolve rows t.height = .ok numbers)
    (hcolumns : Selection.resolve columns t.columnCount = .ok chosen)
    (hcondition : Expression.ofValue condition Filter.registry Filter.registry = .ok e) :
    let taken := Filter.pickRows t numbers
    let kept := ofCells ((Filter.matching e t.columnCount 1 taken).map (Filter.project chosen))
    taken.map some = numbers.map (nth? t.dataRows) ∧
    t.filter rows columns condition true = .ok kept ∧
    (Filter.HasValues e t.columnCount 1 taken ∧
        t.filter rows columns condition false = .ok kept ∨
      ∃ before row after reason, taken = before ++ row :: after ∧
        Filter.HasValues e t.columnCount 1 before ∧
        let number := before.length + 1
        let failure := Error.evaluation (.inRow number reason)
        Filter.valueAt e t.columnCount number row = .error (.evaluation reason) ∧
        t.filter rows columns condition false = .error failure ∧
        ∀ wording, failure.message wording =
          s!"filter_list: row {number}: " ++ (Error.evaluation reason).message wording) := by
  intro taken kept
  obtain ⟨hcompiled, he⟩ := Filter.conditionOf_of_compiles hcondition
  have hfilter (tolerant : Bool) : t.filter rows columns condition tolerant = (do
      let kept ← Filter.keepRows e tolerant t.columnCount 1 taken
      return ofCells (kept.map (Filter.project chosen))) := by
    rw [filter, select, hrows, hcompiled, hcolumns]
    rfl
  refine ⟨Filter.map_pickRows fun n hn => Selection.mem_resolve hrows hn, ?_, ?_⟩
  · rw [hfilter, Filter.keepRows_tolerant he]
    rfl
  · rcases @Filter.keepRows_strict e t.columnCount he 1 taken with
      ⟨hvalues, hkept⟩ | ⟨before, row, after, reason, htaken, hbefore, hrow, hstopped⟩
    · refine .inl ⟨hvalues, ?_⟩
      rw [hfilter, hkept]
      rfl
    · rw [Nat.add_comm] at hrow hstopped
      refine .inr ⟨before, row, after, reason, htaken, hbefore, hrow, ?_, fun _ => rfl⟩
      rw [hfilter, hstopped]
      rfl

/-- The second row taken has no second cell. -/
theorem filter_tolerant_of_ragged :
    let t := ofCells [["a", "b"], ["c"], ["d", "b"]]
    let e : Expression Unit := ⟨"row[0x1] == 'b'", Filter.registry, .compare
      (.subscript (.name "row") (.constant (.int 1))) [(.eq, .constant (.text "b"))]⟩
    let rows : Value := .list [.int 1, .int 2, .int 3, .int 1]
    let condition : Value := .text "row[0x1] == 'b'"
    Selection.resolve rows t.height = .ok [1, 2, 3, 1] ∧
      Selection.resolve (.int 1) t.columnCount = .ok [1] ∧
      Expression.ofValue condition Filter.registry Filter.registry = .ok e ∧
      t.filter rows (.int 1) condition true = .ok (ofCells [["a"], ["d"], ["a"]]) ∧
      ∃ number reason,
        t.filter rows (.int 1) condition false = .error (.evaluation (.inRow number reason)) := by
  intro t e rows condition
  have hrows : Selection.resolve rows t.height = .ok [1, 2, 3, 1] := rfl
  have hcolumns : Selection.resolve (.int 1) t.columnCount = .ok [1] := rfl
  have hread : Term.read? (Text.unifyNewlinesChars (Text.stripChars "row[0x1] == 'b'".toList)) =
      some (.compare (.subscript (.name "row") (.constant (.int 1)))
        [(.eq, .constant (.text "b"))]) := by
    cbv
  have hcondition : Expression.ofValue condition Filter.registry Filter.registry = .ok e := by
    simp only [condition, Expression.ofValue, Expression.compile, hread]
    rfl
  obtain ⟨-, htolerant, hstrict⟩ := filter_tolerant t hrows hcolumns hcondition
  refine ⟨hrows, hcolumns, hcondition, htolerant, ?_⟩
  rcases hstrict with ⟨hvalues, -⟩ | ⟨before, row, after, reason, -, -, -, hstopped, -⟩
  · obtain ⟨v, hv⟩ := hvalues (["c"], 2) (by decide)
    cases hv
  · exact ⟨_, reason, hstopped⟩

end Table

end PipeTable
