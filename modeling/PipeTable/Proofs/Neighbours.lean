import Mathlib
import PipeTable.Proofs.Invocations
import PipeTable.Proofs.Marking
import PipeTable.Proofs.Walks

/-! # Looking at a neighbour

A condition can look for a pattern in the cell at an offset in two ways: as the pattern with the
offset, and as an expression that calls the function for it.  The two are compiled and tested
differently, and they lead every jump alike.
-/

namespace PipeTable.Jump

open PipeTable.Expr (Eval Expression Formula SpellsCall callChars evalList)

/-- Two conditions lead a jump alike: both jumps succeed or both do not, and the sessions that they
end in have the table from before and differ in nothing but the condition. -/
def LeadAlike (setting : Setting) (count : Int) (way : Value) (s : Session) (a b : Value) : Prop :=
  ∃ found, ∃ t : Session, t.table = s.table ∧
    next setting count a way s = (.ok found, { t with condition := a.normalize }) ∧
    next setting count b way s = (.ok found, { t with condition := b.normalize })

variable {presets : Preset.Table} {s : Session} {p : String} {compiled : Pattern.Compiled}
  {direction : Direction} {way : Value}

/-! ## Testing -/

theorem find?_matchField : Jump.registry.find? "matchfield" =
    some (observer .matchField fun s arguments => match arguments with
      | pattern :: offset => do
        let (lines, columns) ← offsetOf offset
        return .bool (← s.matchField pattern lines columns)
      | [] => .error .mismatch) := rfl

theorem matchField_eq (hrect : s.table.Rectangular)
    (hp : Pattern.Compiled.ofText p = .ok compiled) (r c : Int) :
    s.matchField (.text p) r c = .ok ((Query.occurs compiled r c).holdsAt s.table s.cursor) := by
  have hoccurs : ∀ content, Pattern.occurs (.text p) content = .ok (compiled.search content) := by
    intro content
    simp only [Pattern.occurs, Pattern.Compiled.ofValue, hp, bind, Except.bind, pure, Except.pure]
  rw [Session.matchField, Session.field_eq hrect, Query.holdsAt]
  cases s.table.content? ⟨s.cursor.line + r, s.cursor.column + c⟩ <;>
    simp only [bind, Except.bind, pure, Except.pure, hoccurs, Option.any]

/-- The call tells whether the pattern occurs at the offset. -/
theorem isTrue_matchField (hrect : s.table.Rectangular)
    (hp : Pattern.Compiled.ofText p = .ok compiled) {r c : Int} {source : String}
    {φs : List Formula}
    (hvalues : ∀ env, evalList Jump.registry source env φs = pure [.text p, .int r, .int c]) :
    ((⟨source, Jump.registry, .call "matchfield" φs⟩ : Expression Session).isTrue {}).run s =
      (.ok ((Query.occurs compiled r c).holdsAt s.table s.cursor), s) := by
  rw [Expression.run_isTrue, Formula.eval, Expr.callee, find?_matchField]
  dsimp only
  rw [hvalues, pure_bind, pure_bind]
  simp only [observer]
  rw [Eval.run_bind_ok (Eval.run_get s), Eval.run_ofFault]
  simp only [offsetOf, Value.toInteger, matchField_eq hrect hp, bind, Except.bind, pure,
    Except.pure]
  rfl

/-! ## Jumping -/

variable {r c : Int} {count : Int}

/-- Conditions that test the same predicate lead a jump alike. -/
theorem leadAlike_of_tests {setting : Setting} {a b : Value} {f g : Condition}
    {holds : Cursor → Bool} (hrest : s.running = false)
    (hcursor : s.table.grid.contains s.cursor = true)
    (hway : way = .text direction.name ∨ way = .none ∧ s.direction = direction)
    (ha : a.isNone = false) (hb : b.isNone = false)
    (hf : Tests setting (senseOf count)
      { s with condition := a.normalize, direction, running := true } f holds)
    (hg : Tests setting (senseOf count)
      { s with condition := b.normalize, direction, running := true } g holds) :
    LeadAlike setting count way s a b := by
  have hfirst := hf.next_eq hrest hcursor ha hway
  have hsecond := hg.next_eq hrest hcursor hb hway
  exact ⟨_, { s with direction, cursor := _, reports := _ }, rfl, hfirst, hsecond⟩

section Tests

variable (presets) (hrect : s.table.Rectangular)
  (hp : Pattern.Compiled.ofText p = .ok compiled)
include hrect hp

/-- A pattern with an offset tests whether the pattern occurs there. -/
theorem tests_offset (r c : Int) :
    Tests { presets } (senseOf count)
      { s with
        condition := (Value.tuple [.text p, .int r, .int c]).normalize, direction, running := true }
      (.pattern compiled r c) ((Query.occurs compiled r c).holdsAt s.table) :=
  .of_query hrect rfl fun _ => compile_of_reads (.offset rfl hp)

/-- A pattern that is no name of a preset tests whether it occurs in the cell at hand. -/
theorem tests_pattern (hname : presets.find? p = none) :
    Tests { presets } (senseOf count)
      { s with condition := (Value.text p).normalize, direction, running := true }
      (.pattern compiled 0 0) ((Query.occurs compiled 0 0).holdsAt s.table) :=
  .of_query hrect rfl fun _ => compile_of_reads (.pattern hname hp)

/-- The expression of a call tests whether the pattern occurs at the offset. -/
theorem tests_matchField {source : String} {r c : Int}
    (hcall : SpellsCall Jump.registry source "matchfield" [.text p, .int r, .int c]) :
    ∃ e, Tests { presets } (senseOf count)
      { s with condition := (expressionIn source).normalize, direction, running := true }
      (.expression e) ((Query.occurs compiled r c).holdsAt s.table) := by
  obtain ⟨φs, hcompile, hvalues⟩ := hcall
  refine ⟨⟨source, Jump.registry, .call "matchfield" φs⟩, fun cursor => ?_, rfl, fun cursor => ?_⟩
  · rw [compile_normalize]
    exact compile_expressionIn hcompile _ _
  · exact isTrue_matchField (s := { s with
      condition := (expressionIn source).normalize, direction, running := true, cursor }) hrect hp
      hvalues

end Tests

theorem isPlainName_matchField : Expr.IsPlainName "matchfield" where
  nonempty := by decide
  letters := List.all_eq_true.mp rfl
  free := by decide

/-- A pattern with an offset and an expression that calls the function for it lead a jump of any
number of steps alike, however the call is spelled; with arguments that can be written, its plain
writing is such an expression.  Without an offset, the pattern alone leads the jump in this way too,
unless it is the name of a preset. -/
theorem next_neighbour_agrees (presets : Preset.Table) (count : Int) (hrest : s.running = false)
    (hrect : s.table.Rectangular) (hcursor : s.table.grid.contains s.cursor = true)
    (hway : way = .text direction.name ∨ way = .none ∧ s.direction = direction)
    (hp : Pattern.Compiled.ofText p = .ok compiled) (r c : Int) :
    let arguments : List Value := [.text p, .int r, .int c]
    (∀ source, SpellsCall Jump.registry source "matchfield" arguments →
      LeadAlike { presets } count way s (.tuple arguments) (expressionIn source)) ∧
    (Text.isWritable r = true → Text.isWritable c = true →
      SpellsCall Jump.registry (String.ofList (callChars "matchfield" arguments)) "matchfield"
        arguments) ∧
    (presets.find? p = none →
      LeadAlike { presets } count way s (.tuple [.text p, .int 0, .int 0]) (.text p)) := by
  intro arguments
  refine ⟨fun source hcall => ?_, fun hr hc => ?_, fun hname => ?_⟩
  · obtain ⟨e, hexpression⟩ := tests_matchField presets hrect hp hcall
    exact leadAlike_of_tests hrest hcursor hway rfl rfl
      (tests_offset presets hrect hp r c) hexpression
  · have hplain : ∀ v ∈ arguments, v.Plain 0 := by
      simp only [arguments, List.forall_mem_cons]
      exact ⟨.text p, .int hr, .int hc, List.forall_mem_nil _⟩
    exact Expr.spellsCall_of_allow (String.toList_ofList) isPlainName_matchField hplain (by decide)
      rfl
  · exact leadAlike_of_tests hrest hcursor hway rfl rfl
      (tests_offset presets hrect hp 0 0)
      (tests_pattern presets hrect hp hname)

/-- A step back to the cell on whose right the pattern occurs; the cells of the last column have no
neighbour there. -/
theorem next_neighbour_agrees_right :
    let s : Session := { table := ⟨[.data ["x", "y"], .data ["x", "b"]]⟩ }
    let condition : Value := .tuple [.text "b", .int 0, .int 1]
    let t : Session := { s with cursor := ⟨2, 1⟩ }
    s.running = false ∧ s.table.Rectangular ∧ s.table.grid.contains s.cursor = true ∧
      (∃ compiled, Pattern.Compiled.ofText "b" = .ok compiled) ∧
      String.ofList (callChars "matchfield" [.text "b", .int 0, .int 1]) =
        "matchfield('b', 0, 1)" ∧
      next {} (-1) condition (.text "right") s = (.ok true, { t with condition }) ∧
      next {} (-1) (expressionIn "matchfield('b', 0, 1)") (.text "right") s =
        (.ok true, { t with condition := expressionIn "matchfield('b', 0, 1)" }) := by
  intro s condition t
  have hrect : s.table.Rectangular := by decide
  have hcursor : s.table.grid.contains s.cursor = true := by decide
  obtain ⟨compiled, hp⟩ : ∃ compiled, Pattern.Compiled.ofText "b" = .ok compiled := ⟨_, rfl⟩
  have hwritten : String.ofList (callChars "matchfield" [.text "b", .int 0, .int 1]) =
      "matchfield('b', 0, 1)" := by cbv
  have hway : Value.text "right" = .text Direction.right.name ∨
      Value.text "right" = .none ∧ s.direction = .right := .inl rfl
  obtain ⟨hagrees, hwrites, -⟩ :=
    next_neighbour_agrees Preset.builtin (-1) rfl hrect hcursor hway hp 0 1
  have hcall := hwrites (Text.isWritable_of_le (by decide)) (Text.isWritable_of_le (by decide))
  rw [hwritten] at hcall
  obtain ⟨found, u, -, hoffset, hexpression⟩ := hagrees _ hcall
  have hnext : next {} (-1) condition (.text "right") s = (.ok true, { t with condition }) := by
    cbv
  refine ⟨rfl, hrect, hcursor, ⟨compiled, hp⟩, hwritten, hnext, ?_⟩
  obtain ⟨hfound, hsession⟩ := Prod.mk.inj (hoffset.symm.trans hnext)
  have hsame := congrArg (fun v : Session =>
    { v with condition := expressionIn "matchfield('b', 0, 1)" }) hsession
  exact hexpression.trans (Prod.ext hfound hsame)

end PipeTable.Jump
