import Mathlib
import PipeTable.Proofs.Grammar
import PipeTable.Proofs.Lines
import PipeTable.Proofs.Walks

/-! # Unfolding conditions

A condition is unfolded level by level: the name of a preset into the condition that has it, a
connective into the conditions that it joins.  Compiling follows the unfolding, and the room that it
starts with bounds every path.  So it ends even where presets refer to each other in a cycle, and it
refuses a condition as too deep exactly if some path is longer than the room, before any cell is
tested.
-/

namespace PipeTable

namespace Jump

open PipeTable.Expr (Eval)
open Relation (ReflTransGen TransGen)

/-! ## Levels -/

/-- What a value is unfolded into, on the level below. -/
def unfoldings (presets : Preset.Table) (v : Value) : List Value :=
  match shape? v.normalize with
  | some (.word name) => (presets.find? name).toList
  | some (.connective _ parts) => parts
  | _ => []

/-- The values that are a number of levels below a value, in the order in which they are read. -/
def below (presets : Preset.Table) : Nat → Value → List Value
  | 0, v => [v]
  | levels + 1, v => (unfoldings presets v).flatMap (below presets levels)

/-- A value is unfolded into another one. -/
def Unfolds (presets : Preset.Table) (v w : Value) : Prop := w ∈ unfoldings presets v

/-- The unfolding of a value runs into a cycle. -/
def Cyclic (presets : Preset.Table) (v : Value) : Prop :=
  ∃ w, ReflTransGen (Unfolds presets) v w ∧ TransGen (Unfolds presets) w w

variable {presets : Preset.Table} {v : Value}

theorem below_succ_ne_nil {levels : Nat} :
    below presets (levels + 1) v ≠ [] ↔ ∃ w, Unfolds presets v w ∧ below presets levels w ≠ [] := by
  simp [below, Unfolds]

/-- What runs into a cycle is unfolded into something that runs into it. -/
theorem Cyclic.exists_unfolds (h : Cyclic presets v) :
    ∃ u, Unfolds presets v u ∧ Cyclic presets u := by
  obtain ⟨w, hreach, hcycle⟩ := h
  rcases hreach.cases_head with rfl | ⟨u, hu, hreach⟩
  · obtain ⟨u, hu, hreach⟩ := TransGen.head'_iff.mp hcycle
    exact ⟨u, hu, _, hreach, hcycle⟩
  · exact ⟨u, hu, w, hreach, hcycle⟩

/-- A cycle leads to every depth. -/
theorem Cyclic.below_ne_nil (h : Cyclic presets v) (levels : Nat) :
    below presets levels v ≠ [] := by
  induction levels generalizing v with
  | zero => exact List.cons_ne_nil v []
  | succ levels ih =>
      obtain ⟨u, hu, hcyclic⟩ := h.exists_unfolds
      exact below_succ_ne_nil.mpr ⟨u, hu, ih hcyclic⟩

/-! ## Compiling too deep -/

section Compiling

variable (setting : Setting) (sense : Sense)

theorem compileAll_error_of_mem {room : Nat} {part : Value} {parts : List Value}
    (hmem : part ∈ parts)
    (h : ∀ s, ∃ e, ((compile setting sense room part).run s).1 = .error e) (s : Session) :
    ∃ e, ((compileAll setting sense room parts).run s).1 = .error e := by
  induction parts generalizing s with
  | nil => cases hmem
  | cons first more ih =>
      rw [compileAll]
      rcases hfirst : (compile setting sense room first).run s with ⟨e | c, t⟩
      · exact ⟨e, Eval.run_bind_error (by rw [hfirst])⟩
      rw [Eval.run_bind_ok hfirst]
      rcases List.mem_cons.mp hmem with rfl | hmore
      · obtain ⟨e, he⟩ := h s
        rw [hfirst] at he
        cases he
      · obtain ⟨e, he⟩ := ih hmore t
        exact ⟨e, Eval.run_bind_error he⟩

/-- What has something below the room that there is cannot be compiled. -/
theorem compile_error_of_below {room : Nat} (h : below setting.presets room v ≠ [])
    (s : Session) : ∃ e, ((compile setting sense room v).run s).1 = .error e := by
  induction room generalizing v s with
  | zero => exact ⟨refuse .tooDeep v, by rw [compile]; rfl⟩
  | succ room ih =>
      obtain ⟨w, hw, hbelow⟩ := below_succ_ne_nil.mp h
      unfold Unfolds unfoldings at hw
      split at hw
      next name hshape =>
        simp only [compile, hshape, Option.mem_toList.mp hw]
        exact ih hbelow s
      next c parts hshape =>
        simp only [compile, hshape]
        obtain ⟨e, he⟩ := compileAll_error_of_mem setting sense hw (ih hbelow) s
        exact ⟨e, Eval.run_bind_error he⟩
      next => cases hw

end Compiling

/-! ## Well-formed conditions -/

/-- A value is well-formed as far as it goes by itself: the name of a preset, a pattern that can be
read, with or without an offset, a pair of coordinates, or a connective with as many conditions as
it joins. -/
inductive WellFormed (presets : Preset.Table) : Value → Prop
  | name {v condition : Value} {name : String} (hform : Form v.normalize (.word name))
      (hname : presets.find? name = some condition) : WellFormed presets v
  | word {v : Value} {text : String} {p : Pattern.Compiled} (hform : Form v.normalize (.word text))
      (hname : presets.find? text = none) (hp : Pattern.Compiled.ofText text = .ok p) :
      WellFormed presets v
  | pattern {v : Value} {text : String} {lines columns : Int} {p : Pattern.Compiled}
      (hform : Form v.normalize (.pattern text lines columns))
      (hp : Pattern.Compiled.ofText text = .ok p) : WellFormed presets v
  | place {v : Value} {line column : Option Int} (hform : Form v.normalize (.place line column)) :
      WellFormed presets v
  | connective {v : Value} {c : Connective} {parts : List Value}
      (hform : Form v.normalize (.connective c parts)) (hsome : parts ≠ [])
      (hone : c = .not → parts.length = 1) : WellFormed presets v

/-- A value is well-formed with everything that it is unfolded into. -/
def WellFormedBelow (presets : Preset.Table) (v : Value) : Prop :=
  ∀ w, ReflTransGen (Unfolds presets) v w → WellFormed presets w

/-- Values that are well-formed each, and unfolded into one another only, are well-formed below. -/
theorem WellFormedBelow.of_mem (values : List Value)
    (h : ∀ w ∈ values, WellFormed presets w ∧ unfoldings presets w ⊆ values) (hv : v ∈ values) :
    WellFormedBelow presets v := by
  intro w hw
  refine (h w ?_).1
  induction hw with
  | refl => exact hv
  | tail _ hunfolds ih => exact (h _ ih).2 hunfolds

theorem WellFormedBelow.unfolds {w : Value} (h : WellFormedBelow presets v)
    (hw : Unfolds presets v w) : WellFormedBelow presets w :=
  fun u hu => h u (hu.head hw)

/-- A computation refuses the first of the values that are too deep, or it gives a result that
depends on the grid and on what it has read.  Either way it changes nothing. -/
def EndsAs {α β : Type} (deep : List Value) (x : Eval Session α) (result : β → Grid → α) : Prop :=
  match deep with
  | w :: _ => ∀ s, x.run s = (.error (refuse .tooDeep w), s)
  | [] => ∃ b, ∀ s, x.run s = (.ok (result b s.grid), s)

section Compiling

variable (setting : Setting) (sense : Sense)

theorem compileAll_endsAs {room : Nat} {parts : List Value}
    (h : ∀ part ∈ parts, EndsAs (below setting.presets room part)
      (compile setting sense room part) fun q g => Query.compiled g q) :
    EndsAs (parts.flatMap (below setting.presets room)) (compileAll setting sense room parts)
      fun qs g => compiledAll g qs := by
  induction parts with
  | nil => exact ⟨[], fun s => compileAll_nil room⟩
  | cons first more ih =>
      obtain ⟨hfirst, hmore⟩ := List.forall_mem_cons.mp h
      rw [compileAll, List.flatMap_cons]
      cases hdeep : below setting.presets room first with
      | cons w deeper =>
          rw [hdeep] at hfirst
          exact fun s => Eval.run_bind_failed (hfirst s)
      | nil =>
          rw [hdeep] at hfirst
          obtain ⟨q, hq⟩ := hfirst
          have hrest := ih hmore
          rw [List.nil_append]
          cases hdeeper : more.flatMap (below setting.presets room) with
          | cons w deeper =>
              rw [hdeeper] at hrest
              intro s
              rw [Eval.run_bind_ok (hq s)]
              exact Eval.run_bind_failed (hrest s)
          | nil =>
              rw [hdeeper] at hrest
              obtain ⟨qs, hqs⟩ := hrest
              refine ⟨q :: qs, fun s => ?_⟩
              rw [Eval.run_bind_ok (hq s), Eval.run_bind_ok (hqs s)]
              rfl

theorem compiledAll_eq_map (g : Grid) (qs : List Query) :
    compiledAll g qs = qs.map (Query.compiled g) := by
  induction qs with
  | nil => rfl
  | cons q qs ih => rw [compiledAll, ih, List.map_cons]

/-- Connecting as many conditions as a connective joins succeeds. -/
theorem exists_connect (c : Connective) (condition : Value) {qs : List Query} (hsome : qs ≠ [])
    (hone : c = .not → qs.length = 1) :
    ∃ q : Query, ∀ g, connect c condition (compiledAll g qs) = .ok (q.compiled g) := by
  obtain _ | ⟨first, more⟩ := qs
  · exact absurd rfl hsome
  cases c with
  | all => exact ⟨.all (first :: more), fun g => rfl⟩
  | any => exact ⟨.any (first :: more), fun g => rfl⟩
  | not =>
      obtain rfl := List.length_eq_zero_iff.mp (Nat.succ.inj (hone rfl))
      exact ⟨.not first, fun g => rfl⟩

/-- A well-formed condition is refused as too deep if something lies below the room that there is,
and else it compiles to a query. -/
theorem compile_endsAs (room : Nat) (h : WellFormedBelow setting.presets v) :
    EndsAs (below setting.presets room v) (compile setting sense room v)
      fun q g => Query.compiled g q := by
  induction room generalizing v with
  | zero =>
      intro s
      rw [compile]
      rfl
  | succ room ih =>
      rw [below, compile]
      cases h v .refl with
      | @name condition name hform hname =>
          have hshape := shape?_eq_some_iff.mpr hform
          have hunfolds : unfoldings setting.presets v = [condition] := by
            simp only [unfoldings, hshape, hname, Option.toList_some]
          have hcondition : Unfolds setting.presets v condition := by simp [Unfolds, hunfolds]
          simp only [hunfolds, List.flatMap_singleton, hshape, hname]
          exact ih (h.unfolds hcondition)
      | @word text p hform hname hp =>
          have hshape := shape?_eq_some_iff.mpr hform
          simp only [unfoldings, hshape, hname, patternAt_ok hp]
          exact ⟨.occurs p 0 0, fun s => rfl⟩
      | @pattern text lines columns p hform hp =>
          have hshape := shape?_eq_some_iff.mpr hform
          simp only [unfoldings, hshape, patternAt_ok hp]
          exact ⟨.occurs p lines columns, fun s => rfl⟩
      | @place line column hform =>
          have hshape := shape?_eq_some_iff.mpr hform
          simp only [unfoldings, hshape]
          exact ⟨.standsAt line column, fun s => rfl⟩
      | @connective c parts hform hsome hone =>
          have hshape := shape?_eq_some_iff.mpr hform
          have hunfolds : unfoldings setting.presets v = parts := by
            simp only [unfoldings, hshape]
          have hall := compileAll_endsAs setting sense fun part hpart =>
            ih (h.unfolds (w := part) (by simpa [Unfolds, hunfolds] using hpart))
          simp only [hunfolds, hshape]
          cases hdeep : parts.flatMap (below setting.presets room) with
          | cons w deeper =>
              rw [hdeep] at hall
              exact fun s => Eval.run_bind_failed (hall s)
          | nil =>
              rw [hdeep] at hall
              obtain ⟨qs, hqs⟩ := hall
              have hlength : qs.length = parts.length := by
                rw [← length_compileAll (hqs { table := ⟨[]⟩ })]
                dsimp only
                rw [compiledAll_eq_map, List.length_map]
              obtain ⟨q, hq⟩ := exists_connect c v.normalize
                (List.ne_nil_of_length_pos (hlength ▸ List.length_pos_iff.mpr hsome))
                (hlength ▸ hone)
              refine ⟨q, fun s => ?_⟩
              rw [Eval.run_bind_ok (hqs s), hq]
              rfl

theorem compile_tooDeep {room : Nat} {w : Value} {more : List Value}
    (h : WellFormedBelow setting.presets v) (hdeep : below setting.presets room v = w :: more)
    (s : Session) :
    (compile setting sense room v).run s = (.error (refuse .tooDeep w), s) := by
  have hends := compile_endsAs setting sense room h
  rw [hdeep] at hends
  exact hends s

end Compiling

/-! ## Jumping -/

section Jumping

variable {setting : Setting} {s : Session} {condition way : Value} {direction : Direction}
  {count : Int}

/-- Steps to a place arrive there. -/
theorem steps_of_place {sense : Sense} {line column : Option Int} (steady : Nat)
    (hcompile : ∀ cursor, (compile setting sense (maxDepth + 1) s.condition).run { s with cursor } =
      (.ok (.place line column), { s with cursor })) (cursor : Cursor) :
    ((steps setting sense direction steady).run { s with cursor }).1 = .ok true := by
  induction steady generalizing cursor with
  | zero => rfl
  | succ steady ih =>
      have hstep : (step setting sense direction).run { s with cursor } =
          (.ok true, { s with cursor := ⟨line.getD cursor.line, column.getD cursor.column⟩ }) := by
        rw [step, Eval.run_bind_ok (Eval.run_get _), Eval.run_bind_ok (hcompile cursor)]
        rfl
      rw [steps, Eval.run_bind_ok hstep]
      exact ih _

/-- A jump whose condition compiles to a query finds a cell or does not. -/
theorem next_of_query (hrest : s.running = false) (hrect : s.table.Rectangular)
    (hcursor : s.table.grid.contains s.cursor = true) (hnone : condition.isNone = false)
    (hway : way = .text direction.name ∨ way = .none ∧ s.direction = direction) {q : Query}
    (hq : ∀ t, (compile setting (senseOf count) (maxDepth + 1) condition).run t =
      (.ok (q.compiled t.grid), t)) :
    ∃ found, (next setting count condition way s).1 = .ok found := by
  by_cases hplace : (q.compiled s.grid).isPlace = true
  · have hcompile : ∀ cursor,
        (compile setting (senseOf count) (maxDepth + 1) condition.normalize).run
          { s with condition := condition.normalize, direction, running := true, cursor } =
        (.ok (q.compiled s.grid),
          { s with condition := condition.normalize, direction, running := true, cursor }) := by
      intro cursor
      rw [compile_normalize]
      exact hq _
    cases q <;> cases hplace
    refine ⟨true, ?_⟩
    rw [next_eq_transact_to setting count hrest hcursor hnone (.inl rfl) hway, transact_fst]
    exact steps_of_place (s := { s with
      condition := condition.normalize, direction, running := true }) _ hcompile s.cursor
  · have htests : Tests setting (senseOf count)
        { s with condition := condition.normalize, direction, running := true }
        (q.compiled s.grid) (q.holdsAt s.table) :=
      .of_query hrect (by simpa using hplace) hq
    exact ⟨_, congrArg Prod.fst (htests.next_eq hrest hcursor hnone hway)⟩

/-- A jump refuses its condition with an error: compiling the condition ends in the error, which
ends the first step before it tests a cell, and the session stays as it was, but for the condition
and the direction that it is given. -/
def Refuses (setting : Setting) (count : Int) (condition way : Value) (direction : Direction)
    (s : Session) (e : Error) : Prop :=
  let ready : Session := { s with condition := condition.normalize, direction, running := true }
  let compiled := (compile setting (senseOf count) (maxDepth + 1) condition.normalize).run ready
  compiled.1 = .error e ∧
    (step setting (senseOf count) (headingOf count direction)).run ready =
      (.error e, compiled.2) ∧
    next setting count condition way s =
      (.error e, { s with condition := condition.normalize, direction })

/-- A jump of some steps refuses a condition that cannot be compiled. -/
theorem refuses_of_error (hrest : s.running = false)
    (hcursor : s.table.grid.contains s.cursor = true) (hnone : condition.isNone = false)
    (hway : way = .text direction.name ∨ way = .none ∧ s.direction = direction)
    (hcount : count ≠ 0) {e : Error}
    (he : ((compile setting (senseOf count) (maxDepth + 1) condition.normalize).run
      { s with condition := condition.normalize, direction, running := true }).1 = .error e) :
    Refuses setting count condition way direction s e := by
  rcases hcompile : (compile setting (senseOf count) (maxDepth + 1) condition.normalize).run
    { s with condition := condition.normalize, direction, running := true } with ⟨outcome, t⟩
  rw [hcompile] at he
  obtain rfl : outcome = .error e := he
  have hstep : (step setting (senseOf count) (headingOf count direction)).run
      { s with condition := condition.normalize, direction, running := true } = (.error e, t) := by
    rw [step, Eval.run_bind_ok (Eval.run_get _)]
    exact Eval.run_bind_failed hcompile
  refine ⟨by rw [hcompile], by rw [hcompile]; exact hstep, ?_⟩
  -- compiling may have changed the memory, which the jump restores
  have hchange := (compile_recalling setting (senseOf count) (maxDepth + 1) condition.normalize
    { s with condition := condition.normalize, direction, running := true }).1
  rw [hcompile] at hchange
  obtain ⟨memory, rfl⟩ := hchange
  obtain ⟨more, hmore⟩ := Nat.exists_eq_succ_of_ne_zero (Int.natAbs_ne_zero.mpr hcount)
  have hsteps := Eval.run_bind_failed (f := fun found =>
    if found then steps setting (senseOf count) (headingOf count direction) more
    else return false) hstep
  rw [next_eq_transact_to setting count hrest hcursor hnone (.inl rfl) hway, hmore, transact, steps]
  dsimp only
  rw [hsteps]
  simp [restore, hrest]

/-- A jump of some steps from a cell of the table refuses its condition where the unfolding goes
below the room that there is, as it does where it runs into a cycle.  A well-formed condition is
refused for the first value that is too deep; where there is none, the condition means a query, and
the jump finds a cell or does not. -/
theorem next_unfolds (setting : Setting) (count : Int) (hrest : s.running = false)
    (hcursor : s.table.grid.contains s.cursor = true) (hnone : condition.isNone = false)
    (hway : way = .text direction.name ∨ way = .none ∧ s.direction = direction)
    (hcount : count ≠ 0) :
    let deep := below setting.presets (maxDepth + 1) condition
    (Cyclic setting.presets condition → deep ≠ []) ∧
    (deep ≠ [] → ∃ e, Refuses setting count condition way direction s e ∧
      (e.isMalformed = true ∨ ∃ fault, e = .fault fault)) ∧
    (WellFormedBelow setting.presets condition →
      (∀ w more, deep = w :: more →
        Refuses setting count condition way direction s (refuse .tooDeep w) ∧
        (refuse .tooDeep w = .parse (.tooDeep w) ↔ w.isWritable = true)) ∧
      (deep = [] → ∃ q : Query,
        (∀ t, (compile setting (senseOf count) (maxDepth + 1) condition).run t =
          (.ok (q.compiled t.grid), t)) ∧
        (s.table.Rectangular → ∃ found, (next setting count condition way s).1 = .ok found))) := by
  intro deep
  refine ⟨fun h => h.below_ne_nil _, fun hdeep => ?_, fun hformed => ?_⟩
  · obtain ⟨e, he⟩ := compile_error_of_below setting (senseOf count) hdeep
      { s with condition := condition.normalize, direction, running := true }
    rw [← compile_normalize] at he
    refine ⟨e, refuses_of_error hrest hcursor hnone hway hcount he, ?_⟩
    rcases compile_settles setting (senseOf count) ⟨maxDepth + 1, condition.normalize,
      { s with condition := condition.normalize, direction, running := true }⟩ with
      ⟨c, hc⟩ | houtside | hbreaks
    · cases he.symm.trans hc
    · obtain ⟨e', he', hmalformed⟩ := houtside.outcome_error
      cases he.symm.trans he'
      exact .inl hmalformed
    · obtain ⟨fault, hfault⟩ := hbreaks.outcome_error
      cases he.symm.trans hfault
      exact .inr ⟨fault, rfl⟩
  · refine ⟨fun w more hdeep => ⟨?_, ?_⟩, fun hdeep => ?_⟩
    · refine refuses_of_error hrest hcursor hnone hway hcount ?_
      rw [compile_normalize, compile_tooDeep setting _ hformed hdeep]
    · cases hwritable : w.isWritable <;> simp [refuse, hwritable]
    · have hends := compile_endsAs setting (senseOf count) (maxDepth + 1) hformed
      rw [show below setting.presets (maxDepth + 1) condition = [] from hdeep] at hends
      obtain ⟨q, hq⟩ := hends
      exact ⟨q, hq, fun hrect => next_of_query hrest hrect hcursor hnone hway hq⟩

/-- Two presets that stand for each other are unfolded without an end; the jump refuses the one that
lies on the first level without room. -/
theorem next_unfolds_pair :
    let setting : Setting := { presets := [("ping", .text "pong"), ("pong", .text "ping")] }
    let s : Session := { table := ⟨[.data ["a"]]⟩ }
    let condition : Value := .text "ping"
    (s.running = false ∧ s.table.grid.contains s.cursor = true ∧ condition.isNone = false ∧
      Cyclic setting.presets condition ∧ WellFormedBelow setting.presets condition) ∧
      Refuses setting 2 condition .none .right s (.parse (.tooDeep (.text "pong"))) := by
  intro setting s condition
  have hping : unfoldings setting.presets (.text "ping") = [.text "pong"] := by cbv
  have hpong : unfoldings setting.presets (.text "pong") = [.text "ping"] := by cbv
  have hcyclic : Cyclic setting.presets condition :=
    ⟨_, .refl, .tail (b := .text "pong") (.single (by simp [Unfolds, condition, hping]))
      (by simp [Unfolds, condition, hpong])⟩
  have hdeep : below setting.presets (maxDepth + 1) condition = [.text "pong"] := by
    simp [below, maxDepth, condition, hping, hpong]
  have hformed : WellFormedBelow setting.presets condition := by
    refine .of_mem [.text "ping", .text "pong"] ?_ List.mem_cons_self
    simp only [List.forall_mem_cons, hping, hpong]
    exact ⟨⟨.name (.word "ping") (by cbv), by simp⟩, ⟨.name (.word "pong") (by cbv), by simp⟩,
      List.forall_mem_nil _⟩
  have hrest : s.running = false := rfl
  have hcursor : s.table.grid.contains s.cursor = true := by decide
  have hway : Value.none = .text Direction.right.name ∨
      Value.none = .none ∧ s.direction = .right := .inr ⟨rfl, rfl⟩
  obtain ⟨-, -, hwell⟩ := next_unfolds setting 2 hrest hcursor
    (rfl : condition.isNone = false) hway (by decide)
  exact ⟨⟨hrest, hcursor, rfl, hcyclic, hformed⟩, ((hwell hformed).1 _ _ hdeep).1⟩

/-- A preset that joins itself to a line with too many digits to be written breaks the jump: it is
the value that is too deep, and cannot be shown. -/
theorem next_breaks_on_deep_number :
    let n : Int := (10 ^ Text.maxIntegerDigits : Nat)
    let setting : Setting :=
      { presets := [("a", .tuple [.text "and", .text "a", .tuple [.int n, .none]])] }
    let s : Session := { table := ⟨[.data ["a"]]⟩ }
    let condition : Value := .text "a"
    s.running = false ∧ s.table.Rectangular ∧ s.table.grid.contains s.cursor = true ∧
      WellFormedBelow setting.presets condition ∧ Cyclic setting.presets condition ∧
      next setting 1 condition .none s =
        (.error (.fault .badValue), { s with condition := condition }) := by
  intro n setting s condition
  have hlong : Text.isWritable n = false := Text.not_isWritable_pow rfl
  clear_value n
  let place : Value := .tuple [.int n, .none]
  let both : Value := .tuple [.text "and", condition, place]
  have hname : unfoldings setting.presets condition = [both] := by cbv
  have hboth : unfoldings setting.presets both = [condition, place] := rfl
  have hplace : unfoldings setting.presets place = [] := rfl
  have hdeep : below setting.presets (maxDepth + 1) condition = [both] := by
    simp only [maxDepth, below, hname, hboth, hplace, List.flatMap_cons,
      List.flatMap_nil, List.append_nil]
  have hformed : WellFormedBelow setting.presets condition := by
    refine .of_mem [condition, both, place] ?_ List.mem_cons_self
    simp only [List.forall_mem_cons, hname, hboth, hplace]
    have hall : Connective.all ≠ .not := by decide
    exact ⟨⟨.name (.word "a") (by cbv), by simp⟩,
      ⟨.connective (.connective .all fun _ _ h => by cases h) (List.cons_ne_nil _ _)
        fun h => absurd h hall, by simp⟩,
      ⟨.place (.place rfl rfl), by simp⟩, List.forall_mem_nil _⟩
  have hcyclic : Cyclic setting.presets condition :=
    ⟨_, .refl, .tail (b := both) (.single (by simp [Unfolds, hname])) (by simp [Unfolds, hboth])⟩
  have hrefuse : refuse .tooDeep both = .fault .badValue :=
    if_neg (by simp [both, place, Value.isWritable, Value.areWritable, hlong])
  have hcompile := compile_tooDeep setting (senseOf 1) hformed hdeep
    { s with condition := condition, running := true }
  rw [hrefuse] at hcompile
  have hrefuses : Refuses setting 1 condition .none .right s (.fault .badValue) :=
    refuses_of_error rfl (by decide) rfl (.inr ⟨rfl, rfl⟩) (by decide) (congrArg Prod.fst hcompile)
  exact ⟨rfl, by decide, by decide, hformed, hcyclic, hrefuses.2.2⟩

end Jumping

end Jump

end PipeTable
