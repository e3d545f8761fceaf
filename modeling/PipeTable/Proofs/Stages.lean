import Mathlib
import PipeTable.Proofs.Calls

/-! # Jumps in stages

A jump of several steps comes to the same as two jumps that share these steps between them.  The
second jump starts where the first one ended: what the conditions wrote to cells and to the memory,
the turns of sequences included, has stayed, and the condition and the direction are remembered.
-/

namespace PipeTable

namespace Jump

open PipeTable.Expr (Bounds Eval Function Registry)

/-! ## Registered functions -/

/-- Changes that leave alone what the rest of a jump relies on. -/
def onCourse : Bounds Session where
  change s t := t.condition = s.condition ∧ t.direction = s.direction ∧ t.running = s.running
  failure _ := True
  refl _ := ⟨rfl, rfl, rfl⟩
  trans hst htu :=
    ⟨htu.1.trans hst.1, htu.2.1.trans hst.2.1, htu.2.2.trans hst.2.2⟩
  own _ := trivial

/-- The functions of sessions and others registered besides. -/
def extendedRegistry (extra : List (Function Session)) : Registry Session :=
  extra.foldl Registry.register Jump.registry

section Registered

variable {b : Bounds Session} {extra : List (Function Session)}

theorem extendedRegistry_within (hstandard : Jump.registry.Within b)
    (hextra : ∀ f ∈ extra, ∀ env arguments, (f.run env arguments).Within b) :
    (extendedRegistry extra).Within b := by
  intro f hf
  rcases Registry.mem_foldl_register extra hf with hf | hf
  · exact hextra f hf
  · exact hstandard f hf

theorem registry_onCourse : Jump.registry.Within onCourse := by
  intro f hf env arguments
  refine (registry_confined f hf env arguments).mono (fun s t hst => ?_) fun _ _ => trivial
  have hcondition := congrArg Session.condition hst
  have hdirection := congrArg Session.direction hst
  have hrunning := congrArg Session.running hst
  exact ⟨hcondition, hdirection, hrunning⟩

end Registered

/-! ## Steps -/

section Steps

variable (setting : Setting) (sense : Sense) (direction : Direction)

theorem steps_succ_eq_true (count : Nat) (s t : Session) :
    (steps setting sense direction (count + 1)).run s = (.ok true, t) ↔
      ∃ u, (step setting sense direction).run s = (.ok true, u) ∧
        (steps setting sense direction count).run u = (.ok true, t) := by
  constructor
  · intro h
    rw [steps] at h
    obtain ⟨found, u, hstep, h⟩ := Eval.run_bind_eq_ok h
    cases found with
    | false => cases h
    | true => exact ⟨u, hstep, h⟩
  · rintro ⟨u, hstep, h⟩
    rw [steps, Eval.run_bind_ok hstep]
    exact h

/-- Steps succeed together exactly if the first of them do and, from where these lead, the others
do. -/
theorem steps_add_eq_true (m n : Nat) (s t : Session) :
    (steps setting sense direction (m + n)).run s = (.ok true, t) ↔
      ∃ u, (steps setting sense direction m).run s = (.ok true, u) ∧
        (steps setting sense direction n).run u = (.ok true, t) := by
  induction m generalizing s with
  | zero =>
      rw [Nat.zero_add]
      constructor
      · intro h
        exact ⟨s, rfl, h⟩
      · rintro ⟨u, hnone, h⟩
        cases hnone
        exact h
  | succ m ih =>
      -- both sides have a first step, and the session in between is where the others start
      rw [Nat.succ_add]
      simp only [steps_succ_eq_true, ih]
      constructor
      · rintro ⟨v, hfirst, u, hmore, h⟩
        exact ⟨u, ⟨v, hfirst, hmore⟩, h⟩
      · rintro ⟨u, ⟨v, hfirst, hmore⟩, h⟩
        exact ⟨v, hfirst, u, hmore, h⟩

/-- The steps of a jump in a direction: as many as a count says, onward or back by its sign. -/
def stepsBy (setting : Setting) (direction : Direction) (count : Int) : Eval Session Bool :=
  steps setting (if 0 ≤ count then .onward else .back)
    (if 0 ≤ count then direction else direction.opposite) count.natAbs

/-- Two counts are of one sign, where nothing counts as either. -/
def SameSign (m n : Int) : Prop := 0 ≤ m ∧ 0 ≤ n ∨ m ≤ 0 ∧ n ≤ 0

theorem stepsBy_zero (s t : Session) :
    (stepsBy setting direction 0).run s = (.ok true, t) ↔ t = s := by
  constructor
  · intro h
    cases h
    rfl
  · rintro rfl
    rfl

theorem stepsBy_add_eq_true {m n : Int} (hsign : SameSign m n) (s t : Session) :
    (stepsBy setting direction (m + n)).run s = (.ok true, t) ↔
      ∃ u, (stepsBy setting direction m).run s = (.ok true, u) ∧
        (stepsBy setting direction n).run u = (.ok true, t) := by
  -- no steps at all have no sense of their own
  by_cases hm : m = 0
  · subst hm
    simp only [stepsBy_zero, exists_eq_left, Int.zero_add]
  by_cases hn : n = 0
  · subst hn
    simp only [stepsBy_zero, exists_eq_right', Int.add_zero]
  have hcount : (m + n).natAbs = m.natAbs + n.natAbs := by
    rcases hsign with h | h <;> omega
  rcases hsign with ⟨hm, hn⟩ | ⟨hm', hn'⟩
  · simp only [stepsBy, hcount, if_pos hm, if_pos hn, if_pos (Int.add_nonneg hm hn)]
    exact steps_add_eq_true setting _ _ _ _ s t
  · have hm : ¬ 0 ≤ m := by omega
    have hn : ¬ 0 ≤ n := by omega
    have hsum : ¬ 0 ≤ m + n := by omega
    simp only [stepsBy, hcount, if_neg hm, if_neg hn, if_neg hsum]
    exact steps_add_eq_true setting _ _ _ _ s t

end Steps

/-! ## Jumps -/

section Jumps

variable {setting : Setting}

theorem transact_eq_true {test : Eval Session Bool} {s t : Session} :
    transact test s = (.ok true, t) ↔
      ∃ u, test.run { s with running := true } = (.ok true, u) ∧
        t = { u with running := false } := by
  constructor
  · intro h
    rw [transact] at h
    split at h
    next after hrun =>
      cases h
      exact ⟨after, hrun, rfl⟩
    next => cases h
    next => cases h
  · rintro ⟨u, hrun, rfl⟩
    rw [transact, hrun]

/-- A jump succeeds exactly if none is under way, it can start, and all its steps find a cell. -/
theorem next_eq_true {count : Int} {condition direction : Value} {s t : Session} :
    next setting count condition direction s = (.ok true, t) ↔
      s.running = false ∧ ∃ ready, configure s condition direction = .ok ready ∧
        checkStart ready = .ok () ∧
        ∃ u, (stepsBy setting ready.direction count).run { ready with running := true } =
          (.ok true, u) ∧ t = { u with running := false } := by
  constructor
  · intro h
    rw [next] at h
    split at h
    · cases h
    next hrest =>
      split at h
      · cases h
      next ready hready =>
        split at h
        · cases h
        next hstart =>
          exact ⟨by simpa using hrest, ready, hready, hstart, transact_eq_true.mp h⟩
  · rintro ⟨hrest, ready, hready, hstart, hsteps⟩
    rw [next, if_neg (by simp [hrest])]
    simp only [hready, hstart]
    exact transact_eq_true.mpr hsteps

theorem configure_given {s ready : Session} {condition direction : Value}
    (h : configure s condition direction = .ok ready) :
    (condition.isNone = false → ready.condition = condition.normalize) ∧
      (direction.isNone = false → Direction.ofValue direction = .ok ready.direction) := by
  simp only [configure] at h
  by_cases hdirection : direction.isNone = true
  · rw [if_pos hdirection] at h
    cases h
    exact ⟨fun hcondition => by simp [hcondition], fun hgiven => by simp [hdirection] at hgiven⟩
  · rw [if_neg hdirection] at h
    obtain ⟨d, hd, h⟩ := Outcome.bind_eq_ok.mp h
    cases h
    exact ⟨fun hcondition => by simp [hcondition], fun _ => hd⟩

theorem configure_of {t : Session} {condition direction : Value}
    (hcondition : condition.isNone = false → t.condition = condition.normalize)
    (hdirection : direction.isNone = false → Direction.ofValue direction = .ok t.direction) :
    configure t condition direction = .ok t := by
  have hkept : (if condition.isNone = true then t.condition else condition.normalize) =
      t.condition := by
    split
    · rfl
    next hgiven => exact (hcondition (by simpa using hgiven)).symm
  simp only [configure, hkept]
  split
  · rfl
  next hgiven =>
    rw [hdirection (by simpa using hgiven)]
    rfl

/-- A condition and a direction that were set before are set again by giving them once more, or by
giving none. -/
theorem configure_again {s ready t : Session} {condition direction : Value}
    (hready : configure s condition direction = .ok ready)
    (hcondition : t.condition = ready.condition) (hdirection : t.direction = ready.direction)
    {again way : Value} (hagain : again = condition ∨ again = .none)
    (hway : way = direction ∨ way = .none) : configure t again way = .ok t := by
  obtain ⟨hset, hheaded⟩ := configure_given hready
  rw [← hcondition] at hset
  rw [← hdirection] at hheaded
  apply configure_of
  · intro hgiven
    rcases hagain with rfl | rfl
    · exact hset hgiven
    · cases hgiven
  · intro hgiven
    rcases hway with rfl | rfl
    · exact hheaded hgiven
    · cases hgiven

theorem checkStart_eq_ok {s : Session} :
    checkStart s = .ok () ↔
      s.condition.isNone = false ∧ s.grid.size ≠ 0 ∧ s.grid.contains s.cursor = true := by
  constructor
  · intro h
    simp only [checkStart] at h
    split at h
    · cases h
    next hcondition =>
      split at h
      · cases h
      next hsize =>
        split at h
        · cases h
        next hcursor => exact ⟨by simpa using hcondition, hsize, by simpa using hcursor⟩
  · rintro ⟨hcondition, hsize, hcursor⟩
    simp only [checkStart, hcondition, hsize, hcursor]
    rfl

/-! ## Stages -/

/-- A function leaves the cursor, the shape of the table and the jump under way as they are. -/
def Steady (f : Function Session) : Prop :=
  ∀ env arguments, (f.run env arguments).Within still ∧ (f.run env arguments).Within onCourse

/-- What the functions of sessions and others that are registered besides can be called in. -/
def settingWith (presets : Preset.Table) (extra : List (Function Session)) : Setting :=
  { presets, registry := extendedRegistry extra }

section Stages

variable (presets : Preset.Table) {extra : List (Function Session)}
  (hextra : ∀ f ∈ extra, Steady f)
include hextra

theorem stepsBy_onGrid (direction : Direction) (count : Int) (shape : List (Option Nat)) :
    (stepsBy (settingWith presets extra) direction count).Within (onGrid shape) := by
  have hregistry : (settingWith presets extra).registry.Within still :=
    extendedRegistry_within registry_still fun f hf env arguments => (hextra f hf env arguments).1
  exact steps_onGrid hregistry _ _ _

theorem stepsBy_onCourse (direction : Direction) (count : Int) :
    (stepsBy (settingWith presets extra) direction count).Within onCourse := by
  have hregistry : (settingWith presets extra).registry.Within onCourse :=
    extendedRegistry_within registry_onCourse fun f hf env arguments =>
      (hextra f hf env arguments).2
  have hstep := step_within (settingWith presets extra)
    (if 0 ≤ count then .onward else .back)
    (if 0 ≤ count then direction else direction.opposite)
    (b := onCourse) (fun _ _ => ⟨rfl, rfl, rfl⟩) (fun _ _ _ => ⟨rfl, rfl, rfl⟩)
    registry_onCourse hregistry
  exact steps_within _ _ _ hstep _

/-- Where a jump has ended, another one with the same condition and direction can start. -/
theorem ready_again {s ready u : Session} {condition direction again way : Value} {count : Int}
    (hready : configure s condition direction = .ok ready) (hstart : checkStart ready = .ok ())
    (hsteps : (stepsBy (settingWith presets extra) ready.direction count).run
      { ready with running := true } = (.ok true, u))
    (hagain : again = condition ∨ again = .none) (hway : way = direction ∨ way = .none) :
    configure { u with running := false } again way = .ok { u with running := false } ∧
      checkStart { u with running := false } = .ok () ∧ u.direction = ready.direction ∧
      { u with running := true } = u := by
  obtain ⟨hcondition, hsize, hcursor⟩ := checkStart_eq_ok.mp hstart
  -- steps edit cells and move the cursor, but not off the grid, and set nothing a start asks for
  have hcourse := (stepsBy_onCourse presets hextra ready.direction count
    { ready with running := true }).1
  have hgrid := (stepsBy_onGrid presets hextra ready.direction count ready.table.shape
    { ready with running := true }).1 ⟨rfl, hcursor⟩
  rw [hsteps] at hcourse hgrid
  obtain ⟨hkept, hheaded, hrunning⟩ := hcourse
  have hrunning : u.running = true := hrunning
  refine ⟨configure_again (t := { u with running := false }) hready hkept hheaded hagain hway, ?_,
    hheaded, by rw [← hrunning]⟩
  apply checkStart_eq_ok.mpr
  have hsame : u.grid = ready.grid := Table.grid_eq_of_shape hgrid.shape
  refine ⟨?_, ?_, hgrid.inside⟩
  · rw [hkept]
    exact hcondition
  · change u.grid.size ≠ 0
    rw [hsame]
    exact hsize

/-- A jump succeeds exactly if a jump of some of its steps does and after it a jump of the others,
with the same condition and direction or with none given, and then it leaves the same session. -/
theorem next_in_stages {m n : Int} (hsign : SameSign m n) {condition direction again way : Value}
    (hagain : again = condition ∨ again = .none) (hway : way = direction ∨ way = .none)
    (s t : Session) :
    next (settingWith presets extra) (m + n) condition direction s = (.ok true, t) ↔
      ∃ u, next (settingWith presets extra) m condition direction s = (.ok true, u) ∧
        next (settingWith presets extra) n again way u = (.ok true, t) := by
  constructor
  · intro h
    obtain ⟨hrest, ready, hready, hstart, w, hsteps, rfl⟩ := next_eq_true.mp h
    obtain ⟨u, hfirst, hsecond⟩ := (stepsBy_add_eq_true _ _ hsign _ _).mp hsteps
    obtain ⟨hconfigure, hcheck, hheaded, hrunning⟩ :=
      ready_again presets hextra hready hstart hfirst hagain hway
    refine ⟨{ u with running := false }, next_eq_true.mpr
      ⟨hrest, ready, hready, hstart, u, hfirst, rfl⟩, next_eq_true.mpr
      ⟨rfl, _, hconfigure, hcheck, w, ?_, rfl⟩⟩
    -- the second jump takes its steps from the session that the first ones left
    dsimp only
    rw [hrunning, hheaded]
    exact hsecond
  · rintro ⟨v, hfirst, hsecond⟩
    obtain ⟨hrest, ready, hready, hstart, u, hsteps, rfl⟩ := next_eq_true.mp hfirst
    obtain ⟨hconfigure, -, hheaded, hrunning⟩ :=
      ready_again presets hextra hready hstart hsteps hagain hway
    obtain ⟨-, ready', hready', -, w, hmore, rfl⟩ := next_eq_true.mp hsecond
    rw [hconfigure] at hready'
    cases hready'
    dsimp only at hmore
    rw [hrunning, hheaded] at hmore
    exact next_eq_true.mpr ⟨hrest, ready, hready, hstart, w,
      (stepsBy_add_eq_true _ _ hsign _ _).mpr ⟨u, hsteps, hmore⟩, rfl⟩

end Stages

/-- A sequence of a pattern and a place, whose turns are taken by two jumps of a step each; among
the functions that its expressions could call is one that notes the cell. -/
theorem sequence_in_stages :
    let mark : Function Session := ⟨⟨"mark", 0, 0, "note the cell"⟩, fun _ _ => do
      modify fun s => { s with notes := s.notes ++ [s.cursor] }
      return .bool true⟩
    let setting := settingWith Preset.builtin [mark]
    let s : Session := { table := ⟨[.data ["a", "b"], .separator, .data ["c", "d"]]⟩ }
    let sequence : Value := .tuple [.text "jmpseq", .text "^b$", .tuple [.int 2, .int 1]]
    (∀ f ∈ [mark], Steady f) ∧ SameSign 1 1 ∧
      ∃ t u, next setting (1 + 1) sequence .none s = (.ok true, t) ∧
        next setting 1 sequence .none s = (.ok true, u) ∧
        next setting 1 .none .none u = (.ok true, t) := by
  intro mark setting s sequence
  have hmark : ∀ f ∈ [mark], Steady f := by
    intro f hf env arguments
    obtain rfl := List.mem_singleton.mp hf
    constructor
    · exact (Eval.Within.modify (b := still) fun s => ⟨rfl, rfl⟩).bind fun _ => .pure _
    · exact (Eval.Within.modify (b := onCourse) fun s => ⟨rfl, rfl, rfl⟩).bind fun _ => .pure _
  have hsign : SameSign 1 1 := .inl (by decide)
  let p : Pattern.Compiled := ⟨.sequence [.anchor .caret, .point 98, .anchor .dollar], {}⟩
  have hp : Pattern.Compiled.ofText "^b$" = .ok p := by cbv
  let key : Value := .text ("jmpseq:" ++ sequence.literal)
  have hkey : turnKey sequence.normalize = .ok key := if_pos (by decide +kernel)
  let parts : List Value := [.text "^b$", .tuple [.int 2, .int 1]]
  have hshape : shape? sequence.normalize = some (.turns parts) := rfl
  let ready : Session := { s with condition := sequence, running := true }
  -- the first step takes the turn of the pattern, the second one that of the place
  let found : Session := { ready with cursor := ⟨1, 2⟩, memory := [(key, .int 0)] }
  let last : Session := { ready with cursor := ⟨2, 1⟩, memory := [(key, .int 1)] }
  have hfirst : (step setting .onward .right).run ready = (.ok true, found) := by
    have hturn : (takeTurn .onward sequence.normalize parts).run ready =
        (.ok (.text "^b$"), { ready with memory := [(key, .int 0)] }) := by
      rw [takeTurn, hkey]
      rfl
    have hcompile : (compile setting .onward (maxDepth + 1) ready.condition).run ready =
        (.ok (.pattern p 0 0), { ready with memory := [(key, .int 0)] }) := by
      rw [compile_turns setting .onward hshape hturn, maxDepth, compile]
      change (ofOutcome (patternAt "^b$" 0 0)).run _ = _
      rw [patternAt, hp]
      rfl
    rw [step_eq_search setting .onward .right hcompile rfl]
    rfl
  have hsecond : (step setting .onward .right).run found = (.ok true, last) := by
    have hturn : (takeTurn .onward sequence.normalize parts).run found =
        (.ok (.tuple [.int 2, .int 1]), { found with memory := [(key, .int 1)] }) := by
      rw [takeTurn, hkey]
      rfl
    have hcompile : (compile setting .onward (maxDepth + 1) found.condition).run found =
        (.ok (.place (some 2) (some 1)), { found with memory := [(key, .int 1)] }) := by
      rw [compile_turns setting .onward hshape hturn, maxDepth, compile]
      rfl
    rw [step, Eval.run_bind_ok (Eval.run_get found), Eval.run_bind_ok hcompile]
    rfl
  obtain ⟨t, hnext⟩ : ∃ t, next setting (1 + 1) sequence .none s = (.ok true, t) := by
    refine ⟨_, next_eq_true.mpr ⟨rfl, _, rfl, rfl, last, ?_, rfl⟩⟩
    exact (steps_succ_eq_true ..).mpr
      ⟨found, hfirst, (steps_succ_eq_true ..).mpr ⟨last, hsecond, rfl⟩⟩
  obtain ⟨u, hfirst, hsecond⟩ :=
    (next_in_stages Preset.builtin hmark hsign (.inr rfl) (.inr rfl) s t).mp hnext
  exact ⟨hmark, hsign, t, u, hnext, hfirst, hsecond⟩

end Jumps

end Jump

end PipeTable
