import Mathlib
import PipeTable.Proofs.Grammar
import PipeTable.Proofs.Mappings

/-! # Turns of a sequence

The parts of a sequence take their turns as the condition of a step, each after the other, onward or
back, and around at the ends.  Which part was the last one is all that the sequence remembers, and
only steps of jumps that succeed are remembered: what is compiled for a jump that fails is forgotten
with it.
-/

namespace PipeTable

namespace Jump

open PipeTable.Expr (Eval)

/-! ## Tests that look at the table alone -/

/-- The session with another condition and another memory. -/
def reframe (condition : Value) (memory : List (Value × Value)) (s : Session) : Session :=
  { s with condition, memory }

/-- A computation does not see the condition and the memory, and does not change them either. -/
def Blind {α : Type} (x : Eval Session α) : Prop :=
  ∀ condition memory s,
    x.run (reframe condition memory s) = ((x.run s).1, reframe condition memory (x.run s).2)

namespace Blind

variable {α β : Type}

protected theorem pure (a : α) : Blind (pure a : Eval Session α) := fun _ _ _ => rfl

protected theorem bind {x : Eval Session α} {f : α → Eval Session β} (hx : Blind x)
    (hf : ∀ a, Blind (f a)) : Blind (x >>= f) := by
  intro condition memory s
  have hrun := hx condition memory s
  rw [Eval.run_bind, Eval.run_bind]
  rcases hs : x.run s with ⟨e | a, t⟩ <;> rw [hs] at hrun <;> rw [hrun]
  exact hf a condition memory t

/-- A computation that looks at the session first may look at anything but the condition and the
memory. -/
theorem get_bind {f : Session → Eval Session α}
    (hsame : ∀ condition memory s, f (reframe condition memory s) = f s) (hf : ∀ s, Blind (f s)) :
    Blind (get >>= f) := by
  intro condition memory s
  rw [Eval.run_bind_ok (Eval.run_get s), Eval.run_bind_ok (Eval.run_get _), hsame]
  exact hf s condition memory s

protected theorem modify {f : Session → Session}
    (hf : ∀ condition memory s, f (reframe condition memory s) = reframe condition memory (f s)) :
    Blind (modify f : Eval Session PUnit) := by
  intro condition memory s
  rw [Eval.run_modify, Eval.run_modify, hf]

protected theorem ofFault (x : Except Fault α) : Blind (Eval.ofFault x : Eval Session α) := by
  cases x <;> exact fun _ _ _ => rfl

end Blind

mutual

theorem Query.compiled_blind (g : Grid) : (q : Query) → Blind (q.compiled g).holds
  | .occurs _ _ _ => Blind.get_bind (fun _ _ _ => rfl) fun _ => .ofFault _
  | .standsAt _ _ => Blind.get_bind (fun _ _ _ => rfl) fun _ => .pure _
  | .all queries => compiledAll_allHold_blind g queries
  | .any queries => compiledAll_anyHolds_blind g queries
  | .not query => (query.compiled_blind g).bind fun _ => .pure _

theorem compiledAll_allHold_blind (g : Grid) : (qs : List Query) →
    Blind (allHold (compiledAll g qs))
  | [] => .pure _
  | q :: qs => (q.compiled_blind g).bind fun holds => by
      split
      · exact compiledAll_allHold_blind g qs
      · exact .pure _

theorem compiledAll_anyHolds_blind (g : Grid) : (qs : List Query) →
    Blind (anyHolds (compiledAll g qs))
  | [] => .pure _
  | q :: qs => (q.compiled_blind g).bind fun holds => by
      split
      · exact .pure _
      · exact compiledAll_anyHolds_blind g qs

end

theorem search_blind (g : Grid) (direction : Direction) {test : Eval Session Bool}
    (htest : Blind test) (count : Nat) : Blind (search g direction test count) := by
  induction count with
  | zero => exact .pure _
  | succ count ih =>
      rw [search]
      refine (Blind.modify fun _ _ _ => rfl).bind fun _ => htest.bind fun found => ?_
      split
      · exact .pure _
      · exact ih

/-- What a step does with its condition once this is compiled. -/
def approach (direction : Direction) : Condition → Eval Session Bool
  | .place line column => do
    modify fun s => { s with cursor := ⟨line.getD s.cursor.line, column.getD s.cursor.column⟩ }
    return true
  | c => do
    let grid := (← get).grid
    search grid direction c.holds grid.size

theorem step_eq_approach {setting : Setting} {sense : Sense} {direction : Direction}
    {s t : Session} {c : Condition}
    (hcompile : (compile setting sense (maxDepth + 1) s.condition).run s = (.ok c, t)) :
    (step setting sense direction).run s = (approach direction c).run t := by
  rw [step, Eval.run_bind_ok (Eval.run_get s), Eval.run_bind_ok hcompile]
  cases c <;> rfl

theorem approach_blind (g : Grid) (direction : Direction) (q : Query) :
    Blind (approach direction (q.compiled g)) := by
  have hsearch : ∀ q : Query, Blind (do
      let grid := (← get).grid
      search grid direction (q.compiled g).holds grid.size) := fun q =>
    .get_bind (fun _ _ _ => rfl) fun s =>
      search_blind s.grid direction (q.compiled_blind g) s.grid.size
  cases q with
  | standsAt line column => exact (Blind.modify fun _ _ _ => rfl).bind fun _ => .pure _
  | occurs p lines columns => exact hsearch (.occurs p lines columns)
  | all queries => exact hsearch (.all queries)
  | any queries => exact hsearch (.any queries)
  | not query => exact hsearch (.not query)

/-! ## Sequences -/

mutual

/-- There may be room for more levels than a condition nests. -/
theorem Reads.succ {presets : Preset.Table} : {levels : Nat} → {v : Value} → {q : Query} →
    Reads presets levels v q → Reads presets (levels + 1) v q
  | _, _, _, .preset hname h => .preset hname h.succ
  | _, _, _, .pattern hname hp => .pattern hname hp
  | _, _, _, .offset hparts hp => .offset hparts hp
  | _, _, _, .place hparts hline hcolumn => .place hparts hline hcolumn
  | _, _, _, .all hparts h => .all hparts h.succ
  | _, _, _, .any hparts h => .any hparts h.succ
  | _, _, _, .not hparts h => .not hparts h.succ

theorem ReadsAll.succ {presets : Preset.Table} : {levels : Nat} → {vs : List Value} →
    {qs : List Query} → ReadsAll presets levels vs qs → ReadsAll presets (levels + 1) vs qs
  | _, _, _, .nil => .nil
  | _, _, _, .cons h hs => .cons h.succ hs.succ

end

/-- A value is a sequence of conditions without effects, of which there is at least one. -/
structure IsSequence (presets : Preset.Table) (sequence : Value) (parts : List Value) : Prop where
  written : sequence.parts? = some (.text "jmpseq" :: parts)
  inhabited : parts ≠ []
  reads : ∀ part ∈ parts, ∃ q, Reads presets maxDepth part q

theorem exists_text_of_turnKey {sequence key : Value} (h : turnKey sequence = .ok key) :
    ∃ text, key = .text text := by
  unfold turnKey at h
  split at h <;> cases h
  exact ⟨_, rfl⟩

/-- What a session remembers for a sequence is the index of its last turn, if there is any. -/
def Remembers (sequence : Value) (last : Option Nat) (s : Session) : Prop :=
  ∀ key, turnKey sequence.normalize = .ok key →
    Value.findEntry s.memory key = last.map fun index => .int (index : Nat)

/-- The index of the turn after the last one. -/
def turnAfter (count : Nat) (sense : Sense) : Option Nat → Nat
  | none => match sense with
    | .onward => 0
    | .back => count - 1
  | some last => ((last + sense.step) % count : Int).toNat

theorem nextTurn_last (count : Nat) (sense : Sense) (last : Option Nat) :
    nextTurn sense ((last.map fun index => Value.int (index : Nat)).getD .none) count =
      .ok (turnAfter count sense last) := by
  cases last <;> rfl

theorem turnAfter_lt {count : Nat} (hcount : 0 < count) (sense : Sense) (last : Option Nat) :
    turnAfter count sense last < count :=
  nextTurn_lt hcount (nextTurn_last count sense last)

/-- A turn of a sequence: the sense of the step that took it, and which part it was. -/
structure Turn where
  sense : Sense
  index : Nat
  deriving DecidableEq, Repr

/-- A step with a sequence as its condition takes a turn: it finds the cell that a step with the
part of this index as its condition finds, and the index is remembered. -/
structure Takes (setting : Setting) (direction : Direction) (sequence : Value) (parts : List Value)
    (turn : Turn) (s t : Session) : Prop where
  runs : (step setting turn.sense direction).run s = (.ok true, t)
  as_part : ∃ part, parts[turn.index]? = some part ∧
    (step setting turn.sense direction).run { s with condition := part.normalize } =
      (.ok true, { t with condition := part.normalize, memory := s.memory })
  remembers : Remembers sequence (some turn.index) t

namespace IsSequence

section Shape

variable {presets : Preset.Table} {sequence : Value} {parts : List Value}
  (hsequence : IsSequence presets sequence parts)
include hsequence

theorem normalize_eq : sequence.normalize = .tuple (.text "jmpseq" :: parts.map Value.normalize) :=
  Value.normalize_of_parts? hsequence.written

theorem shape_eq : shape? sequence.normalize = some (.turns (parts.map Value.normalize)) := by
  rw [hsequence.normalize_eq]
  refine shape?_of_word fun lines columns heq => ?_
  -- an integer stands for no condition, so that two parts are no offset of a pattern
  obtain ⟨part, more, rfl⟩ := List.exists_cons_of_ne_nil hsequence.inhabited
  obtain ⟨q, hreads⟩ := hsequence.reads part List.mem_cons_self
  have hpart : part.normalize = .int lines := (List.cons.inj heq).1
  cases part <;> simp only [Value.normalize, reduceCtorEq] at hpart
  exact hreads.ne_int

end Shape

section Step

variable {setting : Setting} (sense : Sense) (direction : Direction) {sequence : Value}
  {parts : List Value} {s t : Session} (hsequence : IsSequence setting.presets sequence parts)
include hsequence

/-- A sequence gives the turn after the last one, and remembers it. -/
theorem takeTurn_run {last : Option Nat} {key : Value}
    (hkey : turnKey sequence.normalize = .ok key) (hlast : Remembers sequence last s) {part : Value}
    (hpart : parts[turnAfter parts.length sense last]? = some part) :
    (takeTurn sense sequence.normalize (parts.map Value.normalize)).run s =
      (.ok part.normalize,
        { s with memory :=
            Value.putEntry s.memory key (.int (turnAfter parts.length sense last : Nat)) }) := by
  have hparts : parts.map Value.normalize ≠ [] := by simpa using hsequence.inhabited
  rw [takeTurn_of_key sense hkey hparts, hlast key hkey, List.length_map, nextTurn_last]
  simp only [Eval.ofFault, pure_bind, List.getElem?_map, hpart]
  rfl

/-- A step with a sequence as its condition goes as a step with the part whose turn it is, and
remembers the turn. -/
theorem step_run {last : Option Nat} {key : Value} (hkey : turnKey sequence.normalize = .ok key)
    (hcondition : s.condition = sequence.normalize) (hlast : Remembers sequence last s)
    {part : Value} (hpart : parts[turnAfter parts.length sense last]? = some part) :
    ∃ found u,
      (step setting sense direction).run s = (found, reframe s.condition
        (Value.putEntry s.memory key (.int (turnAfter parts.length sense last : Nat))) u) ∧
      (step setting sense direction).run { s with condition := part.normalize } =
        (found, reframe part.normalize s.memory u) := by
  obtain ⟨q, hreads⟩ := hsequence.reads part (List.mem_of_getElem? hpart)
  obtain ⟨below, hbelow⟩ := hreads.pos
  have hturn := hsequence.takeTurn_run sense hkey hlast hpart
  have hcompile : (compile setting sense (maxDepth + 1) s.condition).run s =
      (.ok (q.compiled s.grid), reframe s.condition
        (Value.putEntry s.memory key (.int (turnAfter parts.length sense last : Nat))) s) := by
    rw [hcondition, compile_normalize, compile_turns setting sense hsequence.shape_eq hturn,
      hbelow, compile_normalize, ← hbelow, compile_of_reads hreads, ← hcondition]
    rfl
  have halone : (compile setting sense (maxDepth + 1) part.normalize).run
      (reframe part.normalize s.memory s) =
        (.ok (q.compiled s.grid), reframe part.normalize s.memory s) := by
    rw [compile_normalize]
    exact compile_of_reads hreads.succ
  obtain ⟨found, u, hrun⟩ : ∃ found u,
      (approach direction (q.compiled s.grid)).run s = (found, u) := ⟨_, _, rfl⟩
  -- the way to the cells of the part does not depend on what is set as the condition
  have hblind := approach_blind s.grid direction q
  refine ⟨found, u, ?_, ?_⟩
  · rw [step_eq_approach hcompile, hblind, hrun]
  · exact (step_eq_approach halone).trans (by rw [hblind, hrun])

/-- A step that succeeds takes the turn after the last one. -/
theorem takes_turn {last : Option Nat} (hcondition : s.condition = sequence.normalize)
    (hlast : Remembers sequence last s)
    (hstep : (step setting sense direction).run s = (.ok true, t)) :
    Takes setting direction sequence parts ⟨sense, turnAfter parts.length sense last⟩ s t ∧
      t.condition = sequence.normalize := by
  cases hkey : turnKey sequence.normalize with
  | error fault =>
      have houtcome : Reading.outcome setting sense ⟨maxDepth + 1, s.condition, s⟩ =
          .error (.fault fault) := by
        simp only [Reading.outcome, hcondition, compile_normalize, compile, hsequence.shape_eq]
        exact Eval.run_bind_error (Eval.run_bind_error (by rw [hkey]; rfl))
      have hfails := step_error direction houtcome
      rw [hstep] at hfails
      cases hfails
  | ok key =>
      have hpart := List.getElem?_eq_getElem
        (turnAfter_lt (List.length_pos_iff.mpr hsequence.inhabited) sense last)
      obtain ⟨found, u, hrun, halone⟩ :=
        hsequence.step_run sense direction hkey hcondition hlast hpart
      rw [hstep] at hrun
      obtain ⟨rfl, rfl⟩ := Prod.mk.inj hrun
      refine ⟨⟨hstep, ⟨_, hpart, halone⟩, fun key' hkey' => ?_⟩, hcondition⟩
      cases hkey.symm.trans hkey'
      obtain ⟨text, rfl⟩ := exists_text_of_turnKey hkey
      exact Value.findEntry_putEntry s.memory text _

end Step

end IsSequence

/-! ## Jumps -/

/-- The steps of a jump take turns of a sequence one after the other. -/
inductive TakesAll (setting : Setting) (direction : Direction) (sequence : Value)
    (parts : List Value) : List Turn → Session → Session → Prop
  | nil {s : Session} : TakesAll setting direction sequence parts [] s s
  | cons {turn : Turn} {turns : List Turn} {s t u : Session}
      (h : Takes setting direction sequence parts turn s t)
      (hs : TakesAll setting direction sequence parts turns t u) :
      TakesAll setting direction sequence parts (turn :: turns) s u

/-- Turns follow each other from the last one before them. -/
def FollowOn (count : Nat) : Option Nat → List Turn → Prop
  | _, [] => True
  | last, turn :: turns =>
    turn.index = turnAfter count turn.sense last ∧ FollowOn count (some turn.index) turns

/-- The index of the last turn, after some more were taken. -/
def lastTurn (last : Option Nat) (turns : List Turn) : Option Nat :=
  (turns.getLast?.map Turn.index).or last

theorem lastTurn_cons (last : Option Nat) (turn : Turn) (turns : List Turn) :
    lastTurn last (turn :: turns) = lastTurn (some turn.index) turns := by
  cases turns with
  | nil => rfl
  | cons next turns =>
      simp only [lastTurn, List.getLast?_cons_cons]
      cases h : (next :: turns).getLast? with
      | none => simp at h
      | some last => rfl

theorem followOn_append {count : Nat} {last : Option Nat} {turns more : List Turn} :
    FollowOn count last (turns ++ more) ↔
      FollowOn count last turns ∧ FollowOn count (lastTurn last turns) more := by
  induction turns generalizing last with
  | nil => exact (and_iff_right trivial).symm
  | cons turn turns ih =>
      rw [lastTurn_cons, List.cons_append, FollowOn, FollowOn, ih, and_assoc]

section Jump

variable (setting : Setting) (sense : Sense) (direction : Direction) {sequence : Value}
  {parts : List Value}

/-- The steps of a jump that succeeds take the turns after the last one. -/
theorem IsSequence.takes_turns (hsequence : IsSequence setting.presets sequence parts)
    (count : Nat) {last : Option Nat} {s t : Session}
    (hcondition : s.condition = sequence.normalize) (hlast : Remembers sequence last s)
    (hsteps : (steps setting sense direction count).run s = (.ok true, t)) :
    ∃ turns, TakesAll setting direction sequence parts turns s t ∧ turns.length = count ∧
      (∀ turn ∈ turns, turn.sense = sense) ∧ FollowOn parts.length last turns ∧
      Remembers sequence (lastTurn last turns) t := by
  induction count generalizing s last with
  | zero =>
      cases hsteps
      exact ⟨[], .nil, rfl, fun _ h => (nomatch h), trivial, hlast⟩
  | succ count ih =>
      obtain ⟨u, hstep, hsteps⟩ := (steps_succ_eq_true setting sense direction count s t).mp hsteps
      obtain ⟨htakes, hset⟩ := hsequence.takes_turn sense direction hcondition hlast hstep
      obtain ⟨turns, hall, hlength, hsense, hfollow, hremembers⟩ := ih hset htakes.remembers hsteps
      refine ⟨_ :: turns, .cons htakes hall, congrArg Nat.succ hlength, ?_, ⟨rfl, hfollow⟩, ?_⟩
      · exact List.forall_mem_cons.mpr ⟨rfl, hsense⟩
      · rw [lastTurn_cons]
        exact hremembers

end Jump

/-! ## Calls -/

/-- What a call asks for as a jump onward: how many steps, and which condition and direction it
gives. -/
def Call.jump? : Call → Option (Int × Value × Value)
  | .next count condition direction => some (count, condition, direction)
  | .previous count condition direction => some (-count, condition, direction)
  | .reset => none

/-- A call is a jump for a sequence, which it gives as its condition, or which is set as the
condition of the session. -/
def Call.IsFor (sequence : Value) (s : Session) (call : Call) : Prop :=
  ∃ count given way, call.jump? = some (count, given, way) ∧
    (given.normalize = sequence.normalize ∨ given = .none ∧ s.condition = sequence.normalize)

/-- All calls, each in the session that those before it leave, are jumps for a sequence. -/
def AllFor (presets : Preset.Table) (sequence : Value) : List Call → Session → Prop
  | [], _ => True
  | call :: calls, s =>
    call.IsFor sequence s ∧ AllFor presets sequence calls (call.perform presets s)

/-- Calls are made one after the other, and the steps of those that succeed take turns of a
sequence.  A call that does not succeed leaves what is remembered as it is. -/
inductive Runs (presets : Preset.Table) (sequence : Value) (parts : List Value) :
    List Call → Session → List Turn → Session → Prop
  | done {s : Session} : Runs presets sequence parts [] s [] s
  | failed {call : Call} {calls : List Call} {count : Int} {given way : Value} {s t : Session}
      {turns : List Turn} (hjump : call.jump? = some (count, given, way))
      (hfails : (next { presets } count given way s).1 ≠ .ok true)
      (hmemory : (call.perform presets s).memory = s.memory)
      (hrest : Runs presets sequence parts calls (call.perform presets s) turns t) :
      Runs presets sequence parts (call :: calls) s turns t
  | succeeded {call : Call} {calls : List Call} {count : Int} {given way : Value}
      {s ready u t : Session} {taken turns : List Turn}
      (hjump : call.jump? = some (count, given, way))
      (hsucceeds : (next { presets } count given way s).1 = .ok true)
      (hready : configure s given way = .ok ready)
      (htaken : TakesAll { presets } (headingOf count ready.direction) sequence parts taken
        { ready with running := true } u)
      (hcount : taken.length = count.natAbs) (hsense : ∀ turn ∈ taken, turn.sense = senseOf count)
      (hend : call.perform presets s = { u with running := false })
      (hrest : Runs presets sequence parts calls (call.perform presets s) turns t) :
      Runs presets sequence parts (call :: calls) s (taken ++ turns) t

/-- Turns go through the indices below a number in order, onward or back, and around at the ends:
the first one is at an end, each is next to the one before it, and as many turns onward in a row as
there are indices have each index once. -/
structure InOrder (count : Nat) (turns : List Turn) : Prop where
  first : ∀ turn, turns.head? = some turn →
    turn.index = match turn.sense with
      | .onward => 0
      | .back => count - 1
  next : turns.IsChain fun turn after =>
    (after.index : Int) = (turn.index + after.sense.step) % count
  round : ∀ window, window <:+: turns → window.length = count →
    (∀ turn ∈ window, turn.sense = .onward) → (window.map Turn.index).Perm (List.range count)

theorem turnAfter_cast {count : Nat} (hcount : 0 < count) (sense : Sense) (last : Nat) :
    (turnAfter count sense (some last) : Int) = (last + sense.step) % count :=
  Int.toNat_of_nonneg (Int.emod_nonneg _ (Int.natCast_ne_zero.mpr hcount.ne'))

theorem FollowOn.isChain {count : Nat} (hcount : 0 < count) {last : Option Nat} {turns : List Turn}
    (h : FollowOn count last turns) :
    turns.IsChain fun turn after =>
      (after.index : Int) = (turn.index + after.sense.step) % count := by
  induction turns generalizing last with
  | nil => exact .nil
  | cons turn turns ih =>
      obtain _ | ⟨after, turns⟩ := turns
      · exact .singleton _
      · refine .cons_cons ?_ (ih h.2)
        rw [h.2.1]
        exact turnAfter_cast hcount _ _

/-- Turns onward count up from the first of them. -/
theorem FollowOn.map_index {count : Nat} (hcount : 0 < count) {last : Option Nat}
    {turns : List Turn} (h : FollowOn count last turns)
    (honward : ∀ turn ∈ turns, turn.sense = .onward) :
    turns.map Turn.index =
      (List.range turns.length).map fun i => (turnAfter count .onward last + i) % count := by
  induction turns generalizing last with
  | nil => rfl
  | cons turn turns ih =>
      obtain ⟨hsense, honward⟩ := List.forall_mem_cons.mp honward
      obtain ⟨hindex, hfollow⟩ := h
      rw [hsense] at hindex
      have hnext : turnAfter count .onward (some turn.index) = (turn.index + 1) % count := by
        simp only [turnAfter, Sense.step]
        exact Int.toNat_natCast _
      have hless : turn.index < count := hindex ▸ turnAfter_lt hcount .onward last
      rw [List.map_cons, ih hfollow honward, List.length_cons, List.range_succ_eq_map,
        List.map_cons, List.map_map, ← hindex, Nat.add_zero, Nat.mod_eq_of_lt hless]
      refine congrArg _ (List.map_congr_left fun i _ => ?_)
      rw [hnext, Nat.mod_add_mod, Function.comp_apply, Nat.succ_eq_add_one, Nat.add_right_comm,
        Nat.add_assoc]

theorem FollowOn.inOrder {count : Nat} (hcount : 0 < count) {turns : List Turn}
    (h : FollowOn count none turns) : InOrder count turns where
  first turn hturn := by
    obtain _ | ⟨first, turns⟩ := turns
    · cases hturn
    · cases hturn
      exact h.1
  next := h.isChain hcount
  round window hwindow hlength honward := by
    obtain ⟨before, after, rfl⟩ := hwindow
    have hfollow := (followOn_append.mp (followOn_append.mp h).1).2
    rw [hfollow.map_index hcount honward, hlength]
    -- a round starts at some index and goes around from there
    have hrotate : (List.range count).map (fun i =>
        (turnAfter count .onward (lastTurn none before) + i) % count) =
          (List.range count).rotate (turnAfter count .onward (lastTurn none before)) := by
      refine List.ext_getElem (by simp) fun i _ _ => ?_
      simp [List.getElem_rotate, Nat.add_comm]
    rw [hrotate]
    exact List.rotate_perm _ _

section Run

variable {presets : Preset.Table} {sequence : Value} {parts : List Value}

variable (presets) in
theorem perform_of_jump? {call : Call} {count : Int} {given way : Value}
    (h : call.jump? = some (count, given, way)) (s : Session) :
    call.perform presets s = (next { presets } count given way s).2 := by
  cases call <;> cases h <;> rfl

theorem configure_isFor (hsequence : IsSequence presets sequence parts) {s ready : Session}
    {given way : Value}
    (hfor : given.normalize = sequence.normalize ∨ given = .none ∧ s.condition = sequence.normalize)
    (hready : configure s given way = .ok ready) :
    ready.condition = sequence.normalize ∧ ready.memory = s.memory := by
  obtain ⟨c, d, -, -, hset⟩ := configure_ok hready
  refine ⟨?_, by rw [hset]⟩
  rcases hfor with hgiven | ⟨rfl, hkept⟩
  · have hnone : given.isNone = false := by
      rw [← Value.isNone_normalize, hgiven, hsequence.normalize_eq]
      rfl
    rw [(configure_given hready).1 hnone, hgiven]
  · rw [← hkept]
    simp only [configure] at hready
    split at hready
    · cases hready
      rfl
    · obtain ⟨d, -, hready⟩ := Outcome.bind_eq_ok.mp hready
      cases hready
      rfl

theorem runs_of_allFor (hsequence : IsSequence presets sequence parts) (calls : List Call)
    {s : Session} (hrest : s.running = false) (last : Option Nat)
    (hlast : Remembers sequence last s) (hfor : AllFor presets sequence calls s) :
    ∃ turns t, Runs presets sequence parts calls s turns t ∧ FollowOn parts.length last turns := by
  induction calls generalizing s last with
  | nil => exact ⟨[], s, .done, trivial⟩
  | cons call calls ih =>
      obtain ⟨⟨count, given, way, hjump, hgiven⟩, hfor⟩ := hfor
      have hperform := perform_of_jump? presets hjump s
      have hstill : (call.perform presets s).running = false := by
        rw [hperform]
        exact next_rest { presets } count given way hrest
      by_cases hsucceeds : (next { presets } count given way s).1 = .ok true
      · obtain ⟨-, ready, hready, -, u, hsteps, hend⟩ := next_eq_true.mp (Prod.ext hsucceeds rfl)
        obtain ⟨hcondition, hmemory⟩ := configure_isFor hsequence hgiven hready
        have hremembers : Remembers sequence last { ready with running := true } := by
          intro key hkey
          rw [← hlast key hkey, ← hmemory]
        obtain ⟨taken, htaken, hcount, hsense, hfollow, hafter⟩ :=
          hsequence.takes_turns { presets } _ _ count.natAbs
            (s := { ready with running := true }) hcondition hremembers hsteps
        have hend := hperform.trans hend
        have hafter : Remembers sequence (lastTurn last taken) (call.perform presets s) := by
          rw [hend]
          exact hafter
        obtain ⟨turns, t, hruns, hmore⟩ := ih hstill _ hafter hfor
        exact ⟨taken ++ turns, t,
          .succeeded hjump hsucceeds hready htaken hcount hsense hend hruns,
          followOn_append.mpr ⟨hfollow, hmore⟩⟩
      · have hmemory : (call.perform presets s).memory = s.memory := by
          obtain ⟨c, d, reports, hundone, -⟩ := next_undone presets count given way hrest hsucceeds
          rw [hperform, hundone]
        have hafter : Remembers sequence last (call.perform presets s) := by
          intro key hkey
          rw [hmemory]
          exact hlast key hkey
        obtain ⟨turns, t, hruns, hfollow⟩ := ih hstill _ hafter hfor
        exact ⟨turns, t, .failed hjump hsucceeds hmemory hruns, hfollow⟩

/-- Whatever jumps are made for a sequence, onward or back, of any number of steps, and whether they
succeed or not: the steps of those that succeed take its turns in order. -/
theorem turns_in_order (hsequence : IsSequence presets sequence parts) (calls : List Call)
    {s : Session} (hrest : s.running = false)
    (hnew : ∀ key, turnKey sequence.normalize = .ok key → Value.findEntry s.memory key = none)
    (hfor : AllFor presets sequence calls s) :
    ∃ turns t, Runs presets sequence parts calls s turns t ∧ InOrder parts.length turns := by
  obtain ⟨turns, t, hruns, hfollow⟩ := runs_of_allFor hsequence calls hrest none hnew hfor
  exact ⟨turns, t, hruns, hfollow.inOrder (List.length_pos_iff.mpr hsequence.inhabited)⟩

/-- A pattern, a place and a pattern that occurs nowhere take their turns: two onward for the
condition that is set, one that fails, one back, three of which the second fails, and one onward. -/
theorem turns_in_order_with_failures :
    let parts : List Value := [.text "^[bd]$", .list [.int 2, .int 1], .text "^z$"]
    let sequence : Value := .list (.text "jmpseq" :: parts)
    let s : Session :=
      { table := ⟨[.data ["a", "b"], .separator, .data ["c", "d"]]⟩,
        condition := sequence.normalize }
    let calls : List Call := [.next 2 .none (.text "down"), .next 1 sequence .none,
      .previous 1 sequence .none, .next 3 sequence (.text "left"), .previous (-1) sequence .none]
    (IsSequence Preset.builtin sequence parts ∧ s.running = false ∧
      (∀ key, turnKey sequence.normalize = .ok key → Value.findEntry s.memory key = none) ∧
      AllFor Preset.builtin sequence calls s) ∧
      ∃ turns t, Runs Preset.builtin sequence parts calls s turns t ∧ InOrder 3 turns := by
  intro parts sequence s calls
  have hsequence : IsSequence Preset.builtin sequence parts := by
    refine ⟨rfl, List.cons_ne_nil _ _, ?_⟩
    simp only [parts, List.forall_mem_cons]
    exact ⟨⟨_, .pattern (by cbv) (by cbv)⟩, ⟨_, .place rfl rfl rfl⟩,
      ⟨_, .pattern (by cbv) (by cbv)⟩, fun _ h => nomatch h⟩
  have hfor : AllFor Preset.builtin sequence calls s :=
    ⟨⟨_, _, _, rfl, .inr ⟨rfl, rfl⟩⟩, ⟨_, _, _, rfl, .inl rfl⟩, ⟨_, _, _, rfl, .inl rfl⟩,
      ⟨_, _, _, rfl, .inl rfl⟩, ⟨_, _, _, rfl, .inl rfl⟩, trivial⟩
  have hnew : ∀ key, turnKey sequence.normalize = .ok key →
      Value.findEntry s.memory key = none := fun _ _ => rfl
  exact ⟨⟨hsequence, rfl, hnew, hfor⟩, turns_in_order hsequence calls rfl hnew hfor⟩

end Run

end Jump

end PipeTable
