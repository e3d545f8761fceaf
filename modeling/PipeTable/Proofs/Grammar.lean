import Mathlib
import PipeTable.Proofs.Endings
import PipeTable.Proofs.Return

/-! # The grammar of conditions

A value is read as a condition from the outside in: the shape of its normal form says what it is and
which parts of it are to be read next.  A part that has no place in the grammar is refused in words,
but for some that the reader breaks on.  What a jump makes of a value is decided by the first such
part that its steps come to.
-/

namespace PipeTable

/-! ## Writing values in normal form -/

namespace Value

mutual

theorem isWritable_normalize : (v : Value) → v.normalize.isWritable = v.isWritable
  | .list items => areWritable_normalizeItems items
  | .tuple items => areWritable_normalizeItems items
  | .none | .bool _ | .int _ | .float _ | .complex .. | .text _ | .bytes _ | .ellipsis | .set _
  | .dict _ | .slice .. | .expression .. => rfl

theorem areWritable_normalizeItems : (vs : List Value) →
    areWritable (normalize.normalizeItems vs) = areWritable vs
  | [] => rfl
  | v :: vs => congrArg₂ and (isWritable_normalize v) (areWritable_normalizeItems vs)

end

end Value

namespace Jump

open PipeTable.Expr (Eval Expression)

/-! ## Shapes -/

/-- The values in normal form that have a shape.  A word in front of two integers is a pattern with
an offset, whatever the word. -/
inductive Form : Value → Shape → Prop
  | word (text : String) : Form (.text text) (.word text)
  | pattern (text : String) (lines columns : Int) :
      Form (.tuple [.text text, .int lines, .int columns]) (.pattern text lines columns)
  | place {line column : Value} {l c : Option Int} (hline : coordinate? line = some l)
      (hcolumn : coordinate? column = some c) : Form (.tuple [line, column]) (.place l c)
  | connective (c : Connective) {parts : List Value}
      (hoffset : ∀ lines columns, parts ≠ [.int lines, .int columns]) :
      Form (.tuple (.text c.name :: parts)) (.connective c parts)
  | turns {parts : List Value} (hoffset : ∀ lines columns, parts ≠ [.int lines, .int columns]) :
      Form (.tuple (.text "jmpseq" :: parts)) (.turns parts)
  | sources {parts : List Value} (hoffset : ∀ lines columns, parts ≠ [.int lines, .int columns]) :
      Form (.tuple (.text "expr" :: parts)) (.sources parts)
  | compiled (source : String) (context : Context) :
      Form (.expression source context) (.compiled (.expression source context))

theorem form_of_wordShape? {head : String} {parts : List Value} {shape : Shape}
    (hoffset : ∀ lines columns, parts ≠ [.int lines, .int columns])
    (h : wordShape? head parts = some shape) : Form (.tuple (.text head :: parts)) shape := by
  unfold wordShape? at h
  split at h <;> cases h
  · exact .connective .all hoffset
  · exact .connective .any hoffset
  · exact .connective .not hoffset
  · exact .turns hoffset
  · exact .sources hoffset

theorem form_of_placeShape? {parts : List Value} {shape : Shape}
    (h : placeShape? parts = some shape) : Form (.tuple parts) shape := by
  unfold placeShape? at h
  split at h
  next line column =>
    obtain ⟨l, hline, h⟩ := Option.bind_eq_some_iff.mp h
    obtain ⟨c, hcolumn, h⟩ := Option.bind_eq_some_iff.mp h
    cases h
    exact .place hline hcolumn
  next => cases h

/-- The tests for shapes, one after the other, find the shape that a value has by its form. -/
theorem shape?_eq_some_iff {v : Value} {shape : Shape} : shape? v = some shape ↔ Form v shape := by
  constructor
  · intro h
    unfold shape? at h
    split at h
    next => cases h; exact .compiled _ _
    next => cases h; exact .word _
    next => cases h; exact .pattern _ _ _
    next hoffset => exact form_of_wordShape? (fun lines columns h => hoffset lines columns h) h
    next => exact form_of_placeShape? h
    next => cases h
  · intro h
    cases h with
    | word | pattern | compiled => rfl
    | place hline hcolumn => exact shape?_place hline hcolumn
    | connective c hoffset => exact shape?_connective c hoffset
    | turns hoffset => exact shape?_of_word hoffset
    | sources hoffset => exact shape?_of_word hoffset

/-! ## Reading -/

/-- A value that is to be read as a condition: how many levels it may nest, and the session that it
is read in. -/
structure Reading where
  levels : Nat
  value : Value
  session : Session

section Reading

variable (setting : Setting) (sense : Sense)

/-- What compiling makes of a value. -/
def Reading.outcome (r : Reading) : Except Error Condition :=
  ((compile setting sense r.levels r.value).run r.session).1

/-- The readings that a reading needs: of the condition under a name, of the part of a sequence
whose turn it is, and of the parts that a connective joins, each after those before it. -/
inductive Opens : Reading → Reading → Prop
  | preset {levels : Nat} {v condition : Value} {s : Session} {name : String}
      (hform : Form v.normalize (.word name))
      (hname : setting.presets.find? name = some condition) :
      Opens ⟨levels + 1, v, s⟩ ⟨levels, condition, s⟩
  | turn {levels : Nat} {v part : Value} {parts : List Value} {s t : Session}
      (hform : Form v.normalize (.turns parts))
      (hturn : (takeTurn sense v.normalize parts).run s = (.ok part, t)) :
      Opens ⟨levels + 1, v, s⟩ ⟨levels, part, t⟩
  | part {levels : Nat} {v part : Value} {before after : List Value} {c : Connective}
      {compiled : List Condition} {s t : Session}
      (hform : Form v.normalize (.connective c (before ++ part :: after)))
      (hbefore : (compileAll setting sense levels before).run s = (.ok compiled, t)) :
      Opens ⟨levels + 1, v, s⟩ ⟨levels, part, t⟩

/-- A value comes to be read on the way of reading another one. -/
abbrev Reaches : Reading → Reading → Prop := Relation.ReflTransGen (Opens setting sense)

/-- A value that stands for no condition as a whole, which its literal shows. -/
inductive Misfit : Reading → Prop
  | tooDeep {v : Value} {s : Session} : Misfit ⟨0, v, s⟩
  | formless {levels : Nat} {v : Value} {s : Session} (hform : ∀ shape, ¬ Form v.normalize shape) :
      Misfit ⟨levels + 1, v, s⟩
  | sources {levels : Nat} {v : Value} {s : Session} {parts : List Value}
      (hform : Form v.normalize (.sources parts)) (hcount : parts.length ≠ 1) :
      Misfit ⟨levels + 1, v, s⟩
  | noOperand {levels : Nat} {v : Value} {s : Session} {c : Connective}
      (hform : Form v.normalize (.connective c [])) : Misfit ⟨levels + 1, v, s⟩
  | operands {levels : Nat} {v : Value} {s t : Session} {parts : List Value}
      {compiled : List Condition} (hform : Form v.normalize (.connective .not parts))
      (hcount : 1 < parts.length)
      (hparts : (compileAll setting sense levels parts).run s = (.ok compiled, t)) :
      Misfit ⟨levels + 1, v, s⟩

/-- A value is read as a pattern: it is a text that names no preset, or a pattern with an offset. -/
inductive AsPattern : Value → String → Prop
  | word {v : Value} {text : String} (hform : Form v.normalize (.word text))
      (hname : setting.presets.find? text = none) : AsPattern v text
  | offset {v : Value} {text : String} {lines columns : Int}
      (hform : Form v.normalize (.pattern text lines columns)) : AsPattern v text

/-- A value is read as an expression, whose source is a value of its own. -/
inductive AsSource : Value → Value → Prop
  | source {v source : Value} (hform : Form v.normalize (.sources [source])) : AsSource v source
  | compiled {v source : Value} (hform : Form v.normalize (.compiled source)) : AsSource v source

/-- A value outside the grammar. -/
inductive Refused : Reading → Prop
  | misfit {r : Reading} (h : Misfit setting sense r) (hwritable : r.value.isWritable = true) :
      Refused r
  | emptySequence {levels : Nat} {v : Value} {s : Session} (hform : Form v.normalize (.turns [])) :
      Refused ⟨levels + 1, v, s⟩
  | pattern {levels : Nat} {v : Value} {s : Session} {text : String} (h : AsPattern setting v text)
      (hp : Pattern.Compiled.ofText text = .error .badPattern) : Refused ⟨levels + 1, v, s⟩
  | source {levels : Nat} {v source : Value} {s : Session} {e : Error} (h : AsSource v source)
      (he : Expression.ofValue source registry setting.registry = .error e)
      (hmalformed : e.isMalformed = true) : Refused ⟨levels + 1, v, s⟩

/-- A value that the reader breaks on instead of refusing it: one whose literal has to be written
and has an integer with too many digits, a sequence for which something other than an integer is
remembered, a pattern with modes that clash or with a repetition count that is too large, and an
expression whose source is no text or has a null character. -/
inductive Slips : Reading → Prop
  | misfit {r : Reading} (h : Misfit setting sense r) (hwritable : r.value.isWritable = false) :
      Slips r
  | sequence {levels : Nat} {v : Value} {s : Session} {parts : List Value}
      (hform : Form v.normalize (.turns parts)) (hwritable : v.isWritable = false) :
      Slips ⟨levels + 1, v, s⟩
  | memory {levels : Nat} {v key remembered : Value} {s : Session} {parts : List Value}
      (hform : Form v.normalize (.turns parts)) (hparts : parts ≠ [])
      (hkey : turnKey v.normalize = .ok key)
      (hremembered : Value.findEntry s.memory key = some remembered)
      (hnone : remembered.isNone = false) (hinteger : remembered.integer? = none) :
      Slips ⟨levels + 1, v, s⟩
  | pattern {levels : Nat} {v : Value} {s : Session} {text : String} {fault : Fault}
      (h : AsPattern setting v text) (hp : Pattern.Compiled.ofText text = .error fault)
      (hfault : fault ≠ .badPattern) : Slips ⟨levels + 1, v, s⟩
  | noText {levels : Nat} {v source : Value} {s : Session} (h : AsSource v source)
      (htext : ∀ text, source ≠ .text text) (hexpression : ∀ text c, source ≠ .expression text c)
      (htrue : source.isTrue = true) : Slips ⟨levels + 1, v, s⟩
  | null {levels : Nat} {v source : Value} {s : Session} {text : String} (h : AsSource v source)
      (htext : source = .text text ∨ ∃ c, source = .expression text c)
      (hnull : '\x00' ∈ text.toList) : Slips ⟨levels + 1, v, s⟩

/-! ## Errors of readings -/

variable {setting sense}

theorem run_ofOutcome {α : Type} (x : Except Error α) (s : Session) :
    ((ofOutcome x).run s).1 = x := by
  cases x <;> rfl

theorem compileAll_error {levels : Nat} {before after : List Value} {part : Value}
    {s t : Session} {compiled : List Condition} {e : Error}
    (hbefore : (compileAll setting sense levels before).run s = (.ok compiled, t))
    (he : ((compile setting sense levels part).run t).1 = .error e) :
    ((compileAll setting sense levels (before ++ part :: after)).run s).1 = .error e := by
  induction before generalizing s compiled with
  | nil =>
      rw [compileAll] at hbefore
      cases hbefore
      rw [List.nil_append, compileAll]
      exact Eval.run_bind_error he
  | cons first before ih =>
      rw [compileAll] at hbefore
      obtain ⟨c, u, hfirst, hbefore⟩ := Eval.run_bind_eq_ok hbefore
      obtain ⟨cs, w, hmore, hbefore⟩ := Eval.run_bind_eq_ok hbefore
      cases hbefore
      rw [List.cons_append, compileAll, Eval.run_bind_ok hfirst]
      exact Eval.run_bind_error (ih hmore)

theorem length_compileAll {levels : Nat} {parts : List Value} {compiled : List Condition}
    {s t : Session} (h : (compileAll setting sense levels parts).run s = (.ok compiled, t)) :
    compiled.length = parts.length := by
  induction parts generalizing s compiled with
  | nil =>
      rw [compileAll] at h
      cases h
      rfl
  | cons part parts ih =>
      rw [compileAll] at h
      obtain ⟨c, u, -, h⟩ := Eval.run_bind_eq_ok h
      obtain ⟨cs, w, hmore, h⟩ := Eval.run_bind_eq_ok h
      cases h
      exact congrArg Nat.succ (ih hmore)

variable (setting sense) in
/-- Values are compiled one after the other, up to the first that cannot be. -/
theorem compileAll_settles (levels : Nat) (parts : List Value) (s : Session) :
    (∃ compiled t, (compileAll setting sense levels parts).run s = (.ok compiled, t)) ∨
      ∃ before part after compiled t e, parts = before ++ part :: after ∧
        (compileAll setting sense levels before).run s = (.ok compiled, t) ∧
        ((compile setting sense levels part).run t).1 = .error e := by
  induction parts generalizing s with
  | nil => exact .inl ⟨[], s, compileAll_nil levels⟩
  | cons part parts ih =>
      rcases hpart : (compile setting sense levels part).run s with ⟨e | c, t⟩
      · exact .inr ⟨[], part, parts, [], s, e, rfl, compileAll_nil levels, by rw [hpart]⟩
      have hcons : ∀ {more cs u}, (compileAll setting sense levels more).run t = (.ok cs, u) →
          (compileAll setting sense levels (part :: more)).run s = (.ok (c :: cs), u) := by
        intro more cs u hmore
        rw [compileAll, Eval.run_bind_ok hpart, Eval.run_bind_ok hmore]
        rfl
      rcases ih t with ⟨cs, u, hmore⟩ | ⟨before, other, after, cs, u, e, rfl, hbefore, he⟩
      · exact .inl ⟨c :: cs, u, hcons hmore⟩
      · exact .inr ⟨part :: before, other, after, c :: cs, u, e, rfl, hcons hbefore, he⟩

/-- A reading ends in the error of a reading that it needs. -/
theorem Opens.outcome_error {r next : Reading} (h : Opens setting sense r next) {e : Error}
    (he : next.outcome setting sense = .error e) : r.outcome setting sense = .error e := by
  cases h with
  | preset hform hname =>
      simp only [Reading.outcome, compile, shape?_eq_some_iff.mpr hform, hname]
      exact he
  | turn hform hturn =>
      rw [Reading.outcome, compile_turns setting sense (shape?_eq_some_iff.mpr hform) hturn]
      exact he
  | part hform hbefore =>
      simp only [Reading.outcome, compile, shape?_eq_some_iff.mpr hform]
      exact Eval.run_bind_error (compileAll_error hbefore he)

theorem Reaches.outcome_error {r last : Reading} (h : Reaches setting sense r last) {e : Error}
    (he : last.outcome setting sense = .error e) : r.outcome setting sense = .error e := by
  induction h using Relation.ReflTransGen.head_induction_on with
  | refl => exact he
  | head hopens _ ih => exact hopens.outcome_error ih

/-- A value that stands for no condition as a whole is refused with its literal. -/
theorem Misfit.outcome_eq {r : Reading} (h : Misfit setting sense r) :
    ∃ cause : Value → ParseError, ∃ v : Value, v.isWritable = r.value.isWritable ∧
      r.outcome setting sense = .error (refuse cause v) := by
  cases h with
  | @tooDeep v s => exact ⟨.tooDeep, v, rfl, by rw [Reading.outcome, compile]; rfl⟩
  | @formless levels v s hform =>
      have hshape : shape? v.normalize = none := by
        rw [← Option.not_isSome_iff_eq_none, Option.isSome_iff_exists]
        rintro ⟨shape, hshape⟩
        exact hform shape (shape?_eq_some_iff.mp hshape)
      refine ⟨.badCondition, v.normalize, v.isWritable_normalize, ?_⟩
      simp only [Reading.outcome, compile, hshape]
      rfl
  | @sources levels v s parts hform hcount =>
      refine ⟨.notOneExpression, v.normalize, v.isWritable_normalize, ?_⟩
      simp only [Reading.outcome, compile, shape?_eq_some_iff.mpr hform]
      obtain _ | ⟨source, _ | ⟨other, more⟩⟩ := parts
      · rfl
      · exact absurd rfl hcount
      · rfl
  | @noOperand levels v s c hform =>
      refine ⟨.noOperand c.name, v.normalize, v.isWritable_normalize, ?_⟩
      simp only [Reading.outcome, compile, shape?_eq_some_iff.mpr hform]
      rw [Eval.run_bind_ok (compileAll_nil levels), run_ofOutcome, connect]
  | @operands levels v s t parts compiled hform hcount hparts =>
      refine ⟨.notOneOperand, v.normalize, v.isWritable_normalize, ?_⟩
      simp only [Reading.outcome, compile, shape?_eq_some_iff.mpr hform]
      rw [Eval.run_bind_ok hparts, run_ofOutcome]
      rw [← length_compileAll hparts] at hcount
      obtain _ | ⟨first, _ | ⟨second, more⟩⟩ := compiled
      · cases hcount
      · exact absurd hcount (Nat.lt_irrefl 1)
      · rfl

/-! ### Turns -/

theorem turnKey_unwritable {sequence : Value} (h : sequence.isWritable = false) :
    turnKey sequence = .error .badValue :=
  if_neg (by rw [h]; exact Bool.false_ne_true)

variable (sense) in
theorem takeTurn_of_key {sequence key : Value} (hkey : turnKey sequence = .ok key)
    {parts : List Value} (hparts : parts ≠ []) (s : Session) :
    (takeTurn sense sequence parts).run s =
      (do
        let turn ← Eval.ofFault
          (nextTurn sense ((Value.findEntry s.memory key).getD .none) parts.length)
        match parts[turn]? with
        | some part =>
          modify fun s => { s with memory := Value.putEntry s.memory key (.int turn) }
          return part
        | none => throw (.parse (.emptySequence sequence)) : Eval Session Value).run s := by
  have hempty : parts.isEmpty = false := by simpa using hparts
  rw [takeTurn, hkey, hempty]
  rfl

theorem nextTurn_lt {remembered : Value} {count turn : Nat} (hcount : 0 < count)
    (h : nextTurn sense remembered count = .ok turn) : turn < count := by
  unfold nextTurn at h
  split at h
  · cases h
    cases sense
    · exact hcount
    · exact Nat.sub_lt hcount Nat.one_pos
  next remembered last _ _ =>
    cases h
    have hnonneg := Int.emod_nonneg (last + sense.step) (Int.natCast_ne_zero.mpr hcount.ne')
    have hless := Int.emod_lt_of_pos (last + sense.step) (Int.natCast_pos.mpr hcount)
    omega
  · cases h

theorem of_nextTurn_error {remembered : Value} {count : Nat} {fault : Fault}
    (h : nextTurn sense remembered count = .error fault) :
    remembered.isNone = false ∧ remembered.integer? = none := by
  unfold nextTurn at h
  cases remembered <;> first | exact ⟨rfl, rfl⟩ | cases h

variable (sense) in
theorem nextTurn_mismatch {remembered : Value} (hnone : remembered.isNone = false)
    (hinteger : remembered.integer? = none) (count : Nat) :
    nextTurn sense remembered count = .error .mismatch := by
  unfold nextTurn
  rw [hinteger]
  split
  next => cases hnone
  next h => cases h
  next => rfl

variable (sense) in
/-- A sequence takes a turn unless it is empty, its literal cannot be written, or what is remembered
for it is no integer. -/
theorem takeTurn_settles (sequence : Value) (parts : List Value) (s : Session) :
    (∃ part t, (takeTurn sense sequence parts).run s = (.ok part, t)) ∨
      sequence.isWritable = false ∨ parts = [] ∨
      parts ≠ [] ∧ ∃ key remembered, turnKey sequence = .ok key ∧
        Value.findEntry s.memory key = some remembered ∧ remembered.isNone = false ∧
        remembered.integer? = none := by
  by_cases hparts : parts = []
  · exact .inr (.inr (.inl hparts))
  cases hkey : turnKey sequence with
  | error fault =>
      refine .inr (.inl ?_)
      by_contra hwritable
      rw [turnKey, if_pos (by simpa using hwritable)] at hkey
      cases hkey
  | ok key =>
      have hrun := takeTurn_of_key sense hkey hparts s
      cases hturn : nextTurn sense ((Value.findEntry s.memory key).getD .none) parts.length with
      | ok turn =>
          have hlt := nextTurn_lt (List.length_pos_iff.mpr hparts) hturn
          rw [hturn] at hrun
          refine .inl ⟨parts[turn],
            { s with memory := Value.putEntry s.memory key (.int turn) }, hrun.trans ?_⟩
          simp only [Eval.ofFault, pure_bind, List.getElem?_eq_getElem hlt]
          rfl
      | error fault =>
          have hremembered := of_nextTurn_error hturn
          cases hfind : Value.findEntry s.memory key with
          | none =>
              rw [hfind] at hremembered
              cases hremembered.1
          | some remembered =>
              rw [hfind] at hremembered
              exact .inr (.inr (.inr ⟨hparts, key, remembered, rfl, hfind, hremembered⟩))

variable (sense) in
theorem AsPattern.outcome_eq {v : Value} {text : String} (h : AsPattern setting v text)
    (levels : Nat) (s : Session) :
    ∃ lines columns, Reading.outcome setting sense ⟨levels + 1, v, s⟩ =
      patternAt text lines columns := by
  cases h with
  | word hform hname =>
      refine ⟨0, 0, ?_⟩
      simp only [Reading.outcome, compile, shape?_eq_some_iff.mpr hform, hname]
      exact run_ofOutcome _ _
  | @offset lines columns hform =>
      refine ⟨lines, columns, ?_⟩
      simp only [Reading.outcome, compile, shape?_eq_some_iff.mpr hform]
      exact run_ofOutcome _ _

theorem AsSource.outcome_eq {levels : Nat} {v source : Value} {s : Session}
    (h : AsSource v source) :
    Reading.outcome setting sense ⟨levels + 1, v, s⟩ = compileExpression setting source := by
  cases h with
  | source hform =>
      simp only [Reading.outcome, compile, shape?_eq_some_iff.mpr hform]
      exact run_ofOutcome _ _
  | compiled hform =>
      simp only [Reading.outcome, compile, shape?_eq_some_iff.mpr hform]
      exact run_ofOutcome _ _

/-- A value outside the grammar is reported as malformed. -/
theorem Refused.outcome_error {r : Reading} (h : Refused setting sense r) :
    ∃ e, r.outcome setting sense = .error e ∧ e.isMalformed = true := by
  cases h with
  | misfit h hwritable =>
      obtain ⟨cause, v, hv, heq⟩ := h.outcome_eq
      exact ⟨_, heq, by rw [refuse, hv, hwritable]; rfl⟩
  | @emptySequence levels v s hform =>
      have hwritable : v.normalize.isWritable = true := by
        generalize v.normalize = w at hform
        cases hform
        rfl
      refine ⟨.parse (.emptySequence v.normalize), ?_, rfl⟩
      simp only [Reading.outcome, compile, shape?_eq_some_iff.mpr hform]
      apply Eval.run_bind_error
      rw [takeTurn, turnKey, if_pos hwritable]
      rfl
  | @pattern levels v s text h hp =>
      obtain ⟨lines, columns, heq⟩ := h.outcome_eq sense levels s
      exact ⟨_, by rw [heq, patternAt, hp], rfl⟩
  | source h he hmalformed =>
      exact ⟨_, by rw [h.outcome_eq, compileExpression, he]; rfl, hmalformed⟩

/-- A value that the reader breaks on ends in a fault. -/
theorem Slips.outcome_error {r : Reading} (h : Slips setting sense r) :
    ∃ fault, r.outcome setting sense = .error (.fault fault) := by
  cases h with
  | misfit h hwritable =>
      obtain ⟨cause, v, hv, heq⟩ := h.outcome_eq
      exact ⟨.badValue, by rw [heq, refuse, hv, hwritable]; rfl⟩
  | @sequence levels v s parts hform hwritable =>
      rw [← v.isWritable_normalize] at hwritable
      refine ⟨.badValue, ?_⟩
      simp only [Reading.outcome, compile, shape?_eq_some_iff.mpr hform]
      apply Eval.run_bind_error
      rw [takeTurn, turnKey_unwritable hwritable]
      rfl
  | @memory levels v key remembered s parts hform hparts hkey hremembered hnone hinteger =>
      have hturn := nextTurn_mismatch sense hnone hinteger parts.length
      refine ⟨.mismatch, ?_⟩
      simp only [Reading.outcome, compile, shape?_eq_some_iff.mpr hform]
      apply Eval.run_bind_error
      rw [takeTurn_of_key sense hkey hparts, hremembered, Option.getD_some, hturn]
      rfl
  | @pattern levels v s text fault h hp hfault =>
      obtain ⟨lines, columns, heq⟩ := h.outcome_eq sense levels s
      refine ⟨fault, ?_⟩
      rw [heq, patternAt, hp]
      cases fault <;> first | rfl | exact absurd rfl hfault
  | @noText levels v source s h htext hexpression htrue =>
      refine ⟨.noMember, ?_⟩
      rw [h.outcome_eq, compileExpression, Expression.ofValue]
      · rw [if_pos htrue]
        rfl
      · exact htext
      · exact hexpression
  | @null levels v source s text h htext hnull =>
      refine ⟨.badValue, ?_⟩
      rw [h.outcome_eq, compileExpression]
      rcases htext with rfl | ⟨c, rfl⟩
      · rw [Expression.ofValue, Filter.compile_null hnull]
        rfl
      · rw [Expression.ofValue, Filter.compile_null hnull]
        rfl

/-! ### What readings come to -/

variable (setting sense) in
/-- The reading comes to a value outside the grammar. -/
def Reading.Outside (r : Reading) : Prop :=
  ∃ last, Reaches setting sense r last ∧ Refused setting sense last

variable (setting sense) in
/-- The reading comes to a value that the reader breaks on. -/
def Reading.Breaks (r : Reading) : Prop :=
  ∃ last, Reaches setting sense r last ∧ Slips setting sense last

theorem Reading.Outside.outcome_error {r : Reading} (h : r.Outside setting sense) :
    ∃ e, r.outcome setting sense = .error e ∧ e.isMalformed = true := by
  obtain ⟨last, hreaches, hrefused⟩ := h
  obtain ⟨e, he, hmalformed⟩ := hrefused.outcome_error
  exact ⟨e, hreaches.outcome_error he, hmalformed⟩

theorem Reading.Breaks.outcome_error {r : Reading} (h : r.Breaks setting sense) :
    ∃ fault, r.outcome setting sense = .error (.fault fault) := by
  obtain ⟨last, hreaches, hslips⟩ := h
  obtain ⟨fault, hfault⟩ := hslips.outcome_error
  exact ⟨fault, hreaches.outcome_error hfault⟩

/-- A value compiles, or its reading comes to a part that is outside the grammar, or to one that the
reader breaks on. -/
def Reading.Settles (setting : Setting) (sense : Sense) (r : Reading) : Prop :=
  (∃ c, r.outcome setting sense = .ok c) ∨ r.Outside setting sense ∨ r.Breaks setting sense

theorem Reading.Settles.of_refused {r : Reading} (h : Refused setting sense r) :
    r.Settles setting sense :=
  .inr (.inl ⟨r, .refl, h⟩)

theorem Reading.Settles.of_slips {r : Reading} (h : Slips setting sense r) :
    r.Settles setting sense :=
  .inr (.inr ⟨r, .refl, h⟩)

theorem Reading.Settles.of_misfit {r : Reading} (h : Misfit setting sense r) :
    r.Settles setting sense := by
  cases hwritable : r.value.isWritable with
  | true => exact .of_refused (.misfit h hwritable)
  | false => exact .of_slips (.misfit h hwritable)

theorem Reading.Settles.of_opens {r next : Reading} (h : Opens setting sense r next)
    (hnext : next.Settles setting sense)
    (hok : ∀ c, next.outcome setting sense = .ok c → ∃ c, r.outcome setting sense = .ok c) :
    r.Settles setting sense := by
  rcases hnext with ⟨c, hc⟩ | ⟨last, hreaches, hrefused⟩ | ⟨last, hreaches, hslips⟩
  · exact .inl (hok c hc)
  · exact .inr (.inl ⟨last, .head h hreaches, hrefused⟩)
  · exact .inr (.inr ⟨last, .head h hreaches, hslips⟩)

theorem AsPattern.settles {levels : Nat} {v : Value} {s : Session} {text : String}
    (h : AsPattern setting v text) : Reading.Settles setting sense ⟨levels + 1, v, s⟩ := by
  obtain ⟨lines, columns, heq⟩ := h.outcome_eq sense levels s
  cases hp : Pattern.Compiled.ofText text with
  | ok p => exact .inl ⟨_, heq.trans (patternAt_ok hp lines columns)⟩
  | error fault =>
      by_cases hfault : fault = .badPattern
      · subst hfault
        exact .of_refused (.pattern h hp)
      · exact .of_slips (.pattern h hp hfault)

/-- What cannot be an expression is malformed, or it is no text, or it has a null character. -/
theorem of_ofValue_error {source : Value} {standard registry : Expr.Registry Session} {e : Error}
    (h : Expression.ofValue source standard registry = .error e) :
    e.isMalformed = true ∨
      ((∀ text, source ≠ .text text) ∧ (∀ text c, source ≠ .expression text c) ∧
        source.isTrue = true) ∨
      ∃ text, (source = .text text ∨ ∃ c, source = .expression text c) ∧ '\x00' ∈ text.toList := by
  unfold Expression.ofValue at h
  split at h
  next text =>
    by_cases hnull : '\x00' ∈ text.toList
    · exact .inr (.inr ⟨text, .inl rfl, hnull⟩)
    · exact .inl (Filter.compile_malformed hnull h)
  next text c =>
    by_cases hnull : '\x00' ∈ text.toList
    · exact .inr (.inr ⟨text, .inr ⟨c, rfl⟩, hnull⟩)
    · exact .inl (Filter.compile_malformed hnull h)
  next htext hexpression =>
    split at h
    next htrue => exact .inr (.inl ⟨htext, hexpression, htrue⟩)
    next =>
      cases h
      exact .inl rfl

theorem AsSource.settles {levels : Nat} {v source : Value} {s : Session} (h : AsSource v source) :
    Reading.Settles setting sense ⟨levels + 1, v, s⟩ := by
  cases hsource : Expression.ofValue source registry setting.registry with
  | ok e =>
      refine .inl ⟨.expression e, ?_⟩
      rw [h.outcome_eq, compileExpression, hsource]
      rfl
  | error e =>
      rcases of_ofValue_error hsource with hmalformed | ⟨htext, hexpression, htrue⟩ |
        ⟨text, htext, hnull⟩
      · exact .of_refused (.source h hsource hmalformed)
      · exact .of_slips (.noText h htext hexpression htrue)
      · exact .of_slips (.null h htext hnull)

/-- Where the parts that a connective joins are read, the value settles. -/
theorem settles_connective {levels : Nat} {v : Value} {s : Session} {c : Connective}
    {parts : List Value} (hform : Form v.normalize (.connective c parts))
    (hparts : ∀ part t, Reading.Settles setting sense ⟨levels, part, t⟩) :
    Reading.Settles setting sense ⟨levels + 1, v, s⟩ := by
  rcases compileAll_settles setting sense levels parts s with
    ⟨compiled, t, hall⟩ | ⟨before, part, after, compiled, t, e, rfl, hbefore, he⟩
  · have hconnect : Reading.outcome setting sense ⟨levels + 1, v, s⟩ =
        connect c v.normalize compiled := by
      simp only [Reading.outcome, compile, shape?_eq_some_iff.mpr hform]
      rw [Eval.run_bind_ok hall, run_ofOutcome]
    have hlength := length_compileAll hall
    obtain _ | ⟨first, more⟩ := compiled
    · obtain rfl := List.length_eq_zero_iff.mp hlength.symm
      exact .of_misfit (.noOperand hform)
    cases c with
    | all => exact .inl ⟨_, hconnect⟩
    | any => exact .inl ⟨_, hconnect⟩
    | not =>
        obtain _ | ⟨second, more⟩ := more
        · exact .inl ⟨_, hconnect⟩
        · refine .of_misfit (.operands hform ?_ hall)
          rw [← hlength]
          simp
  · refine .of_opens (.part hform hbefore) (hparts part t) fun c hc => ?_
    rw [Reading.outcome, he] at hc
    cases hc

variable (setting sense) in
/-- Reading a value as a condition has one of three outcomes: the value compiles, or it is outside
the grammar, or the reader breaks on it. -/
theorem compile_settles (r : Reading) : r.Settles setting sense := by
  obtain ⟨levels, v, s⟩ := r
  induction levels generalizing v s with
  | zero => exact .of_misfit .tooDeep
  | succ levels ih =>
      cases hshape : shape? v.normalize with
      | none =>
          refine .of_misfit (.formless fun shape hform => ?_)
          rw [shape?_eq_some_iff.mpr hform] at hshape
          cases hshape
      | some shape =>
          have hform := shape?_eq_some_iff.mp hshape
          cases shape with
          | word text =>
              cases hname : setting.presets.find? text with
              | none => exact (AsPattern.word hform hname).settles
              | some condition =>
                  refine .of_opens (.preset hform hname) (ih condition s) fun c hc => ⟨c, ?_⟩
                  simp only [Reading.outcome, compile, hshape, hname]
                  exact hc
          | pattern text lines columns => exact (AsPattern.offset hform).settles
          | place line column =>
              refine .inl ⟨placeOn s.grid line column, ?_⟩
              simp only [Reading.outcome, compile, hshape]
              rfl
          | turns parts =>
              rcases takeTurn_settles sense v.normalize parts s with ⟨part, t, hturn⟩ |
                hwritable | rfl | ⟨hparts, key, remembered, hkey, hfind, hnone, hinteger⟩
              · refine .of_opens (.turn hform hturn) (ih part t) fun c hc => ⟨c, ?_⟩
                rw [Reading.outcome, compile_turns setting sense hshape hturn]
                exact hc
              · rw [v.isWritable_normalize] at hwritable
                exact .of_slips (.sequence hform hwritable)
              · exact .of_refused (.emptySequence hform)
              · exact .of_slips (.memory hform hparts hkey hfind hnone hinteger)
          | connective c parts => exact settles_connective hform ih
          | sources parts =>
              obtain _ | ⟨source, _ | ⟨other, more⟩⟩ := parts
              · exact .of_misfit (.sources hform (by simp))
              · exact (AsSource.source hform).settles
              · exact .of_misfit (.sources hform (by simp))
          | compiled source => exact (AsSource.compiled hform).settles

end Reading

/-! ## Steps -/

section Steps

variable {setting : Setting} {sense : Sense} {direction : Direction}

variable (direction) in
theorem step_error {s : Session} {e : Error}
    (h : Reading.outcome setting sense ⟨maxDepth + 1, s.condition, s⟩ = .error e) :
    ((step setting sense direction).run s).1 = .error e := by
  rw [step, Eval.run_bind_ok (Eval.run_get s)]
  exact Eval.run_bind_error h

end Steps

/-! ## Jumps -/

section Jumps

variable {s : Session} {condition way : Value} {direction : Direction}

end Jumps

end Jump

end PipeTable
