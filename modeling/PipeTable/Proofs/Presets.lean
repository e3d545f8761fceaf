import Mathlib
import PipeTable.Preset
import PipeTable.Proofs.Layers
import PipeTable.Proofs.Literals

/-! # Tables of presets

The entries of a register lie over the built-in presets, the last entry of a name counting, and
lines without an entry change nothing.  Only a line whose condition has the form of a literal and no
value keeps the table from coming about.
-/

namespace PipeTable.Preset

variable {line name : String} {condition : Value} {f : Fault}

/-- The text is read as this term. -/
def IsTerm (text : String) (t : Expr.Term) : Prop :=
  Expr.Term.read? (Text.unifyNewlinesChars text.toList) = some t

/-- The condition that a text that is not empty spells: the value of the literal that it is, with
tuples for lists, or the text itself if it is none. -/
def Spells (text : String) (condition : Value) : Prop :=
  (∃ t, IsTerm text t ∧ ∃ v, t.literal = .ok v ∧ condition = v.normalize) ∨
    (∀ t, IsTerm text t → t.literal = .error .badValue) ∧ condition = .text text

/-- The line has a name behind its first hash sign outside quotes, and before it spells a
condition that is not the absent one. -/
structure Enters (line name : String) (condition : Value) : Prop where
  name_eq : name = Text.strip (split (Text.strip line)).2
  name_ne : name ≠ ""
  filled : Text.strip (split (Text.strip line)).1 ≠ ""
  spelled : Spells (Text.strip (split (Text.strip line)).1) condition
  present : condition ≠ .none

/-- What stands before the first hash sign of the line outside quotes has the form of a literal and
no value, for this reason. -/
def Breaks (line : String) (f : Fault) : Prop :=
  ∃ t, IsTerm (Text.strip (split (Text.strip line)).1) t ∧ t.Valueless f

/-- The last line with an entry of this name has this condition. -/
def LastEnters (lines : List String) (name : String) (condition : Value) : Prop :=
  ∃ before line after, lines = before ++ line :: after ∧ Enters line name condition ∧
    ∀ other ∈ after, ∀ c, ¬ Enters other name c

/-- The entry of a line, if it is read as one. -/
def entryOf? (line : String) : Option Entry :=
  match Entry.ofText line with
  | .ok entry => entry
  | .error _ => none

/-- The condition that a line has for a name. -/
def conditionOf? (name line : String) : Option Value :=
  (entryOf? line).bind fun entry => if entry.description = name then some entry.condition else none

/-! ## Lines -/

theorem not_isTerm_empty (t : Expr.Term) : ¬ IsTerm "" t := by
  have hread : Expr.Term.read? (Text.unifyNewlinesChars []) = none := rfl
  rw [IsTerm, String.toList_empty, hread]
  exact nofun

theorem readCondition_eq_error_iff {text : String} :
    readCondition text = .error f ↔ ∃ t, IsTerm (Text.strip text) t ∧ t.Valueless f := by
  by_cases hempty : Text.strip text = ""
  · rw [readCondition, if_pos hempty, hempty]
    exact iff_of_false nofun fun ⟨t, ht, _⟩ => not_isTerm_empty t ht
  · rw [readCondition, if_neg hempty]
    unfold IsTerm
    cases hread : Expr.Term.read? (Text.unifyNewlinesChars (Text.strip text).toList) with
    | none => simp [Expr.readLiteral, hread]
    | some t =>
        simp only [Expr.readLiteral, hread, Option.some.injEq, exists_eq_left',
          ← Expr.Term.literal_eq_error_iff]
        split
        next h => simp [h]
        next h => simp [h, eq_comm]
        next g hg h =>
          simp only [h, Except.error.injEq, iff_self_and]
          rintro rfl
          exact hg

theorem readCondition_eq_ok_iff {text : String} (hfilled : Text.strip text ≠ "") :
    readCondition text = .ok condition ↔ Spells (Text.strip text) condition := by
  rw [readCondition, if_neg hfilled]
  unfold Spells IsTerm
  cases hread : Expr.Term.read? (Text.unifyNewlinesChars (Text.strip text).toList) with
  | none => simp [Expr.readLiteral, hread, eq_comm]
  | some t =>
      simp only [Expr.readLiteral, hread, Option.some.injEq, exists_eq_left', forall_eq']
      cases t.literal with
      | ok v => simp [eq_comm]
      | error g => cases g <;> simp [eq_comm]

theorem ofText_eq_error_iff : Entry.ofText line = .error f ↔ Breaks line f := by
  rw [Breaks, ← readCondition_eq_error_iff, Entry.ofText]
  by_cases hempty : Text.strip line = ""
  · have hread : readCondition (split "").1 = .ok .none := rfl
    rw [if_pos hempty, hempty, hread]
    exact iff_of_false nofun nofun
  · rw [if_neg hempty]
    simp only [Outcome.bind_eq_error]
    constructor
    · rintro (h | ⟨condition, -, h⟩)
      · exact h
      · split at h <;> cases h
    · exact .inl

theorem ofText_eq_some_iff {entry : Entry} :
    Entry.ofText line = .ok (some entry) ↔
      Enters line entry.description entry.condition ∧ entry.source = Text.strip line := by
  rw [Entry.ofText]
  by_cases hempty : Text.strip line = ""
  · rw [if_pos hempty]
    refine iff_of_false nofun fun ⟨h, _⟩ => h.name_ne ?_
    rw [h.name_eq, hempty]
    rfl
  rw [if_neg hempty]
  simp only [Outcome.bind_eq_ok]
  constructor
  · rintro ⟨condition, hread, h⟩
    split at h
    next => exact nomatch Except.ok.inj h
    next hkept =>
      obtain rfl := Option.some.inj (Except.ok.inj h)
      obtain ⟨hpresent, hname⟩ := not_or.mp (mt Bool.or_eq_true_iff.mpr hkept)
      -- a condition that is left out would be read as the absent one
      have hfilled : Text.strip (split (Text.strip line)).1 ≠ "" := by
        intro hleft
        rw [readCondition, if_pos hleft] at hread
        obtain rfl := Except.ok.inj hread
        exact hpresent rfl
      refine ⟨⟨rfl, of_decide_eq_false (Bool.eq_false_of_not_eq_true hname), hfilled,
        (readCondition_eq_ok_iff hfilled).mp hread, ?_⟩, rfl⟩
      rintro rfl
      exact hpresent rfl
  · rintro ⟨h, hsource⟩
    refine ⟨entry.condition, (readCondition_eq_ok_iff h.filled).mpr h.spelled, ?_⟩
    have hpresent : entry.condition.isNone = false := by
      cases hcondition : entry.condition <;> first | rfl | exact absurd hcondition h.present
    rw [hpresent, ← h.name_eq, ← hsource, Bool.false_or, if_neg (by simpa using h.name_ne)]
    rfl

theorem entryOf?_eq_some_iff {entry : Entry} :
    entryOf? line = some entry ↔ Entry.ofText line = .ok (some entry) := by
  rw [entryOf?]
  split
  next h => rw [h, Except.ok.injEq]
  next h => simp [h]

theorem entryOf?_eq_none (h : ∀ name c, ¬ Enters line name c) : entryOf? line = none := by
  rw [Option.eq_none_iff_forall_ne_some]
  intro entry hentry
  exact h _ _ (ofText_eq_some_iff.mp (entryOf?_eq_some_iff.mp hentry)).1

theorem conditionOf?_eq_some_iff : conditionOf? name line = some condition ↔
    Enters line name condition := by
  simp only [conditionOf?, Option.bind_eq_some_iff, entryOf?_eq_some_iff, ofText_eq_some_iff]
  constructor
  · rintro ⟨entry, ⟨henters, -⟩, h⟩
    obtain ⟨rfl, hcondition⟩ := Option.ite_none_right_eq_some.mp h
    exact Option.some.inj hcondition ▸ henters
  · exact fun h => ⟨⟨name, condition, Text.strip line⟩, ⟨h, rfl⟩, if_pos rfl⟩

theorem conditionOf?_eq_none_iff : conditionOf? name line = none ↔
    ∀ c, ¬ Enters line name c := by
  simp only [Option.eq_none_iff_forall_ne_some, ne_eq, conditionOf?_eq_some_iff]

/-! ## Registers -/

theorem find?_put (t : Table) (name : String) (condition : Value) (other : String) :
    (t.put name condition).find? other = if other = name then some condition else t.find? other :=
  Filter.lookup_put t name condition other

/-- The condition of a name over presets is that of the last line with an entry of it. -/
theorem find?_overlay (lines : List String) (t : Table) (name : String) :
    ((lines.filterMap entryOf?).foldl (fun t e => t.put e.description e.condition) t).find? name =
      (lines.reverse.findSome? (conditionOf? name)).or (t.find? name) := by
  induction lines generalizing t with
  | nil => rfl
  | cons line lines ih =>
      rw [List.reverse_cons, List.findSome?_append, List.findSome?_singleton, Option.or_assoc,
        conditionOf?]
      cases hline : entryOf? line with
      | none =>
          rw [List.filterMap_cons_none hline, ih, Option.bind_none, Option.none_or]
      | some entry =>
          rw [List.filterMap_cons_some hline, List.foldl_cons, ih, find?_put, Option.bind_some]
          by_cases hname : name = entry.description
          · rw [if_pos hname, if_pos hname.symm, Option.some_or]
          · rw [if_neg hname, if_neg (Ne.symm hname), Option.none_or]

theorem tableOf_eq (lines : List String) :
    tableOf (lines.map .text) = (lines.mapM Entry.ofText).map fun entries =>
      (entries.filterMap id).foldl (fun t e => t.put e.description e.condition) builtin := by
  have hline : Entry.ofValue ∘ Value.text = Entry.ofText := by
    funext line
    rw [Function.comp_apply, Entry.ofValue, if_neg (by simp [Value.isNone]), Value.toText]
  have hlines : (lines.map Value.text).mapM Entry.ofValue = lines.mapM Entry.ofText := by
    rw [List.mapM_map, hline]
  rw [tableOf, readRegister, hlines]
  cases lines.mapM Entry.ofText with
  | error f => rfl
  | ok entries => rfl

/-- A register ends at the first line that breaks. -/
theorem tableOf_eq_error_iff {lines : List String} :
    tableOf (lines.map .text) = .error f ↔
      ∃ before line after, lines = before ++ line :: after ∧
        (∀ other ∈ before, ∀ g, ¬ Breaks other g) ∧ Breaks line f := by
  have hread (line : String) : (∃ entry, Entry.ofText line = .ok entry) ↔
      ∀ g, ¬ Breaks line g := by
    simp only [← ofText_eq_error_iff]
    cases Entry.ofText line <;> simp
  rw [tableOf_eq, Outcome.map_eq_error, Outcome.mapM_eq_error]
  simp only [hread, ofText_eq_error_iff]

/-- A register without such a line is read as the entries of its lines. -/
theorem tableOf_eq_ok_iff {lines : List String} {t : Table} :
    tableOf (lines.map .text) = .ok t ↔ (∀ line ∈ lines, ∀ f, ¬ Breaks line f) ∧
      t = (lines.filterMap entryOf?).foldl
        (fun t e => t.put e.description e.condition) builtin := by
  have hread {line : String} (h : ∀ f, ¬ Breaks line f) :
      Entry.ofText line = .ok (entryOf? line) := by
    rw [entryOf?]
    split
    next hline => exact hline
    next f hline => exact absurd (ofText_eq_error_iff.mp hline) (h f)
  rw [tableOf_eq, Outcome.map_eq_ok]
  constructor
  · rintro ⟨entries, hentries, rfl⟩
    have hlines : ∀ line ∈ lines, ∀ f, ¬ Breaks line f := by
      intro line hline f hbreaks
      obtain ⟨entry, hentry⟩ := Outcome.exists_mapM_iff.mp ⟨entries, hentries⟩ line hline
      rw [ofText_eq_error_iff.mpr hbreaks] at hentry
      cases hentry
    rw [Outcome.mapM_eq_ok fun line hline => hread (hlines line hline)] at hentries
    cases hentries
    rw [List.filterMap_map, Function.id_comp]
    exact ⟨hlines, rfl⟩
  · rintro ⟨hlines, rfl⟩
    refine ⟨_, Outcome.mapM_eq_ok fun line hline => hread (hlines line hline), ?_⟩
    rw [List.filterMap_map, Function.id_comp]

/-- The table of a register comes about, with for each name the condition of the last line that has
an entry of it, else the built-in one, and as if any line without an entry were absent, unless the
condition of a line has the form of a literal and no value.  The first such line decides how reading
the register ends. -/
theorem tableOf_settled_iff (lines : List String) :
    ((∃ t, tableOf (lines.map .text) = .ok t ∧
      (∀ name condition, t.find? name = some condition ↔
        LastEnters lines name condition ∨
          (∀ line ∈ lines, ∀ c, ¬ Enters line name c) ∧ builtin.find? name = some condition) ∧
      ∀ before line after, lines = before ++ line :: after → (∀ name c, ¬ Enters line name c) →
        tableOf ((before ++ after).map .text) = .ok t) ↔
      ∀ line ∈ lines, ∀ f, ¬ Breaks line f) ∧
    ∀ f, tableOf (lines.map .text) = .error f ↔
      ∃ before line after, lines = before ++ line :: after ∧
        (∀ other ∈ before, ∀ g, ¬ Breaks other g) ∧ Breaks line f := by
  refine ⟨⟨?_, fun h => ⟨_, tableOf_eq_ok_iff.mpr ⟨h, rfl⟩, fun name condition => ?_, ?_⟩⟩,
    fun f => tableOf_eq_error_iff⟩
  · rintro ⟨t, ht, -⟩
    exact (tableOf_eq_ok_iff.mp ht).1
  · rw [find?_overlay, Option.or_eq_some_iff, findSome?_reverse_eq_some_iff,
      List.findSome?_eq_none_iff]
    simp only [conditionOf?_eq_some_iff, conditionOf?_eq_none_iff, List.mem_reverse]
    rfl
  · rintro before line after rfl hnothing
    refine tableOf_eq_ok_iff.mpr ⟨fun other hother => h other ?_, ?_⟩
    · exact List.mem_append.mpr
        ((List.mem_append.mp hother).imp_right (List.mem_cons_of_mem line))
    · rw [List.filterMap_append, List.filterMap_append,
        List.filterMap_cons_none (entryOf?_eq_none hnothing)]

/-- A set of an empty list has the form of a literal. -/
theorem tableOf_breaks_on_unhashable :
    tableOf [.text "{[]} # x"] = .error .mismatch := by
  cbv

end PipeTable.Preset
