import Mathlib
import PipeTable.Proofs.Digits
import PipeTable.Proofs.Spans

/-! # References to tables

A reference asks for a position or for a name.  Once its blanks are stripped off, it finds the table
at the position that it spells if there is one, else the first table of its name, and else it says
that there is no such table.  Only characters after a dollar sign that count as digits, but do not
spell a number that can be read, keep it from either answer.
-/

namespace PipeTable.Document

variable {d : Document}

/-- A stripped reference asks for a position: a dollar sign and decimal digits of any script that
spell it. -/
def AsksFor (key : List Char) (position : Nat) : Prop :=
  ∃ (cs : List Char) (digits : List Nat), key = '$' :: cs ∧ cs ≠ [] ∧
    cs.map Text.decimalValue = digits.map some ∧ Nat.ofDigits 10 digits.reverse = position

/-- A stripped reference asks for a position in characters that all count as digits, though some
have no value as one or there are too many of them to be read. -/
def AsksInVain (key : List Char) : Prop :=
  ∃ cs, key = '$' :: cs ∧ cs ≠ [] ∧ (∀ c ∈ cs, Text.isDigit c = true) ∧
    ((∃ c ∈ cs, Text.decimalValue c = none) ∨ Text.maxIntegerDigits < cs.length)

/-- The table that a stripped reference means. -/
inductive Means (d : Document) (key : String) (span : Span) : Prop
  /-- The one at the position that the reference asks for. -/
  | position {position : Nat} (asks : AsksFor key.toList position) (pos : 1 ≤ position)
      (at_position : d.spans[position - 1]? = some span)
  /-- The first of its name, if it asks for no position in range. -/
  | name {before after : List Span}
      (beyond : ∀ position, AsksFor key.toList position →
        ¬ (1 ≤ position ∧ position ≤ d.spans.length))
      (spans : d.spans = before ++ span :: after) (named : span.name = some key)
      (first : ∀ other ∈ before, other.name ≠ some key)

/-! ## Positions -/

theorem position?_eq_some_iff {key cs : List Char} :
    position? key = some cs ↔ key = '$' :: cs ∧ cs ≠ [] ∧ ∀ c ∈ cs, Text.isDigit c = true := by
  unfold position?
  split
  next digits =>
    rw [Option.ite_none_right_eq_some, Bool.and_eq_true, List.all_eq_true, Bool.not_eq_true',
      List.isEmpty_eq_false_iff, Option.some.injEq, List.cons.injEq]
    constructor
    · rintro ⟨h, rfl⟩
      exact ⟨⟨rfl, rfl⟩, h⟩
    · rintro ⟨⟨-, rfl⟩, h⟩
      exact ⟨h, rfl⟩
  next hkey => exact iff_of_false nofun fun h => hkey _ h.1

/-- A reference asks for a position that can be read exactly if it is read as it. -/
theorem asksFor_iff {key : List Char} (hvain : ¬ AsksInVain key) {position : Nat} :
    AsksFor key position ↔
      ∃ cs, position? key = some cs ∧ Text.readIntegerChars? cs = some (position : Int) := by
  constructor
  · rintro ⟨cs, digits, hkey, hne, hvalues, hposition⟩
    have hdigit : ∀ c ∈ cs, Text.isDigit c = true := by
      intro c hc
      have hvalue : Text.decimalValue c ∈ digits.map some := hvalues ▸ List.mem_map_of_mem hc
      obtain ⟨digit, -, hdigit⟩ := List.mem_map.mp hvalue
      exact Text.isDigit_of_isDecimal (Text.isDecimal_of_decimalValue hdigit.symm)
    have hshort : cs.length ≤ Text.maxIntegerDigits :=
      not_lt.mp fun hlong => hvain ⟨cs, hkey, hne, hdigit, .inr hlong⟩
    refine ⟨cs, position?_eq_some_iff.mpr ⟨hkey, hne, hdigit⟩, ?_⟩
    exact (Text.readIntegerChars?_of_isWideDigit hne hdigit).mpr
      ⟨hshort, digits, hvalues, by rw [hposition]⟩
  · rintro ⟨cs, hposition, hread⟩
    obtain ⟨hkey, hne, hdigit⟩ := position?_eq_some_iff.mp hposition
    obtain ⟨-, digits, hvalues, hvalue⟩ :=
      (Text.readIntegerChars?_of_isWideDigit hne hdigit).mp hread
    exact ⟨cs, digits, hkey, hne, hvalues, by exact_mod_cast hvalue.symm⟩

/-- A reference asks in vain exactly if its digits cannot be read. -/
theorem asksInVain_iff {key : List Char} :
    AsksInVain key ↔ ∃ cs, position? key = some cs ∧ Text.readIntegerChars? cs = none := by
  simp only [position?_eq_some_iff, AsksInVain, and_assoc]
  refine exists_congr fun cs => and_congr_right fun _ => and_congr_right fun hne =>
    and_congr_right fun hdigit => ?_
  rw [Option.eq_none_iff_forall_ne_some]
  simp only [ne_eq, Text.readIntegerChars?_of_isWideDigit hne hdigit]
  constructor
  · rintro h n ⟨hshort, digits, hvalues, -⟩
    rcases h with ⟨c, hc, hnone⟩ | hlong
    · have hvalue : Text.decimalValue c ∈ digits.map some := hvalues ▸ List.mem_map_of_mem hc
      rw [hnone] at hvalue
      simp at hvalue
    · exact absurd hshort (not_le.mpr hlong)
  · intro h
    by_contra hnot
    obtain ⟨hsome, hshort⟩ := not_or.mp hnot
    have hvalues : ∀ c ∈ cs, ∃ digit, Text.decimalValue c = some digit := fun c hc =>
      Option.ne_none_iff_exists'.mp fun hnone => hsome ⟨c, hc, hnone⟩
    choose! value hvalue using hvalues
    refine h _ ⟨not_lt.mp hshort, cs.map value, ?_, rfl⟩
    rw [List.map_map]
    exact List.map_congr_left hvalue

/-- A reference asks for one position at most, unless it asks in vain. -/
theorem AsksFor.unique {key : List Char} (hvain : ¬ AsksInVain key) {m n : Nat} (hm : AsksFor key m)
    (hn : AsksFor key n) : m = n := by
  obtain ⟨cs, hcs, hread⟩ := (asksFor_iff hvain).mp hm
  obtain ⟨cs', hcs', hread'⟩ := (asksFor_iff hvain).mp hn
  cases hcs.symm.trans hcs'
  exact_mod_cast Option.some.inj (hread.symm.trans hread')

/-! ## Names -/

/-- The first table of a name. -/
def findNamed (d : Document) (key : String) : Except Error Span :=
  match d.spans.find? fun span => span.name = some key with
  | some span => .ok span
  | none => .error (.noTable key)

theorem find?_name_eq_some_iff {key : String} {span : Span} :
    (d.spans.find? fun span => span.name = some key) = some span ↔
      ∃ before after, d.spans = before ++ span :: after ∧ span.name = some key ∧
        ∀ other ∈ before, other.name ≠ some key := by
  rw [List.find?_eq_some_iff_append]
  simp only [decide_eq_true_eq, Bool.not_eq_true', decide_eq_false_iff_not]
  exact ⟨fun ⟨hnamed, before, after, hspans, hfirst⟩ => ⟨before, after, hspans, hnamed, hfirst⟩,
    fun ⟨before, after, hspans, hnamed, hfirst⟩ => ⟨hnamed, before, after, hspans, hfirst⟩⟩

theorem Means.mem {key : String} {span : Span} (h : d.Means key span) : span ∈ d.spans := by
  cases h with
  | position _ _ hspan => exact List.mem_of_getElem? hspan
  | name _ hspans => simp [hspans]

/-- The table or the refusal is what a stripped reference asks for. -/
def Settles (d : Document) (key : String) (outcome : Except Error Span) : Prop :=
  (∃ span ∈ d.spans, outcome = .ok span ∧ d.Means key span) ∨
    outcome = .error (.noTable key) ∧ ∀ span, ¬ d.Means key span

theorem not_settles_fault {key : String} {fault : Fault} :
    ¬ d.Settles key (.error (.fault fault)) := by
  rintro (⟨span, -, hfound, -⟩ | ⟨hnone, -⟩)
  · cases hfound
  · cases hnone

/-- Looking for the name settles a reference that asks for no position in range. -/
theorem findNamed_settles {key : String}
    (hbeyond : ∀ position, AsksFor key.toList position →
      ¬ (1 ≤ position ∧ position ≤ d.spans.length)) : d.Settles key (d.findNamed key) := by
  unfold findNamed
  split
  next span hfind =>
    obtain ⟨before, after, hspans, hnamed, hfirst⟩ := find?_name_eq_some_iff.mp hfind
    have hmeans : d.Means key span := .name hbeyond hspans hnamed hfirst
    exact .inl ⟨span, hmeans.mem, rfl, hmeans⟩
  next hfind =>
    refine .inr ⟨rfl, fun span hmeans => ?_⟩
    cases hmeans with
    | position hasks hpos hspan =>
        obtain ⟨hlt, -⟩ := List.getElem?_eq_some_iff.mp hspan
        exact hbeyond _ hasks ⟨hpos, by omega⟩
    | name _ hspans hnamed hfirst =>
        rw [find?_name_eq_some_iff.mpr ⟨_, _, hspans, hnamed, hfirst⟩] at hfind
        cases hfind

/-! ## Finding a table -/

section Find

variable {reference : String}

theorem findSpan_of_vain (h : AsksInVain (Text.strip reference).toList) :
    d.findSpan reference = .error (.fault .badValue) := by
  obtain ⟨cs, hcs, hread⟩ := asksInVain_iff.mp h
  simp only [findSpan, hcs, hread]

variable (hvain : ¬ AsksInVain (Text.strip reference).toList)
include hvain

theorem findSpan_of_asksFor {position : Nat}
    (h : AsksFor (Text.strip reference).toList position) :
    d.findSpan reference = match Table.nth? d.spans position with
      | some span => .ok span
      | none => d.findNamed (Text.strip reference) := by
  obtain ⟨cs, hcs, hread⟩ := (asksFor_iff hvain).mp h
  simp only [findSpan, hcs, hread]
  rfl

theorem findSpan_of_not_asksFor
    (h : ∀ position, ¬ AsksFor (Text.strip reference).toList position) :
    d.findSpan reference = d.findNamed (Text.strip reference) := by
  have hnone : position? (Text.strip reference).toList = none := by
    rw [Option.eq_none_iff_forall_ne_some]
    intro cs hcs
    obtain ⟨-, hne, hdigit⟩ := position?_eq_some_iff.mp hcs
    obtain ⟨n, hn⟩ := Option.ne_none_iff_exists'.mp fun hread =>
      hvain (asksInVain_iff.mpr ⟨cs, hcs, hread⟩)
    obtain ⟨-, digits, -, rfl⟩ := (Text.readIntegerChars?_of_isWideDigit hne hdigit).mp hn
    exact h _ ((asksFor_iff hvain).mpr ⟨cs, hcs, hn⟩)
  simp only [findSpan, hnone]
  rfl

theorem findSpan_settles : d.Settles (Text.strip reference) (d.findSpan reference) := by
  by_cases hasks : ∃ position, AsksFor (Text.strip reference).toList position
  · obtain ⟨position, hasks⟩ := hasks
    rw [findSpan_of_asksFor hvain hasks]
    cases hnth : Table.nth? d.spans position with
    | some span =>
        obtain ⟨hpos, hspan⟩ := Option.ite_none_right_eq_some.mp hnth
        rw [show ((position : Int) - 1).toNat = position - 1 by omega] at hspan
        have hmeans : d.Means (Text.strip reference) span :=
          .position hasks (by exact_mod_cast hpos) hspan
        exact .inl ⟨span, hmeans.mem, rfl, hmeans⟩
    | none =>
        refine findNamed_settles fun other hother => ?_
        rw [hother.unique hvain hasks]
        exact_mod_cast Table.nth?_eq_none_iff.mp hnth
  · rw [findSpan_of_not_asksFor hvain (not_exists.mp hasks)]
    exact findNamed_settles fun position h => absurd ⟨position, h⟩ hasks

end Find

/-- A reference finds the table that it means or says that there is none, exactly if it does not ask
for a position in vain.  If it does, its digits are a bad value. -/
theorem findSpan_settled_iff (d : Document) (reference : String) :
    (d.Settles (Text.strip reference) (d.findSpan reference) ↔
      ¬ AsksInVain (Text.strip reference).toList) ∧
    (AsksInVain (Text.strip reference).toList →
      d.findSpan reference = .error (.fault .badValue)) := by
  refine ⟨⟨fun hsettled hvain => ?_, fun hvain => findSpan_settles hvain⟩, findSpan_of_vain⟩
  rw [findSpan_of_vain hvain] at hsettled
  exact not_settles_fault hsettled

theorem asksInVain_superscript : AsksInVain ['$', '²'] := by
  have hdigit : Text.isDigit '²' = true := by
    rw [Text.isDigit, if_neg (by decide), Text.digitTable,
      Text.CharTable.ofGaps_ofList (by decide +kernel)]
    decide +kernel
  have hdecimal : Text.isDecimal '²' = false := by
    rw [Text.isDecimal, if_neg (by decide), Text.decimalTable,
      Text.CharTable.ofGaps_ofList (by decide +kernel)]
    decide +kernel
  have hvalue : Text.decimalValue '²' = none := by
    rw [Text.decimalValue, if_neg (by decide), hdecimal, if_neg Bool.false_ne_true]
  exact ⟨['²'], rfl, List.cons_ne_nil _ _, List.forall_mem_singleton.mpr hdigit,
    .inl ⟨'²', List.mem_singleton_self _, hvalue⟩⟩

/-- A superscript two counts as a digit and has no value as one: instead of the refusal that there
is no such table comes a fault. -/
theorem findSpan_breaks_on_superscript :
    let d := ofText "| a |\n"
    d.findSpan "$²" = .error (.fault .badValue) ∧
      ¬ d.Settles (Text.strip "$²") (d.findSpan "$²") := by
  intro d
  have hfault : d.findSpan "$²" = .error (.fault .badValue) := by
    refine findSpan_of_vain ?_
    have hkey : (Text.strip "$²").toList = ['$', '²'] := by decide
    rw [hkey]
    exact asksInVain_superscript
  refine ⟨hfault, ?_⟩
  rw [hfault]
  exact not_settles_fault

end PipeTable.Document
