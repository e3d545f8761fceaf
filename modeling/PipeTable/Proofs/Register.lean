import Mathlib
import PipeTable.Preset
import PipeTable.Proofs.Syntax
import PipeTable.Proofs.Words

/-! # Lines of a register

A line of a register holds a condition, a hash sign and a description.  The scan for the hash sign
passes over every quoted text as the reader of literals does, so that a condition that is written as
its literal comes back whatever signs and quotes it holds.
-/

namespace PipeTable.Preset

open PipeTable.Expr (maxBrackets)
open Text (Stands quoteFor quoteFor_cases stands_escapeChar)

/-! ## The scan for the hash sign -/

/-- The scan goes on from one state to another behind characters among which it finds no hash
sign. -/
def Passes (s : QuoteState) (cs : List Char) (t : QuoteState) : Prop :=
  ∀ rest, splitFrom s (cs ++ rest) = (cs ++ (splitFrom t rest).1, (splitFrom t rest).2)

theorem Passes.nil (s : QuoteState) : Passes s [] s := fun _ => rfl

theorem Passes.append {s t u : QuoteState} {cs ds : List Char} (h : Passes s cs t)
    (h' : Passes t ds u) : Passes s (cs ++ ds) u := by
  intro rest
  rw [List.append_assoc, h, h', List.append_assoc]

theorem Passes.escape (s : QuoteState) (c : Char) : Passes s ['\\', c] s := fun _ => rfl

/-- The state inside quotes of a kind. -/
def within (mark : Char) : QuoteState := ⟨mark = '\'', mark = '"'⟩

/-- A character that has no meaning in a state leaves the state as it is. -/
theorem passes_char {s : QuoteState} {c : Char} (hslash : c ≠ '\\')
    (hhash : c = '#' → s.single = true ∨ s.double = true) (hsingle : c = '\'' → s.double = true)
    (hdouble : c = '"' → s.single = true) : Passes s [c] s := by
  intro rest
  rw [List.singleton_append, splitFrom.eq_def]
  split
  next heq => cases heq
  next heq => exact absurd (List.cons.inj heq).1 hslash
  next heq =>
    obtain ⟨rfl, rfl⟩ := List.cons.inj heq
    have hscan : (c = '#' && !s.single && !s.double) = false := by
      by_cases hc : c = '#'
      · rcases hhash hc with h | h <;> simp [h]
      · simp [hc]
    have hstate : (if c = '\'' && !s.double then { s with single := !s.single }
        else if c = '"' && !s.single then { s with double := !s.double } else s) = s := by
      rw [if_neg (by simpa using hsingle), if_neg (by simpa using hdouble)]
    simp only [hscan, hstate]
    rfl

theorem passes_outside {cs : List Char} (h : cs.all Value.isOutside = true) : Passes {} cs {} := by
  induction cs with
  | nil => exact .nil _
  | cons c cs ih =>
      rw [List.all_cons, Bool.and_eq_true] at h
      have hne : ∀ d : Char, Value.isOutside d = false → c ≠ d := fun _ => Text.ne_of_class h.1
      exact (passes_char (hne _ (by decide)) (fun hc => absurd hc (hne _ (by decide)))
        (fun hc => absurd hc (hne _ (by decide))) fun hc => absurd hc (hne _ (by decide))).append
          (ih h.2)

section Quoted

variable {mark : Char} (hmark : mark = '\'' ∨ mark = '"')
include hmark

theorem passes_mark : Passes {} [mark] (within mark) ∧ Passes (within mark) [mark] {} := by
  rcases hmark with rfl | rfl <;> exact ⟨fun _ => rfl, fun _ => rfl⟩

theorem passes_itself {c : Char} (hne : c ≠ mark) (hslash : c ≠ '\\') :
    Passes (within mark) [c] (within mark) := by
  rcases hmark with rfl | rfl
  · exact passes_char hslash (fun _ => .inl rfl) (fun hc => absurd hc hne) fun _ => rfl
  · exact passes_char hslash (fun _ => .inr rfl) (fun _ => rfl) fun hc => absurd hc hne

theorem passes_alphanum {cs : List Char} (h : ∀ c ∈ cs, c.isAlphanum = true) :
    Passes (within mark) cs (within mark) := by
  induction cs with
  | nil => exact .nil _
  | cons c cs ih =>
      have hc := h c List.mem_cons_self
      have hne : c ≠ mark := by
        rcases hmark with rfl | rfl <;> exact Text.ne_of_class hc (by decide)
      exact (passes_itself hmark hne (Text.ne_of_class hc (by decide))).append
        (ih fun d hd => h d (List.mem_cons_of_mem _ hd))

/-- Inside quotes, the scan passes over what stands for a character. -/
theorem passes_stands {c : Char} {cs : List Char} (h : Stands mark c cs) :
    Passes (within mark) cs (within mark) := by
  cases h with
  | itself hne hslash => exact passes_itself hmark hne hslash
  | letter => exact .escape _ _
  | number hletter hfits =>
      exact (Passes.escape _ _).append (passes_alphanum hmark fun d hd =>
        Text.isAlphanum_of_numberEscape hletter hfits d (List.mem_cons_of_mem _ hd))

theorem passes_flatMap (cs : List Char) :
    Passes (within mark) (cs.flatMap (Text.escapeChar mark)) (within mark) := by
  induction cs with
  | nil => exact .nil _
  | cons c cs ih => exact (passes_stands hmark (stands_escapeChar hmark c)).append ih

end Quoted

/-- The scan passes over quoted texts and what stands around them in literals. -/
theorem passes_pieces {cs : List Char} (h : Value.Pieces cs) : Passes {} cs {} := by
  induction h with
  | outside h => exact passes_outside h
  | quoted cs =>
      have hmark := quoteFor_cases cs
      exact (passes_mark hmark).1.append ((passes_flatMap hmark cs).append (passes_mark hmark).2)
  | append _ _ ih ih' => exact ih.append ih'

/-! ## Blanks around literals -/

theorem isBlank_of_mem_getLast? {depth : Nat} {v : Value} (h : v.Plain depth) {c : Char}
    (hc : c ∈ v.literalChars.getLast?) : Text.isBlank c = false := by
  cases h with
  | none =>
      cases hc
      decide
  | @int _ n _ =>
      have hdigit : ∀ d ∈ (Nat.toDigits 10 n.natAbs).getLast?, Text.isBlank d = false := fun d hd =>
        (Text.of_isDigit (Text.isDigit_of_mem_toDigits d (List.mem_of_mem_getLast? hd))).2.2.2
      rw [Value.literalChars_int] at hc
      split at hc
      · rw [List.getLast?_cons_of_ne_nil (by simp)] at hc
        exact hdigit c hc
      · exact hdigit c hc
  | text s =>
      rw [Value.literalChars_text, Text.quoteChars, ← List.cons_append, List.getLast?_concat] at hc
      cases hc
      rcases quoteFor_cases s.toList with hmark | hmark <;> rw [hmark] <;> decide
  | @tuple _ items _ =>
      have hlast : (Value.tuple items).literalChars.getLast? = some ')' := by
        cases items with
        | nil => rfl
        | cons v items =>
            cases items with
            | nil => rw [Value.literalChars_single, ← List.cons_append, List.getLast?_append]; rfl
            | cons w items =>
                have hne : Value.closedChars (v :: w :: items) ≠ [] := by
                  rw [Value.closedChars_eq (List.cons_ne_nil _ _)]
                  simp
                rw [Value.literalChars_several, List.getLast?_cons_of_ne_nil hne,
                  Value.getLast?_closedChars]
      rw [hlast] at hc
      cases hc
      decide

theorem stripChars_literalChars {depth : Nat} {v : Value} (h : v.Plain depth) :
    Text.stripChars v.literalChars = v.literalChars := by
  refine Text.dropBothEnds_eq_self (fun c hc => ?_) fun c hc => isBlank_of_mem_getLast? h hc
  obtain ⟨d, cs, heq, -, hblank⟩ := Expr.exists_literalChars_eq_cons h
  rw [heq] at hc
  cases hc
  exact hblank

theorem normalizeItems_eq_self {items : List Value} (h : ∀ v ∈ items, v.normalize = v) :
    Value.normalize.normalizeItems items = items := by
  induction items with
  | nil => rfl
  | cons v items ih =>
      rw [Value.normalize.normalizeItems, h v List.mem_cons_self,
        ih fun w hw => h w (List.mem_cons_of_mem _ hw)]

theorem normalize_of_plain {depth : Nat} {v : Value} (h : v.Plain depth) : v.normalize = v := by
  induction h with
  | none | int | text => rfl
  | tuple _ ih => rw [Value.normalize, normalizeItems_eq_self ih]

/-- A condition that is written as its literal is read back. -/
theorem readCondition_literal {depth : Nat} {v : Value} (h : v.Plain depth)
    (hdepth : depth ≤ maxBrackets) {text : String}
    (htext : Text.stripChars text.toList = v.literalChars) : readCondition text = .ok v := by
  have hbody : Text.strip text = v.literal := by
    rw [Text.strip, htext, Value.literalChars, String.ofList_toList]
  have hne : v.literal ≠ "" := by
    obtain ⟨d, cs, heq, -⟩ := Expr.exists_literalChars_eq_cons h
    intro hempty
    rw [Value.literalChars, hempty] at heq
    cases heq
  simp only [readCondition, hbody, if_neg hne, Expr.readLiteral_literal h hdepth,
    normalize_of_plain h]

/-! ## Lines -/

section Line

variable {depth : Nat} {condition : Value}

/-- A line is cut behind the blank after its condition. -/
theorem split_literal (h : condition.Plain depth) {line : String} {after : List Char}
    (hline : line.toList = condition.literalChars ++ ' ' :: '#' :: after) :
    split line = (String.ofList (condition.literalChars ++ [' ']), String.ofList after) := by
  have hpasses : Passes {} (condition.literalChars ++ [' ']) {} :=
    (passes_pieces h.pieces).append (passes_outside rfl)
  have hscan : splitFrom {} line.toList = (condition.literalChars ++ [' '], after) := by
    rw [hline, List.append_cons, hpasses]
    simp [splitFrom]
  rw [split, hscan]

/-- Of a line of a condition's literal, a hash sign and a description, only the blanks behind the
description are stripped off. -/
theorem toList_strip_line (h : condition.Plain depth) {description : String}
    (hdescription : Text.strip description ≠ "") :
    ∃ left, (∀ c ∈ left, Text.isBlank c = true) ∧
      (Text.strip (condition.literal ++ " # " ++ description)).toList =
        condition.literalChars ++ ' ' :: '#' :: (left ++ (Text.strip description).toList) := by
  obtain ⟨left, right, hleft, hright, hparts⟩ := Text.exists_stripChars description.toList
  rw [← Text.toList_strip] at hparts
  have hbody : (Text.strip description).toList ≠ [] := by simpa using hdescription
  refine ⟨' ' :: left, List.forall_mem_cons.mpr ⟨by decide, hleft⟩, ?_⟩
  have hline : (condition.literal ++ " # " ++ description).toList =
      condition.literalChars ++ ' ' :: '#' :: (' ' :: left ++ (Text.strip description).toList) ++
        right := by
    rw [String.toList_append, String.toList_append, ← hparts]
    simp [Value.literalChars]
  rw [Text.toList_strip, hline, Text.stripChars_append_right _ hright]
  refine Text.dropBothEnds_eq_self (fun c hc => ?_) fun c hc => ?_
  · obtain ⟨d, cs, heq, -, hblank⟩ := Expr.exists_literalChars_eq_cons h
    rw [heq] at hc
    cases hc
    exact hblank
  · rw [← List.cons_append, ← List.cons_append, ← List.append_assoc,
      List.getLast?_append_of_ne_nil _ hbody, Text.toList_strip] at hc
    exact Text.of_mem_getLast?_stripChars hc

/-- A line of a condition's literal, a hash sign and a description that is not blank is read as the
condition and the stripped description. -/
theorem ofValue_literal (hplain : condition.Plain depth) (hdepth : depth ≤ maxBrackets)
    (hpresent : condition ≠ .none) {description : String}
    (hdescription : Text.strip description ≠ "") :
    Entry.ofValue (.text (condition.literal ++ " # " ++ description)) =
      .ok (some ⟨Text.strip description, condition,
        Text.strip (condition.literal ++ " # " ++ description)⟩) := by
  obtain ⟨left, hleft, hline⟩ := toList_strip_line hplain hdescription
  have hne : Text.strip (condition.literal ++ " # " ++ description) ≠ "" := by
    intro hempty
    rw [hempty] at hline
    simp at hline
  have hblank : ∀ c ∈ [' '], Text.isBlank c = true := List.forall_mem_singleton.mpr (by decide)
  have hbefore : Text.stripChars (String.ofList (condition.literalChars ++ [' '])).toList =
      condition.literalChars := by
    rw [String.toList_ofList, Text.stripChars_append_right _ hblank,
      stripChars_literalChars hplain]
  have hafter : Text.strip (String.ofList (left ++ (Text.strip description).toList)) =
      Text.strip description := by
    rw [Text.strip, String.toList_ofList, Text.stripChars_append_left hleft, ← Text.strip,
      Text.strip_strip]
  have hsome : condition.isNone = false := by
    cases condition <;> first | rfl | exact absurd rfl hpresent
  rw [Entry.ofValue, if_neg (by simp [Value.isNone]), Value.toText, Entry.ofText]
  simp only [if_neg hne, split_literal hplain hline, readCondition_literal hplain hdepth hbefore,
    hafter, hsome, hdescription, bind, Except.bind]
  rfl

/-- Hash signs and quotes inside the condition do not matter, nor does one in the description. -/
theorem ofValue_literal_hashes :
    let condition : Value := .tuple [.text "#", .text "it's", .int (-7), .none]
    condition.Plain 1 ∧ 1 ≤ maxBrackets ∧ condition ≠ .none ∧ Text.strip " one # two " ≠ "" ∧
      Entry.ofValue (.text "('#', \"it's\", -7, None) #  one # two ") =
        .ok (some ⟨"one # two", condition, "('#', \"it's\", -7, None) #  one # two"⟩) := by
  intro condition
  have hplain : condition.Plain 1 := by
    refine .tuple ?_
    simp only [List.forall_mem_cons]
    exact ⟨.text _, .text _, .int (Text.isWritable_of_le (by decide)), .none, List.forall_mem_nil _⟩
  have hdepth : 1 ≤ maxBrackets := by decide
  have hpresent : condition ≠ .none := fun h => Value.noConfusion h
  have hstrip : Text.strip " one # two " = "one # two" := by decide
  have hdescription : Text.strip " one # two " ≠ "" := by
    rw [hstrip]
    decide
  have hliteral : condition.literal = "('#', \"it's\", -7, None)" := by cbv
  refine ⟨hplain, hdepth, hpresent, hdescription, ?_⟩
  have hline := ofValue_literal hplain hdepth hpresent hdescription
  have hjoined : "('#', \"it's\", -7, None)" ++ " # " ++ " one # two " =
      "('#', \"it's\", -7, None) #  one # two " := rfl
  have hsource : Text.strip "('#', \"it's\", -7, None) #  one # two " =
      "('#', \"it's\", -7, None) #  one # two" := rfl
  simp only [hliteral, hstrip, hjoined, hsource] at hline
  exact hline

end Line

end PipeTable.Preset
