import Mathlib
import PipeTable.Narrow.Plan
import PipeTable.Proofs.Effects
import PipeTable.Proofs.Lines

/-! # Answers of the optimizer

Whatever text the optimizer writes, reading it fails with a refusal of narrowing or gives lists of
the extents asked for.  Checking such an answer refuses it or finds that every cell has room.  The
exceptions are numbers too great for the words of a refusal or for the arithmetic of the check, and
they are told here exactly.
-/

namespace PipeTable

/-- Whether an error is a refusal of narrowing. -/
def Error.isNarrowing : Error → Bool
  | .infeasible _ | .engine .. | .unavailable _ => true
  | _ => false

namespace Narrow

/-! ## Reading -/

theorem readIntegers_ok {label diagnostic : String} {text : List Char} {expected : Nat}
    {values : List Int} (h : readIntegers label text expected diagnostic = .ok values) :
    values.length = expected := by
  unfold readIntegers at h
  split at h
  next => cases h
  next =>
    split at h
    next hlength => cases h; exact hlength
    next => cases h

theorem readIntegers_error {label diagnostic : String} {text : List Char} {expected : Nat}
    {e : Error} (h : readIntegers label text expected diagnostic = .error e) :
    e.isNarrowing = true := by
  unfold readIntegers at h
  split at h
  next => cases h; rfl
  next =>
    split at h
    next => cases h
    next => cases h; rfl

/-- An answer that can be read has the extents asked for. -/
theorem parse_ok {text diagnostic : String} {rows columns : Nat} {response : Response}
    (h : Response.parse text rows columns diagnostic = .ok response) :
    response.widths.length = columns ∧ response.rows.length = rows := by
  unfold Response.parse at h
  dsimp only at h
  split at h
  next =>
    obtain ⟨widths, hwidths, h⟩ := Outcome.bind_eq_ok.mp h
    obtain ⟨counts, hcounts, h⟩ := Outcome.bind_eq_ok.mp h
    cases h
    exact ⟨readIntegers_ok hwidths, readIntegers_ok hcounts⟩
  next => cases h

theorem labelled?_eq_some {label : String} {line rest : List Char}
    (h : Text.stripChars line = label.toList ++ rest) : labelled? label line = some rest := by
  have hdrop : (label.toList ++ rest).drop label.length = rest := by
    rw [← String.length_toList, List.drop_left]
  simp [labelled?, h, hdrop]

/-- An answer is read from its last line of widths and its last line of row counts. -/
theorem parse_eq {text : String} {widthsText rowsText : List Char} {widths counts : List Int}
    (hwidthsText : lastLabelled? "Widths:" (Text.linesChars text.toList) = some widthsText)
    (hrowsText : lastLabelled? "Rows:" (Text.linesChars text.toList) = some rowsText)
    (hwidths : (Text.wordsChars widthsText).mapM Text.readIntegerChars? = some widths)
    (hcounts : (Text.wordsChars rowsText).mapM Text.readIntegerChars? = some counts)
    (diagnostic : String) :
    Response.parse text counts.length widths.length diagnostic = .ok ⟨widths, counts⟩ := by
  simp only [Response.parse, hwidthsText, hrowsText, readIntegers, hwidths, hcounts]
  rfl

theorem parse_error {text diagnostic : String} {rows columns : Nat} {e : Error}
    (h : Response.parse text rows columns diagnostic = .error e) : e.isNarrowing = true := by
  unfold Response.parse at h
  dsimp only at h
  split at h
  next =>
    rcases Outcome.bind_eq_error.mp h with h | ⟨widths, -, h⟩
    · exact readIntegers_error h
    rcases Outcome.bind_eq_error.mp h with h | ⟨counts, -, h⟩
    · exact readIntegers_error h
    · cases h
  next => cases h; rfl

/-- The answer that gives two columns a width written alike, and a single row one line. -/
def answerOf (width : List Char) : String :=
  "Widths: " ++ String.ofList width ++ " " ++ String.ofList width ++ "\nRows: 1\n"

section AnswerOf

variable {width : List Char} (hplain : ∀ c ∈ width, Text.isBlank c = false)
include hplain

theorem linesChars_answerOf : Text.linesChars (answerOf width).toList =
    ["Widths:".toList ++ (' ' :: width ++ ' ' :: width), "Rows: 1".toList] := by
  have htext : (answerOf width).toList =
      ("Widths:".toList ++ (' ' :: width ++ ' ' :: width)) ++ '\n' :: "Rows: 1\n".toList := by
    simp [answerOf]
  have hlabel : ∀ c ∈ ['W', 'i', 'd', 't', 'h', 's', ':'], Text.isLineBreak c = false := by
    simp [Text.isLineBreak]
  have hline : ∀ c ∈ "Widths:".toList ++ (' ' :: width ++ ' ' :: width),
      Text.isLineBreak c = false := by
    intro c hc
    rcases List.mem_append.mp hc with hc | hc
    · exact hlabel c hc
    · simp only [List.cons_append, List.mem_cons, List.mem_append] at hc
      rcases hc with rfl | hc | rfl | hc
      · decide
      · exact Text.isLineBreak_of_isBlank (hplain c hc)
      · decide
      · exact Text.isLineBreak_of_isBlank (hplain c hc)
  rw [htext, Text.linesChars_append hline]
  rfl

variable (hne : width ≠ [])
include hne

theorem wordsChars_twice : Text.wordsChars (' ' :: width ++ ' ' :: width) = [width, width] := by
  have hpieces : Text.pieces Text.isBlank (' ' :: width ++ ' ' :: width) =
      [[], width, width] := by
    rw [List.cons_append, ← List.nil_append (' ' :: (width ++ ' ' :: width)),
      Text.pieces_append (by simp) (by decide), Text.pieces_append hplain (by decide),
      Text.pieces_of_none hplain]
  rw [Text.wordsChars, hpieces]
  simp [hne]

theorem stripChars_answerOf :
    Text.stripChars ("Widths:".toList ++ (' ' :: width ++ ' ' :: width)) =
      "Widths:".toList ++ (' ' :: width ++ ' ' :: width) := by
  refine Text.dropBothEnds_eq_self (fun c hc => ?_) fun c hc => ?_
  · cases hc
    decide
  · have hlast : ("Widths:".toList ++ (' ' :: width ++ ' ' :: width)).getLast? =
        some (width.getLast hne) := by
      simp [List.getLast?_append, List.getLast?_cons, List.getLast?_eq_some_getLast hne]
    rw [hlast] at hc
    cases hc
    exact hplain _ (List.getLast_mem hne)

theorem parse_answerOf {n : Int} (hread : Text.readIntegerChars? width = some n)
    (diagnostic : String) :
    Response.parse (answerOf width) 1 2 diagnostic = .ok ⟨[n, n], [1]⟩ := by
  have hstrip := stripChars_answerOf hplain hne
  refine @parse_eq _ (' ' :: width ++ ' ' :: width) [' ', '1'] [n, n] [1] ?_ ?_ ?_ (by decide) _
  · rw [linesChars_answerOf hplain, lastLabelled?,
      List.filterMap_cons_some (labelled?_eq_some hstrip)]
    rfl
  · have hother : labelled? "Rows:" ("Widths:".toList ++ (' ' :: width ++ ' ' :: width)) =
        none := by
      rw [labelled?, hstrip]
      rfl
    rw [linesChars_answerOf hplain, lastLabelled?, List.filterMap_cons_none hother]
    rfl
  · rw [wordsChars_twice hplain hne]
    simp [hread]

end AnswerOf

/-! ## Refusals -/

/-- One of the numbers has too many digits to be stated in a message. -/
def Unstatable (numbers : List Int) : Prop := ∃ n ∈ numbers, Text.isWritable n = false

theorem stating_eq_fault {numbers : List Int} (refusal : Error) (h : Unstatable numbers) :
    stating numbers refusal = .fault .badValue := by
  obtain ⟨n, hn, hlong⟩ := h
  rw [stating, if_neg]
  intro hall
  rw [List.all_eq_true.mp hall n hn] at hlong
  cases hlong

theorem stating_eq_self {numbers : List Int} (refusal : Error) (h : ¬ Unstatable numbers) :
    stating numbers refusal = refusal := by
  rw [stating, if_pos]
  refine List.all_eq_true.mpr fun n hn => ?_
  by_contra hlong
  exact h ⟨n, hn, Bool.eq_false_iff.mpr hlong⟩

/-! ## Rooms -/

theorem emod_le_self {n : Int} (modulus : Nat) (h : 0 ≤ n) : n % modulus ≤ n := by
  have hsplit := Int.emod_add_mul_ediv n modulus
  have hquotient : 0 ≤ (modulus : Int) * (n / modulus) :=
    mul_nonneg (by omega) (Int.ediv_nonneg h (by omega))
  omega

theorem bmod_le_self {n : Int} (modulus : Nat) (h : 0 ≤ n) : Int.bmod n modulus ≤ n := by
  have hmod := emod_le_self modulus h
  rw [Int.bmod_def]
  split <;> omega

/-- However a product is computed, it does not come to more than it is. -/
theorem room_le (counts widths : Holding) {lines width : Int} (hlines : 1 ≤ lines)
    (hwidth : 0 < width) : room counts widths lines width ≤ lines * width := by
  have hpos : 0 ≤ lines * width := by positivity
  cases counts <;> cases widths
  case signed.signed => exact bmod_le_self _ hpos
  case unsigned.unsigned => exact emod_le_self _ hpos
  all_goals exact le_refl _

theorem repeated_eq {α : Type} {items : List α} {index : Nat} (h : index < items.length) :
    repeated items index = items[index]? := by
  unfold repeated
  split
  next single =>
    have hzero : index = 0 := by simpa using h
    rw [hzero]
    rfl
  next => rfl

theorem commonExtent_self (extent : Nat) : commonExtent extent extent = extent := by
  rw [commonExtent, ite_self]

theorem lt_commonExtent {i a b : Nat} (ha : i < a) (hb : i < b) : i < commonExtent a b := by
  unfold commonExtent
  split
  · exact hb
  · exact ha

variable {lengths : List (List Int)} {columns : Nat} {response : Response}

/-- A cell that is found overfull is one of the answered columns. -/
theorem column_of_firstOverfull? {r c : Nat} (hwidths : response.widths.length = columns)
    (h : firstOverfull? lengths columns response = some (r, c)) : c < columns := by
  have hmem := List.mem_of_find?_eq_some h
  rw [hwidths, commonExtent_self] at hmem
  obtain ⟨_, -, hc⟩ := List.mem_flatMap.mp hmem
  obtain ⟨c', hc', heq⟩ := List.mem_map.mp hc
  cases heq
  exact List.mem_range.mp hc'

/-- If no cell is overfull, every cell that is given lines and a width has the room it needs. -/
theorem le_of_firstOverfull? {r c : Nat} {row : List Int} {length lines width : Int}
    (hpos : ∀ width ∈ response.widths, 0 < width) (hrows : ∀ lines ∈ response.rows, 1 ≤ lines)
    (h : firstOverfull? lengths columns response = none) (hrow : lengths[r]? = some row)
    (hcolumn : c < columns) (hlength : row[c]? = some length)
    (hlines : response.rows[r]? = some lines) (hwidth : response.widths[c]? = some width) :
    length ≤ width * lines := by
  obtain ⟨hr, -⟩ := List.getElem?_eq_some_iff.mp hrow
  obtain ⟨hc, -⟩ := List.getElem?_eq_some_iff.mp hlength
  obtain ⟨hr', -⟩ := List.getElem?_eq_some_iff.mp hlines
  obtain ⟨hc', -⟩ := List.getElem?_eq_some_iff.mp hwidth
  have hmem : (r, c) ∈ (List.range (commonExtent lengths.length response.rows.length)).flatMap
      fun r => (List.range (commonExtent columns response.widths.length)).map fun c => (r, c) :=
    List.mem_flatMap.mpr ⟨r, List.mem_range.mpr (lt_commonExtent hr hr'),
      List.mem_map.mpr ⟨c, List.mem_range.mpr (lt_commonExtent hcolumn hc'), rfl⟩⟩
  have hfits := List.find?_eq_none.mp h _ hmem
  simp only [repeated_eq hr, hrow, Option.bind_some, repeated_eq hc, hlength, repeated_eq hr',
    hlines, repeated_eq hc', hwidth, decide_eq_true_eq, not_lt] at hfits
  have hroom := room_le (holding response.rows) (holding response.widths)
    (hrows lines (List.mem_of_getElem? hlines)) (hpos width (List.mem_of_getElem? hwidth))
  rw [mul_comm]
  exact hfits.trans hroom

/-! ## Checking -/

/-- The numbers of an answer are positive, and its widths stay within a budget. -/
structure Response.InRange (response : Response) (budget : Int) : Prop where
  widths_pos : ∀ width ∈ response.widths, 0 < width
  rows_pos : ∀ lines ∈ response.rows, 1 ≤ lines
  sum_widths : response.widths.sum ≤ budget

/-- An answer that passes every check. -/
structure Response.Passes (response : Response) (request : Request) : Prop where
  widths_pos : ∀ width ∈ response.widths, 0 < width
  rows_pos : ∀ lines ∈ response.rows, 1 ≤ lines
  sum_widths : response.widths.sum ≤ request.maxWidth
  room : firstOverfull? request.lengths request.columns response = none

/-- What the check of an answer cannot cope with: a refusal that would state a number of too many
digits, or a product without a value. -/
inductive Response.Breaks (response : Response) (maxWidth budget : Int) : Prop
  | noLayout (hwidths : ∃ width ∈ response.widths, width ≤ 0) (hlong : Unstatable [maxWidth])
  | widthSum (hwidths : ∀ width ∈ response.widths, 0 < width)
      (hrows : ∀ lines ∈ response.rows, 1 ≤ lines) (hsum : budget < response.widths.sum)
      (hlong : Unstatable [response.widths.sum, budget])
  | overflow (hwidths : ∀ width ∈ response.widths, 0 < width)
      (hrows : ∀ lines ∈ response.rows, 1 ≤ lines) (hsum : response.widths.sum ≤ budget)
      (hproduct : overflows response.rows response.widths = true)

section Complete

variable {maxWidth : Int} {fixed columnWidths : List Int} {free : List Nat} {request : Request}

theorem any_nonpos_eq_false {widths : List Int} (h : ∀ width ∈ widths, 0 < width) :
    widths.any (· ≤ 0) = false := by
  rw [List.any_eq_false]
  intro width hmem
  have := h width hmem
  simpa using this

theorem any_lt_one_eq_false {rows : List Int} (h : ∀ lines ∈ rows, 1 ≤ lines) :
    rows.any (· < 1) = false := by
  rw [List.any_eq_false]
  intro lines hmem
  have := h lines hmem
  simpa using this

/-- The check of an answer whose widths and row counts are positive. -/
theorem complete_of_pos (hwidths : ∀ width ∈ response.widths, 0 < width)
    (hrows : ∀ lines ∈ response.rows, 1 ≤ lines) :
    complete maxWidth fixed columnWidths free request response =
      if request.maxWidth < response.widths.sum then
        .error (stating [response.widths.sum, request.maxWidth]
          (.engine (.widthSum response.widths.sum request.maxWidth) ""))
      else if overflows response.rows response.widths then .error (.fault .overflow)
      else if !(compatible request.rows response.rows.length &&
          compatible request.columns response.widths.length) then .error (.fault .badValue)
      else match firstOverfull? request.lengths request.columns response with
        | some (r, c) =>
          match free[c]? with
          | some column => .error (.engine (.doesNotFit (r + 1) column) "")
          | none => .error (.fault .outOfRange)
        | none =>
          .ok ⟨maxWidth, fixed, scatter columnWidths (free.zip response.widths),
            response.rows⟩ := by
  unfold complete
  rw [if_neg (by simp [any_nonpos_eq_false hwidths]),
    if_neg (by simp [any_lt_one_eq_false hrows])]
  simp only [← List.sum_eq_foldl]
  split
  next => rfl
  next =>
    split
    next => rfl
    next =>
      split
      next => rfl
      next => rfl

/-- The check makes a plan only of an answer that passes, whatever its extents. -/
theorem complete_ok {p : Plan}
    (h : complete maxWidth fixed columnWidths free request response = .ok p) :
    response.Passes request ∧
      p = ⟨maxWidth, fixed, scatter columnWidths (free.zip response.widths), response.rows⟩ := by
  have hwidths : ∀ width ∈ response.widths, 0 < width := by
    by_contra hwidths
    push Not at hwidths
    have hany : response.widths.any (· ≤ 0) = true := by simpa using hwidths
    unfold complete at h
    rw [if_pos hany] at h
    cases h
  have hrows : ∀ lines ∈ response.rows, 1 ≤ lines := by
    by_contra hrows
    push Not at hrows
    have hany : response.rows.any (· < 1) = true := by simpa using hrows
    unfold complete at h
    rw [if_neg (by simp [any_nonpos_eq_false hwidths]), if_pos hany] at h
    cases h
  rw [complete_of_pos hwidths hrows] at h
  split at h
  · cases h
  next hsum =>
    split at h
    · cases h
    split at h
    · cases h
    split at h
    · split at h <;> cases h
    next hroom =>
      cases h
      exact ⟨⟨hwidths, hrows, not_lt.mp hsum, hroom⟩, rfl⟩

/-- Where the check cannot cope with an answer it ends in a fault. -/
theorem complete_of_breaks (h : response.Breaks maxWidth request.maxWidth) :
    ∃ f, complete maxWidth fixed columnWidths free request response = .error (.fault f) := by
  cases h with
  | noLayout hwidths hlong =>
      have hany : response.widths.any (· ≤ 0) = true := by simpa using hwidths
      unfold complete
      rw [if_pos hany, stating_eq_fault _ hlong]
      exact ⟨_, rfl⟩
  | widthSum hwidths hrows hsum hlong =>
      rw [complete_of_pos hwidths hrows, if_pos hsum, stating_eq_fault _ hlong]
      exact ⟨_, rfl⟩
  | overflow hwidths hrows hsum hproduct =>
      rw [complete_of_pos hwidths hrows, if_neg (not_lt.mpr hsum), if_pos hproduct]
      exact ⟨_, rfl⟩

/-- An answer with numbers out of range is refused, whatever its extents. -/
theorem complete_refuses (hrange : ¬ response.InRange request.maxWidth)
    (h : ¬ response.Breaks maxWidth request.maxWidth) :
    ∃ e, complete maxWidth fixed columnWidths free request response = .error e ∧
      e.isNarrowing = true := by
  by_cases hwidths : ∀ width ∈ response.widths, 0 < width
  swap
  · -- the answer says that there is no layout
    push Not at hwidths
    have hany : response.widths.any (· ≤ 0) = true := by simpa using hwidths
    have hstated : ¬ Unstatable [maxWidth] := fun hlong => h (.noLayout hwidths hlong)
    refine ⟨.infeasible (.noLayout maxWidth), ?_, rfl⟩
    unfold complete
    rw [if_pos hany, stating_eq_self _ hstated]
    rfl
  by_cases hrows : ∀ lines ∈ response.rows, 1 ≤ lines
  swap
  · push Not at hrows
    have hany : response.rows.any (· < 1) = true := by simpa using hrows
    refine ⟨.engine .rowCount "", ?_, rfl⟩
    unfold complete
    rw [if_neg (by simp [any_nonpos_eq_false hwidths]), if_pos hany]
    rfl
  have hsum : request.maxWidth < response.widths.sum := by
    by_contra hsum
    exact hrange ⟨hwidths, hrows, not_lt.mp hsum⟩
  refine ⟨_, by rw [complete_of_pos hwidths hrows, if_pos hsum], ?_⟩
  rw [stating_eq_self _ fun hlong => h (.widthSum hwidths hrows hsum hlong)]
  rfl

/-- What the check of an answer compares once its numbers are in range. -/
theorem complete_of_inRange (hrange : response.InRange request.maxWidth)
    (h : ¬ response.Breaks maxWidth request.maxWidth) :
    complete maxWidth fixed columnWidths free request response =
      if !(compatible request.rows response.rows.length &&
          compatible request.columns response.widths.length) then .error (.fault .badValue)
      else match firstOverfull? request.lengths request.columns response with
        | some (r, c) =>
          match free[c]? with
          | some column => .error (.engine (.doesNotFit (r + 1) column) "")
          | none => .error (.fault .outOfRange)
        | none =>
          .ok ⟨maxWidth, fixed, scatter columnWidths (free.zip response.widths),
            response.rows⟩ := by
  obtain ⟨hwidths, hrows, hsum⟩ := hrange
  rw [complete_of_pos hwidths hrows, if_neg (not_lt.mpr hsum),
    if_neg fun hproduct => h (.overflow hwidths hrows hsum hproduct)]

/-- An answer of the extents asked for that the check can cope with is refused or passes. -/
theorem complete_settles (hcounts : response.rows.length = request.rows)
    (hanswered : response.widths.length = request.columns)
    (hfree : free.length = request.columns) (h : ¬ response.Breaks maxWidth request.maxWidth) :
    (∃ e, complete maxWidth fixed columnWidths free request response = .error e ∧
      e.isNarrowing = true) ∨
    (complete maxWidth fixed columnWidths free request response =
        .ok ⟨maxWidth, fixed, scatter columnWidths (free.zip response.widths), response.rows⟩ ∧
      response.Passes request) := by
  by_cases hrange : response.InRange request.maxWidth
  swap
  · exact .inl (complete_refuses hrange h)
  rw [complete_of_inRange hrange h, if_neg (by simp [compatible, hcounts, hanswered])]
  cases hroom : firstOverfull? request.lengths request.columns response with
  | none => exact .inr ⟨rfl, hrange.widths_pos, hrange.rows_pos, hrange.sum_widths, hroom⟩
  | some place =>
      obtain ⟨r, c⟩ := place
      have hc := column_of_firstOverfull? hanswered hroom
      rw [← hfree] at hc
      refine .inl ⟨.engine (.doesNotFit (r + 1) free[c]) "", ?_, rfl⟩
      simp only [List.getElem?_eq_getElem hc]

end Complete

/-- Two widths of as many nines as can be read have a sum that cannot be written. -/
theorem breaks_of_nines {n : Nat} (hn : n = Text.maxIntegerDigits) (maxWidth : Int) :
    Response.Breaks ⟨[10 ^ n - 1, 10 ^ n - 1], [1]⟩ maxWidth 9 := by
  have hpow : (10 : Int) ^ 1 ≤ 10 ^ n := pow_le_pow_right₀ (by norm_num) (by rw [hn]; decide)
  have hlong : Text.isWritable (10 ^ n - 1 + (10 ^ n - 1)) = false := by
    have hcast : ((Nat.pow 10 n : Nat) : Int) = 10 ^ n := Nat.cast_pow 10 n
    rw [Text.isWritable, ← hn, decide_eq_false_iff_not]
    omega
  refine .widthSum (fun width hwidth => ?_) (by simp) ?_ ⟨10 ^ n - 1 + (10 ^ n - 1), ?_, hlong⟩
  · have hwidth : width = 10 ^ n - 1 := by simpa using hwidth
    omega
  · simp only [List.sum_cons, List.sum_nil]
    omega
  · simp

end Narrow

end PipeTable
