import Mathlib
import PipeTable.Proofs.Calendar
import PipeTable.Proofs.Numerals

/-! # Spellings of moments

A moment can be written with or without brackets, with the name of a weekday, with one digit or two,
and without the parts that are zero.  Whatever its spelling, it is read as the moment that it spells
and never as a number, so that two spellings compare as their moments do.
-/

namespace PipeTable

/-! ## Digits and blanks -/

namespace Text

theorem toNat?_ofList {cs : List Char} (hne : cs ≠ []) (h : ∀ c ∈ cs, c.isDigit = true) :
    (String.ofList cs).toNat? = some (Nat.ofDigitChars 10 cs 0) := by
  have hnat : (String.ofList cs).isNat = true :=
    String.isNat_of_isDigit (by simpa using hne) (by simpa using h)
  have hplain : cs.filter (· != '_') = cs := by
    refine List.filter_eq_self.mpr fun c hc => bne_iff_ne.mpr ?_
    rintro rfl
    exact absurd (h _ hc) (by decide)
  rw [String.toNat?_eq_some_ofDigitChars hnat, String.toList_ofList, hplain]

theorem CharTable.ofGaps_ofList {cs : List Char}
    (h : (cs.all fun c => isBlank c || c.isDigit) = true) :
    ofGaps (String.ofList cs) =
      ⟨(sums 0 ((wordsChars cs).map fun word => Nat.ofDigitChars 10 word 0)).toArray⟩ := by
  rw [ofGaps, readNumbers, words, String.toList_ofList, List.filterMap_map,
    ← List.filterMap_eq_map]
  congr 3
  refine List.filterMap_congr fun word hword => ?_
  obtain ⟨hpiece, hne⟩ := List.mem_filter.mp hword
  refine toNat?_ofList (by simpa using hne) fun c hc => ?_
  have hplain := List.all_eq_true.mp h c (mem_of_mem_pieces hpiece hc)
  rwa [of_mem_pieces hpiece c hc, Bool.false_or] at hplain

/-- The blanks beyond ASCII. -/
def wideBlanks : List Nat :=
  [0x85, 0xA0, 0x1680, 0x2000, 0x2001, 0x2002, 0x2003, 0x2004, 0x2005, 0x2006, 0x2007, 0x2008,
    0x2009, 0x200A, 0x2028, 0x2029, 0x202F, 0x205F, 0x3000]

set_option maxRecDepth 10000 in
theorem rank_wideBlanks : ∀ n ∈ wideBlanks, decimalTable.rank n % 2 = 0 := by
  rw [decimalTable, CharTable.ofGaps_ofList (by decide +kernel)]
  decide +kernel

theorem isBlank_cases {c : Char} (h : isBlank c = true) :
    c.toNat ≤ 32 ∨ c.toNat ∈ wideBlanks := by
  simp only [isBlank, Bool.or_eq_true, Bool.and_eq_true, decide_eq_true_eq] at h
  simp only [wideBlanks, List.mem_cons, List.not_mem_nil, or_false]
  omega

/-- The codes of decimal digits; most of those beyond ASCII are none. -/
theorem toNat_of_isDecimal {c : Char} (h : isDecimal c = true) :
    48 ≤ c.toNat ∧ c.toNat ≤ 57 ∨ 128 ≤ c.toNat := by
  rw [isDecimal] at h
  split at h
  next => exact .inl (toNat_of_isDigit h)
  next hwide => exact .inr (not_lt.mp hwide)

theorem isBlank_of_isDecimal {c : Char} (h : isDecimal c = true) : isBlank c = false := by
  by_contra hblank
  rcases isBlank_cases (Bool.of_not_eq_false hblank) with hlow | hwide
  · have := toNat_of_isDecimal h
    omega
  · have hascii : ¬ c.val < 0x80 :=
      not_lt.mpr ((by decide : ∀ n ∈ wideBlanks, 128 ≤ n) c.toNat hwide)
    rw [isDecimal, if_neg hascii, CharTable.contains, rank_wideBlanks c.toNat hwide] at h
    cases h

theorem isAlpha_of_isDecimal {c : Char} (h : isDecimal c = true) : c.isAlpha = false := by
  by_contra halpha
  have := toNat_of_isAlpha (Bool.of_not_eq_false halpha)
  have := toNat_of_isDecimal h
  omega

theorem isBlank_of_isAlpha {c : Char} (h : c.isAlpha = true) : isBlank c = false := by
  by_contra hblank
  have := toNat_of_isAlpha h
  rcases isBlank_cases (Bool.of_not_eq_false hblank) with hlow | hwide
  · omega
  · have := (by decide : ∀ n ∈ wideBlanks, 128 ≤ n) c.toNat hwide
    omega

theorem isDecimal_of_decimalValue {c : Char} {d : Nat} (h : decimalValue c = some d) :
    isDecimal c = true := by
  rw [decimalValue] at h
  split at h
  next hdigit =>
    have hascii : c.val < 0x80 := (toNat_of_isDigit hdigit).2.trans_lt (by decide)
    rw [isDecimal, if_pos hascii, hdigit]
  next =>
    split at h
    next hdecimal => exact hdecimal
    next => cases h

end Text

namespace Timestamp

open Text (isBlank isDecimal)

/-! ## Spellings -/

/-- Blanks, perhaps none. -/
structure Blanks where
  chars : List Char
  blank : ∀ c ∈ chars, isBlank c = true

/-- A number that is written with at least `least` and at most `most` digits of any script. -/
structure Numeral (least most n : Nat) where
  chars : List Char
  digits : List Nat
  decimalValues : chars.map Text.decimalValue = digits.map some
  value : Nat.ofDigits 10 digits.reverse = n
  least_le : least ≤ chars.length
  le_most : chars.length ≤ most

/-- The short name of a weekday behind at least one blank: two or three letters, perhaps a dot. -/
structure Weekday where
  gap : Blanks
  letters : List Char
  dot : Bool
  gap_ne_nil : gap.chars ≠ []
  alpha : ∀ c ∈ letters, c.isAlpha = true
  length : letters.length = 2 ∨ letters.length = 3

/-- A time of the day behind at least one blank; seconds that are zero can be left out. -/
structure Clock (hour minute second : Nat) where
  gap : Blanks
  hours : Numeral 1 2 hour
  minutes : Numeral 2 2 minute
  seconds : Option (Numeral 2 2 second)
  gap_ne_nil : gap.chars ≠ []
  second_eq : seconds = none → second = 0

/-- A spelling of a moment.  A time that is midnight can be left out. -/
structure Spelling (t : Timestamp) where
  before : Blanks
  opening : Option Char
  inner : Blanks
  years : Numeral 4 4 t.year
  months : Numeral 1 2 t.month
  days : Numeral 1 2 t.day
  weekday : Option Weekday
  clock : Option (Clock t.hour t.minute t.second)
  outer : Blanks
  closing : Option Char
  after : Blanks
  opening_eq : ∀ c ∈ opening, c = '<' ∨ c = '['
  closing_eq : ∀ c ∈ closing, c = '>' ∨ c = ']'
  midnight : clock = none → t.hour = 0 ∧ t.minute = 0 ∧ t.second = 0

def Weekday.chars (w : Weekday) : List Char :=
  w.gap.chars ++ (w.letters ++ if w.dot then ['.'] else [])

def Clock.chars {hour minute second : Nat} (clock : Clock hour minute second) : List Char :=
  clock.gap.chars ++ (clock.hours.chars ++ ':' :: (clock.minutes.chars ++
    clock.seconds.elim [] fun seconds => ':' :: seconds.chars))

namespace Spelling

variable {t : Timestamp} (s : Spelling t)

/-- The date of a spelling. -/
def date : List Char := s.years.chars ++ '-' :: (s.months.chars ++ '-' :: s.days.chars)

/-- The time of a spelling, if it has one. -/
def time : List Char := s.clock.elim [] Clock.chars

/-- The characters of a spelling. -/
def chars : List Char :=
  s.before.chars ++ (s.opening.toList ++ (s.inner.chars ++ (s.date ++
    (s.weekday.elim [] Weekday.chars ++ (s.time ++ (s.outer.chars ++
      (s.closing.toList ++ s.after.chars)))))))

/-- The text of a spelling. -/
def text : String := String.ofList s.chars

end Spelling

/-! ## Reading the parts -/

/-- What follows a part of a spelling does not belong to it: it starts with a blank or the closing
bracket, if with anything. -/
def Stops (rest : List Char) : Prop :=
  ∀ c ∈ rest.head?, isBlank c = true ∨ c = '>' ∨ c = ']'

namespace Stops

variable {rest : List Char}

theorem isDecimal (h : Stops rest) : ∀ c ∈ rest.head?, Text.isDecimal c = false := by
  intro c hc
  by_contra hdecimal
  have hdecimal := Bool.of_not_eq_false hdecimal
  rcases h c hc with hblank | rfl | rfl
  · rw [Text.isBlank_of_isDecimal hdecimal] at hblank
    cases hblank
  all_goals exact absurd hdecimal (by decide)

theorem isAlpha (h : Stops rest) : ∀ c ∈ rest.head?, c.isAlpha = false := by
  intro c hc
  by_contra halpha
  have halpha := Bool.of_not_eq_false halpha
  rcases h c hc with hblank | rfl | rfl
  · rw [Text.isBlank_of_isAlpha halpha] at hblank
    cases hblank
  all_goals exact absurd halpha (by decide)

theorem readChar? (h : Stops rest) {c : Char} (hblank : isBlank c = false) (hclosing : c ≠ '>')
    (hclosing' : c ≠ ']') : readChar? c rest = none := by
  cases rest with
  | nil => rfl
  | cons d rest =>
      refine if_neg ?_
      rintro rfl
      rcases h c rfl with hd | hd | hd
      · rw [hblank] at hd
        cases hd
      · exact hclosing hd
      · exact hclosing' hd

theorem append_blanks {gap : Blanks} (hrest : Stops rest) : Stops (gap.chars ++ rest) := by
  intro c hc
  rcases heq : gap.chars with - | ⟨d, more⟩
  · rw [heq] at hc
    exact hrest c hc
  · rw [heq] at hc
    obtain rfl := Option.some.inj hc
    exact .inl (gap.blank d (heq ▸ List.mem_cons_self))

theorem of_blanks {gap : Blanks} (hne : gap.chars ≠ []) : Stops (gap.chars ++ rest) := by
  obtain ⟨c, more, heq⟩ := List.exists_cons_of_ne_nil hne
  rw [heq]
  intro d hd
  obtain rfl := Option.some.inj hd
  exact .inl (gap.blank c (heq ▸ List.mem_cons_self))

end Stops

@[simp]
theorem readChar?_cons (c : Char) (rest : List Char) : readChar? c (c :: rest) = some rest :=
  if_pos rfl

/-- Nothing would be stripped from the end. -/
def Closed (cs : List Char) : Prop := ∀ c ∈ cs.getLast?, isBlank c = false

namespace Closed

variable {cs more : List Char}

theorem of_forall (h : ∀ c ∈ cs, isBlank c = false) : Closed cs := fun c hc =>
  h c (List.mem_of_mem_getLast? hc)

theorem singleton {c : Char} (h : isBlank c = false) : Closed [c] :=
  of_forall (List.forall_mem_singleton.mpr h)

theorem append (hcs : Closed cs) (hmore : Closed more) : Closed (cs ++ more) := by
  intro c hc
  cases hlast : more.getLast? with
  | none =>
      rw [List.getLast?_eq_none_iff.mp hlast, List.append_nil] at hc
      exact hcs c hc
  | some d =>
      rw [List.getLast?_append, hlast] at hc
      exact hmore c (hlast ▸ hc)

theorem append_of_ne_nil (hne : more ≠ []) (hmore : Closed more) : Closed (cs ++ more) := by
  intro c hc
  rw [List.getLast?_append_of_ne_nil _ hne] at hc
  exact hmore c hc

theorem cons {c : Char} (hne : more ≠ []) (hmore : Closed more) : Closed (c :: more) := by
  rw [← List.singleton_append]
  exact append_of_ne_nil hne hmore

end Closed

theorem takeWhile_eq_nil {p : Char → Bool} {cs : List Char} (h : ∀ c ∈ cs.head?, p c = false) :
    cs.takeWhile p = [] := by
  cases cs with
  | nil => rfl
  | cons c cs => rw [List.takeWhile_cons_of_neg (by simp [h c rfl])]

namespace Numeral

variable {least most n : Nat} (d : Numeral least most n)

theorem isDecimal : ∀ c ∈ d.chars, isDecimal c = true := by
  intro c hc
  have hvalue : Text.decimalValue c ∈ d.digits.map some :=
    d.decimalValues ▸ List.mem_map_of_mem hc
  obtain ⟨value, -, hvalue⟩ := List.mem_map.mp hvalue
  exact Text.isDecimal_of_decimalValue hvalue.symm

theorem ofDigits_eq : Text.ofDigits d.digits = n := (Text.ofDigits_eq d.digits).trans d.value

/-- A numeral is read up to its end, where another digit cannot belong to it or does not follow. -/
theorem readDigits? {rest : List Char}
    (h : d.chars.length = most ∨ ∀ c ∈ rest.head?, Text.isDecimal c = false) :
    readDigits? least most (d.chars ++ rest) = some (n, rest) := by
  have htake : ((d.chars ++ rest).takeWhile Text.isDecimal).take most = d.chars := by
    rw [List.takeWhile_append_of_pos d.isDecimal]
    rcases h with hlength | hrest
    · rw [List.take_append_of_le_length hlength.ge, List.take_of_length_le hlength.le]
    · rw [takeWhile_eq_nil hrest, List.append_nil, List.take_of_length_le d.le_most]
  have hdigits : d.chars.filterMap Text.decimalValue = d.digits :=
    calc d.chars.filterMap Text.decimalValue
      _ = (d.chars.map Text.decimalValue).filterMap id := by
        rw [List.filterMap_map, Function.id_comp]
      _ = d.digits := by rw [d.decimalValues, List.filterMap_map, Function.id_comp,
          List.filterMap_some]
  have hlength : d.digits.length = d.chars.length := by
    simpa using (congrArg List.length d.decimalValues).symm
  rw [Timestamp.readDigits?, htake, hdigits, hlength, if_pos d.least_le, d.ofDigits_eq,
    List.drop_left]

theorem closed : Closed d.chars := Closed.of_forall fun c hc =>
  Text.isBlank_of_isDecimal (d.isDecimal c hc)

theorem ne_nil (hleast : 0 < least) : d.chars ≠ [] :=
  List.ne_nil_of_length_pos (hleast.trans_le d.least_le)

theorem length_eq {n : Nat} (d : Numeral least least n) : d.chars.length = least :=
  d.le_most.antisymm d.least_le

theorem isDecimal_of_mem_head? (hleast : 0 < least) {rest : List Char} :
    ∀ c ∈ (d.chars ++ rest).head?, Text.isDecimal c = true := by
  intro c hc
  rw [List.head?_append_of_ne_nil _ (d.ne_nil hleast)] at hc
  exact d.isDecimal c (List.mem_of_mem_head? hc)

end Numeral

theorem Blanks.skip {gap : Blanks} (hne : gap.chars ≠ []) {rest : List Char}
    (hrest : ∀ c ∈ rest.head?, isBlank c = false) :
    skipBlanks? (gap.chars ++ rest) = some rest := by
  have hblank := gap.blank
  obtain ⟨c, more, heq⟩ := List.exists_cons_of_ne_nil hne
  rw [heq] at hblank ⊢
  obtain ⟨hc, hmore⟩ := List.forall_mem_cons.mp hblank
  rw [List.cons_append, skipBlanks?, if_pos hc, List.dropWhile_append_of_pos hmore,
    Text.dropWhile_eq_self hrest]

theorem Weekday.letters_ne_nil (w : Weekday) : w.letters ≠ [] :=
  List.ne_nil_of_length_pos (by have := w.length; omega)

theorem Weekday.closed (w : Weekday) : Closed w.chars := by
  have hdot : Closed (if w.dot then ['.'] else []) := by
    cases w.dot with
    | false => nofun
    | true => exact Closed.singleton rfl
  have hletters : Closed w.letters := Closed.of_forall fun c hc =>
    Text.isBlank_of_isAlpha (w.alpha c hc)
  exact Closed.append_of_ne_nil (by simp [w.letters_ne_nil]) (hletters.append hdot)

theorem Weekday.skip (w : Weekday) {rest : List Char} (hrest : Stops rest) :
    skipWeekday? (w.chars ++ rest) = some rest := by
  have hmark : ∀ c ∈ ((if w.dot then ['.'] else []) ++ rest).head?, c.isAlpha = false := by
    cases w.dot with
    | false => exact hrest.isAlpha
    | true => simp
  have hletters : ((w.letters ++ ((if w.dot then ['.'] else []) ++ rest)).takeWhile
      Char.isAlpha).take 3 = w.letters := by
    rw [List.takeWhile_append_of_pos w.alpha, takeWhile_eq_nil hmark, List.append_nil,
      List.take_of_length_le (by have := w.length; omega)]
  have hgap : skipBlanks? (w.chars ++ rest) =
      some (w.letters ++ ((if w.dot then ['.'] else []) ++ rest)) := by
    rw [chars, List.append_assoc, List.append_assoc]
    refine Blanks.skip w.gap_ne_nil fun c hc => ?_
    rw [List.head?_append_of_ne_nil _ w.letters_ne_nil] at hc
    exact Text.isBlank_of_isAlpha (w.alpha c (List.mem_of_mem_head? hc))
  rw [skipWeekday?, hgap]
  simp only [bind, Option.bind, hletters, List.drop_left]
  rw [if_neg (by have := w.length; omega)]
  cases w.dot with
  | false =>
      have hdot : readChar? '.' rest = none := hrest.readChar? rfl (by decide) (by decide)
      simp [hdot]
  | true => rfl

section Clock

variable {hour minute second : Nat} (clock : Clock hour minute second)

theorem Clock.skipBlanks? (rest : List Char) :
    skipBlanks? (clock.chars ++ rest) = some (clock.hours.chars ++ (':' :: (clock.minutes.chars ++
      clock.seconds.elim [] fun seconds => ':' :: seconds.chars) ++ rest)) := by
  rw [chars, List.append_assoc, List.append_assoc]
  exact Blanks.skip clock.gap_ne_nil fun c hc =>
    Text.isBlank_of_isDecimal (clock.hours.isDecimal_of_mem_head? Nat.one_pos c hc)

theorem Clock.read {rest : List Char} (hrest : Stops rest) :
    Timestamp.skipBlanks? (clock.chars ++ rest) >>= readClock? =
      some ((hour, minute, second), rest) := by
  have hhours : ∀ more : List Char, Timestamp.readDigits? 1 2 (clock.hours.chars ++ ':' :: more) =
      some (hour, ':' :: more) := fun more => clock.hours.readDigits? (.inr (by simp; decide))
  have hminutes : ∀ more, Timestamp.readDigits? 2 2 (clock.minutes.chars ++ more) =
      some (minute, more) := fun more => clock.minutes.readDigits? (.inl clock.minutes.length_eq)
  rw [clock.skipBlanks?, List.cons_append, List.append_assoc]
  cases hclock : clock.seconds with
  | none =>
      have hcolon : readChar? ':' rest = none := hrest.readChar? rfl (by decide) (by decide)
      simp [readClock?, hhours, hminutes, hcolon, clock.second_eq hclock]
  | some seconds =>
      have hseconds : Timestamp.readDigits? 2 2 (seconds.chars ++ rest) = some (second, rest) :=
        seconds.readDigits? (.inl seconds.length_eq)
      simp [readClock?, hhours, hminutes, hseconds]

theorem Clock.closed : Closed clock.chars := by
  have hseconds : Closed (clock.seconds.elim [] fun seconds => ':' :: seconds.chars) := by
    cases clock.seconds with
    | none => nofun
    | some seconds => exact Closed.cons (seconds.ne_nil Nat.two_pos) seconds.closed
  have hminutes : clock.minutes.chars ++
      (clock.seconds.elim [] fun seconds => ':' :: seconds.chars) ≠ [] :=
    List.append_ne_nil_of_left_ne_nil (clock.minutes.ne_nil Nat.two_pos) _
  refine Closed.append_of_ne_nil (by simp) (Closed.append_of_ne_nil (List.cons_ne_nil _ _) ?_)
  exact Closed.cons hminutes (clock.minutes.closed.append hseconds)

theorem Clock.skipWeekday? (rest : List Char) : skipWeekday? (clock.chars ++ rest) = none := by
  have hletters : ∀ more, (clock.hours.chars ++ more).takeWhile Char.isAlpha = [] := fun more =>
    takeWhile_eq_nil fun c hc =>
      Text.isAlpha_of_isDecimal (clock.hours.isDecimal_of_mem_head? Nat.one_pos c hc)
  simp [Timestamp.skipWeekday?, clock.skipBlanks?, hletters]

end Clock

namespace Spelling

variable {t : Timestamp} (s : Spelling t)

/-- What is left of a spelling behind its time, without blanks at its end. -/
def tail : List Char := s.closing.elim [] fun c => s.outer.chars ++ [c]

theorem tail_cases : s.tail = [] ∨
    ∃ c, (c = '>' ∨ c = ']') ∧ s.tail = s.outer.chars ++ [c] := by
  cases h : s.closing with
  | none => exact .inl (by rw [tail, h]; rfl)
  | some c => exact .inr ⟨c, s.closing_eq c h, by rw [tail, h]; rfl⟩

theorem stops_tail : Stops s.tail := by
  rcases s.tail_cases with h | ⟨c, hc, h⟩ <;> rw [h]
  · nofun
  · refine Stops.append_blanks fun d hd => ?_
    obtain rfl := Option.some.inj hd
    exact .inr hc

theorem isClosed_tail : isClosed s.tail = true := by
  rcases s.tail_cases with h | ⟨c, hc, h⟩
  · rw [h]
    rfl
  · rw [isClosed, h, List.dropWhile_append_of_pos s.outer.blank]
    rcases hc with rfl | rfl <;> rfl

/-- Behind the blanks of a tail, only the closing bracket is left. -/
theorem skipBlanks?_tail : skipBlanks? s.tail = none ∨ skipBlanks? s.tail = some ['>'] ∨
    skipBlanks? s.tail = some [']'] := by
  rcases s.tail_cases with h | ⟨c, hc, h⟩ <;> rw [h]
  · exact .inl rfl
  · by_cases hne : s.outer.chars = []
    · rw [hne]
      rcases hc with rfl | rfl <;> exact .inl rfl
    · have hblank : ∀ d ∈ [c].head?, isBlank d = false := by
        intro d hd
        obtain rfl := Option.some.inj hd
        rcases hc with rfl | rfl <;> rfl
      rw [Blanks.skip hne hblank]
      rcases hc with rfl | rfl
      · exact .inr (.inl rfl)
      · exact .inr (.inr rfl)

theorem readClock?_tail : skipBlanks? s.tail >>= readClock? = none := by
  have hbracket : readClock? ['>'] = none ∧ readClock? [']'] = none := by decide +kernel
  rcases s.skipBlanks?_tail with h | h | h <;> rw [h]
  · rfl
  · exact hbracket.1
  · exact hbracket.2

theorem skipWeekday?_tail : skipWeekday? s.tail = none := by
  rcases s.skipBlanks?_tail with h | h | h <;> rw [skipWeekday?, h] <;> rfl

theorem readDate?_date {rest : List Char} (hrest : Stops rest) :
    readDate? (s.date ++ rest) = some ((t.year, t.month, t.day), rest) := by
  have hyears : ∀ more, readDigits? 4 4 (s.years.chars ++ more) = some (t.year, more) :=
    fun more => s.years.readDigits? (.inl s.years.length_eq)
  have hmonths : ∀ more : List Char, readDigits? 1 2 (s.months.chars ++ '-' :: more) =
      some (t.month, '-' :: more) := fun more => s.months.readDigits? (.inr (by simp; decide))
  have hdays : readDigits? 1 2 (s.days.chars ++ rest) = some (t.day, rest) :=
    s.days.readDigits? (.inr hrest.isDecimal)
  simp [readDate?, date, hyears, hmonths, hdays]

theorem readClockEnd?_time :
    readClockEnd? (s.time ++ s.tail) = some (t.hour, t.minute, t.second) := by
  cases hclock : s.clock with
  | none =>
      obtain ⟨hhour, hminute, hsecond⟩ := s.midnight hclock
      rw [time, hclock, readClockEnd?, Option.elim_none, List.nil_append, s.readClock?_tail,
        hhour, hminute, hsecond]
      exact if_pos s.isClosed_tail
  | some clock =>
      rw [time, hclock, readClockEnd?, Option.elim_some, clock.read s.stops_tail]
      exact if_pos s.isClosed_tail

theorem skipWeekday?_time : skipWeekday? (s.time ++ s.tail) = none := by
  rw [time]
  cases s.clock with
  | none => exact s.skipWeekday?_tail
  | some clock => exact clock.skipWeekday? s.tail

theorem stops_time : Stops (s.time ++ s.tail) := by
  rw [time]
  cases s.clock with
  | none => exact s.stops_tail
  | some clock =>
      rw [Option.elim_some, Clock.chars, List.append_assoc]
      exact Stops.of_blanks clock.gap_ne_nil

theorem stops_weekday : Stops (s.weekday.elim [] Weekday.chars ++ (s.time ++ s.tail)) := by
  cases s.weekday with
  | none => exact s.stops_time
  | some weekday =>
      rw [Option.elim_some, Weekday.chars, List.append_assoc]
      exact Stops.of_blanks weekday.gap_ne_nil

/-- The name of a weekday is passed over, and a time is never taken for one. -/
theorem readEnd?_weekday :
    readEnd? (s.weekday.elim [] Weekday.chars ++ (s.time ++ s.tail)) =
      some (t.hour, t.minute, t.second) := by
  cases s.weekday with
  | none =>
      rw [Option.elim_none, List.nil_append, readEnd?, s.skipWeekday?_time]
      exact s.readClockEnd?_time
  | some weekday =>
      rw [Option.elim_some, readEnd?, weekday.skip s.stops_time, Option.bind_eq_bind,
        Option.bind_some, s.readClockEnd?_time]

/-! ## The stripped text -/

/-- What is left of a spelling before its date, without blanks at its start. -/
def head : List Char := s.opening.elim [] fun c => c :: s.inner.chars

/-- A spelling from its date on, without blanks at its end. -/
def body : List Char :=
  s.date ++ (s.weekday.elim [] Weekday.chars ++ (s.time ++ s.tail))

theorem exists_before_head : ∃ blanks, (∀ c ∈ blanks, isBlank c = true) ∧
    s.before.chars ++ (s.opening.toList ++ s.inner.chars) = blanks ++ s.head := by
  rw [head]
  cases s.opening with
  | none =>
      refine ⟨s.before.chars ++ s.inner.chars, fun c hc => ?_, by simp⟩
      exact (List.mem_append.mp hc).elim (s.before.blank c) (s.inner.blank c)
  | some c => exact ⟨s.before.chars, s.before.blank, rfl⟩

theorem exists_tail_after : ∃ blanks, (∀ c ∈ blanks, isBlank c = true) ∧
    s.outer.chars ++ (s.closing.toList ++ s.after.chars) = s.tail ++ blanks := by
  rw [tail]
  cases s.closing with
  | none =>
      refine ⟨s.outer.chars ++ s.after.chars, fun c hc => ?_, by simp⟩
      exact (List.mem_append.mp hc).elim (s.outer.blank c) (s.after.blank c)
  | some c => exact ⟨s.after.chars, s.after.blank, by simp⟩

theorem isDecimal_head?_body : ∀ c ∈ s.body.head?, Text.isDecimal c = true := by
  rw [body, date, List.append_assoc]
  exact s.years.isDecimal_of_mem_head? (by decide)

theorem head_cases : s.head = [] ∨ ∃ c, (c = '<' ∨ c = '[') ∧ s.head = c :: s.inner.chars := by
  cases h : s.opening with
  | none => exact .inl (by rw [head, h]; rfl)
  | some c => exact .inr ⟨c, s.opening_eq c h, by rw [head, h]; rfl⟩

theorem isBlank_head?_body : ∀ c ∈ s.body.head?, isBlank c = false := fun c hc =>
  Text.isBlank_of_isDecimal (s.isDecimal_head?_body c hc)

theorem body_ne_nil : s.body ≠ [] := by
  simp [body, date]

theorem closed_tail : Closed s.tail := by
  rcases s.tail_cases with h | ⟨c, hc, h⟩ <;> rw [h]
  · nofun
  · refine Closed.append_of_ne_nil (List.cons_ne_nil c []) (Closed.singleton ?_)
    rcases hc with rfl | rfl <;> rfl

theorem closed_date : Closed s.date :=
  Closed.append_of_ne_nil (List.cons_ne_nil _ _) <| Closed.cons (by simp) <|
    Closed.append_of_ne_nil (List.cons_ne_nil _ _) <|
      Closed.cons (s.days.ne_nil Nat.one_pos) s.days.closed

theorem closed_time : Closed s.time := by
  rw [time]
  cases s.clock with
  | none => nofun
  | some clock => exact clock.closed

theorem closed_weekday : Closed (s.weekday.elim [] Weekday.chars) := by
  cases s.weekday with
  | none => nofun
  | some weekday => exact weekday.closed

theorem closed_body : Closed s.body :=
  s.closed_date.append (s.closed_weekday.append (s.closed_time.append s.closed_tail))

theorem stripChars_chars : Text.stripChars s.chars = s.head ++ s.body := by
  obtain ⟨left, hleft, hhead⟩ := s.exists_before_head
  obtain ⟨right, hright, htail⟩ := s.exists_tail_after
  have hchars : s.chars = left ++ (s.head ++ s.body ++ right) :=
    calc s.chars
      _ = s.before.chars ++ (s.opening.toList ++ s.inner.chars) ++ (s.date ++
            (s.weekday.elim [] Weekday.chars ++ (s.time ++ (s.outer.chars ++
              (s.closing.toList ++ s.after.chars))))) := by simp only [chars, List.append_assoc]
      _ = left ++ (s.head ++ s.body ++ right) := by
        simp only [hhead, htail, body, List.append_assoc]
  rw [hchars, Text.stripChars_append_left hleft, Text.stripChars_append_right _ hright]
  refine Text.dropBothEnds_eq_self ?_ (Closed.append_of_ne_nil s.body_ne_nil s.closed_body)
  rcases s.head_cases with h | ⟨c, hc, h⟩ <;> rw [h]
  · exact s.isBlank_head?_body
  · intro d hd
    obtain rfl := Option.some.inj hd
    rcases hc with rfl | rfl <;> rfl

/-- The opening bracket and the blanks behind it are passed over. -/
theorem ofChars?_eq (ht : t.isValid = true) : ofChars? (s.head ++ s.body) = some t := by
  have hdate : readDate? s.body = some ((t.year, t.month, t.day),
      s.weekday.elim [] Weekday.chars ++ (s.time ++ s.tail)) := s.readDate?_date s.stops_weekday
  obtain ⟨c, more, hchars, hopened⟩ : ∃ c more, s.head ++ s.body = c :: more ∧
      (if c = '<' || c = '[' then more else c :: more).dropWhile isBlank = s.body := by
    rcases s.head_cases with h | ⟨c, hc, h⟩ <;> rw [h]
    · obtain ⟨c, more, hbody⟩ := List.exists_cons_of_ne_nil s.body_ne_nil
      have hdecimal : isDecimal c = true := s.isDecimal_head?_body c (by rw [hbody]; rfl)
      have hplain : ¬ (c = '<' || c = '[') = true := by
        rw [Bool.or_eq_true, decide_eq_true_eq, decide_eq_true_eq]
        rintro (rfl | rfl) <;> cases hdecimal
      refine ⟨c, more, hbody, ?_⟩
      rw [if_neg hplain, ← hbody, Text.dropWhile_eq_self s.isBlank_head?_body]
    · have hbracket : (c = '<' || c = '[') = true := by simpa using hc
      refine ⟨c, s.inner.chars ++ s.body, rfl, ?_⟩
      rw [if_pos hbracket, List.dropWhile_append_of_pos s.inner.blank,
        Text.dropWhile_eq_self s.isBlank_head?_body]
  rw [hchars]
  simp only [ofChars?]
  rw [hopened, hdate]
  simp [s.readEnd?_weekday, ht]

theorem ofText?_text (ht : t.isValid = true) : ofText? s.text = some t := by
  rw [ofText?, text, String.toList_ofList, s.stripChars_chars, s.ofChars?_eq ht]

/-- The digits of the year end before a dash or before a digit of another script. -/
theorem read?_body : Number.read? s.body = none := by
  have hyears := s.years.chars.takeWhile_append_dropWhile (p := Char.isDigit)
  have hdigits : ∀ d ∈ s.years.chars.takeWhile Char.isDigit, d.isDigit = true := fun d hd =>
    List.mem_takeWhile_imp hd
  rw [body, date]
  cases hwide : s.years.chars.dropWhile Char.isDigit with
  | nil =>
      rw [hwide, List.append_nil] at hyears
      rw [hyears] at hdigits
      rw [List.append_assoc, List.cons_append]
      exact Number.read?_append hdigits rfl rfl (by decide) fun hnil =>
        absurd hnil (s.years.ne_nil (by decide))
  | cons c wide =>
      have hc : c.isDigit = false := by
        have hnot := List.head?_dropWhile_not Char.isDigit s.years.chars
        simpa [hwide] using hnot
      have hmem : c ∈ s.years.chars := by
        rw [← hyears, hwide]
        exact List.mem_append_right _ List.mem_cons_self
      have hdecimal : isDecimal c = true := s.years.isDecimal c hmem
      have hplain : c ≠ '.' ∧ c ≠ '-' ∧ c ≠ '+' := by
        refine ⟨?_, ?_, ?_⟩ <;> rintro rfl <;> cases hdecimal
      rw [← hyears, hwide, List.append_assoc, List.append_assoc, List.cons_append]
      exact Number.read?_append hdigits hc (Text.isAlpha_of_isDecimal hdecimal) hplain.1
        fun _ => hplain.2

theorem read?_text : Number.read? (s.head ++ s.body) = none := by
  rcases s.head_cases with h | ⟨c, hc, h⟩ <;> rw [h]
  · exact s.read?_body
  · have hnone : ∀ d ∈ ([] : List Char), d.isDigit = true := by simp
    rcases hc with rfl | rfl <;> exact Number.read?_append hnone rfl rfl (by decide) (by decide)

theorem place?_ofText_text : Number.place? (Number.ofText s.text) = none := by
  have hread : Number.read? (Text.stripChars s.text.toList) = none := by
    rw [text, String.toList_ofList, s.stripChars_chars, s.read?_text]
  rw [Number.ofText, hread]
  decide +kernel

end Spelling

/-- Two moments, whatever their spellings, compare in the order of their seconds. -/
theorem compare?_spellings {t u : Timestamp} (ht : t.isValid = true) (hu : u.isValid = true)
    (r : Spelling t) (s : Spelling u) :
    Value.compare? (.text r.text) (.text s.text) =
      .ok (some (Ord.compare t.instant u.instant)) := by
  have hnumbers : Value.compareNumbers? (Number.ofText r.text) (Number.ofText s.text) = none := by
    rw [Value.compareNumbers?, r.place?_ofText_text]
  have htexts : Value.compareTexts r.text s.text = t.compare u := by
    rw [Value.compareTexts, hnumbers, r.ofText?_text ht, s.ofText?_text hu]
  rw [← compare_eq_compare_instant ht hu, ← htexts]
  rfl

/-- A spelling with brackets and a weekday, and one of a second later with two digits throughout. -/
theorem compare?_spellings_second_later :
    let t : Timestamp := ⟨2024, 1, 5, 9, 30, 0⟩
    let u : Timestamp := ⟨2024, 1, 5, 9, 30, 1⟩
    t.isValid = true ∧ u.isValid = true ∧
      Value.compare? (.text "<2024-1-5 Fri. 9:30>") (.text " 2024-01-05 09:30:01") =
        .ok (some .lt) := by
  intro t u
  have ht : t.isValid = true := by decide
  have hu : u.isValid = true := by decide
  have hblank : ∀ c ∈ [' '], isBlank c = true := List.forall_mem_singleton.mpr rfl
  let years : Numeral 4 4 2024 := ⟨"2024".toList, [2, 0, 2, 4], rfl, rfl, by decide, by decide⟩
  let minutes : Numeral 2 2 30 := ⟨"30".toList, [3, 0], rfl, rfl, by decide, by decide⟩
  let r : Spelling t :=
    { before := ⟨[], by simp⟩, opening := some '<', inner := ⟨[], by simp⟩, years := years
      months := ⟨['1'], [1], rfl, rfl, by decide, by decide⟩
      days := ⟨['5'], [5], rfl, rfl, by decide, by decide⟩
      weekday := some ⟨⟨[' '], hblank⟩, "Fri".toList, true, by simp, List.all_eq_true.mp rfl,
        .inr rfl⟩
      clock := some
        { gap := ⟨[' '], hblank⟩, hours := ⟨['9'], [9], rfl, rfl, by decide, by decide⟩
          minutes := minutes, seconds := none, gap_ne_nil := by simp, second_eq := fun _ => rfl }
      outer := ⟨[], by simp⟩, closing := some '>', after := ⟨[], by simp⟩
      opening_eq := by simp, closing_eq := by simp, midnight := by simp }
  let s : Spelling u :=
    { before := ⟨[' '], hblank⟩, opening := none, inner := ⟨[], by simp⟩, years := years
      months := ⟨"01".toList, [0, 1], rfl, rfl, by decide, by decide⟩
      days := ⟨"05".toList, [0, 5], rfl, rfl, by decide, by decide⟩
      weekday := none
      clock := some
        { gap := ⟨[' '], hblank⟩, hours := ⟨"09".toList, [0, 9], rfl, rfl, by decide, by decide⟩
          minutes := minutes
          seconds := some ⟨"01".toList, [0, 1], rfl, rfl, by decide, by decide⟩
          gap_ne_nil := by simp, second_eq := by simp }
      outer := ⟨[], by simp⟩, closing := none, after := ⟨[], by simp⟩
      opening_eq := by simp, closing_eq := by simp, midnight := by simp }
  have horder : Ord.compare t.instant u.instant = .lt := by
    rw [← compare_eq_compare_instant ht hu]
    rfl
  have hcompare := compare?_spellings ht hu r s
  rw [horder] at hcompare
  exact ⟨ht, hu, hcompare⟩

end Timestamp

end PipeTable
