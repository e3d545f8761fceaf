import PipeTable.Text.Blank
import PipeTable.Text.Integer

/-! # Timestamps

A timestamp is a date `Y-M-D`, optionally followed by the short name of a weekday and by a time,
optionally in angle or square brackets.  Only days that the calendar has are timestamps.
-/

namespace PipeTable

/-- A point of the calendar, to the second. -/
structure Timestamp where
  year : Nat
  month : Nat
  day : Nat
  hour : Nat
  minute : Nat
  second : Nat
  deriving DecidableEq, Repr

namespace Timestamp

/-- Whether the year has a leap day. -/
def isLeap (year : Nat) : Bool := (year % 4 = 0 && year % 100 ≠ 0) || year % 400 = 0

/-- The number of days in a month. -/
def daysIn (year month : Nat) : Nat :=
  if month = 2 then if isLeap year then 29 else 28
  else if month = 4 || month = 6 || month = 9 || month = 11 then 30
  else 31

/-- Whether the calendar and the clock have this moment. -/
def isValid (t : Timestamp) : Bool :=
  1 ≤ t.month && t.month ≤ 12 && 1 ≤ t.day && t.day ≤ daysIn t.year t.month &&
    t.hour ≤ 23 && t.minute ≤ 59 && t.second ≤ 59

/-- Chronological order. -/
def compare (a b : Timestamp) : Ordering :=
  (Ord.compare a.year b.year).then <| (Ord.compare a.month b.month).then <|
    (Ord.compare a.day b.day).then <| (Ord.compare a.hour b.hour).then <|
      (Ord.compare a.minute b.minute).then (Ord.compare a.second b.second)

/-- The number that at least `least` and at most `most` leading digits form, and the rest. -/
def readDigits? (least most : Nat) (cs : List Char) : Option (Nat × List Char) :=
  let digits := ((cs.takeWhile Text.isDecimal).take most).filterMap Text.decimalValue
  if least ≤ digits.length then some (Text.ofDigits digits, cs.drop digits.length) else none

/-- The rest after an expected character. -/
def readChar? (c : Char) : List Char → Option (List Char)
  | d :: cs => if c = d then some cs else none
  | [] => none

/-- Reads `Y-M-D` with four digits of the year and one or two of month and day. -/
def readDate? (cs : List Char) : Option ((Nat × Nat × Nat) × List Char) := do
  let (year, cs) ← readDigits? 4 4 cs
  let cs ← readChar? '-' cs
  let (month, cs) ← readDigits? 1 2 cs
  let cs ← readChar? '-' cs
  let (day, cs) ← readDigits? 1 2 cs
  return ((year, month, day), cs)

/-- Reads `H:MM` or `H:MM:SS`. -/
def readClock? (cs : List Char) : Option ((Nat × Nat × Nat) × List Char) := do
  let (hour, cs) ← readDigits? 1 2 cs
  let cs ← readChar? ':' cs
  let (minute, cs) ← readDigits? 2 2 cs
  match readChar? ':' cs >>= readDigits? 2 2 with
  | some (second, cs) => return ((hour, minute, second), cs)
  | none => return ((hour, minute, 0), cs)

/-- The rest after at least one blank and all that follow it. -/
def skipBlanks? : List Char → Option (List Char)
  | c :: cs => if Text.isBlank c then some (cs.dropWhile Text.isBlank) else none
  | [] => none

/-- The rest after blanks, two or three ASCII letters and an optional dot. -/
def skipWeekday? (cs : List Char) : Option (List Char) := do
  let cs ← skipBlanks? cs
  let letters := (cs.takeWhile Char.isAlpha).take 3
  if letters.length < 2 then none
  else
    let rest := cs.drop letters.length
    return (readChar? '.' rest).getD rest

/-- Whether nothing but blanks and one closing bracket is left. -/
def isClosed (cs : List Char) : Bool :=
  match cs.dropWhile Text.isBlank with
  | [] => true
  | [c] => c = '>' || c = ']'
  | _ => false

/-- Reads the end of a timestamp: a time or none, then the closing. -/
def readClockEnd? (cs : List Char) : Option (Nat × Nat × Nat) :=
  match skipBlanks? cs >>= readClock? with
  | some (clock, rest) => if isClosed rest then some clock else none
  | none => if isClosed cs then some (0, 0, 0) else none

/-- Reads what follows the date, with or without the name of a weekday. -/
def readEnd? (cs : List Char) : Option (Nat × Nat × Nat) :=
  match skipWeekday? cs >>= readClockEnd? with
  | some clock => some clock
  | none => readClockEnd? cs

/-- The timestamp that fills the characters. -/
def ofChars? (cs : List Char) : Option Timestamp := do
  let cs := match cs with
    | c :: more => if c = '<' || c = '[' then more else cs
    | [] => []
  let ((year, month, day), cs) ← readDate? (cs.dropWhile Text.isBlank)
  let (hour, minute, second) ← readEnd? cs
  let t : Timestamp := ⟨year, month, day, hour, minute, second⟩
  if t.isValid then some t else none

/-- The timestamp that a text holds between blanks. -/
def ofText? (s : String) : Option Timestamp := ofChars? (Text.stripChars s.toList)

end Timestamp

end PipeTable
