/-! # Words with quotes

A text is cut into words as a command line is: blanks separate, single quotes keep everything,
double quotes keep everything but escapes of themselves and of the backslash, and a backslash
outside quotes keeps the character after it.
-/

namespace PipeTable.Text

/-- Why a text cannot be cut into words. -/
inductive ShellFault where
  | openQuote
  | openEscape
  deriving DecidableEq, Repr

/-- Where a reader of words stands. -/
inductive ShellMode where
  | plain
  | quoted (mark : Char)
  /-- After a backslash, outside quotes or inside double ones. -/
  | escaped (quoted : Bool)
  deriving DecidableEq, Repr

/-- The characters that separate words. -/
def isShellBlank (c : Char) : Bool := c = ' ' || c = '\t' || c = '\r' || c = '\n'

/-- A word with one more character; `none` is a word that has not begun. -/
def pushChar (word : Option (List Char)) (cs : List Char) : Option (List Char) :=
  some (word.getD [] ++ cs)

/-- The words from a place on, given the word that has begun before it. -/
def shellWordsFrom : ShellMode → Option (List Char) → List Char →
    Except ShellFault (List (List Char))
  | .plain, word, [] => .ok word.toList
  | .quoted _, _, [] => .error .openQuote
  | .escaped _, _, [] => .error .openEscape
  | .plain, word, c :: cs =>
    if isShellBlank c then do return word.toList ++ (← shellWordsFrom .plain none cs)
    else if c = '"' || c = '\'' then shellWordsFrom (.quoted c) (pushChar word []) cs
    else if c = '\\' then shellWordsFrom (.escaped false) (pushChar word []) cs
    else shellWordsFrom .plain (pushChar word [c]) cs
  | .quoted mark, word, c :: cs =>
    if c = mark then shellWordsFrom .plain word cs
    else if c = '\\' && mark = '"' then shellWordsFrom (.escaped true) word cs
    else shellWordsFrom (.quoted mark) (pushChar word [c]) cs
  | .escaped true, word, c :: cs =>
    shellWordsFrom (.quoted '"')
      (pushChar word (if c = '"' || c = '\\' then [c] else ['\\', c])) cs
  | .escaped false, word, c :: cs => shellWordsFrom .plain (pushChar word [c]) cs

/-- A separator outside quotes ends the word before it. -/
theorem shellWordsFrom_blank {c : Char} (h : isShellBlank c = true) (word : Option (List Char))
    (cs : List Char) :
    shellWordsFrom .plain word (c :: cs) =
      (shellWordsFrom .plain none cs).map (word.toList ++ ·) := by
  rw [shellWordsFrom, if_pos h]
  cases shellWordsFrom .plain none cs <;> rfl

/-- The words of a text. -/
def shellWords (s : String) : Except ShellFault (List String) :=
  (shellWordsFrom .plain none s.toList).map fun words => words.map String.ofList

end PipeTable.Text
