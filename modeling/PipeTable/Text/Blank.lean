/-! # Blanks, words and lines

Which characters count as white space and as line breaks, and the three ways a text is cut by them:
stripped at its ends, split into words, split into lines.
-/

namespace PipeTable.Text

/-- White space of any script, the information separators included. -/
def isBlank (c : Char) : Bool :=
  let n := c.toNat
  (9 ≤ n && n ≤ 13) || (28 ≤ n && n ≤ 32) || n = 0x85 || n = 0xA0 || n = 0x1680 ||
    (0x2000 ≤ n && n ≤ 0x200A) || n = 0x2028 || n = 0x2029 || n = 0x202F || n = 0x205F || n = 0x3000

/-- Characters that end a line; a carriage return takes a following line feed with it. -/
def isLineBreak (c : Char) : Bool :=
  let n := c.toNat
  (10 ≤ n && n ≤ 13) || (28 ≤ n && n ≤ 30) || n = 0x85 || n = 0x2028 || n = 0x2029

/-- The list without the elements at its end that satisfy `p`. -/
def dropEndWhile (p : Char → Bool) (cs : List Char) : List Char :=
  (cs.reverse.dropWhile p).reverse

/-- The characters without blanks at either end. -/
def stripChars (cs : List Char) : List Char :=
  dropEndWhile isBlank (cs.dropWhile isBlank)

/-- The text without blanks at either end. -/
def strip (s : String) : String := String.ofList (stripChars s.toList)

/-- The text without blanks at its start. -/
def stripStart (s : String) : String := String.ofList (s.toList.dropWhile isBlank)

/-- The pieces between the characters that satisfy `p`; always at least one piece. -/
def pieces (p : Char → Bool) : List Char → List (List Char)
  | [] => [[]]
  | c :: cs =>
    if p c then [] :: pieces p cs
    else match pieces p cs with
      | [] => [[c]]
      | piece :: more => (c :: piece) :: more

/-- The maximal runs of characters that are not blank. -/
def wordsChars (cs : List Char) : List (List Char) :=
  (pieces isBlank cs).filter fun piece => !piece.isEmpty

/-- The maximal runs of characters that are not blank. -/
def words (s : String) : List String := (wordsChars s.toList).map String.ofList

/-- The lines of a text without their breaks; a break at the end opens no further line. -/
def linesChars : List Char → List (List Char)
  | [] => []
  | '\r' :: '\n' :: cs => [] :: linesChars cs
  | c :: cs =>
    if isLineBreak c then [] :: linesChars cs
    else match linesChars cs with
      | [] => [[c]]
      | line :: more => (c :: line) :: more

/-- The lines of a text without their breaks. -/
def lines (s : String) : List String := (linesChars s.toList).map String.ofList

/-- The text with every carriage return, alone or before a line feed, made a line feed. -/
def unifyNewlinesChars : List Char → List Char
  | [] => []
  | '\r' :: '\n' :: cs => '\n' :: unifyNewlinesChars cs
  | c :: cs => (if c = '\r' then '\n' else c) :: unifyNewlinesChars cs

/-- The text with every carriage return, alone or before a line feed, made a line feed. -/
def unifyNewlines (s : String) : String := String.ofList (unifyNewlinesChars s.toList)

/-- The text padded with spaces on the right to at least `width` characters. -/
def padRight (s : String) (width : Nat) : String :=
  s ++ String.ofList (List.replicate (width - s.length) ' ')

end PipeTable.Text
