import PipeTable.Text.CaseTable

/-! # Lower and upper case

Full case mappings: one character may become several, and a capital sigma becomes the final form at
the end of a word.
-/

namespace PipeTable.Text

/-- The upper case of one character. -/
def upperChar (c : Char) : List Char :=
  if c.val < 0x80 then [c.toUpper]
  else match upperRuns.find? c.toNat with
    | some image => [Char.ofNat image]
    | none => (upperSequences.lookup c.toNat).getD [c]

/-- The upper case of a text. -/
def upper (s : String) : String := String.ofList (s.toList.flatMap upperChar)

/-- The single lower case letter of a character, without regard to its neighbours. -/
def lowerSimple (c : Char) : Char :=
  if c.val < 0x80 then c.toLower
  else match lowerRuns.find? c.toNat with
    | some image => Char.ofNat image
    | none => if c.toNat = 0x130 then 'i' else c

/-- Whether the first character that is not passed over is a cased letter. -/
def meetsCased (cs : List Char) : Bool :=
  match cs.dropWhile caseIgnorableTable.contains with
  | c :: _ => casedTable.contains c
  | [] => false

/-- The lower case of a character between the characters before it, nearest first, and those after
it: a capital sigma after a letter and before none is final. -/
def lowerChar (before : List Char) (c : Char) (after : List Char) : List Char :=
  if c.toNat = 0x3A3 then
    if meetsCased before && !meetsCased after then [Char.ofNat 0x3C2] else [Char.ofNat 0x3C3]
  else if c.toNat = 0x130 then ['i', Char.ofNat 0x307]
  else [lowerSimple c]

/-- The lower case of the characters that follow `before`, which is held nearest first. -/
def lowerChars (before : List Char) : List Char → List Char
  | [] => []
  | c :: cs => lowerChar before c cs ++ lowerChars (c :: before) cs

/-- The lower case of a text. -/
def lower (s : String) : String := String.ofList (lowerChars [] s.toList)

/-- The text with its ASCII capitals made small and all else kept. -/
def lowerAscii (s : String) : String := s.map Char.toLower

end PipeTable.Text
