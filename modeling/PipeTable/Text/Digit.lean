import PipeTable.Text.CharTable

/-! # Digits

Decimal digits come in runs of ten consecutive code points, one run per script, so the value of a
digit is its distance from the start of its run.  Digits in the wider sense also include
superscripts and circled digits, which have no positional value.
-/

namespace PipeTable.Text

/-- Boundaries of the decimal digits beyond ASCII; each run has a length that ten divides. -/
def decimalTable : CharTable := .ofGaps
  "1632 10 134 10 198 10 412 10 118 10 118 10 118 10 118 10 118 10 118 10 118 10 118 10 118 10 96
    10 118 10 70 10 278 10 70 10 1862 10 38 10 300 10 128 10 166 10 6 10 182 10 86 10 134 10 6 10
    35270 10 678 10 38 10 198 10 22 10 86 10 406 10 21270 10 1414 10 2182 10 812 10 128 10 60 10 144
    10 278 10 342 10 118 10 374 10 102 10 102 10 422 10 102 10 758 10 246 10 70 10 19638 10 86 10
    134 10 27764 50 2368 10 422 10 1622 10 4758 10"

/-- Boundaries of all characters that count as digits beyond ASCII. -/
def digitTable : CharTable := .ofGaps
  "178 2 5 1 1446 10 134 10 198 10 412 10 118 10 118 10 118 10 118 10 118 10 118 10 118 10 118 10
    118 10 96 10 118 10 70 10 278 10 70 10 719 9 1134 10 38 10 300 10 128 11 165 10 6 10 182 10 86
    10 134 10 6 10 1046 1 3 6 6 10 982 9 11 9 11 9 89 1 10 9 1 1 630 9 1 9 1 9 32397 10 678 10 38 10
    198 10 22 10 86 10 406 10 21270 10 1414 10 1430 4 748 10 294 9 489 9 11 10 128 10 60 10 144 10
    278 10 342 10 118 10 374 10 102 10 102 10 422 10 102 10 758 10 246 10 70 10 19638 10 86 10 134
    10 27764 50 2368 10 422 10 1622 10 1958 11 2789 10"

/-- Whether the character has a positional decimal value. -/
def isDecimal (c : Char) : Bool :=
  if c.val < 0x80 then c.isDigit else decimalTable.contains c

/-- Whether the character is a digit in the wide sense, superscripts included. -/
def isDigit (c : Char) : Bool :=
  if c.val < 0x80 then c.isDigit else digitTable.contains c

/-- The value of a decimal digit of any script. -/
def decimalValue (c : Char) : Option Nat :=
  if c.isDigit then some (c.toNat - 48)
  else if isDecimal c then (decimalTable.runStart c).map fun start => (c.toNat - start) % 10
  else none

end PipeTable.Text
