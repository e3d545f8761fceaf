import PipeTable.Text.Blank
import PipeTable.Text.Digit

/-! # Integers in decimal

Reading accepts blanks around the number, a sign, digits of any script and single underscores
between digits.  Writing is the plain decimal form.
-/

namespace PipeTable.Text

/-- The value of decimal digits, most significant first. -/
def ofDigits (digits : List Nat) : Nat := digits.foldl (fun value d => 10 * value + d) 0

/-- The digit values of a run of digits with single underscores between them. -/
def digitRun : List Char → Option (List Nat)
  | [] => none
  | [c] => (decimalValue c).map fun d => [d]
  | c :: '_' :: cs => do
    let d ← decimalValue c
    let ds ← digitRun cs
    return d :: ds
  | c :: cs => do
    let d ← decimalValue c
    let ds ← digitRun cs
    return d :: ds

/-- The longest number of digits that is converted between text and integer. -/
def maxIntegerDigits : Nat := 4300

/-- The value of an unsigned number; one with too many digits is refused. -/
def readNatural? (cs : List Char) : Option Nat := do
  let digits ← digitRun cs
  if digits.length ≤ maxIntegerDigits then some (ofDigits digits) else none

/-- Blanks that may stand around a number; the information separators may not. -/
def isNumberBlank (c : Char) : Bool := isBlank c && !(28 ≤ c.toNat && c.toNat ≤ 31)

/-- The value of a signed number between blanks. -/
def readIntegerChars? (cs : List Char) : Option Int :=
  match dropEndWhile isNumberBlank (cs.dropWhile isNumberBlank) with
  | '-' :: rest => (readNatural? rest).map fun n : Nat => -(n : Int)
  | '+' :: rest => (readNatural? rest).map fun n : Nat => (n : Int)
  | rest => (readNatural? rest).map fun n : Nat => (n : Int)

/-- The value of a signed number between blanks. -/
def readInteger? (s : String) : Option Int := readIntegerChars? s.toList

/-- Whether an integer has few enough digits to be written. -/
def isWritable (n : Int) : Bool := n.natAbs < Nat.pow 10 maxIntegerDigits

/-- The decimal form of an integer. -/
def writeInteger (n : Int) : String := toString n

end PipeTable.Text
