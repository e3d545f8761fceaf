/-! # Hexadecimal digits

Reading and writing numbers in base sixteen, as escapes have them: with a fixed number of digits,
which may be letters of either case when they are read.
-/

namespace PipeTable.Text

/-- The value of a hexadecimal digit. -/
def hexValue? (c : Char) : Option Nat :=
  if c.isDigit then some (c.toNat - 48)
  else if 'a' ≤ c ∧ c ≤ 'f' then some (c.toNat - 87)
  else if 'A' ≤ c ∧ c ≤ 'F' then some (c.toNat - 55)
  else none

/-- The value of exactly `count` hexadecimal digits, and what follows them. -/
def takeHex? : Nat → Nat → List Char → Option (Nat × List Char)
  | 0, value, cs => some (value, cs)
  | count + 1, value, c :: cs => (hexValue? c).bind fun d => takeHex? count (16 * value + d) cs
  | _ + 1, _, [] => none

/-- The hexadecimal digits of a number, padded with zeros to a width. -/
def hexDigits (width n : Nat) : List Char :=
  let digits := Nat.toDigits 16 n
  List.replicate (width - digits.length) '0' ++ digits

end PipeTable.Text
