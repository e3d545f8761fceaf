import PipeTable.Number.Binary64
import PipeTable.Text.Integer

/-! # Numbers in cells

The grammar of a number: a sign, digits with an optional point, an optional exponent; or infinity in
any case.  The value is the nearest double.
-/

namespace PipeTable.Number

/-- The value of a run of ASCII digits. -/
def digitsValue (cs : List Char) : Nat := Text.ofDigits (cs.map fun c => c.toNat - 48)

/-- The double nearest to `digits * 10 ^ power`.  Powers far outside the range of doubles are
settled without computing them. -/
def ofDecimal (negative : Bool) (digits : Nat) (power : Int) : Float :=
  if digits = 0 then ofMagnitude negative 0
  else
    let size : Int := (digits.log2 : Int) * 30103 / 100000 + power
    if 400 < size then ofMagnitude negative infinityBits
    else if size < -400 then ofMagnitude negative 0
    else if 0 ≤ power then nearest negative (digits * Nat.pow 10 power.toNat) 1
    else nearest negative digits (Nat.pow 10 (-power).toNat)

/-- An unsigned decimal: its digits as a number, and the power of ten they are multiples of. -/
structure Decimal where
  digits : Nat
  power : Int
  deriving Repr, DecidableEq

/-- Reads an exponent after its letter: an optional sign and at least one digit. -/
def readExponent? (cs : List Char) : Option Int :=
  let digits? (ds : List Char) : Option Nat :=
    if !ds.isEmpty && ds.all Char.isDigit then some (digitsValue ds) else none
  match cs with
  | '-' :: ds => (digits? ds).map fun n => -(n : Int)
  | '+' :: ds => (digits? ds).map fun n => (n : Int)
  | ds => (digits? ds).map fun n => (n : Int)

/-- Reads what may follow the digits of a decimal: nothing or an exponent. -/
def readTail? : List Char → Option Int
  | [] => some 0
  | 'e' :: cs => readExponent? cs
  | 'E' :: cs => readExponent? cs
  | _ => none

/-- Reads `digits[.digits][exponent]` or `.digits[exponent]`; a point may end the digits. -/
def readDecimal? (cs : List Char) : Option Decimal :=
  let whole := cs.takeWhile Char.isDigit
  let rest := cs.dropWhile Char.isDigit
  let (fraction, tail) := match rest with
    | '.' :: more => (more.takeWhile Char.isDigit, more.dropWhile Char.isDigit)
    | _ => ([], rest)
  if whole.isEmpty && fraction.isEmpty then none
  else (readTail? tail).map fun power =>
    ⟨digitsValue (whole ++ fraction), power - (fraction.length : Int)⟩

/-- Reads an unsigned number; digits alone lose the sign of a zero. -/
def readUnsigned? (negative : Bool) (cs : List Char) : Option Float :=
  let small := cs.map Char.toLower
  if small = "inf".toList || small = "infinity".toList then
    some (ofMagnitude negative infinityBits)
  else (readDecimal? cs).map fun d =>
    ofDecimal (negative && !(d.digits = 0 && cs.all Char.isDigit)) d.digits d.power

/-- Reads a signed number that fills the whole text. -/
def read? (cs : List Char) : Option Float :=
  match cs with
  | '-' :: rest => readUnsigned? true rest
  | '+' :: rest => readUnsigned? false rest
  | rest => readUnsigned? false rest

/-- The number that a text holds between blanks, or not a number. -/
def ofText (s : String) : Float := (read? (Text.stripChars s.toList)).getD nan

end PipeTable.Number
