import PipeTable.Number.Shortest

/-! # Doubles with a given number of digits

The digits of a double, exactly rounded: after the point, or in all, in positional or scientific
form.
-/

namespace PipeTable.Number

/-- Digits with leading zeros up to a length. -/
def padDigits (length : Nat) (n : Nat) : List Char :=
  let digits := digitChars n
  List.replicate (length - digits.length) '0' ++ digits

/-- The last `places` digits of a number behind a point; `point` keeps the point behind a whole
number. -/
def withPoint (places : Nat) (point : Bool) (n : Nat) : List Char :=
  let digits := padDigits (places + 1) n
  let whole := digits.take (digits.length - places)
  if places = 0 then whole ++ (if point then ['.'] else [])
  else whole ++ '.' :: digits.drop (digits.length - places)

/-- A ratio with `places` digits after the point. -/
def fixedChars (r : Ratio) (places : Nat) (point : Bool) : List Char :=
  withPoint places point (roundQuotient (r.num * Nat.pow 10 places) r.den)

/-- The first `places + 1` digits of a positive ratio as a number, and the power of ten of the first
one. -/
def leadingDigits (r : Ratio) (places : Nat) : Nat × Int :=
  let start : Int := ((r.num.log2 : Int) - r.den.log2 - 1) * 30103 / 100000 - 1
  let leading := leadingPower r 6 start
  let shifted := r.shift (leading - places)
  let digits := roundQuotient shifted.num shifted.den
  if Nat.pow 10 (places + 1) ≤ digits then (digits / 10, leading + 1) else (digits, leading)

/-- The first `places + 1` digits of a ratio, the power of ten of the first. -/
def digitsAndPower (r : Ratio) (places : Nat) : Nat × Int :=
  if r.num = 0 then (0, 0) else leadingDigits r places

/-- The mantissa and exponent of a scientific form. -/
def scientificChars (digits : Nat) (power : Int) (places : Nat) (point : Bool) : List Char :=
  withPoint places point digits ++ 'e' :: exponentChars power

/-- Drops zeros at the end of a fraction, and the point if nothing is left behind it. -/
def dropZeros (cs : List Char) : List Char :=
  if cs.contains '.' then
    let kept := (cs.reverse.dropWhile (· = '0'))
    (match kept with
      | '.' :: more => more
      | more => more).reverse
  else cs

/-- A ratio with `precision` digits in all: positional if the exponent allows, else scientific.
Unless `point` keeps them, zeros at the end are dropped. -/
def generalChars (r : Ratio) (precision : Nat) (point : Bool) : List Char :=
  let places := max precision 1 - 1
  let (digits, power) := digitsAndPower r places
  if -4 ≤ power && power ≤ (places : Int) then
    let cs := withPoint (((places : Int) - power).toNat) point digits
    if point then cs else dropZeros cs
  else
    let cs := withPoint places point digits
    (if point then cs else dropZeros cs) ++ 'e' :: exponentChars power

/-- The layouts of a double with a given number of digits. -/
inductive Layout where
  | fixed
  | scientific
  | general

/-- A double in a layout, with its sign if it is negative.  `point` keeps the point and zeros. -/
def writeAs (layout : Layout) (precision : Nat) (point : Bool) (x : Float) : List Char :=
  match shape x with
  | .nan => "nan".toList
  | .infinite negative => if negative then "-inf".toList else "inf".toList
  | .finite negative mantissa exponent =>
    let r : Ratio := ⟨mantissa * Nat.pow 2 exponent, unit⟩
    let body := match layout with
      | .fixed => fixedChars r precision point
      | .scientific =>
        let (digits, power) := digitsAndPower r precision
        scientificChars digits power precision point
      | .general => generalChars r precision point
    if negative then '-' :: body else body

end PipeTable.Number
