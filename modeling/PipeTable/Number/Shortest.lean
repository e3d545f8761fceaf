import PipeTable.Number.Binary64

/-! # Shortest decimal text of a double

The digits are the fewest that read back as the same double, and of those the nearest.  The layout
is positional for exponents from -4 to 15 and scientific otherwise.
-/

namespace PipeTable.Number

/-- A positive rational as numerator and denominator. -/
structure Ratio where
  num : Nat
  den : Nat

namespace Ratio

/-- `mantissa * 2 ^ exponent` with the exponent in units of the smallest double's quarter. -/
def ofScaled (mantissa exponent : Nat) : Ratio :=
  ⟨mantissa * Nat.pow 2 exponent, Nat.pow 2 1076⟩

/-- The ratio divided by a power of ten. -/
def shift (r : Ratio) (power : Int) : Ratio :=
  if 0 ≤ power then ⟨r.num, r.den * Nat.pow 10 power.toNat⟩
  else ⟨r.num * Nat.pow 10 (-power).toNat, r.den⟩

end Ratio

/-- The reals that round to one double: between the two ends, which belong to it or not. -/
structure Interval where
  low : Ratio
  value : Ratio
  high : Ratio
  closed : Bool

namespace Interval

/-- The interval of the finite positive double `mantissa * 2 ^ (exponent - 1074)`. -/
def ofParts (mantissa exponent : Nat) : Interval where
  low :=
    if mantissa = Nat.pow 2 52 ∧ 0 < exponent then .ofScaled (4 * mantissa - 1) exponent
    else .ofScaled (4 * mantissa - 2) exponent
  value := .ofScaled (4 * mantissa) exponent
  high := .ofScaled (4 * mantissa + 2) exponent
  closed := mantissa % 2 = 0

/-- Whether `digits * 10 ^ power` lies in the interval. -/
def holds (i : Interval) (digits : Nat) (power : Int) : Bool :=
  let low := i.low.shift power
  let high := i.high.shift power
  if i.closed then low.num ≤ digits * low.den && digits * high.den ≤ high.num
  else low.num < digits * low.den && digits * high.den < high.num

/-- The decimal with a given spacing that lies in the interval, the nearer one if there are two. -/
def pick (i : Interval) (power : Int) : Option Nat :=
  let v := i.value.shift power
  let below := v.num / v.den
  let rest := v.num % v.den
  let above := below + 1
  match i.holds below power, i.holds above power with
  | true, true =>
    some (if 2 * rest < v.den then below else if v.den < 2 * rest then above
      else below + below % 2)
  | true, false => some below
  | false, true => some above
  | false, false => none

/-- Tries spacings from `power` downwards. -/
def search (i : Interval) : Nat → Int → Nat × Int
  | 0, power => ((i.pick power).getD 0, power)
  | fuel + 1, power =>
    match i.pick power with
    | some digits => (digits, power)
    | none => i.search fuel (power - 1)

end Interval

/-- The exponent of the leading decimal digit: the greatest `p` from `start` on with
`10 ^ p ≤ r`, looking at most `fuel` steps ahead. -/
def leadingPower (r : Ratio) : Nat → Int → Int
  | 0, p => p
  | fuel + 1, p =>
    let next := r.shift (p + 1)
    if next.den ≤ next.num then leadingPower r fuel (p + 1) else p

/-- Moves zeros at the end of the digits into the power. -/
def trimZeros : Nat → Nat → Int → Nat × Int
  | 0, digits, power => (digits, power)
  | fuel + 1, digits, power =>
    if digits ≠ 0 ∧ digits % 10 = 0 then trimZeros fuel (digits / 10) (power + 1)
    else (digits, power)

/-- Digits and power of ten of the shortest decimal for `mantissa * 2 ^ (exponent - 1074)`. -/
def shortestParts (mantissa exponent : Nat) : Nat × Int :=
  let interval := Interval.ofParts mantissa exponent
  let bits : Int := (mantissa.log2 : Int) + exponent - 1074
  let start : Int := (bits * 30103).fdiv 100000 - 1
  let (digits, power) := interval.search 17 (leadingPower interval.value 4 start)
  trimZeros 20 digits power

/-- The decimal digits of a natural number. -/
def digitChars (n : Nat) : List Char := (toString n).toList

/-- The exponent of a scientific form: a sign and at least two digits. -/
def exponentChars (p : Int) : List Char :=
  let digits := digitChars p.natAbs
  (if p < 0 then '-' else '+') :: (List.replicate (2 - digits.length) '0' ++ digits)

/-- Digits with a point after the given count of them, zeros added on either side as needed. -/
def positional (digits : List Char) (whole : Int) : List Char :=
  if whole ≤ 0 then '0' :: '.' :: (List.replicate (-whole).toNat '0' ++ digits)
  else if digits.length ≤ whole.toNat then
    digits ++ List.replicate (whole.toNat - digits.length) '0' ++ ['.', '0']
  else digits.take whole.toNat ++ '.' :: digits.drop whole.toNat

/-- One digit before the point, the others after it, and the exponent. -/
def scientific (digits : List Char) (leading : Int) : List Char :=
  let mantissa := match digits with
    | first :: second :: more => first :: '.' :: second :: more
    | short => short
  mantissa ++ 'e' :: exponentChars leading

/-- The text of the double with the given digits and power of ten. -/
def layout (digits : Nat) (power : Int) : List Char :=
  let chars := digitChars digits
  let leading := power + (chars.length : Int) - 1
  if -4 ≤ leading ∧ leading < 16 then positional chars (leading + 1) else scientific chars leading

/-- The shortest text that reads back as the double. -/
def write (x : Float) : String :=
  match shape x with
  | .nan => "nan"
  | .infinite negative => if negative then "-inf" else "inf"
  | .finite negative mantissa exponent =>
    let body := if mantissa = 0 then ['0', '.', '0']
      else let (digits, power) := shortestParts mantissa exponent; layout digits power
    String.ofList (if negative then '-' :: body else body)

end PipeTable.Number
