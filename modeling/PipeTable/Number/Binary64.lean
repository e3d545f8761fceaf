/-! # Double precision numbers

A finite double is an integer multiple of two to the power minus 1074.  Through that integer all
comparisons with integers of any size, roundings and remainders are exact.
-/

namespace PipeTable.Number

/-- What the bits of a double say. -/
inductive Shape where
  | nan
  | infinite (negative : Bool)
  | finite (negative : Bool) (mantissa : Nat) (exponent : Nat)
  deriving DecidableEq, Repr

/-- Reads the bits of a double; a finite one is `mantissa * 2 ^ (exponent - 1074)`. -/
def shape (x : Float) : Shape :=
  let bits := x.toBits.toNat
  let negative := bits / Nat.pow 2 63 = 1
  let biased := bits / Nat.pow 2 52 % Nat.pow 2 11
  let fraction := bits % Nat.pow 2 52
  if biased = 2047 then if fraction = 0 then .infinite negative else .nan
  else if biased = 0 then .finite negative fraction 0
  else .finite negative (Nat.pow 2 52 + fraction) (biased - 1)

/-- The power of two that makes every finite double an integer. -/
def unit : Nat := Nat.pow 2 1074

/-- The bit pattern of infinity. -/
def infinityBits : Nat := 2047 * Nat.pow 2 52

/-- The double with the given bits and sign. -/
def ofMagnitude (negative : Bool) (bits : Nat) : Float :=
  Float.ofBits (UInt64.ofNat (bits + if negative then Nat.pow 2 63 else 0))

/-- Positive infinity. -/
def infinity : Float := ofMagnitude false infinityBits

/-- Not a number. -/
def nan : Float := ofMagnitude false (2047 * Nat.pow 2 52 + Nat.pow 2 51)

/-- The quotient rounded to the nearest integer, a half to the even one. -/
def roundQuotient (num den : Nat) : Nat :=
  let q := num / den
  let r := num % den
  if 2 * r < den then q else if den < 2 * r then q + 1 else q + q % 2

/-- The bits of the double nearest to `num / den`, infinity when it lies beyond all of them. -/
def nearestBits (num den : Nat) : Nat :=
  if num = 0 then 0
  else
    let rough : Int := (num.log2 : Int) - (den.log2 : Int)
    -- `rough` or one less is the position of the leading bit of the quotient
    let exact : Int :=
      if (if 0 ≤ rough then decide (num < den * Nat.pow 2 rough.toNat)
          else decide (num * Nat.pow 2 (-rough).toNat < den)) then rough - 1 else rough
    let exponent : Int := max (exact - 52) (-1074)
    let q := if 0 ≤ exponent then roundQuotient num (den * Nat.pow 2 exponent.toNat)
      else roundQuotient (num * Nat.pow 2 (-exponent).toNat) den
    min ((exponent + 1074).toNat * Nat.pow 2 52 + q) infinityBits

/-- The double nearest to a quotient, with a sign of its own. -/
def nearest (negative : Bool) (num den : Nat) : Float :=
  ofMagnitude negative (nearestBits num den)

/-- The double nearest to an integer; none when the integer lies beyond all of them. -/
def ofInteger? (n : Int) : Option Float :=
  let bits := nearestBits n.natAbs 1
  if bits < infinityBits then some (ofMagnitude (n < 0) bits) else none

/-- The value of a finite double in units of the smallest one. -/
def scaled? (x : Float) : Option Int :=
  match shape x with
  | .finite negative mantissa exponent =>
    let magnitude : Int := (mantissa * Nat.pow 2 exponent : Nat)
    some (if negative then -magnitude else magnitude)
  | _ => none

/-- Whether the sign bit is set. -/
def isNegative (x : Float) : Bool := x.toBits.toNat / Nat.pow 2 63 = 1

/-- Whether the double is not a number. -/
def isNaN (x : Float) : Bool := shape x = .nan

/-- Whether the double is finite and a whole number. -/
def isWhole (x : Float) : Bool :=
  match scaled? x with
  | some n => n % (unit : Int) = 0
  | none => false

/-- The integer part of a finite double, fractions cut off. -/
def truncate? (x : Float) : Option Int := (scaled? x).map fun n => n.tdiv (unit : Int)

/-- A place on the number line extended by both infinities, in units of the smallest double. -/
inductive Place where
  | negativeInfinity
  | at (scaled : Int)
  | positiveInfinity
  deriving DecidableEq, Repr

/-- The order along the extended number line. -/
def Place.compare : Place → Place → Ordering
  | .at a, .at b => Ord.compare a b
  | .negativeInfinity, .negativeInfinity => .eq
  | .positiveInfinity, .positiveInfinity => .eq
  | .negativeInfinity, _ => .lt
  | _, .negativeInfinity => .gt
  | .positiveInfinity, _ => .gt
  | _, .positiveInfinity => .lt

/-- The place of a double; not a number has none. -/
def place? (x : Float) : Option Place :=
  match shape x with
  | .nan => none
  | .infinite negative => some (if negative then .negativeInfinity else .positiveInfinity)
  | .finite .. => (scaled? x).map Place.at

/-- The place of an integer. -/
def placeOfInteger (n : Int) : Place := .at (n * (unit : Int))

/-- The remainder with the sign of the dividend, exact. -/
def remainder (x y : Float) : Float :=
  match scaled? x, scaled? y with
  | some a, some b => if b = 0 then nan else nearest (isNegative x) (a.natAbs % b.natAbs) unit
  | some _, none => if isNaN y then nan else x
  | none, _ => nan

end PipeTable.Number
