import PipeTable.Fault
import PipeTable.Number.Complex
import PipeTable.Text.Integer
import PipeTable.Value.Basic

/-! # Arithmetic of values

Truth values count as integers.  An integer meets a float as a float and either meets a complex
number as a complex one; integers among themselves stay exact.
-/

namespace PipeTable.Value

open Number (FloatPair)

/-- The number that a value is for arithmetic. -/
inductive Numeric where
  | integer (n : Int)
  | real (x : Float)
  | complex (z : FloatPair)

/-- Reads a value as a number. -/
def numeric? : Value → Option Numeric
  | .bool b => some (.integer (if b then 1 else 0))
  | .int n => some (.integer n)
  | .float x => some (.real x)
  | .complex re im => some (.complex ⟨re, im⟩)
  | _ => Option.none

/-- Two numbers brought to one type. -/
inductive Pair where
  | integers (a b : Int)
  | reals (x y : Float)
  | complexes (x y : FloatPair)

/-- The double of an integer, if there is one. -/
def realOfInteger (n : Int) : Except Fault Float :=
  match Number.ofInteger? n with
  | some x => .ok x
  | Option.none => .error .overflow

/-- The complex number of a number. -/
def Numeric.toComplex : Numeric → Except Fault FloatPair
  | .integer n => (realOfInteger n).map FloatPair.ofReal
  | .real x => .ok (FloatPair.ofReal x)
  | .complex z => .ok z

/-- The double of a number that is not complex. -/
def Numeric.toReal : Numeric → Except Fault Float
  | .integer n => realOfInteger n
  | .real x => .ok x
  | .complex _ => .error .mismatch

/-- Brings two numbers to the wider of their types. -/
def Numeric.pair (a b : Numeric) : Except Fault Pair :=
  match a, b with
  | .integer m, .integer n => .ok (.integers m n)
  | .complex _, _ => do return .complexes (← a.toComplex) (← b.toComplex)
  | _, .complex _ => do return .complexes (← a.toComplex) (← b.toComplex)
  | _, _ => do return .reals (← a.toReal) (← b.toReal)

/-- The value of a complex number. -/
def ofComplex (z : FloatPair) : Value := .complex z.re z.im

/-- Applies an operation of numbers to two values. -/
def onPair (f : Pair → Except Fault Value) (a b : Value) : Except Fault Value :=
  match numeric? a, numeric? b with
  | some x, some y => x.pair y >>= f
  | _, _ => .error .mismatch

/-- The sum of two numbers. -/
def addPair : Pair → Except Fault Value
  | .integers m n => .ok (.int (m + n))
  | .reals x y => .ok (.float (x + y))
  | .complexes x y => .ok (ofComplex (x.add y))

/-- The difference of two numbers. -/
def subtractPair : Pair → Except Fault Value
  | .integers m n => .ok (.int (m - n))
  | .reals x y => .ok (.float (x - y))
  | .complexes x y => .ok (ofComplex (x.sub y))

/-- The product of two numbers. -/
def multiplyPair : Pair → Except Fault Value
  | .integers m n => .ok (.int (m * n))
  | .reals x y => .ok (.float (x * y))
  | .complexes x y => .ok (ofComplex (x.mul y))

/-- The quotient of two integers, rounded once. -/
def divideIntegers (m n : Int) : Except Fault Value :=
  if n = 0 then .error .divisionByZero
  else
    let x := Number.nearest (decide (m < 0) != decide (n < 0)) m.natAbs n.natAbs
    if x.abs == Number.infinity then .error .overflow else .ok (.float x)

/-- The quotient of two numbers. -/
def dividePair : Pair → Except Fault Value
  | .integers m n => divideIntegers m n
  | .reals x y => if y == 0.0 then .error .divisionByZero else .ok (.float (x / y))
  | .complexes x y => match x.div? y with
    | some z => .ok (ofComplex z)
    | Option.none => .error .divisionByZero

/-- A zero with the sign of a double. -/
def signedZero (x : Float) : Float := Number.ofMagnitude (Number.isNegative x) 0

/-- The remainder of doubles with the sign of the divisor. -/
def realModulo (x y : Float) : Float :=
  let r := Number.remainder x y
  if r == 0.0 then signedZero y
  else if (y < 0.0) != (r < 0.0) then r + y else r

/-- The quotient of doubles rounded down, so that it fits the remainder. -/
def realFloorQuotient (x y : Float) : Float :=
  let r := Number.remainder x y
  let plain := (x - r) / y
  let q := if r != 0.0 && (y < 0.0) != (r < 0.0) then plain - 1.0 else plain
  if q == 0.0 then signedZero (x / y)
  else
    let down := q.floor
    if q - down > 0.5 then down + 1.0 else down

/-- The quotient of two numbers rounded down. -/
def floorQuotientPair : Pair → Except Fault Value
  | .integers m n => if n = 0 then .error .divisionByZero else .ok (.int (m.fdiv n))
  | .reals x y =>
    if y == 0.0 then .error .divisionByZero else .ok (.float (realFloorQuotient x y))
  | .complexes .. => .error .mismatch

/-- The remainder of two numbers with the sign of the divisor. -/
def moduloPair : Pair → Except Fault Value
  | .integers m n => if n = 0 then .error .divisionByZero else .ok (.int (m.fmod n))
  | .reals x y => if y == 0.0 then .error .divisionByZero else .ok (.float (realModulo x y))
  | .complexes .. => .error .mismatch

/-- A power of doubles.  A result that is no number and one beyond all numbers are refused unless an
operand is so itself. -/
def realPower (x y : Float) : Except Fault Float :=
  let r := x.pow y
  if (Number.scaled? x).isNone || (Number.scaled? y).isNone then .ok r
  else if Number.isNaN r then .error .badValue
  else if r.abs == Number.infinity then .error (if x == 0.0 then .badValue else .overflow)
  else .ok r

/-- A power of doubles one of which stands for a truth value. -/
def realPowerOfTruth (x y : Float) : Except Fault Value :=
  if x == 0.0 && y < 0.0 && (Number.scaled? y).isSome then .error .divisionByZero
  else .ok (.float (x.pow y))

/-- A power of integers one of which stands for a truth value, so that it stays small. -/
def integerPowerOfTruth (m n : Int) : Except Fault Value :=
  if n < 0 then do realPowerOfTruth (← realOfInteger m) (← realOfInteger n)
  else if n = 0 then .ok (.int 1)
  else if m = 0 || m = 1 then .ok (.int m)
  else .ok (.int (Int.pow m n.toNat))

/-- A power of complex numbers. -/
def complexPower (x y : FloatPair) : Except Fault Value :=
  match x.pow? y with
  | some z => if z.isInfinite then .error .overflow else .ok (ofComplex z)
  | Option.none => .error .divisionByZero

/-- A power of values.  Numbers that are no truth values are raised as doubles, so that the result
cannot grow without bound. -/
def power (a b : Value) : Except Fault Value :=
  match numeric? a, numeric? b with
  | some x, some y =>
    if a.isNumber && b.isNumber then do
      return .float (← realPower (← x.toReal) (← y.toReal))
    else do
      match ← x.pair y with
      | .integers m n => integerPowerOfTruth m n
      | .reals x y => realPowerOfTruth x y
      | .complexes x y => complexPower x y
  | _, _ => .error .mismatch

/-- The sum of two numbers, or two sequences of one kind joined. -/
def add (a b : Value) : Except Fault Value :=
  match a, b with
  | .text s, .text t => .ok (.text (s ++ t))
  | .bytes s, .bytes t => .ok (.bytes (s ++ t))
  | .list xs, .list ys => .ok (.list (xs ++ ys))
  | .tuple xs, .tuple ys => .ok (.tuple (xs ++ ys))
  | _, _ => onPair addPair a b

/-- The difference of two numbers. -/
def subtract (a b : Value) : Except Fault Value := onPair subtractPair a b

/-- The quotient of two numbers. -/
def divide (a b : Value) : Except Fault Value := onPair dividePair a b

/-- The quotient of two numbers rounded down. -/
def floorQuotient (a b : Value) : Except Fault Value :=
  match a, b with
  | .complex .., _ => .error .mismatch
  | _, .complex .. => .error .mismatch
  | _, _ => onPair floorQuotientPair a b

/-- The remainder of two numbers. -/
def remainder (a b : Value) : Except Fault Value :=
  match a, b with
  | .complex .., _ => .error .mismatch
  | _, .complex .. => .error .mismatch
  | _, _ => onPair moduloPair a b

/-! ## Repetition -/

/-- The most copies of a sequence. -/
def maxCopies : Int := 10000

/-- The greatest count that a sequence can be repeated by, and the greatest length. -/
def maxIndex : Int := Nat.pow 2 63 - 1

/-- The length of a text, of bytes, of a list and of a tuple. -/
def length? : Value → Option Nat
  | .text s => some s.length
  | .bytes data => some data.length
  | .list items => some items.length
  | .tuple items => some items.length
  | _ => Option.none

/-- A list repeated. -/
def copies {α : Type} (items : List α) (count : Int) : List α :=
  if items.isEmpty then [] else (List.replicate count.toNat items).flatten

/-- A sequence repeated; none if the value is no sequence. -/
def repeated? (v : Value) (count : Int) : Option Value :=
  match v with
  | .text s => some (.text (String.ofList (copies s.toList count)))
  | .bytes data => some (.bytes (copies data count))
  | .list items => some (.list (copies items count))
  | .tuple items => some (.tuple (copies items count))
  | _ => Option.none

/-- Whether the number of copies of a value is bounded. -/
def isBounded : Value → Bool
  | .text _ | .list _ | .tuple _ => true
  | _ => false

/-- Refuses too many copies of a sequence.  The refusal states the count if that can be written. -/
def checkCopies (v : Value) (count : Value) : Except Fault Unit :=
  match count.integer? with
  | some n =>
    if v.isBounded && maxCopies < n then
      .error (if Text.isWritable n then .tooManyCopies n else .badValue)
    else .ok ()
  | Option.none => .ok ()

/-- Whether a sequence of a length can be repeated by a count: neither the count nor the length of
the product is too large. -/
def canRepeat (length : Nat) (count : Int) : Bool :=
  -maxIndex - 1 ≤ count && count ≤ maxIndex && length * count ≤ maxIndex

/-- A sequence times an integer. -/
def repeatBy (v : Value) (count : Int) : Except Fault Value :=
  let fits := canRepeat (v.length?.getD 0) count
  match repeated? v (if fits then count else 0) with
  | some r => if fits then .ok r else .error .overflow
  | Option.none => .error .mismatch

/-- The product of two numbers, or a sequence repeated as often as an integer on either side says.
-/
def multiply (a b : Value) : Except Fault Value := do
  checkCopies a b
  checkCopies b a
  match numeric? a, numeric? b with
  | some _, some _ => onPair multiplyPair a b
  | _, some (.integer n) => repeatBy a n
  | some (.integer n), _ => repeatBy b n
  | _, _ => .error .mismatch

end PipeTable.Value
