import PipeTable.Number.Binary64

/-! # Complex numbers

Arithmetic on pairs of doubles.  Products and quotients are written out in the order in which their
parts are rounded.
-/

namespace PipeTable.Number

/-- A complex number. -/
structure FloatPair where
  re : Float
  im : Float

namespace FloatPair

/-- A real number as a complex one. -/
def ofReal (x : Float) : FloatPair := ⟨x, 0.0⟩

/-- Whether both parts are zero. -/
def isZero (z : FloatPair) : Bool := z.re == 0.0 && z.im == 0.0

/-- The sum, part by part. -/
def add (a b : FloatPair) : FloatPair := ⟨a.re + b.re, a.im + b.im⟩

/-- The difference, part by part. -/
def sub (a b : FloatPair) : FloatPair := ⟨a.re - b.re, a.im - b.im⟩

/-- The product. -/
def mul (a b : FloatPair) : FloatPair :=
  ⟨a.re * b.re - a.im * b.im, a.re * b.im + a.im * b.re⟩

/-- The quotient, scaled by the larger part of the divisor; none if that is zero. -/
def div? (a b : FloatPair) : Option FloatPair :=
  if b.im.abs <= b.re.abs then
    if b.re == 0.0 then none
    else
      let ratio := b.im / b.re
      let scale := b.re + b.im * ratio
      some ⟨(a.re + a.im * ratio) / scale, (a.im - a.re * ratio) / scale⟩
  else if b.re.abs <= b.im.abs then
    let ratio := b.re / b.im
    let scale := b.re * ratio + b.im
    some ⟨(a.re * ratio + a.im) / scale, (a.im * ratio - a.re) / scale⟩
  else some ⟨nan, nan⟩

/-- A power with a natural exponent by repeated squaring, looking at `fuel` bits at most. -/
def powNat (exponent : Nat) : Nat → FloatPair → FloatPair → FloatPair
  | 0, result, _ => result
  | fuel + 1, result, square =>
    if exponent = 0 then result
    else powNat (exponent / 2) fuel
      (if exponent % 2 = 1 then result.mul square else result) (square.mul square)

/-- The distance from zero, with very large and very small parts scaled so that their squares are
doubles. -/
def modulus (z : FloatPair) : Float :=
  let most := if z.re.abs < z.im.abs then z.im.abs else z.re.abs
  let scale := if 1e150 < most then 1e-200 else if most < 1e-150 then 1e200 else 1.0
  let re := z.re * scale
  let im := z.im * scale
  (re * re + im * im).sqrt / scale

/-- A power through the polar form; none if it turns without bound. -/
def powPolar? (base exponent : FloatPair) : Option FloatPair :=
  let modulus := base.modulus
  let angle := Float.atan2 base.im base.re
  let length := modulus.pow exponent.re
  let phase := angle * exponent.re
  let (length, phase) :=
    if exponent.im != 0.0 then
      (length / (angle * exponent.im).exp, phase + exponent.im * modulus.log)
    else (length, phase)
  if phase.abs == infinity then none else some ⟨length * phase.cos, length * phase.sin⟩

/-- A power; none for zero to a power that is negative or not real, and where the polar form has
none.  Whole exponents up to a hundred are powers by multiplication. -/
def pow? (base exponent : FloatPair) : Option FloatPair :=
  match truncate? exponent.re with
  | some n =>
    if exponent.im == 0.0 && isWhole exponent.re && n.natAbs ≤ 100 then
      let power := powNat n.natAbs 7 (ofReal 1.0) base
      if n < 0 || n = 0 then (ofReal 1.0).div? power else some power
    else general
  | none => general
where
  /-- A power with an exponent that is not small and whole. -/
  general : Option FloatPair :=
    if exponent.isZero then some (ofReal 1.0)
    else if base.isZero then
      if exponent.im != 0.0 || exponent.re < 0.0 then none else some (ofReal 0.0)
    else powPolar? base exponent

/-- Whether a part is infinite. -/
def isInfinite (z : FloatPair) : Bool :=
  let infinite (x : Float) : Bool := x.abs == infinity
  infinite z.re || infinite z.im

end FloatPair

end PipeTable.Number
