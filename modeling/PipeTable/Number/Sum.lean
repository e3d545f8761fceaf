import PipeTable.Number.Binary64

/-! # Pairwise sums

Doubles are added in a fixed tree that keeps rounding errors small: eight interleaved running sums
for blocks of up to 128 values, halves above that.
-/

namespace PipeTable.Number

/-- The values added from left to right onto `start`. -/
def sumFrom (start : Float) (values : List Float) : Float := values.foldl (· + ·) start

/-- Adds full blocks of eight elementwise onto eight running sums; returns them with the values
that fill no block. -/
def sumBlocks : Nat → List Float → List Float → List Float × List Float
  | 0, sums, values => (sums, values)
  | fuel + 1, sums, values =>
    if values.length < 8 then (sums, values)
    else sumBlocks fuel (List.zipWith (· + ·) sums (values.take 8)) (values.drop 8)

/-- The sum of at most 128 values. -/
def sumShort (values : List Float) : Float :=
  if values.length < 8 then sumFrom 0.0 values
  else
    match sumBlocks values.length (values.take 8) (values.drop 8) with
    | ([a, b, c, d, e, f, g, h], rest) =>
      sumFrom (((a + b) + (c + d)) + ((e + f) + (g + h))) rest
    | (_, rest) => sumFrom 0.0 rest

/-- The sum of the values in the tree that `fuel` halvings at most allow. -/
def sumTree : Nat → List Float → Float
  | 0, values => sumShort values
  | fuel + 1, values =>
    if values.length ≤ 128 then sumShort values
    else
      let half := values.length / 2
      let cut := half - half % 8
      sumTree fuel (values.take cut) + sumTree fuel (values.drop cut)

/-- The pairwise sum. -/
def sum (values : List Float) : Float := sumTree values.length values

/-- The pairwise sum divided by the number of values. -/
def mean (values : List Float) : Float := sum values / Float.ofNat values.length

end PipeTable.Number
