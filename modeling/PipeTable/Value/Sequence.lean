import PipeTable.Fault
import PipeTable.Value.Equality

/-! # Values that hold others

Membership, items and slices of sequences and mappings.  Positions count from zero, negative ones
from the end.
-/

namespace PipeTable.Value

/-- Whether a list occurs in another one in a single piece. -/
def isPiece {α : Type} [BEq α] (piece : List α) : List α → Bool
  | [] => piece.isEmpty
  | x :: xs => piece.isPrefixOf (x :: xs) || isPiece piece xs

/-- Whether a value is in a container: an item, a key, or a piece of a text. -/
def contains (container v : Value) : Except Fault Bool :=
  match container with
  | .text s => match v with
    | .text t => .ok (isPiece t.toList s.toList)
    | _ => .error .mismatch
  | .bytes data => match v with
    | .bytes piece => .ok (isPiece piece data)
    | _ => match v.integer? with
      | some n => if 0 ≤ n && n < 256 then .ok (data.any fun b => (b.toNat : Int) = n)
        else .error .badValue
      | Option.none => .error .mismatch
  | .list items => .ok (v.isAmong items)
  | .tuple items => .ok (v.isAmong items)
  | .set items => if v.isKey then .ok (items.any fun x => equals x v) else .error .mismatch
  | .dict entries => if v.isKey then .ok (findEntry entries v).isSome else .error .mismatch
  | _ => .error .mismatch

/-- The position in a sequence of a length that an index stands for. -/
def position? (length : Nat) (index : Int) : Option Nat :=
  if 0 ≤ index then if index < length then some index.toNat else Option.none
  else if 0 ≤ index + length then some (index + length).toNat
  else Option.none

/-- A bound of a slice: none if it is absent. -/
def bound? : Value → Except Fault (Option Int)
  | .none => .ok Option.none
  | v => match v.integer? with
    | some n => .ok (some n)
    | Option.none => .error .mismatch

/-- A bound brought into a sequence; `least` and `most` are the bounds of what it can become. -/
def clampBound (length : Nat) (least most : Int) (index : Int) : Int :=
  let fromStart := if index < 0 then index + length else index
  if fromStart < least then least else if most < fromStart then most else fromStart

/-- The positions of a slice of a sequence, in the order in which it takes them. -/
def slicePositions (length : Nat) (lower upper step : Value) : Except Fault (List Nat) := do
  let stride := (← bound? step).getD 1
  if stride = 0 then .error .badValue
  let lower? ← bound? lower
  let upper? ← bound? upper
  if 0 < stride then
    let start := (lower?.map (clampBound length 0 length)).getD 0
    let stop := (upper?.map (clampBound length 0 length)).getD length
    let count := if start < stop then ((stop - start - 1) / stride + 1).toNat else 0
    return (List.range count).map fun (k : Nat) => (start + (k : Int) * stride).toNat
  else
    let start := (lower?.map (clampBound length (-1) (length - 1))).getD (length - 1)
    let stop := (upper?.map (clampBound length (-1) (length - 1))).getD (-1)
    let count := if stop < start then ((start - stop - 1) / (-stride) + 1).toNat else 0
    return (List.range count).map fun (k : Nat) => (start + (k : Int) * stride).toNat

/-- The part of a sequence that an index or a slice stands for: `one` makes a value of an item,
`many` of several. -/
def part {α : Type} (one : α → Value) (many : List α → Value) (items : List α) (index : Value) :
    Except Fault Value :=
  match index with
  | .slice lower upper step => do
    let positions ← slicePositions items.length lower upper step
    return many (positions.filterMap fun p => items[p]?)
  | _ => match index.integer? with
    | some n => match (position? items.length n).bind fun p => items[p]? with
      | some item => .ok (one item)
      | Option.none => .error .outOfRange
    | Option.none => .error .mismatch

/-- The item, slice or entry of a value for an index or a key. -/
def item (container index : Value) : Except Fault Value :=
  match container with
  | .text s =>
    part (fun c => .text (String.singleton c)) (fun cs => .text (String.ofList cs)) s.toList index
  | .bytes data => part (fun b => .int (b.toNat : Int)) .bytes data index
  | .list items => part id .list items index
  | .tuple items => part id .tuple items index
  | .dict entries =>
    if index.isKey then
      match findEntry entries index with
      | some v => .ok v
      | Option.none => .error .missingKey
    else .error .mismatch
  | _ => .error .mismatch

end PipeTable.Value
