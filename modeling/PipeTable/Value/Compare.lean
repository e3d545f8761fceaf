import PipeTable.Fault
import PipeTable.Number.Reading
import PipeTable.Timestamp
import PipeTable.Value.Printer

/-! # Comparing cells

Two values compare as numbers when either is a number or both read as one, else as timestamps when
both read as one, else as texts.  A comparison of numbers with something that is none has no answer.
-/

namespace PipeTable.Value

/-- The number of a value: of a numeric one itself, else the one its text reads as. -/
def toNumber : Value → Except Fault Float
  | .none => .ok Number.nan
  | .float x => .ok x
  | .bool b => .ok (if b then 1.0 else 0.0)
  | .int n => match Number.ofInteger? n with
    | some x => .ok x
    | Option.none => .error .overflow
  | v => .ok (Number.ofText v.toText)

/-- The timestamp that the text of a value reads as. -/
def toTimestamp? : Value → Option Timestamp
  | .none => Option.none
  | v => Timestamp.ofText? v.toText

/-- The order of two doubles; none when one of them is not a number. -/
def compareNumbers? (x y : Float) : Option Ordering :=
  match Number.place? x, Number.place? y with
  | some p, some q => some (p.compare q)
  | _, _ => Option.none

/-- The order of two texts by their numbers, their timestamps or their characters. -/
def compareTexts (s t : String) : Ordering :=
  match compareNumbers? (Number.ofText s) (Number.ofText t) with
  | some order => order
  | Option.none => match Timestamp.ofText? s, Timestamp.ofText? t with
    | some p, some q => p.compare q
    | _, _ => Ord.compare s t

/-- The order of two values, if they have one. -/
def compare? (a b : Value) : Except Fault (Option Ordering) :=
  if a.isNumber || b.isNumber then do
    let x ← a.toNumber
    let y ← b.toNumber
    return compareNumbers? x y
  else .ok (some (compareTexts a.cellText b.cellText))

/-- Whether a value lies between two others, ends included. -/
def isBetween (value low high : Value) : Except Fault Bool := do
  let lower ← compare? value low
  let upper ← compare? value high
  match lower, upper with
  | some l, some u => return l != .lt && u != .gt
  | _, _ => return false

end PipeTable.Value
