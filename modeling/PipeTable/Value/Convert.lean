import PipeTable.Fault
import PipeTable.Text.Integer
import PipeTable.Value.Basic

/-! # Conversion to integers -/

namespace PipeTable.Value

/-- The integer of a value: of a number the part before the point, of a text the one it reads as. -/
def toInteger : Value → Except Fault Int
  | .int n => .ok n
  | .bool b => .ok (if b then 1 else 0)
  | .float x => match Number.truncate? x with
    | some n => .ok n
    | Option.none => .error (if Number.isNaN x then .badValue else .overflow)
  | .text s => match Text.readInteger? s with
    | some n => .ok n
    | Option.none => .error .badValue
  | .bytes data =>
    match Text.readIntegerChars? (data.map fun b => Char.ofNat b.toNat) with
    | some n => .ok n
    | Option.none => .error .badValue
  | _ => .error .mismatch

end PipeTable.Value
