import PipeTable.Number.Binary64

/-! # Values

What cells, expressions, conditions and settings can hold.  Conditions and settings come from the
outside untyped, so they are values too until they are compiled.
-/

namespace PipeTable

/-- Where an expression is evaluated: over a row of a filter or at the cursor of a session. -/
inductive Context where
  | filter
  | jump
  deriving DecidableEq, Repr

/-- The word for a context in messages. -/
def Context.name : Context → String
  | .filter => "filter"
  | .jump => "jump"

/-- A dynamic value. -/
inductive Value where
  | none
  | bool (b : Bool)
  | int (n : Int)
  | float (x : Float)
  | complex (re im : Float)
  | text (s : String)
  | bytes (data : List UInt8)
  | ellipsis
  | list (items : List Value)
  | tuple (items : List Value)
  | set (items : List Value)
  | dict (entries : List (Value × Value))
  | slice (lower upper step : Value)
  /-- An expression that compiled in the given context. -/
  | expression (source : String) (context : Context)
  deriving Inhabited

namespace Value

/-- The integer that an integer or a truth value stands for. -/
def integer? : Value → Option Int
  | .int n => some n
  | .bool b => some (if b then 1 else 0)
  | _ => Option.none

/-- Whether the value is an integer or a float; truth values are not. -/
def isNumber : Value → Bool
  | .int _ => true
  | .float _ => true
  | _ => false

/-- Whether the value is an integer; truth values are not. -/
def isInteger : Value → Bool
  | .int _ => true
  | _ => false

/-- Whether the value is absent. -/
def isNone : Value → Bool
  | .none => true
  | _ => false

/-- Whether the value is a text. -/
def isText : Value → Bool
  | .text _ => true
  | _ => false

/-- Whether the value is a float that is not a number. -/
def isNaN : Value → Bool
  | .float x => Number.isNaN x
  | _ => false

/-- The places of the real and the imaginary part of a numeric value. -/
def places? : Value → Option (Option Number.Place × Option Number.Place)
  | .bool b => some (some (Number.placeOfInteger (if b then 1 else 0)), some (.at 0))
  | .int n => some (some (Number.placeOfInteger n), some (.at 0))
  | .float x => some (Number.place? x, some (.at 0))
  | .complex re im => some (Number.place? re, Number.place? im)
  | _ => Option.none

/-- The truth of a value as such: numbers other than zero, everything that is not empty. -/
def isTrue : Value → Bool
  | .none => false
  | .bool b => b
  | .int n => n != 0
  | .float x => Number.place? x != some (.at 0)
  | .complex re im => Number.place? re != some (.at 0) || Number.place? im != some (.at 0)
  | .text s => s != ""
  | .bytes data => !data.isEmpty
  | .list items => !items.isEmpty
  | .tuple items => !items.isEmpty
  | .set items => !items.isEmpty
  | .dict entries => !entries.isEmpty
  | .ellipsis | .slice .. | .expression .. => true

/-- The truth of a value as a condition: as `isTrue`, and not a number counts as false. -/
def holds (v : Value) : Bool := !v.isNaN && v.isTrue

mutual

/-- Whether the value can be a key of a mapping. -/
def isKey : Value → Bool
  | .list _ | .set _ | .dict _ | .slice .. => false
  | .tuple items => areKeys items
  | _ => true

/-- Whether all values can be keys of a mapping. -/
def areKeys : List Value → Bool
  | [] => true
  | v :: vs => isKey v && areKeys vs

end

end Value

end PipeTable
