import PipeTable.Value.Basic

/-! # Equality of values

Numbers are equal when they stand at the same place of the number line, whatever their type.
Sequences are equal item by item, mappings and sets regardless of order.  Not a number differs from
itself, but counts as the same item of a container.
-/

namespace PipeTable.Value

mutual

/-- Equality of two values. -/
def equals : Value → Value → Bool
  | .none, .none => true
  | .text s, .text t => s = t
  | .bytes a, .bytes b => a = b
  | .ellipsis, .ellipsis => true
  | .list xs, .list ys => equalItems xs ys
  | .tuple xs, .tuple ys => equalItems xs ys
  | .set xs, .set ys => xs.length = ys.length && allAmong xs ys
  | .dict xs, .dict ys => xs.length = ys.length && allEntriesAmong xs ys
  | .slice a b c, .slice d e f =>
    ((a.isNaN && d.isNaN) || equals a d) && ((b.isNaN && e.isNaN) || equals b e) &&
      ((c.isNaN && f.isNaN) || equals c f)
  | .expression s c, .expression t d => s = t && c = d
  | a, b => match places? a, places? b with
    | some (some x, some y), some (some z, some w) => x = z && y = w
    | _, _ => false
termination_by structural v => v

/-- Whether two lists have the same items in the same order. -/
def equalItems : List Value → List Value → Bool
  | [], [] => true
  | x :: xs, y :: ys => ((x.isNaN && y.isNaN) || equals x y) && equalItems xs ys
  | _, _ => false
termination_by structural vs => vs

/-- Whether every item of the first list is among those of the second. -/
def allAmong : List Value → List Value → Bool
  | [], _ => true
  | x :: xs, ys => (ys.any fun y => (x.isNaN && y.isNaN) || equals x y) && allAmong xs ys
termination_by structural vs => vs

/-- Whether every entry of the first list is among those of the second. -/
def allEntriesAmong : List (Value × Value) → List (Value × Value) → Bool
  | [], _ => true
  | (k, v) :: more, ys =>
    (ys.any fun (l, w) => equals k l && ((v.isNaN && w.isNaN) || equals v w)) &&
      allEntriesAmong more ys
termination_by structural entries => entries

end

/-- Whether two values count as the same item of a container. -/
def sameItem (a b : Value) : Bool := (a.isNaN && b.isNaN) || equals a b

/-- Whether a value is among the items of a container. -/
def isAmong (v : Value) (items : List Value) : Bool := items.any (sameItem v)

/-- The value that a mapping has for a key. -/
def findEntry (entries : List (Value × Value)) (key : Value) : Option Value :=
  (entries.find? fun (k, _) => equals k key).map Prod.snd

/-- The mapping with a new value for a key.  A key that is there keeps its place and form. -/
def putEntry (entries : List (Value × Value)) (key value : Value) : List (Value × Value) :=
  if entries.any fun (k, _) => equals k key then
    entries.map fun (k, v) => if equals k key then (k, value) else (k, v)
  else entries ++ [(key, value)]

end PipeTable.Value
