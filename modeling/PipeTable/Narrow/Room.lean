import PipeTable.Number.Binary64

/-! # The room of a cell

A cell has the room of its row's lines times its column's width.  The products are computed on
lists held as arrays of one kind of number each, and what a product comes to depends on both kinds.
-/

namespace PipeTable.Narrow

/-- The range of a signed word of 64 bits. -/
def fitsWord (n : Int) : Bool := -(Nat.pow 2 63 : Int) ≤ n && n < (Nat.pow 2 63 : Int)

/-- The range of an unsigned word of 64 bits. -/
def fitsUnsigned (n : Int) : Bool := 0 ≤ n && n < (Nat.pow 2 64 : Int)

/-- The kinds of numbers that an array holds. -/
inductive Holding where
  | signed
  | unsigned
  /-- Doubles, which is all that signed and unsigned words have in common. -/
  | floating
  /-- Integers of any size. -/
  | exact
  deriving DecidableEq, Repr

/-- The kind that holds all numbers of a list. -/
def holding (numbers : List Int) : Holding :=
  if numbers.all fitsWord then .signed
  else if numbers.any fun n => !fitsWord n && !fitsUnsigned n then .exact
  else if numbers.any fitsWord then .floating
  else .unsigned

/-- The product of a row's lines and a column's width.  Words wrap; where doubles take part the
product is rounded, which no comparison with the length of a cell can tell from the exact one. -/
def room (counts widths : Holding) (lines width : Int) : Int :=
  match counts, widths with
  | .signed, .signed => Int.bmod (lines * width) (Nat.pow 2 64)
  | .unsigned, .unsigned => lines * width % (Nat.pow 2 64 : Nat)
  | _, _ => lines * width

/-- Whether a product has no value: one factor is held exactly, the other one as a double, and the
exact one lies beyond all doubles. -/
def overflows (counts widths : List Int) : Bool :=
  match holding counts, holding widths with
  | .exact, .floating => counts.any fun n => (Number.ofInteger? n).isNone
  | .floating, .exact => widths.any fun n => (Number.ofInteger? n).isNone
  | _, _ => false

/-- Whether two extents can stand side by side: they are equal, or one of them is one and repeats.
-/
def compatible (a b : Nat) : Bool := a = b || a = 1 || b = 1

/-- The common extent of two compatible ones. -/
def commonExtent (a b : Nat) : Nat := if a = 1 then b else a

/-- The element at an index of a list that repeats if it has a single one. -/
def repeated {α : Type} (items : List α) (index : Nat) : Option α :=
  match items with
  | [single] => some single
  | _ => items[index]?

end PipeTable.Narrow
