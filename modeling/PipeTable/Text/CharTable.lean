import PipeTable.Text.Blank

/-! # Tables of character properties

A property of characters is held as the sorted list of code points at which membership flips, and a
mapping as runs of characters at equal distance from their images.  Both are written as gaps in a
text, so that a table stays short.
-/

namespace PipeTable.Text

/-- The natural numbers that a text lists between blanks. -/
def readNumbers (s : String) : List Nat :=
  (words s).filterMap String.toNat?

/-- A set of characters, given by the ascending code points at which membership flips. -/
structure CharTable where
  bounds : Array Nat

namespace CharTable

/-- The running sums of a list of gaps. -/
def sums (start : Nat) : List Nat → List Nat
  | [] => []
  | gap :: gaps => (start + gap) :: sums (start + gap) gaps

/-- The table whose boundaries stand at the given distances from each other. -/
def ofGaps (gaps : String) : CharTable := ⟨(sums 0 (readNumbers gaps)).toArray⟩

/-- Narrows `lo..hi` to the number of boundaries at or below `point`, halving once per unit of
fuel. -/
def search (bounds : Array Nat) (point : Nat) : Nat → Nat → Nat → Nat
  | 0, lo, _ => lo
  | fuel + 1, lo, hi =>
    if lo < hi then
      let mid := (lo + hi) / 2
      if bounds.getD mid 0 ≤ point then search bounds point fuel (mid + 1) hi
      else search bounds point fuel lo mid
    else lo

/-- The number of boundaries at or below a code point. -/
def rank (t : CharTable) (point : Nat) : Nat :=
  search t.bounds point (t.bounds.size + 1).log2.succ 0 t.bounds.size

/-- A character belongs to the table when an odd number of boundaries lie at or below it. -/
def contains (t : CharTable) (c : Char) : Bool := t.rank c.toNat % 2 = 1

/-- The first code point of the run that holds the character. -/
def runStart (t : CharTable) (c : Char) : Option Nat :=
  let r := t.rank c.toNat
  if r % 2 = 1 then t.bounds[r - 1]? else none

end CharTable

/-- A run of characters `first, first + stride, …` whose images keep their distance. -/
structure MapRun where
  first : Nat
  count : Nat
  stride : Nat
  image : Nat

/-- A character mapping as runs in ascending order. -/
structure MapTable where
  runs : Array MapRun

namespace MapTable

/-- Reads runs from numbers in fours; first characters are written as gaps. -/
def readRuns (start : Nat) : List Nat → List MapRun
  | gap :: count :: stride :: image :: more =>
    ⟨start + gap, count, stride, image⟩ :: readRuns (start + gap) more
  | _ => []

/-- The mapping that a text of runs describes. -/
def ofRuns (s : String) : MapTable := ⟨(readRuns 0 (readNumbers s)).toArray⟩

/-- The image of a code point, if a run covers it. -/
def find? (t : MapTable) (point : Nat) : Option Nat :=
  t.runs.findSome? fun run =>
    let distance := point - run.first
    if run.first ≤ point ∧ distance % run.stride = 0 ∧ distance / run.stride < run.count then
      some (run.image + distance)
    else none

end MapTable

/-- Reads entries of a code point, a count and that many code points. -/
def readSequences (s : String) : List (Nat × List Char) :=
  let numbers := readNumbers s
  go numbers.length numbers
where
  /-- Every entry takes at least two numbers, so the list's length is fuel enough. -/
  go : Nat → List Nat → List (Nat × List Char)
    | fuel + 1, point :: count :: more =>
      (point, (more.take count).map Char.ofNat) :: go fuel (more.drop count)
    | _, _ => []

end PipeTable.Text
