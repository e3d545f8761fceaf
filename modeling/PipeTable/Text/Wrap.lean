import PipeTable.Text.Blank

/-! # Word wrap

Words are put on lines greedily and never split, so a word longer than the width stands alone.  Text
that fits is left as it is, inner blanks included.
-/

namespace PipeTable.Text

/-- Goes on filling the line `current` with words, and starts a new line where the next word does
not fit. -/
def fillLines (width : Nat) (current : String) : List String → List String
  | [] => [current]
  | word :: more =>
    if current.length + 1 + word.length ≤ width then fillLines width (current ++ " " ++ word) more
    else current :: fillLines width word more

/-- The lines of a text wrapped to a width of at least one. -/
def wrap (text : String) (width : Nat) : List String :=
  let room := max 1 width
  if text.length ≤ room then [text]
  else match words text with
    | [] => [""]
    | first :: more => fillLines room first more

/-- Wraps to `width`, or to the first of the `fuel` next greater widths that needs at most `rows`
lines. -/
def fitWithin (text : String) (rows : Nat) : Nat → Nat → List String
  | 0, width => wrap text width
  | fuel + 1, width =>
    let lines := wrap text width
    if lines.length ≤ rows then lines else fitWithin text rows fuel (width + 1)

/-- Wraps to the least width from `width` on that needs at most `rows` lines. -/
def fit (text : String) (width rows : Nat) : List String :=
  let start := max 1 width
  fitWithin text rows (max start text.length - start) start

end PipeTable.Text
