import PipeTable.Text.Blank

/-! # Paths

Paths are names between slashes.  A path that starts with a slash is absolute; joining puts a
relative path under another one.
-/

namespace PipeTable.Path

/-- Whether a path starts at the root. -/
def isAbsolute (path : String) : Bool := path.toList.head? = some '/'

/-- The path of `rest` as seen from `base`. -/
def join (base rest : String) : String :=
  if isAbsolute rest then rest
  else if base = "" || base.toList.getLast? = some '/' then base ++ rest
  else base ++ "/" ++ rest

/-- The path without slashes at its end; the root stays. -/
def trimSlashes (path : String) : String :=
  let trimmed := String.ofList (path.toList.reverse.dropWhile (· = '/')).reverse
  if trimmed = "" then "/" else trimmed

/-- The names on a path from its start, those for the place itself left out. -/
def names (path : String) : List String :=
  ((Text.pieces (· = '/') path.toList).map String.ofList).filter fun name =>
    name ≠ "" ∧ name ≠ "."

/-- The place that names lead to from a place below the start; none if they leave it. -/
def resolveFrom? : List String → List String → Option (List String)
  | place, [] => some place
  | place, name :: more =>
    if name = ".." then if place.isEmpty then none else resolveFrom? place.dropLast more
    else resolveFrom? (place ++ [name]) more

/-- The place below the working directory that a relative path names. -/
def resolve? (path : String) : Option (List String) :=
  if isAbsolute path then none else resolveFrom? [] (names path)

/-- The places that names lead through from a place below the start, each as the names from the
start, up to where they leave it. -/
def placesFrom : List String → List String → List (List String)
  | _, [] => []
  | place, name :: more =>
    if name = ".." then
      if place.isEmpty then [] else placesFrom place.dropLast more
    else (place ++ [name]) :: placesFrom (place ++ [name]) more

/-- The places below the working directory that a relative path leads through. -/
def places (path : String) : List (List String) :=
  if isAbsolute path then [] else (placesFrom [] (names path)).eraseDups

end PipeTable.Path
