import PipeTable.Document
import PipeTable.Table.Concat

/-! # Merging named tables

The tables that references ask for are stacked, and each row can be marked with the reference that
it came by.
-/

namespace PipeTable

/-- Where the reference of a row goes. -/
inductive Placement where
  | none
  | first
  | last
  deriving DecidableEq, Repr

namespace Placement

/-- The word for a placement. -/
def name : Placement → String
  | .none => "none"
  | .first => "first"
  | .last => "last"

/-- The placement that a word in any case stands for; no word at all stands for none. -/
def ofText (word : String) : Except Error Placement :=
  let wanted := if word = "" then "none" else Text.lower word
  match [Placement.none, .first, .last].find? fun p => p.name = wanted with
  | some p => .ok p
  | Option.none => .error (.parse (.badPlacement (.text word)))

/-- A row with its reference in its place. -/
def apply (p : Placement) (reference : String) (row : List String) : List String :=
  match p with
  | .none => row
  | .first => reference :: row
  | .last => row ++ [reference]

end Placement

namespace Document

/-- The references of all rows of tables. -/
def sources (references : List String) (tables : List Table) : List String :=
  (references.zip tables).flatMap fun (reference, t) => List.replicate t.height reference

/-- Stacks the tables that references ask for. -/
def merge (d : Document) (references : List String) (placement : Placement) (padding : String) :
    Except Error Table := do
  let tables ← references.mapM d.fetchTable
  let merged ← Table.concatVertical tables padding
  return match placement with
    | .none => merged
    | _ => .ofCells (List.zipWith placement.apply (sources references tables) merged.dataRows)

end Document

end PipeTable
