import PipeTable.Filter.Params
import PipeTable.Filter.Select

/-! # Filter blocks

A filter block merges tables of its document and selects from the result, as its parameters say.
-/

namespace PipeTable.Filter

/-- The table that parameters ask for. -/
def Params.run (p : Params) (d : Document) (padding : String) : Except Error Table := do
  if p.tables.isEmpty then throw (.precondition .noTableNamed)
  let merged ← d.merge p.tables p.placement padding
  merged.filter p.rows p.columns p.condition p.tolerant

/-- The table that a block asks for over the defaults and the document's property, with the keys
that were ignored. -/
def runLayer (layer : Layer) (d : Document) (defaults : Layer) (padding : String) :
    List String × Except Error Table :=
  match inherited d defaults with
  | .error e => ([], .error e)
  | .ok under =>
    let (ignored, params) := Params.ofLayers (under ++ [layer])
    (ignored, params.bind fun p => p.run d padding)

/-- The table that the text of a block asks for. -/
def runText (text : String) (d : Document) (defaults : Layer) (padding : String) :
    List String × Except Error Table :=
  match Layer.parse text with
  | .ok layer => runLayer layer d defaults padding
  | .error e => ([], .error e)

end PipeTable.Filter
