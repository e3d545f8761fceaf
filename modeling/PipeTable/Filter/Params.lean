import PipeTable.Filter.Merge
import PipeTable.Text.ShellWords
import PipeTable.Value.Equality

/-! # Parameters of filter blocks

A block says what it wants in keys and values, written `:key value …` with quotes as on a command
line.  Layers of parameters lie over each other: defaults, the property of the document, the block
itself.
-/

namespace PipeTable.Filter

/-- One layer of parameters, in the order in which its keys came. -/
abbrev Layer := List (String × Value)

/-- The layer with a new value for a key.  A key that is there keeps its place. -/
def Layer.put (layer : Layer) (key : String) (v : Value) : Layer :=
  if layer.any fun (k, _) => k = key then
    layer.map fun (k, w) => if k = key then (k, v) else (k, w)
  else layer ++ [(key, v)]

/-- The key that a word names: what follows a colon, in lower case. -/
def keyOf? (word : String) : Option String :=
  match word.toList with
  | ':' :: c :: cs => some (Text.lower (String.ofList (c :: cs)))
  | _ => none

/-- The value of a key with the words after it: a list for the tables, else the words as one text,
or true if there are none. -/
def valueOf (key : String) (words : List String) : Value :=
  if key = "tblnames" then .list (words.map .text)
  else if words.isEmpty then .bool true
  else .text (" ".intercalate words)

/-- The parameters that words spell, given the key that stands before them and its words so far. -/
def layerFrom (layer : Layer) : Option (String × List String) → List String → Except Error Layer
  | none, [] => .ok layer
  | some (key, values), [] => .ok (layer.put key (valueOf key values))
  | opened, word :: words =>
    match keyOf? word, opened with
    | some key, none => layerFrom layer (some (key, [])) words
    | some key, some (before, values) =>
      layerFrom (layer.put before (valueOf before values)) (some (key, [])) words
    | none, some (key, values) => layerFrom layer (some (key, values ++ [word])) words
    | none, none => .error (.parse (.valueWithoutKey word))

/-- Reads the text of a block's parameters. -/
def Layer.parse (text : String) : Except Error Layer :=
  match Text.shellWords text with
  | .ok words => layerFrom [] none words
  | .error .openQuote => .error (.parse (.openQuote text))
  | .error .openEscape => .error (.parse (.openEscape text))

/-- The layers under a block: the defaults, and what the document's property says. -/
def inherited (d : Document) (defaults : Layer) : Except Error (List Layer) :=
  match d.propertyValue "tblfilter" with
  | some text => if text = "" then .ok [defaults] else do return [defaults, ← Layer.parse text]
  | none => .ok [defaults]

/-- The layers as one: of the values for a key that are not absent, the last counts. -/
def Layer.merge (layers : List Layer) : Layer :=
  layers.foldl (fun merged layer =>
    layer.foldl (fun m (key, v) => if v.isNone then m else m.put key v) merged) []

/-- What a filter block asks for. -/
structure Params where
  tables : List String := []
  rows : Value := .none
  columns : Value := .none
  condition : Value := .none
  tolerant : Bool := false
  placement : Placement := .none

/-- The keys of parameters. -/
def knownKeys : List String := ["tblnames", "rows", "cols", "filter", "noerrors", "namescol"]

/-- The keys of a layer that mean nothing. -/
def Layer.unknownKeys (layer : Layer) : List String :=
  (layer.map Prod.fst).filter fun key => !knownKeys.contains key

/-- The names in a list of tables: the words of a text, or the texts of values. -/
def namesOf : Value → Except Fault (List String)
  | .none => .ok []
  | .text s => .ok (Text.words s)
  | .list items | .tuple items | .set items => .ok (items.map Value.toText)
  | .dict entries => .ok (entries.map fun (key, _) => key.toText)
  | .bytes data => .ok (data.map fun b => toString b.toNat)
  | _ => .error .mismatch

/-- The words that mean no. -/
def falseWords : List String := ["nil", "no", "false", "f", "0", "off"]

/-- Whether a switch is on: a text unless it means no, any other value by its truth. -/
def isOn : Value → Bool
  | .text s => !falseWords.contains (Text.lower (Text.strip s))
  | v => v.isTrue

/-- The parameters of merged layers. -/
def Params.ofLayer (layer : Layer) : Except Error Params := do
  let setting (key : String) : Value := (layer.lookup key).getD .none
  let tables ← (namesOf (setting "tblnames")).mapError Error.fault
  let named := setting "namescol"
  let placement ← Placement.ofText (if named.isTrue then Text.lower named.toText else "")
  return { tables, rows := setting "rows", columns := setting "cols",
           condition := setting "filter", tolerant := isOn (setting "noerrors"), placement }

/-- The parameters of layers, the later ones over the earlier, with the keys that were ignored. -/
def Params.ofLayers (layers : List Layer) : List String × Except Error Params :=
  let merged := Layer.merge layers
  (merged.unknownKeys, Params.ofLayer merged)

end PipeTable.Filter
