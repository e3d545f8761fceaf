import PipeTable.CommandLine.Reading
import PipeTable.Filter.Params
import PipeTable.Navigation
import PipeTable.Table.Reduction

/-! # Commands

What the program can be asked to do.  Every command works on one file: a document with tables, or a
file of separated values.
-/

namespace PipeTable.CommandLine

/-- The version of the program. -/
def version : String := "0.0.0"

/-- How the program is called. -/
def usage : String := "usage: tabjump"

/-- A command with all that it needs to know. -/
inductive Command where
  /-- Merges and selects tables; a block's parameter text comes first, flags go over it. -/
  | filter (document parameters : String) (flags : Filter.Layer)
  | transpose (document table : String)
  /-- Wraps one column to a width. -/
  | wrapColumn (document table : String) (column width : Int) (separators : Bool)
  /-- Lays a whole table out within a width. -/
  | narrow (document table : String) (width : Int) (fixed : List Int) (separators : Bool)
  | flatten (document table : String) (start : Cursor) (counts : List Int) (columns : Option Int)
      (reduction : Reduction) (repetitions : Int)
  | jump (document table : String) (start : Cursor) (condition : String) (steps : Int)
      (direction : String) (repetitions : Int)
  | importCsv (path : String) (header : Bool)

namespace Command

/-- The word for a command. -/
def name : Command → String
  | .filter .. => "filter"
  | .transpose .. => "transpose"
  | .wrapColumn .. | .narrow .. => "narrow"
  | .flatten .. => "flatten"
  | .jump .. => "jump"
  | .importCsv .. => "import-csv"

/-- The path of the file that a command works on. -/
def path : Command → String
  | .filter document .. => document
  | .transpose document _ => document
  | .wrapColumn document .. => document
  | .narrow document .. => document
  | .flatten document .. => document
  | .jump document .. => document
  | .importCsv path _ => path

end Command

/-! ## Grammars -/

/-- The flag that asks for help. -/
def helpFlag : Flag := ⟨"help", some 'h', .none, .text, false⟩

/-- The flags before the command. -/
def globalFlags : List Flag :=
  [helpFlag, ⟨"version", some 'v', .none, .text, false⟩, ⟨"verbose", none, .none, .text, false⟩]

/-- A flag with one word of any kind. -/
def textFlag (name : String) : Flag := ⟨name, none, .one, .text, false⟩

/-- A flag with one integer. -/
def integerFlag (name : String) : Flag := ⟨name, none, .one, .integer, false⟩

/-- A flag without words. -/
def switch (name : String) : Flag := ⟨name, none, .none, .text, false⟩

/-- A flag for a place in a table. -/
def startFlag : Flag := ⟨"start", none, .two, .integer, false⟩

/-- The words of a filter. -/
def filterGrammar : Grammar where
  operands := 1
  flags := [helpFlag, textFlag "params", ⟨"tblnames", none, .some, .text, false⟩, textFlag "rows",
    textFlag "cols", textFlag "filter", switch "noerrors",
    ⟨"namescol", none, .one, .among ["none", "first", "last"], false⟩]

/-- The words of a transposition. -/
def transposeGrammar : Grammar := ⟨2, [helpFlag]⟩

/-- The words of the command that narrows. -/
def narrowGrammar : Grammar where
  operands := 2
  flags := [helpFlag, { integerFlag "width" with required := true }, integerFlag "column",
    ⟨"fixed", none, .any, .integer, false⟩, switch "separators"]

/-- The words of the command that flattens. -/
def flattenGrammar : Grammar where
  operands := 2
  flags := [helpFlag, startFlag, ⟨"nrows", none, .any, .integer, false⟩, integerFlag "ncols",
    ⟨"reduce", none, .one, .among (Reduction.all.map Reduction.name), false⟩, integerFlag "repeat"]

/-- The words of the command that jumps. -/
def jumpGrammar : Grammar where
  operands := 2
  flags := [helpFlag, startFlag, { textFlag "condition" with required := true },
    integerFlag "steps", textFlag "direction", integerFlag "repeat"]

/-- The words of the command that shows separated values. -/
def importGrammar : Grammar := ⟨1, [helpFlag, switch "no-header"]⟩

/-! ## From readings to commands -/

/-- The place that a reading starts from: the first cell unless it says otherwise. -/
def startOf (r : Reading) : Cursor :=
  match r.integers? "start" with
  | some [line, column] => ⟨line, column⟩
  | _ => ⟨1, 1⟩

/-- The parameters that the flags of a filter set. -/
def filterFlags (r : Reading) : Filter.Layer :=
  let text (name : String) : List (String × Value) :=
    ((r.text? name).map fun s => (name, .text s)).toList
  ((r.texts? "tblnames").map fun words => ("tblnames", .list (words.map .text))).toList ++
    text "rows" ++ text "cols" ++ text "filter" ++
    (if r.has "noerrors" then [("noerrors", .bool true)] else []) ++ text "namescol"

/-- The command of a filter. -/
def filterOf (r : Reading) : Option Command :=
  match r.operands with
  | [document] => some (.filter document ((r.text? "params").getD "") (filterFlags r))
  | _ => none

/-- The command of a transposition. -/
def transposeOf (r : Reading) : Option Command :=
  match r.operands with
  | [document, table] => some (.transpose document table)
  | _ => none

/-- The command that narrows a table, or wraps one of its columns if one is given. -/
def narrowOf (r : Reading) : Option Command :=
  match r.operands, r.integer? "width" with
  | [document, table], some width =>
    let column := (r.integer? "column").getD 0
    let separators := r.has "separators"
    if column ≠ 0 then some (.wrapColumn document table column width separators)
    else some (.narrow document table width ((r.integers? "fixed").getD []) separators)
  | _, _ => none

/-- The command that flattens columns. -/
def flattenOf (r : Reading) : Option Command :=
  match r.operands with
  | [document, table] =>
    let reduction := ((r.text? "reduce").bind Reduction.ofName?).getD .join
    some (.flatten document table (startOf r) ((r.integers? "nrows").getD []) (r.integer? "ncols")
      reduction ((r.integer? "repeat").getD 1))
  | _ => none

/-- The command that jumps. -/
def jumpOf (r : Reading) : Option Command :=
  match r.operands, r.text? "condition" with
  | [document, table], some condition =>
    some (.jump document table (startOf r) condition ((r.integer? "steps").getD 1)
      ((r.text? "direction").getD "right") ((r.integer? "repeat").getD 1))
  | _, _ => none

/-- The command that shows a file of separated values. -/
def importOf (r : Reading) : Option Command :=
  match r.operands with
  | [path] => some (.importCsv path (!r.has "no-header"))
  | _ => none

/-- The grammar of a command, and the command of a reading by it. -/
def form? (word : String) : Option (Grammar × (Reading → Option Command)) :=
  match word with
  | "filter" => some (filterGrammar, filterOf)
  | "transpose" => some (transposeGrammar, transposeOf)
  | "narrow" => some (narrowGrammar, narrowOf)
  | "flatten" => some (flattenGrammar, flattenOf)
  | "jump" => some (jumpGrammar, jumpOf)
  | "import-csv" => some (importGrammar, importOf)
  | _ => none

/-- Reads a command with its words. -/
def Command.ofWords (word : String) (words : List String) : Except Stop Command :=
  match form? word with
  | some (grammar, build) => do
    match build (← Reading.ofWords grammar words) with
    | some command => return command
    | none => throw .misuse
  | none => .error .misuse

/-- What a command line asks for. -/
inductive Demand where
  | version
  | help
  | misuse
  | run (command : Command)

/-- Whether a word stands before the command. -/
def Word.isGlobal : Word → Bool
  | .known .. | .unknown => true
  | .plain _ | .divider => false

/-- Reads a command line: flags, then a command with its own words. -/
def readLine (words : List String) : Except Stop Demand := do
  let grammar : Grammar := ⟨0, globalFlags⟩
  let leading := (← grammar.classifyAll words).takeWhile Word.isGlobal
  let r ← Reading.run grammar leading
  let demand ← match words.drop leading.length with
    | [] => pure .help
    | word :: more => .run <$> Command.ofWords word more
  if r.surplus then throw .misuse
  return if r.has "version" then .version else demand

/-- What a command line asks for. -/
def Demand.ofWords (words : List String) : Demand :=
  match readLine words with
  | .ok demand => demand
  | .error .help => .help
  | .error .misuse => .misuse

end PipeTable.CommandLine
