import PipeTable.Config.Json
import PipeTable.Filter.Params
import PipeTable.Narrow.Program

/-! # Settings

What a configuration can set: presets for jumps, the external optimizer, defaults of filter blocks
and the padding of merged tables.  Every setting is read on its own, and one that makes no sense
leaves the default in place.
-/

namespace PipeTable.Config

/-- The settings of the optimizer. -/
structure Optimizer where
  /-- The command and its arguments, if there is an optimizer. -/
  command : Option (List String) := none
  /-- The deadline in seconds. -/
  timeout : Value := Narrow.Program.defaultTimeout
  /-- The mark of success, if one is asked for. -/
  marker : Option String := some "SOLVED"

/-- All settings. -/
structure Settings where
  /-- The lines of a register of presets. -/
  presets : List String := []
  optimizer : Optimizer := {}
  /-- The parameters that lie under those of every filter block. -/
  filterDefaults : Filter.Layer := []
  /-- What fills up short rows when tables are merged. -/
  padding : String := ""

/-- Why a part of a configuration is ignored. -/
inductive Complaint where
  /-- The file cannot be read as JSON. -/
  | unreadable
  | notAnObject
  | badCommand
  deriving DecidableEq, Repr

/-- The text of a complaint about the file at a path. -/
def Complaint.message (path : String) : Complaint → String
  | .unreadable => "ignoring unreadable config " ++ path
  | .notAnObject => "ignoring config " ++ path ++ ": top level is not an object"
  | .badCommand => "narrow.solver.argv must be a list of strings"

/-- The member of an object; none if the value is no object or has no such member. -/
def member? (v : Value) (key : String) : Option Value :=
  match v with
  | .dict entries => Value.findEntry entries (.text key)
  | _ => none

/-- The member of a member. -/
def memberAt? (v : Value) (outer inner : String) : Option Value :=
  (member? v outer).bind fun w => member? w inner

/-- The text that a value is. -/
def text? : Value → Option String
  | .text s => some s
  | _ => none

/-- The texts in a list. -/
def textsIn : Option Value → List String
  | some (.list items) => items.filterMap text?
  | _ => []

/-- The words of a command: a list of texts, and at least one. -/
def command? : Value → Option (List String)
  | .list items =>
    let words := items.filterMap text?
    if !words.isEmpty && words.length = items.length then some words else none
  | _ => none

/-- Whether a value is a number above zero. -/
def isPositive : Value → Bool
  | .int n => 0 < n
  | .float x => 0 < x
  | _ => false

/-- The deadline that a value sets. -/
def readTimeout : Option Value → Value
  | some v => if isPositive v then v else Narrow.Program.defaultTimeout
  | none => Narrow.Program.defaultTimeout

/-- The mark of success that a value sets; null asks for none. -/
def readMarker : Option Value → Option String
  | some (.text s) => some s
  | some .none => none
  | _ => Optimizer.marker {}

/-- The settings of the optimizer in a section. -/
def readOptimizer (solver : Value) : Optimizer where
  command := (member? solver "argv").bind command?
  timeout := readTimeout (member? solver "timeout_seconds")
  marker := readMarker (member? solver "success_marker")

/-- Whether a section has a command that is none. -/
def hasBadCommand (solver : Value) : Bool :=
  match member? solver "argv" with
  | none | some .none => false
  | some v => (command? v).isNone

/-- Whether a value can be a parameter of a filter block. -/
def isParameter : Value → Bool
  | .text _ | .bool _ | .list _ => true
  | _ => false

/-- The parameters in an object. -/
def parametersIn : Option Value → Filter.Layer
  | some (.dict entries) => entries.filterMap fun (key, v) =>
    if isParameter v then (text? key).map fun name => (name, v) else none
  | _ => []

/-- The settings in the value of a configuration. -/
def Settings.ofValue (v : Value) : Settings where
  presets := textsIn (memberAt? v "jump" "presets")
  optimizer := ((memberAt? v "narrow" "solver").map readOptimizer).getD {}
  filterDefaults := parametersIn (memberAt? v "filter" "defaults")
  padding := ((member? v "padding").bind text?).getD ""

/-- What is wrong with the value of a configuration. -/
def complaints (v : Value) : List Complaint :=
  match v with
  | .dict _ => if (memberAt? v "narrow" "solver").any hasBadCommand then [.badCommand] else []
  | _ => [.notAnObject]

/-- The settings of the text of a configuration, or without one, and what is wrong with it. -/
def Settings.load : Option String → Settings × List Complaint
  | none => ({}, [])
  | some text =>
    match Json.read? text with
    | none => ({}, [.unreadable])
    | some v => (.ofValue v, complaints v)

/-- The optimizer that the settings ask for. -/
def Optimizer.program? (o : Optimizer) : Option Narrow.Program :=
  o.command.map fun words => .make words o.timeout (o.marker.elim .none .text)

end PipeTable.Config
