import PipeTable.CommandLine.Command
import PipeTable.Config.Settings
import PipeTable.Filter.Block
import PipeTable.Jump.Traversal
import PipeTable.Narrow.Layout
import PipeTable.Table.Csv

/-! # Running commands

A run prints tables and places, notes what the user should know, and may fail.  Failures that the
operations report, and those of files, end a command with status one; no other failure is
expected.
-/

namespace PipeTable.CommandLine

/-- What a run leaves. -/
structure Output where
  /-- What is printed, each text on lines of its own. -/
  printed : List String := []
  /-- What the user should know, each text on lines of its own. -/
  notices : List String := []
  failure : Option Error := none

namespace Output

/-- Whether a failure is one that a command reports. -/
def isExpected (e : Error) : Bool := e.isReported || e.isAboutFile

/-- The exit status, unless the run fails in a way that nobody expects. -/
def status? (o : Output) : Option Nat :=
  match o.failure with
  | none => some 0
  | some e => if isExpected e then some 1 else none

/-- What is printed. -/
def text (o : Output) : String := String.join (o.printed.map fun s => s ++ "\n")

/-- What is shown on the error output by a command of some name; `wording` puts a fault into
words. -/
def errorText (wording : Fault → String) (name : String) (o : Output) : String :=
  let failure := (o.failure.map fun e => name ++ ": " ++ e.message wording).toList
  String.join ((o.notices ++ failure).map fun s => s ++ "\n")

/-- The output of a run that ends with a table. -/
def ofTable : Except Error Table → Output
  | .ok t => { printed := [t.format ""] }
  | .error e => { failure := some e }

end Output

/-- How programs are run on requests. -/
abbrev Runner := Narrow.Program → Narrow.Request → Narrow.Outcome

/-- The table of a document that a reference asks for. -/
def tableOf (source reference : String) : Except Error Table :=
  (Document.ofText (Text.unifyNewlines source)).fetchTable reference

/-- The parameters that a text and flags over it give. -/
def filterLayer (parameters : String) (flags : Filter.Layer) : Except Error Filter.Layer := do
  let under ← if parameters = "" then pure [] else Filter.Layer.parse parameters
  return flags.foldl (fun layer (key, v) => layer.put key v) under

/-- Runs a filter over the tables of a document. -/
def runFilter (settings : Config.Settings) (source parameters : String) (flags : Filter.Layer) :
    Output :=
  match filterLayer parameters flags with
  | .error e => { failure := some e }
  | .ok layer =>
    let (ignored, result) := Filter.runLayer layer (Document.ofText (Text.unifyNewlines source))
      settings.filterDefaults settings.padding
    { Output.ofTable result with
      notices := ignored.map fun key =>
        "ignoring unknown tblfilter parameter " ++ Text.quote key }

/-- The counts of rows for columns: none to infer them, one for all, or one for each. -/
def countsValue : List Int → Value
  | [] => .none
  | [count] => .int count
  | counts => .list (counts.map .int)

/-- Jumps a number of times and notes each place, up to the first jump that fails. -/
def jumps (setting : Jump.Setting) (steps : Int) :
    Nat → Session → List Cursor × Except Error Session
  | 0, s => ([], .ok s)
  | count + 1, s =>
    match Jump.next setting steps .none .none s with
    | (.ok _, after) =>
      let (places, result) := jumps setting steps count after
      (after.cursor :: places, result)
    | (.error e, _) => ([], .error e)

/-- A session with the condition that a text spells. -/
def startSession (t : Table) (start : Cursor) (condition direction : String) :
    Except Error Session := do
  let condition ← (Preset.readCondition condition).mapError .fault
  let direction ← Direction.ofValue (.text direction)
  return { table := t, cursor := start, condition := condition.normalize, direction }

/-- The line that shows a place. -/
def placeLine (c : Cursor) : String := s!"{c.line} {c.column}"

/-- Jumps in a table, and shows it at the end if it changed. -/
def runJump (settings : Config.Settings) (t : Table) (start : Cursor) (condition : String)
    (steps : Int) (direction : String) (repetitions : Int) : Output :=
  let prepared : Except Error (Preset.Table × Session) := do
    let presets ← (Preset.tableOf (settings.presets.map .text)).mapError .fault
    return (presets, ← startSession t start condition direction)
  match prepared with
  | .error e => { failure := some e }
  | .ok (presets, session) =>
    match jumps { presets } steps (max 1 repetitions).toNat session with
    | (places, .error e) => { printed := places.map placeLine, failure := some e }
    | (places, .ok after) =>
      { printed := places.map placeLine ++ if after.table = t then [] else [after.table.format ""],
        notices := after.reports.map Report.text }

/-- Runs a command on the content of its file. -/
def Command.runOn (settings : Config.Settings) (ask : Runner) (source : String) : Command → Output
  | .filter _ parameters flags => runFilter settings source parameters flags
  | .transpose _ reference => .ofTable do (← tableOf source reference).transpose
  | .wrapColumn _ reference column width separators =>
    .ofTable do (← tableOf source reference).narrowColumn column width separators
  | .narrow _ reference width fixed separators => .ofTable do
    let solver := settings.optimizer.program?.map fun p request => p.answer request (ask p request)
    (← tableOf source reference).narrow width fixed separators solver
  | .flatten _ reference start counts columns reduction repetitions => .ofTable do
    (← tableOf source reference).flattenColumns start.line start.column (countsValue counts) columns
      (.ok reduction.apply) repetitions
  | .jump _ reference start condition steps direction repetitions =>
    match tableOf source reference with
    | .ok t => runJump settings t start condition steps direction repetitions
    | .error e => { failure := some e }
  | .importCsv _ header => .ofTable (Csv.table source header)

/-- What reading each path gives. -/
abbrev Files := String → Except FileFault String

/-- Runs a command with the settings at hand. -/
def Command.run (settings : Config.Settings) (ask : Runner) (files : Files) (c : Command) :
    Output :=
  match files c.path with
  | .ok source => c.runOn settings ask source
  | .error fault => { failure := some (.file fault c.path) }

/-- The settings in the file at a path, and what is wrong with it.  Without the file, they are the
default ones. -/
def settingsAt (files : Files) (path : String) : Config.Settings × List Config.Complaint :=
  match files path with
  | .ok text => Config.Settings.load (some text)
  | .error .missing | .error .throughFile => Config.Settings.load none
  | .error _ => ({}, [.unreadable])

/-- Runs a command with the settings in the file at a path. -/
def Command.runConfigured (ask : Runner) (files : Files) (path : String) (c : Command) : Output :=
  let (settings, complaints) := settingsAt files path
  let output := c.run settings ask files
  { output with notices := complaints.map (·.message path) ++ output.notices }

end PipeTable.CommandLine
