import PipeTable.CommandLine.Script
import PipeTable.Config.Location

/-! # The program

Reads the files that a command needs, runs the command and shows what it leaves.
-/

namespace PipeTable.CommandLine

/-- The fault of a file that could not be read. -/
def faultOf : IO.Error → FileFault
  | .permissionDenied .. => .notAllowed
  | .inappropriateType .. => .isDirectory
  | _ => .missing

/-- Reads the files at paths. -/
def readFiles (paths : List String) : IO Files := do
  let contents ← paths.mapM fun (path : String) => do
    let content ← try Except.ok <$> IO.FS.readFile path
      catch e => pure (.error (faultOf e))
    return (path, content)
  return fun path => (contents.lookup path).getD (.error .missing)

/-- Where the environment puts the configuration. -/
def location : IO Config.Location := do
  return .ofEnvironment ((← IO.getEnv "HOME").getD "") (← IO.getEnv "XDG_CONFIG_HOME")

/-- Runs a command and shows what it leaves. -/
def execute (c : Command) : IO UInt32 := do
  let path := (← location).file
  let (settings, _) := settingsAt (← readFiles [path]) path
  let files ← readFiles (path :: c.path :: settings.optimizer.command.getD [])
  let output := c.runConfigured (Script.outcome files) files path
  IO.print output.text
  IO.eprint (output.errorText Fault.describe c.name)
  return UInt32.ofNat (output.status?.getD 1)

end PipeTable.CommandLine

open PipeTable.CommandLine in
/-- Carries out a command line. -/
def main (words : List String) : IO UInt32 := do
  match Demand.ofWords words with
  | .version => IO.println version; return 0
  | .help => IO.println usage; return 0
  | .misuse => IO.eprintln usage; return 2
  | .run command => execute command
