import PipeTable.Text.Path

/-! # Where the configuration is

The configuration is a file in a directory of its own, below the directory that the environment sets
for configurations or else below the home directory.
-/

namespace PipeTable.Config

/-- The paths of the configuration. -/
structure Location where
  /-- The directory for the configurations of all programs. -/
  base : String
  /-- The directory for the configuration of this program. -/
  directory : String
  file : String
  deriving DecidableEq, Repr

/-- The location below a base directory. -/
def Location.below (base : String) : Location :=
  let directory := Path.join base "tabjump"
  ⟨base, directory, Path.join directory "config.json"⟩

/-- The location that a home directory and a directory for configurations give; an empty one counts
as none. -/
def Location.ofEnvironment (home : String) (configHome : Option String) : Location :=
  match configHome with
  | none | some "" => .below (Path.join (Path.trimSlashes home) ".config")
  | some base => .below base

/-- The directories below the working directory that the configuration needs. -/
def Location.directories (l : Location) : List (List String) := Path.places l.directory

end PipeTable.Config
