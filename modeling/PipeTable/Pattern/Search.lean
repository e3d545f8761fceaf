import PipeTable.Fault
import PipeTable.Pattern.Match
import PipeTable.Pattern.Parser
import PipeTable.Value.Basic

/-! # Searching with patterns

Patterns come as texts or as values.  A pattern for bytes is read as such but never fits a text.
-/

namespace PipeTable.Pattern

/-- The fault of using as a pattern what is none. -/
def Refusal.fault : Refusal → Fault
  | .malformed => .badPattern
  | .tooManyRepetitions => .overflow
  | .clashingModes => .badValue

/-- The pattern that a text spells. -/
def Compiled.ofText (s : String) : Except Fault Compiled := do
  let (pattern, modes) ← (parse true s.toList).mapError Refusal.fault
  return ⟨pattern, modes⟩

/-- The pattern for texts that a value spells. -/
def Compiled.ofValue (v : Value) : Except Fault Compiled :=
  match v with
  | .text s => Compiled.ofText s
  | .bytes data => do
    let _ ← (parse false (data.map fun b => Char.ofNat b.toNat)).mapError Refusal.fault
    throw .mismatch
  | _ => throw .mismatch

/-- Whether the pattern that a value spells matches anywhere in a text. -/
def occurs (pattern : Value) (text : String) : Except Fault Bool := do
  return (← Compiled.ofValue pattern).search text

end PipeTable.Pattern
