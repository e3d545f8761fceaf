import PipeTable.Jump.Session
import PipeTable.Value.Arithmetic
import PipeTable.Value.Convert

/-! # Functions of sessions

What the expressions of conditions can call.  They act on the session that evaluates them.
-/

namespace PipeTable.Jump

open Expr (Environment Eval Function Registry Signature)

/-- An offset given by up to two values; what is missing is zero. -/
def offsetOf : List Value → Except Fault (Int × Int)
  | [] => .ok (0, 0)
  | [lines] => do return (← lines.toInteger, 0)
  | [lines, columns] => do
    let l ← lines.toInteger
    return (l, ← columns.toInteger)
  | _ => .error .mismatch

/-- A function that looks at the session. -/
def observer (signature : Signature) (f : Session → List Value → Except Fault Value) :
    Function Session :=
  ⟨signature, fun _ arguments => do Eval.ofFault (f (← get) arguments)⟩

/-- A function that changes the session. -/
def action (signature : Signature) (f : Session → List Value → Except Error (Session × Value)) :
    Function Session :=
  ⟨signature, fun _ arguments => do
    match f (← get) arguments with
    | .ok (s, v) =>
      set s
      return v
    | .error e => throw e⟩

/-- Replaces the cell at an offset; tells whether there is one.  What cannot be written is no content
of a cell. -/
def setField (s : Session) : List Value → Except Fault (Session × Value)
  | content :: offset => do
    let (lines, columns) ← offsetOf offset
    match ← s.setField content.cellText lines columns with
    | some changed => if content.isWritable then return (changed, .bool true) else throw .badValue
    | none => return (s, .bool false)
  | [] => .error .mismatch

/-- Adds to the value remembered for a key, which counts as zero at first. -/
def increment (s : Session) (key step : Value) : Except Fault (Session × Value) := do
  let v ← ((← s.remembered key).getD (.int 0)).add step
  return (← s.remember key v, v)

/-- The functions that the conditions of a session can call. -/
def functions : List (Function Session) :=
  [observer .getField fun s arguments => do
      let (lines, columns) ← offsetOf arguments
      return match ← s.field lines columns with
        | some content => .text content
        | none => .none,
    action .setField fun s arguments => (setField s arguments).mapError .fault,
    observer .matchField fun s arguments => match arguments with
      | pattern :: offset => do
        let (lines, columns) ← offsetOf offset
        return .bool (← s.matchField pattern lines columns)
      | [] => .error .mismatch,
    observer .line fun s _ => .ok (.int s.cursor.line),
    observer .column fun s _ => .ok (.int s.cursor.column),
    observer .getVar fun s arguments => match arguments with
      | [key] => do return (← s.remembered key).getD .none
      | [key, default] => do return (← s.remembered key).getD default
      | _ => .error .mismatch,
    action .setVar fun s arguments => match arguments with
      | [key, v] => ((s.remember key v).map fun changed => (changed, .bool true)).mapError .fault
      | _ => .error (.fault .mismatch),
    observer .checkVar fun s arguments => match arguments with
      | [key, v] => do return .bool (((← s.remembered key).getD .none).equals v)
      | _ => .error .mismatch,
    action .incVar fun s arguments => match arguments with
      | [key] => (increment s key (.int 1)).mapError .fault
      | [key, step] => (increment s key step).mapError .fault
      | _ => .error (.fault .mismatch),
    action .flatten fun s arguments => match arguments with
      | [count] => (s.flatten count (.text "join")).map fun changed => (changed, .bool true)
      | [count, reducer] => (s.flatten count reducer).map fun changed => (changed, .bool true)
      | _ => .error (.fault .mismatch)]

/-- The registry of sessions. -/
def registry : Registry Session where
  context := .jump
  foreign := Signature.ofFilter.map Signature.name
  functions := functions

end PipeTable.Jump
