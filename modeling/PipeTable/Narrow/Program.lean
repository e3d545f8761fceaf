import PipeTable.Narrow.Request
import PipeTable.Value.Sequence

/-! # The optimizer as a program

How an external optimizer is configured, and how what it did is judged: it has to end in time with
status zero, report success on its error output, and answer on its output.
-/

namespace PipeTable.Narrow

/-- A configured optimizer: its command, its deadline in seconds and the mark of success.  A mark
that is empty or absent is not looked for. -/
structure Program where
  command : List String
  timeout : Value
  marker : Value

/-- What came of running a program. -/
inductive Outcome where
  | notFound
  /-- The program may not be run. -/
  | notAllowed
  | timedOut (errors : String)
  | finished (status : Int) (output errors : String)
  deriving Repr, DecidableEq

namespace Program

/-- The deadline of a program that sets none. -/
def defaultTimeout : Value := .int 30

/-- The mark of success of a program that sets none. -/
def defaultMarker : Value := .text "SOLVED"

/-- Builds a program; a deadline of nothing or zero is the default one. -/
def make (command : List String) (timeout marker : Value) : Program :=
  ⟨command, if timeout.isTrue then timeout else defaultTimeout, marker⟩

/-- What a failed run shows: its error output, or its output if that is blank. -/
def diagnostic (output errors : String) : String :=
  let shown := Text.strip errors
  if shown = "" then Text.strip output else shown

/-- Whether the error output holds the mark of success, if one is asked for. -/
def reportsSuccess (p : Program) (errors : String) : Except Fault Bool :=
  if p.marker.isTrue then Value.contains (.text errors) p.marker else .ok true

/-- The answer of a program to a request, judged by what came of running it. -/
def answer (p : Program) (request : Request) (outcome : Outcome) : Except Error Response :=
  match p.command with
  | [] => .error (.unavailable .notConfigured)
  | executable :: _ =>
    match outcome with
    | .notFound => .error (.unavailable (.notFound executable))
    | .notAllowed => .error (.file .notAllowed executable)
    | .timedOut errors => .error (.engine (.timedOut p.timeout) errors)
    | .finished status rawOutput rawErrors =>
      let output := Text.unifyNewlines rawOutput
      let errors := Text.unifyNewlines rawErrors
      if status ≠ 0 then .error (.engine (.exitStatus status) (diagnostic output errors))
      else match p.reportsSuccess errors with
        | .error fault => .error (.fault fault)
        | .ok false => .error (.engine .notSolved (diagnostic output errors))
        | .ok true => Response.parse output request.rows request.columns (Text.strip errors)

/-- The words of a command. -/
def commandOf : Value → Except Fault (List String)
  | .list words | .tuple words => .ok (words.map Value.toText)
  | .text word => .ok (word.toList.map Char.toString)
  | .dict entries => .ok (entries.map fun (k, _) => k.toText)
  | v => if v.isTrue then .error .mismatch else .ok []

/-- The program of a table of settings; none without a command. -/
def ofSettings (settings : Value) : Except Fault (Option Program) :=
  if !settings.isTrue then .ok none
  else match settings with
    | .dict entries => do
      let setting (key : String) : Option Value := Value.findEntry entries (.text key)
      let command ← commandOf ((setting "argv").getD .none)
      if command.isEmpty then return none
      return some (make command ((setting "timeout_seconds").getD .none)
        ((setting "success_marker").getD defaultMarker))
    | _ => .error .noMember

/-- The program that a configuration asks for. -/
def ofConfig (config : Value) : Except Fault (Option Program) :=
  if !config.isTrue then .ok none
  else match config with
    | .dict entries => ofSettings ((Value.findEntry entries (.text "NARROW_SOLVER")).getD .none)
    | _ => .error .noMember

end Program

end PipeTable.Narrow
