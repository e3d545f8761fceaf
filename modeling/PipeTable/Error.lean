import PipeTable.Fault
import PipeTable.Value.Printer

/-! # Errors

Every reason why an operation on tables is refused, one constructor per cause.  The kind of an error
says how a caller may treat it; its wording is a function of the cause.
-/

namespace PipeTable

/-- Why a text, a selector, a condition or a parameter cannot be read. -/
inductive ParseError where
  /-- A line of a table's text does not start with a bar. -/
  | notTableLine (number : Nat) (line : String)
  | zeroStep (atom : Value)
  | badSelector (atom : Value)
  | emptyExpression (source : Value)
  | badExpression (source : String)
  | unsupported (construct fragment : String)
  | calleeNotNamed (source : String)
  | keywordArguments (source : String)
  | wrongArity (name : String) (arity : Int) (given : Nat) (source : String)
  | badPlacement (placement : Value)
  /-- A quote of a parameter text is not closed. -/
  | openQuote (text : String)
  /-- A parameter text ends in an escape. -/
  | openEscape (text : String)
  | valueWithoutKey (token : String)
  | unknownReduction (name : Value)
  | wrongCounts (counts columns : Nat) (given : Value)
  | badPattern (pattern : String)
  | emptySequence (condition : Value)
  | tooDeep (condition : Value)
  | badCondition (condition : Value)
  | notOneExpression (condition : Value)
  | noOperand (head : String) (condition : Value)
  | notOneOperand (condition : Value)

/-- Why a call is refused although its text and its conditions can be read. -/
inductive Precondition where
  | columnOutside (operation : String) (column : Int) (width : Nat)
  | lineOutside (operation : String) (line : Int) (count : Nat)
  | fixedOutside (column : Int) (width : Nat)
  | widthNotPositive (width : Int)
  | noTableNamed
  | nestedJump
  | noCondition
  | notInTable
  | cursorOutside (line column : Int)

/-- Why an expression has no value. -/
inductive EvaluationError where
  | failed (source : String) (fault : Fault)
  | columnOutside (name : String)
  | unboundName (name source : String)
  | unboundFunction (name source : String)
  /-- The expression of a filter failed on a selected row. -/
  | inRow (row : Nat) (cause : EvaluationError)

/-- Why the optimizer's answer cannot be used. -/
inductive EngineError where
  | rowCount
  | widthSum (sum budget : Int)
  | doesNotFit (row column : Nat)
  | notIntegers (label : String)
  | wrongNumber (given : Nat) (label : String) (expected : Nat)
  | missingLines
  | exitStatus (status : Int)
  | notSolved
  | timedOut (seconds : Value)

/-- Why no layout exists. -/
inductive Infeasible where
  | fixedColumns (needed maxWidth : Int)
  | tooNarrow (budget : Int) (columns : Nat)
  | noLayout (maxWidth : Int)

/-- Why there is no optimizer to ask. -/
inductive Unavailable where
  | noOptimizer
  | notConfigured
  | notFound (program : String)

/-- Why a file cannot be used. -/
inductive FileFault where
  | missing
  /-- The path leads through something that is not a directory. -/
  | throughFile
  | isDirectory
  | notAllowed
  deriving DecidableEq, Repr

/-- Every way in which an operation ends without a result. -/
inductive Error where
  | parse (cause : ParseError)
  /-- A function of the other context is called. -/
  | foreignFunction (name : String) (context : Context) (source : String)
  | evaluation (cause : EvaluationError)
  | precondition (cause : Precondition)
  | badDirection (direction : Value)
  | noTable (reference : String)
  | noTableAt (line : Int)
  | noTables (operation : String)
  | emptyTable (operation : String)
  | infeasible (cause : Infeasible)
  | engine (cause : EngineError) (diagnostic : String)
  | unavailable (cause : Unavailable)
  /-- A file of separated values has no content. -/
  | emptyFile
  /-- A record of a file of separated values cannot be read. -/
  | badRecord
  | file (cause : FileFault) (path : String)
  /-- A fault that no operation has put into words. -/
  | fault (cause : Fault)

namespace ParseError

/-- What is wrong, and the fragment of the input that shows it; `wording` puts a fault into
words. -/
def parts (wording : Fault → String) : ParseError → String × Option Value
  | .notTableLine number line =>
    (s!"parse_table: line {number} is not a table line", some (.text line))
  | .zeroStep atom => ("range step must not be zero", some atom)
  | .badSelector atom =>
    ("invalid range selector", match atom with | .none => none | v => some v)
  | .emptyExpression source =>
    ("empty expression", match source with | .none => none | v => some v)
  | .badExpression source => ("invalid expression", some (.text source))
  | .unsupported construct fragment => (s!"unsupported syntax {construct}", some (.text fragment))
  | .calleeNotNamed source => ("only named functions can be called", some (.text source))
  | .keywordArguments source => ("keyword arguments are not supported", some (.text source))
  | .wrongArity name arity given source =>
    (s!"{name} takes {arity} argument(s), got {given}", some (.text source))
  | .badPlacement placement => ("namescol must be none, first or last", some placement)
  | .openQuote text => ("invalid block parameters (No closing quotation)", some (.text text))
  | .openEscape text => ("invalid block parameters (No escaped character)", some (.text text))
  | .valueWithoutKey token => ("parameter value without a key", some (.text token))
  | .unknownReduction name =>
    ("unknown reduction", match name with | .none => none | v => some v)
  | .wrongCounts counts columns given =>
    (s!"flatten_columns: {counts} row counts for {columns} columns", some given)
  | .badPattern pattern =>
    (s!"invalid regex in jump condition ({wording .badPattern})", some (.text pattern))
  | .emptySequence condition => ("jmpseq needs at least one condition", some condition)
  | .tooDeep condition => ("jump condition nests too deeply (preset cycle?)", some condition)
  | .badCondition condition =>
    ("invalid jump condition", match condition with | .none => none | v => some v)
  | .notOneExpression condition => ("expr takes one expression string", some condition)
  | .noOperand head condition => (s!"{head} needs at least one condition", some condition)
  | .notOneOperand condition => ("not takes exactly one condition", some condition)

/-- The text of the error; `wording` puts a fault into words. -/
def message (wording : Fault → String) (e : ParseError) : String :=
  match e.parts wording with
  | (what, some fragment) => what ++ ": " ++ fragment.literal
  | (what, none) => what

end ParseError

/-- The text of a refusal. -/
def Precondition.message : Precondition → String
  | .columnOutside operation column width => s!"{operation}: column {column} outside 1..{width}"
  | .lineOutside operation line count => s!"{operation}: data line {line} outside 1..{count}"
  | .fixedOutside column width => s!"narrow_table: fixed column {column} outside 1..{width}"
  | .widthNotPositive width => s!"narrow_column: width must be positive, got {width}"
  | .noTableNamed => "tblfilter: no table given in :tblnames"
  | .nestedJump => "jump_next: jumps cannot be nested inside a condition"
  | .noCondition => "jump_next: no jump condition set"
  | .notInTable => "jump_next: not inside a table"
  | .cursorOutside line column => s!"jump_next: cursor ({line}, {column}) is outside the table"

/-- The text of a failed evaluation; `wording` puts a fault into words. -/
def EvaluationError.message (wording : Fault → String) : EvaluationError → String
  | .failed source fault =>
    "error evaluating " ++ Text.quote source ++ ": " ++ fault.detail?.getD (wording fault)
  | .columnOutside name => "column binding " ++ Text.quote name ++ " is outside the table"
  | .unboundName name source => "unbound name " ++ Text.quote name ++ " in " ++ Text.quote source
  | .unboundFunction name source =>
    "unbound function " ++ Text.quote name ++ " in " ++ Text.quote source
  | .inRow row cause => s!"filter_list: row {row}: " ++ cause.message wording

/-- The text of an unusable answer, without the optimizer's own diagnostic. -/
def EngineError.message : EngineError → String
  | .rowCount => "narrow_table: optimizer returned a row count below 1"
  | .widthSum sum budget => s!"narrow_table: optimizer widths sum to {sum} > {budget}"
  | .doesNotFit row column =>
    s!"narrow_table: cell at row {row}, column {column} does not fit the plan"
  | .notIntegers label => s!"optimizer returned non-integer {label}"
  | .wrongNumber given label expected =>
    s!"optimizer returned {given} {label}, expected {expected}"
  | .missingLines => "optimizer output lacks Widths/Rows lines"
  | .exitStatus status => s!"optimizer exited with status {status}"
  | .notSolved => "optimizer did not report success"
  | .timedOut seconds => "optimizer timed out after " ++ seconds.literal ++ "s"

/-- The text of an impossible layout. -/
def Infeasible.message : Infeasible → String
  | .fixedColumns needed maxWidth =>
    s!"narrow_table: fixed columns need {needed} > {maxWidth} characters"
  | .tooNarrow budget columns => s!"narrow_table: {budget} characters left for {columns} columns"
  | .noLayout maxWidth => s!"narrow_table: no layout fits {maxWidth} characters"

/-- The number and the text of a fault of a file. -/
def FileFault.message : FileFault → String
  | .missing => "[Errno 2] No such file or directory"
  | .throughFile => "[Errno 20] Not a directory"
  | .isDirectory => "[Errno 21] Is a directory"
  | .notAllowed => "[Errno 13] Permission denied"

/-- The text of a missing optimizer. -/
def Unavailable.message : Unavailable → String
  | .noOptimizer => "narrow_table: narrowing optimizer is not available"
  | .notConfigured => "no narrowing optimizer configured"
  | .notFound program => "narrowing optimizer not found: " ++ program

namespace Error

/-- The text of an error; `wording` puts a fault into words. -/
def message (wording : Fault → String) : Error → String
  | .parse cause => cause.message wording
  | .foreignFunction name context source =>
    "function " ++ Text.quote name ++ " is not available in " ++ context.name ++
      " expressions: " ++ Text.quote source
  | .evaluation cause => cause.message wording
  | .precondition cause => cause.message
  | .badDirection direction =>
    "invalid direction " ++ direction.literal ++ " (use up, down, left or right)"
  | .noTable reference => "no table named " ++ Text.quote reference ++ " in document"
  | .noTableAt line => s!"line {line + 1} is not inside a table"
  | .noTables operation => operation ++ ": no tables given"
  | .emptyTable operation => operation ++ ": table has no data rows"
  | .infeasible cause => cause.message
  | .engine cause diagnostic =>
    if diagnostic = "" then cause.message else cause.message ++ "\n" ++ diagnostic
  | .unavailable cause => cause.message
  | .emptyFile => "no columns to parse from file"
  | .badRecord => "error reading a record"
  | .file cause path => cause.message ++ ": " ++ Text.quote path
  | .fault cause => cause.detail?.getD (wording cause)

/-- Whether the error is one that the operations on tables report themselves. -/
def isReported : Error → Bool
  | .emptyFile | .badRecord | .file .. | .fault _ => false
  | _ => true

/-- Whether the error is about a file. -/
def isAboutFile : Error → Bool
  | .file .. => true
  | _ => false

end Error

end PipeTable
