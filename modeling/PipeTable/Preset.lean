import PipeTable.Expr.Literal
import PipeTable.Value.Printer

/-! # Presets

A preset is a condition with a name.  Some are built in; others come from a register of lines that
hold a condition, a hash sign and a description, which is the name.
-/

namespace PipeTable

/-- The form of a value in which conditions are written: lists are tuples. -/
def Value.normalize : Value → Value
  | .list items => .tuple (normalizeItems items)
  | .tuple items => .tuple (normalizeItems items)
  | v => v
where
  /-- The forms of several values. -/
  normalizeItems : List Value → List Value
    | [] => []
    | v :: vs => v.normalize :: normalizeItems vs

namespace Preset

/-- Where the scan of a line stands: inside single or double quotes, or outside. -/
structure QuoteState where
  single : Bool := false
  double : Bool := false

/-- The parts of a line before and after the first hash sign outside quotes.  A backslash takes away
the meaning of the character after it. -/
def splitFrom (state : QuoteState) : List Char → List Char × List Char
  | [] => ([], [])
  | '\\' :: c :: cs =>
    let (before, after) := splitFrom state cs
    ('\\' :: c :: before, after)
  | c :: cs =>
    if c = '#' && !state.single && !state.double then ([], cs)
    else
      let next : QuoteState :=
        if c = '\'' && !state.double then { state with single := !state.single }
        else if c = '"' && !state.single then { state with double := !state.double }
        else state
      let (before, after) := splitFrom next cs
      (c :: before, after)

/-- The condition and the description of a line. -/
def split (line : String) : String × String :=
  let (before, after) := splitFrom {} line.toList
  (String.ofList before, String.ofList after)

/-- Reads a condition: a literal, or any other text as it stands. -/
def readCondition (text : String) : Except Fault Value :=
  let body := Text.strip text
  if body = "" then .ok .none
  else match Expr.readLiteral body with
    | .ok v => .ok v.normalize
    | .error .badValue => .ok (.text body)
    | .error fault => .error fault

/-- A line of a register that was read. -/
structure Entry where
  description : String
  condition : Value
  source : String

/-- Reads a line of a register; none if it lacks a condition or a description. -/
def Entry.ofText (line : String) : Except Fault (Option Entry) := do
  let source := Text.strip line
  if source = "" then return none
  let (before, after) := split source
  let condition ← readCondition before
  let description := Text.strip after
  if condition.isNone || description = "" then return none
  return some ⟨description, condition, source⟩

/-- Reads an element of a register; what is absent is no line. -/
def Entry.ofValue (v : Value) : Except Fault (Option Entry) :=
  if v.isNone then .ok none else Entry.ofText v.toText

/-- The entries of a register, lines without one left out. -/
def readRegister (register : List Value) : Except Fault (List Entry) := do
  return (← register.mapM Entry.ofValue).filterMap id

/-- Conditions by name. -/
abbrev Table := List (String × Value)

/-- The condition with a name. -/
def Table.find? (t : Table) (name : String) : Option Value := t.lookup name

/-- The table with a new condition for a name.  A name that is there keeps its place. -/
def Table.put (t : Table) (name : String) (condition : Value) : Table :=
  if t.any fun (k, _) => k = name then
    t.map fun (k, v) => if k = name then (k, condition) else (k, v)
  else t ++ [(name, condition)]

/-- Matches cells without content. -/
def emptyPattern : Value := .text "^\\s*$"

/-- Matches cells with content. -/
def filledPattern : Value := .text "\\S"

/-- Matches cells that hold a number. -/
def numericPattern : Value := .text "^\\s*[-+]?(\\d+(\\.\\d*)?|\\.\\d+)([eE][-+]?\\d+)?\\s*$"

/-- The built-in presets. -/
def builtin : Table :=
  let near (pattern : Value) (lines columns : Int) : Value :=
    .tuple [pattern, .int lines, .int columns]
  let both (first second : Value) : Value := .tuple [.text "and", first, second]
  [("empty", emptyPattern), ("nonempty", filledPattern), ("numeric", numericPattern),
    ("first-column", .tuple [.none, .int 1]), ("last-column", .tuple [.none, .int 0]),
    ("first-line", .tuple [.int 1, .none]), ("last-line", .tuple [.int 0, .none]),
    ("top-left", .tuple [.int 1, .int 1]),
    ("empty-after-content", both emptyPattern (near filledPattern 0 (-1))),
    ("empty-below-content", both emptyPattern (near filledPattern (-1) 0)),
    ("content-after-empty", both filledPattern (near emptyPattern 0 (-1)))]

/-- The built-in presets with the entries of a register over them, the last of a name counting. -/
def tableOf (register : List Value) : Except Fault Table := do
  return (← readRegister register).foldl (fun t e => t.put e.description e.condition) builtin

end Preset

end PipeTable
