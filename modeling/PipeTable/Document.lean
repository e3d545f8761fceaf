import PipeTable.Table.Format
import PipeTable.Text.Case
import PipeTable.Text.Integer

/-! # Documents

A document is text with tables in it.  A marker line `#+NAME: x` before a table names it; blank
lines and other `#+` lines may stand between the two.  Tables are found by name, by position or by
a line that they cover.
-/

namespace PipeTable

/-- A document as its lines. -/
structure Document where
  lines : List (List Char)

/-- Where a table stands: its name, its first line and the line after its last. -/
structure Span where
  name : Option String
  start : Nat
  stop : Nat
  deriving DecidableEq, Repr

/-- What a line means for the tables around it. -/
inductive LineKind where
  | name (name : String)
  | table
  /-- A line that may stand between a marker and its table. -/
  | neutral
  | other
  deriving DecidableEq, Repr

namespace Document

/-- The rest of a line after an ASCII keyword in any case. -/
def dropKeyword? : List Char → List Char → Option (List Char)
  | [], cs => some cs
  | k :: ks, c :: cs => if k.toLower = c.toLower then dropKeyword? ks cs else none
  | _ :: _, [] => none

/-- The rest of a marker line after `#+KEYWORD:` and the blanks around it. -/
def markerBody? (keyword : String) (line : List Char) : Option (List Char) :=
  (dropKeyword? ("#+" ++ keyword ++ ":").toList (line.dropWhile Text.isBlank)).map
    fun rest => rest.dropWhile Text.isBlank

/-- The name that a marker line gives to the table after it. -/
def markedName? (line : List Char) : Option String :=
  match (markerBody? "NAME" line).or (markerBody? "TBLNAME" line) with
  | some body =>
    let name := Text.stripChars body
    if name.isEmpty then none else some (String.ofList name)
  | none => none

/-- The key and the value of a property line. -/
def property? (line : List Char) : Option (String × String) :=
  match markerBody? "PROPERTY" line with
  | some body =>
    let key := body.takeWhile fun c => !Text.isBlank c
    let value := body.dropWhile fun c => !Text.isBlank c
    if key.isEmpty then none
    else some (String.ofList key, String.ofList (Text.stripChars value))
  | none => none

/-- Whether a line starts with `#+` after blanks, or is blank. -/
def isNeutral (line : List Char) : Bool :=
  match line.dropWhile Text.isBlank with
  | [] => true
  | '#' :: '+' :: _ => true
  | _ => false

/-- What a line means for the tables around it. -/
def lineKind (line : List Char) : LineKind :=
  match markedName? line with
  | some name => .name name
  | none =>
    if Table.isTableLine line then .table
    else if isNeutral line then .neutral
    else .other

/-- The document of a text. -/
def ofText (text : String) : Document := ⟨Text.linesChars text.toList⟩

/-- Collects the tables of lines numbered from `number`.  `pending` is the name that waits for a
table, `opened` the table that the previous line belongs to. -/
def spansFrom (number : Nat) (pending : Option String) (opened : Option Span) :
    List LineKind → List Span
  | [] => opened.toList
  | .table :: more =>
    match opened with
    | some span => spansFrom (number + 1) none (some { span with stop := number + 1 }) more
    | none => spansFrom (number + 1) none (some ⟨pending, number, number + 1⟩) more
  | .name name :: more => opened.toList ++ spansFrom (number + 1) (some name) none more
  | .neutral :: more => opened.toList ++ spansFrom (number + 1) pending none more
  | .other :: more => opened.toList ++ spansFrom (number + 1) none none more

/-- The tables of the document in order. -/
def spans (d : Document) : List Span := spansFrom 0 none none (d.lines.map lineKind)

/-- The names of the named tables in order. -/
def names (d : Document) : List String := d.spans.filterMap Span.name

/-- What a reference asks for: `$` and digits ask for a position, all else for a name. -/
def position? (reference : List Char) : Option (List Char) :=
  match reference with
  | '$' :: digits => if !digits.isEmpty && digits.all Text.isDigit then some digits else none
  | _ => none

/-- Finds a table by its stripped reference: by position if it is one in range, else by name. -/
def findSpan (d : Document) (reference : String) : Except Error Span :=
  let key := Text.strip reference
  let byName : Except Error Span :=
    match d.spans.find? fun span => span.name = some key with
    | some span => .ok span
    | none => .error (.noTable key)
  match position? key.toList with
  | some digits =>
    match Text.readIntegerChars? digits with
    | none => .error (.fault .badValue)
    | some position =>
      match Table.nth? d.spans position with
      | some span => .ok span
      | none => byName
  | none => byName

/-- The text of the lines of a span. -/
def spanText (d : Document) (span : Span) : String :=
  "\n".intercalate (((d.lines.take span.stop).drop span.start).map String.ofList)

/-- The text of the table that a reference asks for. -/
def tableText (d : Document) (reference : String) : Except Error String :=
  (d.findSpan reference).map d.spanText

/-- The table that a reference asks for. -/
def fetchTable (d : Document) (reference : String) : Except Error Table := do
  Table.parse (← d.tableText reference)

/-- The table that covers a line, counted from zero. -/
def tableAtLine (d : Document) (line : Int) : Except Error Table :=
  match d.spans.find? fun span => (span.start : Int) ≤ line ∧ line < span.stop with
  | some span => Table.parse (d.spanText span)
  | none => .error (.noTableAt line)

/-- The value of the last property line with a key, whatever the case of the key. -/
def propertyValue (d : Document) (key : String) : Option String :=
  let wanted := Text.lower key
  ((d.lines.filterMap property?).filter fun (k, _) => Text.lower k = wanted).getLast?.map Prod.snd

end Document

end PipeTable
