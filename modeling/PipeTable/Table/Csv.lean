import PipeTable.Table.Basic

/-! # Comma-separated values

A file of records becomes a table.  Quotes keep commas and line breaks in a field, blank lines are
skipped, short records are padded, and a record longer than the one before it is refused.  Columns
without a name get one, and names are made distinct.
-/

namespace PipeTable.Csv

/-- Where a reader of records stands. -/
inductive Mode where
  | recordStart
  /-- After blanks at the start of a record, which may turn out to be a blank line. -/
  | blanks
  | fieldStart
  | plain
  | quoted
  /-- After a quote inside a quoted field. -/
  | quoteSeen
  /-- After a carriage return, which takes a line feed with it. -/
  | returned
  deriving DecidableEq, Repr

/-- What has been read: whole records, the fields of the current one, and the current field. -/
structure Reader where
  mode : Mode := .recordStart
  field : List Char := []
  record : List (List Char) := []
  records : List (List (List Char)) := []

namespace Reader

/-- Ends the current field. -/
def endField (r : Reader) : Reader :=
  { r with field := [], record := r.record ++ [r.field], mode := .fieldStart }

/-- Ends the current field and the record. -/
def endRecord (r : Reader) : Reader :=
  { r with field := [], record := [], records := r.records ++ [r.record ++ [r.field]],
           mode := .recordStart }

/-- Adds a character to the current field. -/
def push (r : Reader) (c : Char) (mode : Mode) : Reader := { r with field := r.field ++ [c], mode }

/-- Reads a character that a field outside quotes may end at. -/
def readPlain (r : Reader) (c : Char) : Reader :=
  if c = '\n' then r.endRecord
  else if c = '\r' then { r.endRecord with mode := .returned }
  else if c = ',' then r.endField
  else r.push c .plain

/-- Reads the first character of a field. -/
def readFirst (r : Reader) (c : Char) : Reader :=
  if c = '"' then { r with mode := .quoted } else r.readPlain c

/-- Reads the first character of a record. -/
def readStart (r : Reader) (c : Char) : Reader :=
  if c = '\n' then { r with mode := .recordStart }
  else if c = '\r' then { r with mode := .returned }
  else if c = ' ' || c = '\t' then r.push c .blanks
  else r.readFirst c

/-- Reads a character. -/
def read (r : Reader) (c : Char) : Reader :=
  match r.mode with
  | .recordStart => r.readStart c
  | .returned => if c = '\n' then { r with mode := .recordStart } else r.readStart c
  | .blanks =>
    if c = '\n' then { r with field := [], mode := .recordStart }
    else if c = '\r' then { r with field := [], mode := .returned }
    else if c = ' ' || c = '\t' then r.push c .blanks
    else r.readPlain c
  | .fieldStart => r.readFirst c
  | .plain => r.readPlain c
  | .quoted => if c = '"' then { r with mode := .quoteSeen } else r.push c .quoted
  | .quoteSeen => if c = '"' then r.push c .quoted else r.readPlain c

/-- The records at the end of a file, which must not lie within quotes. -/
def finish (r : Reader) : Except Error (List (List (List Char))) :=
  match r.mode with
  | .recordStart | .blanks | .returned => .ok r.records
  | .fieldStart | .plain | .quoteSeen => .ok r.endRecord.records
  | .quoted => .error .badRecord

end Reader

/-- The text of a field, which a null character cuts off. -/
def fieldText (cs : List Char) : String := String.ofList (cs.takeWhile (· != '\x00'))

/-- The records of a text; a mark of byte order before them is skipped. -/
def records (text : String) : Except Error (List (List String)) :=
  let chars := match text.toList with
    | c :: cs => if c.toNat = 0xFEFF then cs else c :: cs
    | [] => []
  (chars.foldl Reader.read {}).finish.map fun found => found.map fun record => record.map fieldText

/-- Brings records to the length of the one before them.  The first `free` of them may be longer
than that. -/
def align : Nat → Nat → List (List String) → Except Error (List (List String))
  | _, _, [] => .ok []
  | free, before, record :: more =>
    if free = 0 && before < record.length then .error .badRecord
    else do
      let padded := Table.padRow before "" record
      return padded :: (← align (free - 1) padded.length more)

/-! ## Names of columns -/

/-- How often names have been taken. -/
abbrev Counts := List (String × Nat)

/-- How often a name has been taken. -/
def Counts.of (counts : Counts) (name : String) : Nat := (counts.lookup name).getD 0

/-- Sets how often a name has been taken. -/
def Counts.put (counts : Counts) (name : String) (n : Nat) : Counts := (name, n) :: counts

/-- A form of a name with a number that is not taken, from a number on. -/
def numbered (names : List String) (name : String) : Nat → Counts → Nat → String × Counts
  | 0, counts, _ => (name, counts)
  | fuel + 1, counts, number =>
    let next := counts.put name (number + 1)
    let candidate := name ++ "." ++ toString number
    if names.contains candidate then numbered names name fuel next (number + 1)
    else if next.of candidate = 0 then (candidate, next.put candidate 1)
    else numbered names name fuel next (next.of candidate)

/-- Makes the name at a position distinct from those taken before. -/
def distinguish (state : List String × Counts) (position : Nat) : List String × Counts :=
  let (names, counts) := state
  let name := names.getD position ""
  let count := counts.of name
  if count = 0 then (names, counts.put name 1)
  else
    let room := names.length * names.length + names.length + 1
    let (fresh, next) := numbered names name room counts count
    (names.set position fresh, next)

/-- The names of columns, distinct and none of them empty.  Given names take precedence over made
ones. -/
def columnNames (header : List String) : List String :=
  let positions := List.range header.length
  let isEmpty (i : Nat) : Bool := header.getD i "" = ""
  let named := header.zipIdx.map fun (name, i) =>
    if name = "" then "Unnamed: " ++ toString i else name
  let order := (positions.filter fun i => !isEmpty i) ++ positions.filter isEmpty
  (order.foldl distinguish (named, [])).1

/-- The table of a file.  With a header, fields of the records beyond its names stand before the
named ones and are left out. -/
def table (text : String) (header : Bool) : Except Error Table := do
  match ← records text with
  | [] => throw .emptyFile
  | first :: more =>
    if header then
      let rows ← align 1 first.length more
      let extra := (rows.headD []).length - first.length
      return .ofFrame (columnNames first, rows.map (List.drop extra)) true
    else return .ofCells (first :: (← align 0 first.length more))

end PipeTable.Csv
