import PipeTable.Error
import PipeTable.Text.Blank
import PipeTable.Text.Integer
import PipeTable.Value.Equality

/-! # Selecting rows and columns

A selector picks lines or columns by number: single numbers, and ranges with both ends included
and a step.  Numbers count from one; zero is the last, and negative numbers count back from the
last.  Selectors come as text or as values.
-/

namespace PipeTable.Selection

/-- A part of a selector.  The parts of a range are kept as they were given and are looked at when
the selector is resolved. -/
inductive Atom where
  | index (n : Int)
  | range (start stop step : Value)

/-- The atom as a value. -/
def Atom.toValue : Atom → Value
  | .index n => .int n
  | .range start stop step => .tuple [start, stop, step]

/-- The number that a signed index means among `length` elements, clamped to them. -/
def resolveIndex (index : Int) (length : Nat) : Int :=
  let position : Int :=
    if index = 0 then length else if index < 0 then length + index + 1 else index
  max 1 (min (length : Int) position)

/-- As `resolveIndex` for an index of any type.  A float strictly inside the range stays a float. -/
def resolveValue (index : Value) (length : Nat) : Except Fault Value :=
  match index with
  | .bool b => .ok (.int (resolveIndex (if b then 1 else 0) length))
  | .int n => .ok (.int (resolveIndex n length))
  | .float x =>
    let last : Float := Float.ofNat length
    let position := if x == 0.0 then last else if x < 0.0 then last + x + 1.0 else x
    if !(position < last) then .ok (.int (max 1 (length : Int)))
    else if position > 1.0 then .ok (.float position)
    else .ok (.int 1)
  | _ => .error .mismatch

/-- The numbers from `start` on in steps of `step` that do not pass `stop`, at most `fuel` of
them. -/
def countFrom (stop step : Int) : Nat → Int → List Int
  | 0, _ => []
  | fuel + 1, start =>
    if (0 < step ∧ start ≤ stop) ∨ (step < 0 ∧ stop ≤ start) then
      start :: countFrom stop step fuel (start + step)
    else []

/-- The arithmetic progression between two ends, both included. -/
def progression (start stop step : Int) : List Int :=
  countFrom stop step ((stop - start).natAbs + 1) start

/-- Refuses a part of a selector with its literal; one whose literal cannot be written is a fault
instead. -/
def refuse (cause : Value → ParseError) (part : Value) : Error :=
  if part.isWritable then .parse (cause part) else .fault .badValue

/-- The numbers that an atom selects among `length` elements. -/
def Atom.resolve (length : Nat) : Atom → Except Error (List Int)
  | .index n => .ok [resolveIndex n length]
  | .range start stop step => do
    if step.equals (.int 0) then throw (refuse .zeroStep (Atom.range start stop step).toValue)
    let first ← (resolveValue start length).mapError Error.fault
    let last ← (resolveValue stop length).mapError Error.fault
    match first.integer?, last.integer?, step.integer? with
    | some a, some b, some s => return progression a b s
    | _, _, _ => throw (.fault .mismatch)

/-- Reads a number of an atom; nothing at all is the default. -/
def readPart (text atom : String) (default : Int) : Except Error Int :=
  if text = "" then .ok default
  else match Text.readInteger? text with
    | some n => .ok n
    | none => .error (.parse (.badSelector (.text atom)))

/-- Reads a single number or a range `start:stop` or `start:stop:step`; an omitted start is the
first and an omitted stop is the last. -/
def readAtom (atom : String) : Except Error Atom :=
  match (Text.pieces (· = ':') atom.toList).map String.ofList with
  | [single] => do return .index (← readPart single atom 0)
  | [first, last] => do
    let start ← readPart first atom 1
    let stop ← readPart last atom 0
    return .range (.int start) (.int stop) (.int 1)
  | [first, last, increment] => do
    let start ← readPart first atom 1
    let stop ← readPart last atom 0
    let step ← readPart increment atom 1
    if step = 0 then throw (.parse (.zeroStep (.text atom)))
    return .range (.int start) (.int stop) (.int step)
  | _ => .error (.parse (.badSelector (.text atom)))

/-- The atoms of a text: what stands between commas and blanks. -/
def atomTexts (text : String) : List String :=
  ((Text.pieces (fun c => c = ',' || Text.isBlank c) text.toList).filter
    fun piece => !piece.isEmpty).map String.ofList

/-- Reads a selector from text. -/
def parse (text : String) : Except Error (List Atom) := (atomTexts text).mapM readAtom

/-- Reads an atom from a value: an integer, or a sequence of two or three parts. -/
def atomOfValue (v : Value) : Except Error Atom :=
  let ofParts : List Value → Except Error Atom
    | [start, stop] => .ok (rangeOf start stop .none)
    | [start, stop, step] => .ok (rangeOf start stop step)
    | _ => .error (refuse .badSelector v)
  match v with
  | .int n => .ok (.index n)
  | .tuple parts => ofParts parts
  | .list parts => ofParts parts
  | _ => .error (refuse .badSelector v)
where
  /-- A range with the defaults for absent parts. -/
  rangeOf (start stop step : Value) : Atom :=
    .range (if start.isNone then .int 1 else start) (if stop.isNone then .int 0 else stop)
      (if step.isNone then .int 1 else step)

/-- Reads a selector from a value: text, a single integer or a sequence of atoms. -/
def ofValue (spec : Value) : Except Error (List Atom) :=
  match spec with
  | .none => .ok []
  | .text s => parse s
  | .int n => .ok [.index n]
  | .list items | .tuple items | .set items => items.mapM atomOfValue
  | .dict entries => entries.mapM fun (key, _) => atomOfValue key
  | .bytes data => .ok (data.map fun b => .index b.toNat)
  | .bool _ => .error (.parse (.badSelector spec))
  | _ => .error (.fault .mismatch)

/-- The numbers that atoms select among `length` elements, in their order and with repetitions.  No
atoms at all select everything. -/
def resolveAtoms (atoms : List Atom) (length : Nat) : Except Error (List Int) :=
  if length = 0 then .ok []
  else if atoms.isEmpty then .ok ((List.range length).map fun i => Int.ofNat (i + 1))
  else do return (← atoms.mapM (Atom.resolve length)).flatten

/-- The numbers that a selector selects among `length` elements. -/
def resolve (spec : Value) (length : Nat) : Except Error (List Int) := do
  resolveAtoms (← ofValue spec) length

end PipeTable.Selection
