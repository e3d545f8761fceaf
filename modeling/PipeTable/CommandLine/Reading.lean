import PipeTable.CommandLine.Grammar

/-! # Reading command lines

The words of a command line are read from the first to the last.  A flag takes the plain words
after it as long as it has room; the others become operands.  Asking for help counts at once,
whatever is wrong with the words after it.
-/

namespace PipeTable.CommandLine

/-- What the words read so far say. -/
structure Reading where
  operands : List String := []
  given : List (String × Given) := []
  /-- The flag that may take more words, with those that it has. -/
  opened : Option (Flag × List String) := none
  /-- Whether the last word became an operand. -/
  afterOperand : Bool := false
  /-- Whether a divider waits for an operand after it. -/
  divided : Bool := false
  /-- Whether there were words that the grammar has no place for. -/
  surplus : Bool := false

namespace Reading

/-- The words of a flag, if it was given; of a flag given twice, the last ones. -/
def find? (r : Reading) (name : String) : Option Given := r.given.lookup name

/-- Whether a flag was given. -/
def has (r : Reading) (name : String) : Bool := (r.find? name).isSome

/-- The texts of a flag. -/
def texts? (r : Reading) (name : String) : Option (List String) :=
  match r.find? name with
  | some (.texts words) => some words
  | _ => none

/-- The text of a flag with one. -/
def text? (r : Reading) (name : String) : Option String := (r.texts? name).bind List.head?

/-- The integers of a flag. -/
def integers? (r : Reading) (name : String) : Option (List Int) :=
  match r.find? name with
  | some (.integers values) => some values
  | _ => none

/-- The integer of a flag with one. -/
def integer? (r : Reading) (name : String) : Option Int := (r.integers? name).bind List.head?

/-- Takes a flag with all its words. -/
def take (r : Reading) (flag : Flag) (words : List String) : Except Stop Reading :=
  if !flag.arity.accepts words.length then .error .misuse
  else if flag.name = "help" then .error .help
  else match flag.kind.read? words with
    | some given => .ok { r with given := (flag.name, given) :: r.given }
    | none => .error .misuse

/-- Takes the flag that is open. -/
def close (r : Reading) : Except Stop Reading :=
  match r.opened with
  | some (flag, words) => take { r with opened := none } flag words
  | none => .ok r

/-- Takes a plain word: for the open flag, as an operand, or as one too many. -/
def plain (r : Reading) (limit : Nat) (s : String) : Except Stop Reading :=
  match r.opened with
  | some (flag, words) =>
    if flag.arity.hasRoom words.length then
      .ok { r with opened := some (flag, words ++ [s]) }
    else do return operand (← r.close)
  | none => .ok (operand r)
where
  /-- Takes a word as an operand if there is room for one. -/
  operand (r : Reading) : Reading :=
    if r.operands.length < limit then
      { r with operands := r.operands ++ [s], afterOperand := true, divided := false }
    else { r with afterOperand := false, surplus := true }

/-- Takes flags that share a word.  One without a text may take the words that follow. -/
def flags (r : Reading) : List (Flag × Option String) → Except Stop Reading
  | [] => .ok r
  | (flag, some text) :: more => do (← r.take flag [text]).flags more
  | (flag, none) :: more =>
    if flag.arity.hasRoom 0 then flags { r with opened := some (flag, []) } more
    else do (← r.take flag []).flags more

/-- Takes a word. -/
def step (g : Grammar) (r : Reading) : Word → Except Stop Reading
  | .plain s => r.plain g.operands s
  | .known flag byLetter attached => do
    let ready ← r.close
    let (named, left) ← match attached with
      | some a => g.cluster flag byLetter a.bySign a.text
      | none => .ok ([(flag, none)], false)
    let next ← ready.flags named
    return { next with afterOperand := false, surplus := next.surplus || left }
  | .unknown => do return { (← r.close) with afterOperand := false, surplus := true }
  | .divider => do
    let ready ← r.close
    return { ready with afterOperand := false, divided := !ready.afterOperand }

/-- Takes all words. -/
def run (g : Grammar) (words : List Word) : Except Stop Reading := do
  (← words.foldlM (step g) {}).close

/-- Whether all that the grammar requires is there and nothing else is. -/
def isComplete (g : Grammar) (r : Reading) : Bool :=
  r.operands.length = g.operands && !r.surplus && !r.divided &&
    g.flags.all fun f => !f.required || r.has f.name

/-- Reads a command line. -/
def ofWords (g : Grammar) (words : List String) : Except Stop Reading := do
  let r ← run g (← g.classifyAll words)
  if r.isComplete g then return r else throw .misuse

end Reading

end PipeTable.CommandLine
