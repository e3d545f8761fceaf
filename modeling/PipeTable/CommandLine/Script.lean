import PipeTable.CommandLine.Run
import PipeTable.Number.Reading

/-! # Scripts

Optimizers are small shell scripts.  A script is a sequence of simple commands with quoted words and
redirections; it runs against a deadline, and time passes only while it sleeps.
-/

namespace PipeTable.CommandLine.Script

/-! ## Tokens -/

/-- A part of a script. -/
inductive Token where
  | word (s : String)
  /-- The output of one descriptor goes where that of another one goes. -/
  | copy (descriptor source : Char)
  /-- The output of a descriptor goes to the file that the next word names. -/
  | into (descriptor : Char)
  /-- The input comes from the file that the next word names. -/
  | from
  | stop
  /-- What follows runs only after success. -/
  | andThen
  /-- What follows runs only after failure. -/
  | orElse
  deriving DecidableEq, Repr

/-- Where the reader of a script stands. -/
inductive Mode where
  | plain
  | single
  | double
  | comment
  deriving DecidableEq, Repr

/-- The token of the word that has begun, if one has. -/
def flush (word : Option (List Char)) : List Token :=
  (word.map fun cs => Token.word (String.ofList cs)).toList

/-- The descriptor before a sign for output: a digit that is the whole word, or the standard one. -/
def descriptorOf : Option (List Char) → List Token × Char
  | some ['1'] => ([], '1')
  | some ['2'] => ([], '2')
  | word => (flush word, '1')

/-- The tokens from a place on, given the word that has begun before it; none if a quote stays
open. -/
def tokensFrom : Mode → Option (List Char) → List Char → Option (List Token)
  | .single, _, [] | .double, _, [] => none
  | _, word, [] => some (flush word)
  | .comment, word, c :: cs =>
    if c = '\n' then (tokensFrom .plain none cs).map (Token.stop :: ·)
    else tokensFrom .comment word cs
  | .single, word, c :: cs =>
    if c = '\'' then tokensFrom .plain word cs
    else tokensFrom .single (some (word.getD [] ++ [c])) cs
  | .double, word, '\\' :: c :: cs =>
    let kept := if c = '"' || c = '\\' || c = '$' then [c] else ['\\', c]
    tokensFrom .double (some (word.getD [] ++ kept)) cs
  | .double, word, c :: cs =>
    if c = '"' then tokensFrom .plain word cs
    else tokensFrom .double (some (word.getD [] ++ [c])) cs
  | .plain, word, '\\' :: '\n' :: cs => tokensFrom .plain word cs
  | .plain, word, '\\' :: c :: cs => tokensFrom .plain (some (word.getD [] ++ [c])) cs
  | .plain, word, '&' :: '&' :: cs =>
    (tokensFrom .plain none cs).map (flush word ++ Token.andThen :: ·)
  | .plain, word, '|' :: '|' :: cs =>
    (tokensFrom .plain none cs).map (flush word ++ Token.orElse :: ·)
  | .plain, word, '>' :: '&' :: source :: cs =>
    let (before, descriptor) := descriptorOf word
    (tokensFrom .plain none cs).map (before ++ Token.copy descriptor source :: ·)
  | .plain, word, '>' :: '>' :: cs | .plain, word, '>' :: cs =>
    let (before, descriptor) := descriptorOf word
    (tokensFrom .plain none cs).map (before ++ Token.into descriptor :: ·)
  | .plain, word, c :: cs =>
    if c = '\n' || c = ';' then (tokensFrom .plain none cs).map (flush word ++ Token.stop :: ·)
    else if c = ' ' || c = '\t' then (tokensFrom .plain none cs).map (flush word ++ ·)
    else if c = '<' then (tokensFrom .plain none cs).map (flush word ++ Token.from :: ·)
    else if c = '\'' then tokensFrom .single (some (word.getD [])) cs
    else if c = '"' then tokensFrom .double (some (word.getD [])) cs
    else if c = '#' && word.isNone then tokensFrom .comment none cs
    else tokensFrom .plain (some (word.getD [] ++ [c])) cs

/-! ## Commands -/

/-- Where output goes. -/
inductive Sink where
  | output
  | errors
  | nowhere
  deriving DecidableEq, Repr

/-- A simple command. -/
structure Simple where
  words : List String := []
  output : Sink := .output
  errors : Sink := .errors
  /-- The file that the input comes from, if it is redirected. -/
  source : Option String := none
  deriving DecidableEq, Repr

/-- What the status before it has to be for a command to run. -/
inductive Guard where
  | always
  | success
  | failure
  deriving DecidableEq, Repr

/-- The commands of tokens, each with its guard, given the one that has begun before them. -/
def commandsFrom (guard : Guard) (begun : Simple) : List Token → List (Guard × Simple)
  | [] => [(guard, begun)]
  | .stop :: more => (guard, begun) :: commandsFrom .always {} more
  | .andThen :: more => (guard, begun) :: commandsFrom .success {} more
  | .orElse :: more => (guard, begun) :: commandsFrom .failure {} more
  | .word s :: more => commandsFrom guard { begun with words := begun.words ++ [s] } more
  | .copy descriptor source :: more =>
    let sink := if source = '2' then begun.errors else begun.output
    commandsFrom guard (redirect begun descriptor sink) more
  | .into descriptor :: .word _ :: more =>
    commandsFrom guard (redirect begun descriptor .nowhere) more
  | .from :: .word path :: more => commandsFrom guard { begun with source := some path } more
  | .into _ :: more | .from :: more => commandsFrom guard begun more
where
  /-- The command with the output of a descriptor going elsewhere. -/
  redirect (c : Simple) (descriptor : Char) (sink : Sink) : Simple :=
    if descriptor = '2' then { c with errors := sink } else { c with output := sink }

/-- The state of a running script. -/
structure Machine where
  input : String
  output : String := ""
  errors : String := ""
  status : Nat := 0
  /-- How long the script has slept, in seconds. -/
  elapsed : Float := 0
  ended : Bool := false

/-- The machine with a text written to where output goes. -/
def Machine.write (m : Machine) (sink : Sink) (s : String) : Machine :=
  match sink with
  | .output => { m with output := m.output ++ s }
  | .errors => { m with errors := m.errors ++ s }
  | .nowhere => m

/-- The text with escapes for line feeds, tabs and backslashes replaced. -/
def unescape : List Char → List Char
  | '\\' :: 'n' :: cs => '\n' :: unescape cs
  | '\\' :: 't' :: cs => '\t' :: unescape cs
  | '\\' :: '\\' :: cs => '\\' :: unescape cs
  | c :: cs => c :: unescape cs
  | [] => []

/-- A format with its places filled from words, and the words that are left. -/
def fillFormat : List Char → List String → List Char × List String
  | '%' :: '%' :: cs, words =>
    let (rest, left) := fillFormat cs words
    ('%' :: rest, left)
  | '%' :: _ :: cs, words =>
    let (rest, left) := fillFormat cs words.tail
    ((words.headD "").toList ++ rest, left)
  | c :: cs, words =>
    let (rest, left) := fillFormat cs words
    (c :: rest, left)
  | [], words => ([], words)

/-- The text of a format, used again as long as words are left. -/
def formatted (format : List Char) : Nat → List String → List Char
  | 0, _ => []
  | fuel + 1, words =>
    let (text, left) := fillFormat format words
    if left.isEmpty || left.length = words.length then text
    else text ++ formatted format fuel left

/-- The status that a word gives. -/
def statusOf (word : String) : Nat :=
  match word.toNat? with
  | some n => n % 256
  | none => 2

/-- Shows files one after another. -/
def showFiles (files : Files) (c : Simple) (m : Machine) (paths : List String) : Machine :=
  paths.foldl (fun m path =>
    match files path with
    | .ok text => m.write c.output text
    | .error _ =>
      { m.write c.errors s!"cat: {path}: No such file or directory\n" with status := 1 }) m

/-- Runs a simple command. -/
def Machine.perform (files : Files) (m : Machine) (c : Simple) : Machine :=
  let done := { m with status := 0 }
  match c.words with
  | [] | ":" :: _ | "true" :: _ => done
  | "false" :: _ => { m with status := 1 }
  | ["exit"] => { m with ended := true }
  | "exit" :: word :: _ => { m with status := statusOf word, ended := true }
  | ["cat"] => match c.source with
    | some path => if path = "/dev/null" then done else showFiles files c done [path]
    | none => { done.write c.output m.input with input := "" }
  | "cat" :: paths => showFiles files c done paths
  | "echo" :: "-n" :: words => done.write c.output (echoed words)
  | "echo" :: words => done.write c.output (echoed words ++ "\n")
  | "printf" :: format :: words =>
    done.write c.output
      (String.ofList (formatted (unescape format.toList) (words.length + 1) words))
  | "sleep" :: word :: _ => { done with elapsed := m.elapsed + Number.ofText word }
  | name :: _ => { m.write c.errors s!"sh: 1: {name}: not found\n" with status := 127 }
where
  /-- Words as they are echoed. -/
  echoed (words : List String) : String :=
    String.ofList (unescape (" ".intercalate words).toList)

/-- Runs commands up to the end or the deadline. -/
def Machine.run (files : Files) (deadline : Float) (m : Machine) : List (Guard × Simple) → Machine
  | [] => m
  | (guard, c) :: more =>
    if m.ended || deadline ≤ m.elapsed then m
    else
      let runs := match guard with
        | .always => true
        | .success => m.status = 0
        | .failure => m.status ≠ 0
      -- an empty line has no effect on the status
      let next := if runs && !(c.words.isEmpty && guard = .always) then m.perform files c else m
      next.run files deadline more

/-- The deadline of a program in seconds. -/
def deadlineOf (p : Narrow.Program) : Float :=
  match p.timeout with
  | .int n => (Number.ofInteger? n).getD Number.infinity
  | .float x => x
  | _ => Number.infinity

/-- What came of commands. -/
def judge (files : Files) (p : Narrow.Program) (input : String) (commands : List (Guard × Simple)) :
    Narrow.Outcome :=
  let deadline := deadlineOf p
  let m := Machine.run files deadline { input } commands
  if deadline ≤ m.elapsed then .timedOut m.errors else .finished m.status m.output m.errors

/-- What came of the text of a script. -/
def judgeText (files : Files) (p : Narrow.Program) (input text : String) : Narrow.Outcome :=
  match tokensFrom .plain none text.toList with
  | some tokens => judge files p input (commandsFrom .always {} tokens)
  | none => .finished 2 "" "sh: 1: Syntax error: Unterminated quoted string\n"

/-- The names of the programs at hand. -/
def knownPrograms : List String := ["sh", "cat", "echo", "printf", "true", "false", "sleep"]

/-- The known program that a path names: by its name alone or in a directory for programs. -/
def programNamed? (path : String) : Option String :=
  knownPrograms.find? fun name => ["", "/bin/", "/usr/bin/"].any fun place => path = place ++ name

/-- What comes of running a program on a request, where the paths of scripts are those of files. -/
def outcome (files : Files) : Runner := fun p request =>
  match p.command with
  | [] => .notFound
  | executable :: words =>
    match programNamed? executable, words with
    | some "sh", "-c" :: text :: _ => judgeText files p request.format text
    | some "sh", path :: _ =>
      match files path with
      | .ok text => judgeText files p request.format text
      | .error _ => .finished 2 "" s!"{executable}: 0: cannot open {path}: No such file\n"
    | some "sh", [] => judgeText files p request.format request.format
    | some name, _ => judge files p request.format [(.always, { words := name :: words })]
    | none, _ =>
      if executable.contains '/' && (files executable).isOk then .notAllowed else .notFound

end PipeTable.CommandLine.Script
