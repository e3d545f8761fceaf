import PipeTable.Text.Integer

/-! # Grammars of command lines

A command line is a list of words.  Words that start with a dash name flags, which may take the
words after them; the other words are operands.  A flag's name may be cut short as long as no
other flag starts the same way, and a text after an equals sign is its word.
-/

namespace PipeTable.CommandLine

/-- How many words a flag takes; no limit if `most` is none. -/
structure Arity where
  least : Nat
  most : Option Nat
  deriving DecidableEq, Repr

namespace Arity

/-- No word. -/
def none : Arity := ⟨0, some 0⟩

/-- A single word. -/
def one : Arity := ⟨1, some 1⟩

/-- A pair of words. -/
def two : Arity := ⟨2, some 2⟩

/-- Any number of words. -/
def any : Arity := ⟨0, .none⟩

/-- One word or more. -/
def some : Arity := ⟨1, .none⟩

/-- Whether a flag that has a number of words may take another one. -/
def hasRoom (a : Arity) (taken : Nat) : Bool := a.most.all fun most => taken < most

/-- Whether a number of words is right. -/
def accepts (a : Arity) (taken : Nat) : Bool :=
  a.least ≤ taken && a.most.all fun most => taken ≤ most

end Arity

/-- What the words of a flag have to be. -/
inductive Kind where
  | text
  | integer
  | among (choices : List String)
  deriving DecidableEq, Repr

/-- The words of a flag, read as what they have to be. -/
inductive Given where
  | texts (words : List String)
  | integers (values : List Int)
  deriving DecidableEq, Repr

/-- Reads words of a kind. -/
def Kind.read? : Kind → List String → Option Given
  | .text, words => some (.texts words)
  | .integer, words => (words.mapM Text.readInteger?).map .integers
  | .among choices, words => if words.all choices.contains then some (.texts words) else none

/-- A flag of a command. -/
structure Flag where
  /-- The name after two dashes. -/
  name : String
  /-- The letter after one dash, if it has one. -/
  letter : Option Char := none
  arity : Arity := .none
  kind : Kind := .text
  required : Bool := false
  deriving DecidableEq, Repr

/-- The operands and flags of a command. -/
structure Grammar where
  operands : Nat
  flags : List Flag
  deriving DecidableEq, Repr

/-- Why a command line is not carried out. -/
inductive Stop where
  /-- It asks how the program is used. -/
  | help
  /-- It does not follow the grammar. -/
  | misuse
  deriving DecidableEq, Repr

/-- A text that is attached to a flag, and whether an equals sign attaches it. -/
structure Attachment where
  bySign : Bool
  text : List Char
  deriving DecidableEq, Repr

/-- What a word is for a grammar. -/
inductive Word where
  | plain (s : String)
  /-- A flag by its name, or by its letter. -/
  | known (flag : Flag) (byLetter : Bool) (attached : Option Attachment)
  /-- A flag that the grammar does not have. -/
  | unknown
  /-- Two dashes alone: all words after them are plain. -/
  | divider
  deriving DecidableEq, Repr

/-- Whether the characters are a negative decimal number; a line feed may end them. -/
def isNegativeNumber (cs : List Char) : Bool :=
  match cs with
  | '-' :: digits =>
    let body := if digits.getLast? = some '\n' then digits.dropLast else digits
    let rest := body.dropWhile Text.isDecimal
    match rest with
    | [] => !body.isEmpty
    | '.' :: fraction => !fraction.isEmpty && fraction.all Text.isDecimal
    | _ => false
  | _ => false

namespace Grammar

/-- The flag with a letter. -/
def byLetter? (g : Grammar) (letter : Char) : Option Flag :=
  g.flags.find? fun f => f.letter = some letter

/-- The flags that a name may mean: the one of that name, or else those whose names it starts. -/
def named (g : Grammar) (name : List Char) : List Flag :=
  match g.flags.find? fun f => f.name.toList = name with
  | some flag => [flag]
  | none => g.flags.filter fun f => name.isPrefixOf f.name.toList

/-- The text after the first equals sign. -/
def afterSign? (cs : List Char) : Option Attachment :=
  match cs.dropWhile (· != '=') with
  | _ :: text => some ⟨true, text⟩
  | [] => none

/-- What characters after the letter of a flag attach to it. -/
def afterLetter? : List Char → Option Attachment
  | [] => none
  | '=' :: text => some ⟨true, text⟩
  | text => some ⟨false, text⟩

/-- What a word with a dash is if it names no flag. -/
def unnamed (cs : List Char) : Word :=
  if isNegativeNumber cs || cs.contains ' ' then .plain (String.ofList cs) else .unknown

/-- What a word is.  A name that may mean several flags is refused. -/
def classify (g : Grammar) (s : String) : Except Stop Word :=
  match s.toList with
  | '-' :: '-' :: body =>
    match g.named (body.takeWhile (· != '=')) with
    | [] => .ok (unnamed s.toList)
    | [flag] => .ok (.known flag false (afterSign? body))
    | _ => .error .misuse
  | '-' :: letter :: body =>
    match g.byLetter? letter with
    | some flag => .ok (.known flag true (afterLetter? body))
    | none => .ok (unnamed s.toList)
  | _ => .ok (.plain s)

/-- What the words of a command line are. -/
def classifyAll (g : Grammar) : List String → Except Stop (List Word)
  | [] => .ok []
  | s :: more =>
    if s = "--" then .ok (.divider :: more.map .plain)
    else do
      let word ← g.classify s
      return word :: (← g.classifyAll more)

/-- The flags that a letter and the text attached to it stand for, the last one with the text that
is its word; and whether a letter is left that names none.  Flags without words may share a dash.
-/
def cluster (g : Grammar) (flag : Flag) (byLetter bySign : Bool) :
    List Char → Except Stop (List (Flag × Option String) × Bool)
  | [] => if flag.arity.accepts 1 then .ok ([(flag, some "")], false) else .error .misuse
  | c :: more =>
    if flag.arity.accepts 1 then .ok ([(flag, some (String.ofList (c :: more)))], false)
    else if flag.arity.hasRoom 0 || !byLetter || bySign || c = '-' then .error .misuse
    else match g.byLetter? c with
      | none => .ok ([(flag, none)], true)
      | some next =>
        match more with
        | [] => .ok ([(flag, none), (next, none)], false)
        | '=' :: text => do
          let (flags, left) ← g.cluster next true true text
          return ((flag, none) :: flags, left)
        | d :: text => do
          let (flags, left) ← g.cluster next true false (d :: text)
          return ((flag, none) :: flags, left)

end Grammar

end PipeTable.CommandLine
