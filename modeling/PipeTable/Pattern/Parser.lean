import PipeTable.Pattern.Basic
import PipeTable.Text.Hex
import PipeTable.Text.Identifier
import PipeTable.Text.Integer
import PipeTable.Text.Names

/-! # Reading patterns

The text of a pattern is cut into tokens, characters and escapes, and read by recursive descent.
Every text that is not a pattern is refused, whatever is wrong with it.
-/

namespace PipeTable.Pattern

/-- A character of a pattern's text, or a character after a backslash. -/
inductive Token where
  | plain (c : Char)
  | escaped (c : Char)
  deriving DecidableEq

/-- The tokens of a pattern's text; a backslash at its end escapes nothing. -/
def tokens? : List Char → Option (List Token)
  | [] => some []
  | ['\\'] => none
  | '\\' :: c :: cs => (tokens? cs).map (.escaped c :: ·)
  | c :: cs => (tokens? cs).map (.plain c :: ·)

/-- What is known while a pattern is read. -/
structure Reader where
  tokens : List Token
  /-- Whether the pattern is text and not bytes. -/
  isText : Bool
  modes : Modes
  /-- The widths of the groups so far; a group that is still open has none. -/
  groups : Array (Option Width)
  names : List (String × Nat)
  /-- The number of groups before the outermost look-behind that is open. -/
  behind : Option Nat
  /-- The groups that conditionals ask for. -/
  asked : List Nat

/-- Why characters are no pattern. -/
inductive Refusal where
  | malformed
  /-- A count of repetitions is too great. -/
  | tooManyRepetitions
  /-- Modes are set that exclude each other. -/
  | clashingModes
  deriving DecidableEq, Repr

/-- A step of reading. -/
abbrev Read := StateT Reader (Except Refusal)

/-- Refuses the pattern. -/
def refuse {α : Type} : Read α := throw .malformed

/-- The next token, left in place. -/
def peek : Read (Option Token) := do return (← get).tokens.head?

/-- The next token. -/
def next : Read (Option Token) := do
  let s ← get
  match s.tokens with
  | [] => return none
  | t :: ts =>
    set { s with tokens := ts }
    return some t

/-- Takes the next token if it is the given character. -/
def take (c : Char) : Read Bool := do
  let s ← get
  match s.tokens with
  | .plain d :: ts =>
    if c = d then
      set { s with tokens := ts }
      return true
    else return false
  | _ => return false

/-- Takes a character that has to come. -/
def need (c : Char) : Read Unit := do
  if !(← take c) then refuse

/-- Takes up to `most` plain characters that satisfy `p`. -/
def takeWhile (p : Char → Bool) : Nat → Read (List Char)
  | 0 => return []
  | most + 1 => do
    match ← peek with
    | some (.plain c) =>
      if p c then
        let _ ← next
        return c :: (← takeWhile p most)
      else return []
    | _ => return []

/-- The text up to a closing character, which is taken too. -/
def takeUntil (close : Char) : Nat → Read (List Char)
  | 0 => refuse
  | fuel + 1 => do
    match ← next with
    | none => refuse
    | some (.plain c) => if c = close then return [] else return c :: (← takeUntil close fuel)
    | some (.escaped c) => return '\\' :: c :: (← takeUntil close fuel)

/-- The text up to a closing character; it must not be empty. -/
def takeName (close : Char) : Read (List Char) := do
  let name ← takeUntil close ((← get).tokens.length + 1)
  if name.isEmpty then refuse
  return name

/-- The value of digits in a base. -/
def valueIn (base : Nat) (digits : List Char) : Nat :=
  digits.foldl (fun value c => base * value + (Text.hexValue? c).getD 0) 0

/-- Whether a character is a digit in base eight. -/
def isOctalDigit (c : Char) : Bool := '0' ≤ c && c ≤ '7'

/-- A code point given by exactly `count` hexadecimal digits. -/
def readHex (count : Nat) : Read Nat := do
  let digits ← takeWhile (fun c => (Text.hexValue? c).isSome) count
  if digits.length ≠ count then refuse
  let code := valueIn 16 digits
  if 0x10FFFF < code then refuse
  return code

/-- A code point given by the name of a character in braces. -/
def readNamed : Read Nat := do
  need '\x7b'
  match Text.characterNamed? (String.ofList (← takeName '\x7d')) with
  | some c => return c.toNat
  | none => refuse

/-- The character that a letter stands for after a backslash. -/
def controlEscape? : Char → Option Nat
  | 'a' => some 7
  | 'b' => some 8
  | 'f' => some 12
  | 'n' => some 10
  | 'r' => some 13
  | 't' => some 9
  | 'v' => some 11
  | '\\' => some 92
  | _ => none

/-- The category that a letter stands for after a backslash. -/
def categoryEscape? : Char → Option ClassItem
  | 'd' => some (.category .digit false)
  | 'D' => some (.category .digit true)
  | 's' => some (.category .blank false)
  | 'S' => some (.category .blank true)
  | 'w' => some (.category .word false)
  | 'W' => some (.category .word true)
  | _ => none

/-- The anchor that a letter stands for after a backslash. -/
def anchorEscape? : Char → Option Anchor
  | 'A' => some .textStart
  | 'Z' => some .textEnd
  | 'b' => some .boundary
  | 'B' => some .noBoundary
  | _ => none

/-- An escape that stands for a code point by its number or name, or for itself. -/
def readPointEscape (c : Char) : Read Nat := do
  let isText := (← get).isText
  if c = 'x' then readHex 2
  else if c = 'u' && isText then readHex 4
  else if c = 'U' && isText then readHex 8
  else if c = 'N' && isText then readNamed
  else if c.isAlpha || c.isDigit then refuse
  else return c.toNat

/-- An escape inside a class. -/
def readClassEscape (c : Char) : Read ClassItem := do
  match controlEscape? c, categoryEscape? c with
  | some code, _ => return .point code
  | none, some item => return item
  | none, none =>
    if isOctalDigit c then
      let code := valueIn 8 (c :: (← takeWhile isOctalDigit 2))
      if 0o377 < code then refuse
      return .point code
    else return .point (← readPointEscape c)

/-- Refuses a reference to a group that is open, or that belongs to the look-behind being read. -/
def checkReference (index : Nat) : Read Unit := do
  let s ← get
  let closed := ((s.groups[index]?).getD none).isSome
  match s.behind with
  | some limit => if !closed || limit ≤ index then refuse
  | none => return ()

/-- A reference to a group by number. -/
def readBackReference (digits : List Char) : Read Pattern := do
  let index := valueIn 10 digits
  let s ← get
  match s.groups[index]? with
  | some (some _) =>
    checkReference index
    return .backReference index
  | _ => refuse

/-- An escape that starts with a digit other than zero: three octal digits are a code point, all
else refers to a group. -/
def readNumberEscape (c : Char) : Read Pattern := do
  let more ← takeWhile Char.isDigit 1
  match more with
  | [d] =>
    if isOctalDigit c && isOctalDigit d then
      let last ← takeWhile isOctalDigit 1
      match last with
      | [e] =>
        let code := valueIn 8 [c, d, e]
        if 0o377 < code then refuse
        return .point code
      | _ => readBackReference [c, d]
    else readBackReference [c, d]
  | _ => readBackReference [c]

/-- An escape outside classes. -/
def readEscape (c : Char) : Read Pattern := do
  match anchorEscape? c, categoryEscape? c, controlEscape? c with
  | some a, _, _ => return .anchor a
  | none, some item, _ => return .oneOf false [item]
  | none, none, some code => return .point code
  | none, none, none =>
    if c = '0' then return .point (valueIn 8 (← takeWhile isOctalDigit 2))
    else if c.isDigit then readNumberEscape c
    else return .point (← readPointEscape c)

/-- One end of a range in a class. -/
def readClassToken : Token → Read ClassItem
  | .plain c => return .point c.toNat
  | .escaped c => readClassEscape c

/-- The elements of a class up to its closing bracket; `started` tells whether one has been read. -/
def readClassItems : Nat → Bool → Read (List ClassItem)
  | 0, _ => refuse
  | fuel + 1, started => do
    match ← next with
    | none => refuse
    | some token =>
      if token = .plain ']' && started then return []
      let first ← readClassToken token
      if ← take '-' then
        match ← next with
        | none => refuse
        | some (.plain ']') => return [first, .point 45]
        | some other =>
          match first, ← readClassToken other with
          | .point low, .point high =>
            if high < low then refuse
            return .range low high :: (← readClassItems fuel true)
          | _, _ => refuse
      else return first :: (← readClassItems fuel true)

/-- A class after its opening bracket. -/
def readClass : Read Pattern := do
  let negated ← take '^'
  let items ← readClassItems ((← get).tokens.length + 1) false
  match items, negated with
  | [.point code], false => return .point code
  | _, _ => return .oneOf negated items

/-- The greatest number of repetitions that can be asked for, exclusive. -/
def repetitionLimit : Nat := 4294967295

/-- The bounds between braces after the opening one; none if it stands for itself. -/
def readBounds : Read (Option (Nat × Option Nat)) := do
  let before ← get
  if (before.tokens.head?) = some (.plain '\x7d') then return none
  let size := before.tokens.length
  let low ← takeWhile Char.isDigit size
  let high ← if ← take ',' then takeWhile Char.isDigit size else pure low
  if !(← take '\x7d') then
    set before
    return none
  let least := valueIn 10 low
  if repetitionLimit ≤ least then throw .tooManyRepetitions
  if high.isEmpty then return some (least, none)
  let most := valueIn 10 high
  if repetitionLimit ≤ most then throw .tooManyRepetitions
  if most < least then refuse
  return some (least, some most)

/-- The bounds that a quantifier stands for; none if it stands for itself. -/
def readQuantifier (c : Char) : Read (Option (Nat × Option Nat)) := do
  match c with
  | '?' => return some (0, some 1)
  | '*' => return some (0, none)
  | '+' => return some (1, none)
  | _ => readBounds

/-- The mark after a quantifier that says how greedy it is. -/
def readGreed : Read Greed := do
  if ← take '?' then return .lazy
  if ← take '+' then return .possessive
  return .greedy

/-- Repeats the last of the patterns read so far, which are held in reverse. -/
def applyQuantifier (bounds : Nat × Option Nat) (read : List Pattern) : Read (List Pattern) := do
  match read with
  | [] => refuse
  | .anchor _ :: _ => refuse
  | .repetition .. :: _ => refuse
  | last :: earlier =>
    return .repetition (← readGreed) bounds.1 bounds.2 last :: earlier

/-- The mode that a letter stands for. -/
def modeOf? (isText : Bool) : Char → Option Modes
  | 'i' => some { ignoreCase := true }
  | 'm' => some { multiLine := true }
  | 's' => some { dotAll := true }
  | 'x' => some { verbose := true }
  | 'a' => some { ascii := true }
  | 'u' => if isText then some { unicode := true } else none
  | 'L' => if isText then none else some { locale := true }
  | _ => none

/-- The modes of letters up to a character that is none, which is returned too. -/
def readModes : Nat → Modes → Char → Read (Modes × Char)
  | 0, _, _ => refuse
  | fuel + 1, modes, c => do
    match modeOf? (← get).isText c with
    | none => return (modes, c)
    | some m =>
      let joined := modes.join m
      if m.isSet && joined.sets ≠ 1 then refuse
      match ← next with
      | some (.plain d) => readModes fuel joined d
      | _ => refuse

/-- The modes at the start of a group: those of the whole pattern, or those switched on and off. -/
def readModeChange (c : Char) : Read (Option (Modes × Modes)) := do
  let fuel := (← get).tokens.length + 2
  let (on, stop) ← if c = '-' then pure ({}, '-') else readModes fuel {} c
  match stop with
  | ')' =>
    modify fun s => { s with modes := s.modes.join on }
    return none
  | ':' => return some (on, {})
  | '-' =>
    match ← next with
    | some (.plain d) =>
      if (modeOf? (← get).isText d).isNone then refuse
      let (off, last) ← readModes fuel {} d
      if last ≠ ':' || off.isSet || on.meets off then refuse
      return some (on, off)
    | _ => refuse
  | _ => refuse

/-- Opens a group and returns its number. -/
def openGroup (name : Option String) : Read Nat := do
  let s ← get
  let index := s.groups.size
  match name with
  | none => set { s with groups := s.groups.push none }
  | some n =>
    if (s.names.lookup n).isSome then refuse
    set { s with groups := s.groups.push none, names := (n, index) :: s.names }
  return index

/-- The width of a pattern among the groups read so far. -/
def currentWidth (p : Pattern) : Read Width := do
  let s ← get
  return width (fun i => ((s.groups[i]?).getD none).getD ⟨0, 0⟩) p

/-- Closes a group with what it holds. -/
def closeGroup (index : Nat) (body : Pattern) : Read Unit := do
  let w ← currentWidth body
  modify fun s => { s with groups := s.groups.setIfInBounds index (some w) }

/-- The number of the group that a conditional asks for. -/
def readCondition : Read Nat := do
  let name ← takeName ')'
  let s ← get
  let index ← if Text.isIdentifier name then
      match s.names.lookup (String.ofList name) with
      | some i => pure i
      | none => refuse
    else
      match Text.readIntegerChars? name with
      | some n =>
        if n ≤ 0 ∨ 1073741823 ≤ n then refuse
        modify fun r => { r with asked := n.toNat :: r.asked }
        pure n.toNat
      | none => refuse
  checkReference index
  return index

/-- A reference to a group by name. -/
def readNamedReference : Read Pattern := do
  let name ← takeName ')'
  if !Text.isIdentifier name then refuse
  let s ← get
  match s.names.lookup (String.ofList name) with
  | some index =>
    if ((s.groups[index]?).getD none).isNone then refuse
    checkReference index
    return .backReference index
  | none => refuse

/-- Skips a comment up to its closing parenthesis. -/
def skipComment : Nat → Read Unit
  | 0 => refuse
  | fuel + 1 => do
    match ← next with
    | none => refuse
    | some token => if token = .plain ')' then return () else skipComment fuel

/-- Skips the rest of a line. -/
def skipLine : Nat → Read Unit
  | 0 => return ()
  | fuel + 1 => do
    match ← next with
    | none => return ()
    | some token => if token = .plain '\n' then return () else skipLine fuel

/-- What the opening of a group announces. -/
inductive Opening where
  | plain
  | capturing (name : Option String)
  | atomicGroup
  | scopedModes (on off : Modes)
  | ahead (negated : Bool)
  | behind (negated : Bool)
  | condition
  /-- The group holds nothing to read, and stands for the given patterns. -/
  | done (patterns : List Pattern)

/-- Reads the opening of a group after its parenthesis.  `first` tells whether nothing stands
before it in the whole pattern. -/
def readOpening (first : Bool) : Read Opening := do
  if !(← take '?') then return .capturing none
  match ← next with
  | some (.plain 'P') =>
    if ← take '<' then
      let name ← takeName '>'
      if !Text.isIdentifier name then refuse
      return .capturing (some (String.ofList name))
    else if ← take '=' then return .done [← readNamedReference]
    else refuse
  | some (.plain ':') => return .plain
  | some (.plain '#') =>
    skipComment ((← get).tokens.length + 1)
    return .done []
  | some (.plain '=') => return .ahead false
  | some (.plain '!') => return .ahead true
  | some (.plain '<') =>
    match ← next with
    | some (.plain '=') => return .behind false
    | some (.plain '!') => return .behind true
    | _ => refuse
  | some (.plain '(') => return .condition
  | some (.plain '>') => return .atomicGroup
  | some (.plain c) =>
    if (modeOf? (← get).isText c).isNone && c ≠ '-' then refuse
    match ← readModeChange c with
    | some (on, off) => return .scopedModes on off
    | none => if first then return .done [] else refuse
  | _ => refuse

/-- Whether a character is passed over in verbose mode. -/
def isVerboseBlank (c : Char) : Bool :=
  c = ' ' || c = '\t' || c = '\n' || c = '\r' || c.toNat = 11 || c.toNat = 12

/-- Alternatives of which there may be only one. -/
def choiceOf : List Pattern → Pattern
  | [single] => single
  | options => .choice options

mutual

/-- Reads alternatives.  `outermost` tells whether they are the whole pattern. -/
def readChoice : Nat → Bool → Bool → Read (List Pattern)
  | 0, _, _ => refuse
  | fuel + 1, outermost, verbose => do
    let option ← readSequence fuel outermost verbose []
    if ← take '|' then
      let now ← get
      let again := if outermost then now.modes.verbose else verbose
      return .sequence option :: (← readOthers fuel outermost again)
    else return [.sequence option]

/-- Reads the alternatives after the first. -/
def readOthers : Nat → Bool → Bool → Read (List Pattern)
  | 0, _, _ => refuse
  | fuel + 1, outermost, verbose => do
    let option ← readSequence fuel false verbose []
    if ← take '|' then
      let now ← get
      let again := if outermost then now.modes.verbose else verbose
      return .sequence option :: (← readOthers fuel outermost again)
    else return [.sequence option]

/-- Reads patterns one after the other; those read so far are held in reverse.  `first` tells
whether they start the whole pattern. -/
def readSequence : Nat → Bool → Bool → List Pattern → Read (List Pattern)
  | 0, _, _, _ => refuse
  | fuel + 1, first, verbose, read => do
    match ← peek with
    | none => return read.reverse
    | some (.escaped c) =>
      let _ ← next
      readSequence fuel first verbose ((← readEscape c) :: read)
    | some (.plain c) =>
      if c = '|' || c = ')' then return read.reverse
      let _ ← next
      if verbose && isVerboseBlank c then readSequence fuel first verbose read
      else if verbose && c = '#' then
        skipLine ((← get).tokens.length + 1)
        readSequence fuel first verbose read
      else if c = '[' then readSequence fuel first verbose ((← readClass) :: read)
      else if c = '.' then readSequence fuel first verbose (.any :: read)
      else if c = '^' then readSequence fuel first verbose (.anchor .caret :: read)
      else if c = '$' then readSequence fuel first verbose (.anchor .dollar :: read)
      else if c = '?' || c = '*' || c = '+' || c = '\x7b' then
        match ← readQuantifier c with
        | some bounds => readSequence fuel first verbose (← applyQuantifier bounds read)
        | none => readSequence fuel first verbose (.point c.toNat :: read)
      else if c = '(' then
        let opening ← readOpening (first && read.isEmpty)
        let now ← get
        let inner := match opening with
          | .done [] => verbose || (first && read.isEmpty && now.modes.verbose)
          | _ => verbose
        let found ← readGroup fuel verbose opening
        readSequence fuel first inner (found.reverse ++ read)
      else readSequence fuel first verbose (.point c.toNat :: read)

/-- Reads the rest of a group after its opening. -/
def readGroup : Nat → Bool → Opening → Read (List Pattern)
  | 0, _, _ => refuse
  | fuel + 1, verbose, opening => do
    match opening with
    | .done patterns => return patterns
    | .plain =>
      let body ← readChoice fuel false verbose
      need ')'
      return [.group (choiceOf body)]
    | .capturing name =>
      let index ← openGroup name
      let body := choiceOf (← readChoice fuel false verbose)
      need ')'
      closeGroup index body
      return [.capture index body]
    | .atomicGroup =>
      let body ← readChoice fuel false verbose
      need ')'
      return [.atomic (choiceOf body)]
    | .scopedModes on off =>
      let body ← readChoice fuel false ((verbose || on.verbose) && !off.verbose)
      need ')'
      return [.scoped on off (choiceOf body)]
    | .ahead negated =>
      let body ← readChoice fuel false verbose
      need ')'
      return [.lookAhead negated (choiceOf body)]
    | .behind negated =>
      let before := (← get).behind
      if before.isNone then modify fun s => { s with behind := some s.groups.size }
      let body := choiceOf (← readChoice fuel false verbose)
      if before.isNone then modify fun s => { s with behind := none }
      need ')'
      let w ← currentWidth body
      if w.low ≠ w.high then refuse
      return [.lookBehind negated w.low body]
    | .condition =>
      let index ← readCondition
      let yes ← readSequence fuel false verbose []
      let second ← take '|'
      let no ← if second then readSequence fuel false verbose [] else pure []
      need ')'
      return [.conditional index (.sequence yes) (.sequence no)]

end

/-- Reads the whole pattern. -/
def readPattern : Read Pattern := do
  let size := (← get).tokens.length
  let options ← readChoice (4 * size + 8) true false
  let s ← get
  if !s.tokens.isEmpty then refuse
  if s.asked.any (s.groups.size ≤ ·) then refuse
  if s.modes.ascii && s.modes.unicode then throw .clashingModes
  return choiceOf options

/-- Reads a pattern from characters. -/
def parse (isText : Bool) (cs : List Char) : Except Refusal (Pattern × Modes) := do
  match tokens? cs with
  | none => throw .malformed
  | some tokens =>
    let (pattern, reader) ← readPattern.run
      { tokens := tokens, isText := isText, modes := {}, groups := #[none], names := [],
        behind := none, asked := [] }
    return (pattern, reader.modes)

end PipeTable.Pattern
