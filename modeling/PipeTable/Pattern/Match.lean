import PipeTable.Pattern.Fold

/-! # Searching

A pattern is matched at a place of the text by trying its alternatives in order and taking the first
that lets the rest of the pattern match.  A repetition goes on only as long as it moves.
-/

namespace PipeTable.Pattern

/-- How far a match has come, and what its groups hold. -/
structure Progress where
  position : Nat
  groups : List (Nat × Nat × Nat)

/-- What is still to be matched after a part of a pattern. -/
abbrev Rest := Progress → Option Progress

/-- A part of a pattern, as a function of what follows it. -/
abbrev Matcher := Rest → Rest

/-- Whether a place between two characters separates a word from something else. -/
def isBoundary (ascii : Bool) (text : Array Char) (position : Nat) : Bool :=
  let inWord (c : Option Char) : Bool := c.any (Category.word.holds ascii)
  let before := if position = 0 then none else text[position - 1]?
  inWord before != inWord text[position]?

/-- Whether an anchor holds at a place. -/
def anchorHolds (modes : Modes) (text : Array Char) (position : Nat) : Anchor → Bool
  | .caret => position = 0 || (modes.multiLine && text[position - 1]? = some '\n')
  | .dollar =>
    position = text.size || (text[position]? = some '\n' &&
      (modes.multiLine || position + 1 = text.size))
  | .textStart => position = 0
  | .textEnd => position = text.size
  | .boundary => 0 < text.size && isBoundary modes.ascii text position
  | .noBoundary => 0 < text.size && !isBoundary modes.ascii text position

/-- Matches one character that satisfies `p`. -/
def one (text : Array Char) (p : Char → Bool) : Matcher := fun rest s =>
  match text[s.position]? with
  | some c => if p c then rest { s with position := s.position + 1 } else none
  | none => none

/-- Goes on with `first`, and with `second` only if that fails. -/
@[macro_inline] def orElse (first second : Option Progress) : Option Progress :=
  match first with
  | some s => some s
  | none => second

/-- Matches a body `count` times. -/
def times (body : Matcher) : Nat → Matcher
  | 0, rest => rest
  | count + 1, rest => body (times body count rest)

/-- Matches a body as often as possible, at most `most` times, and gives back one by one.  `last` is
where the previous round began; a round that does not move is the last. -/
def greedyLoop (body : Matcher) (rest : Rest) : Nat → Option Nat → Option Nat → Rest
  | 0, _, _, s => rest s
  | fuel + 1, most, last, s =>
    if most ≠ some 0 ∧ last ≠ some s.position then
      orElse (body (greedyLoop body rest fuel (most.map (· - 1)) (some s.position)) s) (rest s)
    else rest s

/-- Matches a body as seldom as possible, at most `most` times. -/
def lazyLoop (body : Matcher) (rest : Rest) : Nat → Option Nat → Option Nat → Rest
  | 0, _, _, s => rest s
  | fuel + 1, most, last, s =>
    orElse (rest s) <|
      if most ≠ some 0 ∧ last ≠ some s.position then
        body (lazyLoop body rest fuel (most.map (· - 1)) (some s.position)) s
      else none

/-- Matches a body `count` times without giving back. -/
def firmTimes (body : Matcher) : Nat → Rest
  | 0, s => some s
  | count + 1, s => (body some s).bind (firmTimes body count)

/-- Matches a body as often as possible, at most `most` times, without giving back. -/
def firmLoop (body : Matcher) : Nat → Option Nat → Option Nat → Progress → Progress
  | 0, _, _, s => s
  | fuel + 1, most, last, s =>
    if most ≠ some 0 ∧ last ≠ some s.position then
      match body some s with
      | some t => firmLoop body fuel (most.map (· - 1)) (some s.position) t
      | none => s
    else s

/-- Matches a body at least `least` and at most `most` times. -/
def repeated (text : Array Char) (greed : Greed) (least : Nat) (most : Option Nat)
    (body : Matcher) : Matcher := fun rest s =>
  let more := most.map (· - least)
  let fuel := text.size + 2
  match greed with
  | .greedy => times body least (greedyLoop body rest fuel more none) s
  | .lazy => times body least (lazyLoop body rest fuel more none) s
  | .possessive => (firmTimes body least s).bind fun t => rest (firmLoop body fuel more none t)

/-- Whether the text from a place on starts with what another stretch of it holds. -/
def sameStretch (modes : Modes) (text : Array Char) (start stop position : Nat) : Bool :=
  (List.range (stop - start)).all fun i =>
    match text[start + i]?, text[position + i]? with
    | some a, some b =>
      if modes.ignoreCase then small modes.ascii a.toNat = small modes.ascii b.toNat else a = b
    | _, _ => false

/-- What a group holds, as a stretch of the text. -/
def Progress.stretch? (s : Progress) (index : Nat) : Option (Nat × Nat) :=
  s.groups.lookup index

mutual

/-- Matches a pattern under the given modes. -/
def run (text : Array Char) (modes : Modes) : Pattern → Matcher
  | .point code, rest, s => one text (pointMatches modes code) rest s
  | .any, rest, s => one text (fun c => modes.dotAll || c != '\n') rest s
  | .oneOf negated items, rest, s => one text (classHolds modes negated items) rest s
  | .anchor a, rest, s => if anchorHolds modes text s.position a then rest s else none
  | .sequence parts, rest, s => runAll text modes parts rest s
  | .choice options, rest, s => runAny text modes options rest s
  | .repetition greed least most body, rest, s =>
    repeated text greed least most (run text modes body) rest s
  | .group body, rest, s => run text modes body rest s
  | .capture index body, rest, s =>
    run text modes body
      (fun t => rest { t with groups := (index, s.position, t.position) :: t.groups }) s
  | .scoped on off body, rest, s => run text (modes.change on off) body rest s
  | .lookAhead negated body, rest, s =>
    match run text modes body some s with
    | some t => if negated then none else rest { s with groups := t.groups }
    | none => if negated then rest s else none
  | .lookBehind negated width body, rest, s =>
    let found := if width ≤ s.position
      then run text modes body some { s with position := s.position - width } else none
    match found with
    | some t => if negated then none else rest { s with groups := t.groups }
    | none => if negated then rest s else none
  | .backReference index, rest, s =>
    match s.stretch? index with
    | some (start, stop) =>
      if sameStretch modes text start stop s.position then
        rest { s with position := s.position + (stop - start) }
      else none
    | none => none
  | .conditional index yes no, rest, s =>
    if (s.stretch? index).isSome then run text modes yes rest s else run text modes no rest s
  | .atomic body, rest, s => (run text modes body some s).bind rest

/-- Matches patterns one after the other. -/
def runAll (text : Array Char) (modes : Modes) : List Pattern → Matcher
  | [], rest, s => rest s
  | p :: ps, rest, s => run text modes p (runAll text modes ps rest) s

/-- Matches the first of several patterns that lets the rest match. -/
def runAny (text : Array Char) (modes : Modes) : List Pattern → Matcher
  | [], _, _ => none
  | p :: ps, rest, s => orElse (run text modes p rest s) (runAny text modes ps rest s)

end

/-- A pattern together with the modes it is matched under. -/
structure Compiled where
  pattern : Pattern
  modes : Modes

/-- Whether the pattern matches anywhere in the text. -/
def Compiled.search (p : Compiled) (text : String) : Bool :=
  let chars := text.toList.toArray
  (List.range (chars.size + 1)).any fun start =>
    (run chars p.modes p.pattern some ⟨start, []⟩).isSome

end PipeTable.Pattern
