/-! # Patterns

The syntax of regular expressions as data.  Characters of a pattern are code points, so that a
pattern can also name those that no text holds.
-/

namespace PipeTable

/-- A set of characters with a name. -/
inductive Category where
  | digit
  | word
  | blank
  deriving DecidableEq, Repr

/-- An element of a character class. -/
inductive ClassItem where
  | point (code : Nat)
  | range (low high : Nat)
  | category (category : Category) (negated : Bool)
  deriving DecidableEq, Repr

/-- A condition on a place in the text. -/
inductive Anchor where
  /-- The start of the text, or of a line in multi-line mode. -/
  | caret
  /-- The end of the text or before its last line break, or the end of a line in multi-line mode. -/
  | dollar
  | textStart
  | textEnd
  | boundary
  | noBoundary
  deriving DecidableEq, Repr

/-- How a repetition chooses between going on and stopping. -/
inductive Greed where
  | greedy
  | lazy
  /-- As often as possible, and never given back. -/
  | possessive
  deriving DecidableEq, Repr

/-- The modes of matching. -/
structure Modes where
  ignoreCase : Bool := false
  multiLine : Bool := false
  dotAll : Bool := false
  ascii : Bool := false
  verbose : Bool := false
  unicode : Bool := false
  locale : Bool := false
  deriving DecidableEq, Repr

/-- The modes with others switched on and off.  Setting a character set replaces the one before. -/
def Modes.change (m on off : Modes) : Modes :=
  let replaces := on.ascii || on.unicode || on.locale
  { ignoreCase := (m.ignoreCase || on.ignoreCase) && !off.ignoreCase
    multiLine := (m.multiLine || on.multiLine) && !off.multiLine
    dotAll := (m.dotAll || on.dotAll) && !off.dotAll
    ascii := on.ascii || (m.ascii && !replaces)
    verbose := (m.verbose || on.verbose) && !off.verbose
    unicode := on.unicode || (m.unicode && !replaces)
    locale := on.locale || (m.locale && !replaces) }

/-- Whether a mode chooses a character set. -/
def Modes.isSet (m : Modes) : Bool := m.ascii || m.unicode || m.locale

/-- The number of character sets that modes choose. -/
def Modes.sets (m : Modes) : Nat := m.ascii.toNat + m.unicode.toNat + m.locale.toNat

/-- Both modes together. -/
def Modes.join (m n : Modes) : Modes where
  ignoreCase := m.ignoreCase || n.ignoreCase
  multiLine := m.multiLine || n.multiLine
  dotAll := m.dotAll || n.dotAll
  ascii := m.ascii || n.ascii
  verbose := m.verbose || n.verbose
  unicode := m.unicode || n.unicode
  locale := m.locale || n.locale

/-- Whether some mode is in both. -/
def Modes.meets (m n : Modes) : Bool :=
  (m.ignoreCase && n.ignoreCase) || (m.multiLine && n.multiLine) || (m.dotAll && n.dotAll) ||
    (m.verbose && n.verbose)

/-- A regular expression. -/
inductive Pattern where
  | point (code : Nat)
  | any
  | oneOf (negated : Bool) (items : List ClassItem)
  | anchor (a : Anchor)
  | sequence (parts : List Pattern)
  | choice (options : List Pattern)
  | repetition (greed : Greed) (least : Nat) (most : Option Nat) (body : Pattern)
  | group (body : Pattern)
  | capture (index : Nat) (body : Pattern)
  | scoped (on off : Modes) (body : Pattern)
  | lookAhead (negated : Bool) (body : Pattern)
  /-- The body has to match the `width` characters before the place. -/
  | lookBehind (negated : Bool) (width : Nat) (body : Pattern)
  | backReference (index : Nat)
  /-- Goes on by whether a group has matched. -/
  | conditional (index : Nat) (yes no : Pattern)
  | atomic (body : Pattern)
  deriving Repr

namespace Pattern

/-- The least and the greatest number of characters that a pattern matches. -/
structure Width where
  low : Nat
  high : Nat
  deriving DecidableEq, Repr

/-- A bound beyond all lengths. -/
def maxWidth : Nat := Nat.pow 2 64

/-- Widths are not told apart beyond the bound. -/
def Width.cap (w : Width) : Width := ⟨min w.low maxWidth, min w.high maxWidth⟩

mutual

/-- The width of a pattern, given those of the groups that it can refer to. -/
def width (groups : Nat → Width) : Pattern → Width
  | .point _ | .any | .oneOf .. => ⟨1, 1⟩
  | .anchor _ | .lookAhead .. | .lookBehind .. => ⟨0, 0⟩
  | .sequence parts => (sequenceWidth groups parts).cap
  | .choice options => (choiceWidth groups options).cap
  | .repetition _ least most body =>
    let w := width groups body
    let high := match most with
      | some n => w.high * n
      | none => if w.high = 0 then 0 else maxWidth
    Width.cap ⟨w.low * least, high⟩
  | .group body | .capture _ body | .scoped _ _ body | .atomic body => width groups body
  | .backReference index => groups index
  | .conditional _ yes no =>
    let a := width groups yes
    let b := width groups no
    ⟨min a.low b.low, max a.high b.high⟩

/-- The width of patterns one after the other. -/
def sequenceWidth (groups : Nat → Width) : List Pattern → Width
  | [] => ⟨0, 0⟩
  | p :: ps =>
    let a := width groups p
    let b := sequenceWidth groups ps
    ⟨a.low + b.low, a.high + b.high⟩

/-- The width of alternatives. -/
def choiceWidth (groups : Nat → Width) : List Pattern → Width
  | [] => ⟨maxWidth, 0⟩
  | p :: ps =>
    let a := width groups p
    let b := choiceWidth groups ps
    ⟨min a.low b.low, max a.high b.high⟩

end

end Pattern

end PipeTable
