import PipeTable.Text.CompatibilityTable

/-! # The compatibility form of identifiers

Characters that differ in form only are brought to one form: decomposed, with their marks in a fixed
order, and composed again.  The tables cover the characters of identifiers.
-/

namespace PipeTable.Text

/-- The class by which a mark is ordered; zero for characters that keep their place. -/
def markClass (c : Char) : Nat :=
  let code := c.toNat
  (markRuns.runs.findSome? fun run =>
    if run.first ≤ code ∧ code < run.first + run.count then some run.image else none).getD 0

/-- The parts of a syllable that is composed by rule. -/
def decomposeSyllable (code : Nat) : List Char :=
  let index := code - 0xAC00
  let last := index % 28
  let parts := [0x1100 + index / 588, 0x1161 + index % 588 / 28]
  (if last = 0 then parts else parts ++ [0x11A7 + last]).map Char.ofNat

/-- The characters that a character stands for. -/
def decomposeChar (c : Char) : List Char :=
  let code := c.toNat
  if code < 0x80 then [c]
  else if 0xAC00 ≤ code ∧ code ≤ 0xD7A3 then decomposeSyllable code
  else match decompositionRuns.find? code with
    | some image => [Char.ofNat image]
    | none => (decompositionSequences.lookup code).getD [c]

/-- Puts a mark in its place among the marks just read, which are held nearest first. -/
def insertMark (mark : Char × Nat) : List (Char × Nat) → List (Char × Nat)
  | [] => [mark]
  | last :: before =>
    if mark.2 < last.2 ∧ mark.2 ≠ 0 then last :: insertMark mark before else mark :: last :: before

/-- The characters with every run of marks in ascending order of class. -/
def orderMarks (cs : List Char) : List (Char × Nat) :=
  (cs.foldl (fun read c => insertMark (c, markClass c) read) []).reverse

/-- The character that two characters join into. -/
def composePair (a b : Char) : Option Char :=
  let first := a.toNat
  let second := b.toNat
  if 0x1100 ≤ first ∧ first < 0x1113 ∧ 0x1161 ≤ second ∧ second < 0x1176 then
    some (Char.ofNat (0xAC00 + ((first - 0x1100) * 21 + (second - 0x1161)) * 28))
  else if 0xAC00 ≤ first ∧ first ≤ 0xD7A3 ∧ (first - 0xAC00) % 28 = 0 ∧
      0x11A7 < second ∧ second < 0x11C3 then
    some (Char.ofNat (first + (second - 0x11A7)))
  else (compositionSequences.find? fun entry => entry.2 = [a, b]).map fun entry =>
    Char.ofNat entry.1

/-- Composes what follows a starter.  `kept` holds the marks since the starter that did not join,
nearest first, with their classes. -/
def composeAfter (starter : Char) (kept : List (Char × Nat)) : List (Char × Nat) → List Char
  | [] => starter :: (kept.map Prod.fst).reverse
  | (c, cls) :: more =>
    let blocked := match kept with
      | [] => false
      | (_, last) :: _ => last = 0 || last ≥ cls
    match if blocked then none else composePair starter c with
    | some joined => composeAfter joined kept more
    | none =>
      if cls = 0 then starter :: (kept.map Prod.fst).reverse ++ composeAfter c [] more
      else composeAfter starter ((c, cls) :: kept) more

/-- Composes ordered characters; marks before the first starter stay as they are. -/
def composeChars : List (Char × Nat) → List Char
  | [] => []
  | (c, cls) :: more => if cls = 0 then composeAfter c [] more else c :: composeChars more

/-- The compatibility form of a text. -/
def compatibilityForm (s : String) : String :=
  if s.toList.all fun c => c.val < 0x80 then s
  else String.ofList (composeChars (orderMarks (s.toList.flatMap decomposeChar)))

end PipeTable.Text
