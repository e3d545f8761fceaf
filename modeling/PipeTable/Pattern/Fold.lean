import PipeTable.Text.Case
import PipeTable.Text.Word
import PipeTable.Text.Digit
import PipeTable.Pattern.Basic

/-! # Characters under a mode

Which characters a category holds, and which characters count as the same when case is ignored.
-/

namespace PipeTable

/-- Whether a category holds a character; in ASCII mode it holds ASCII characters only. -/
def Category.holds (ascii : Bool) (category : Category) (c : Char) : Bool :=
  match category with
  | .digit => if ascii then c.isDigit else Text.isDecimal c
  | .word => if ascii then c.isAlphanum || c = '_' else Text.isWord c
  | .blank => if ascii then c = ' ' || (9 ≤ c.toNat && c.toNat ≤ 13) else Text.isBlank c

namespace Pattern

/-- Small letters that count as the same although neither is the small form of the other. -/
def foldClasses : List (List Nat) :=
  [[105, 305], [115, 383], [181, 956], [837, 953, 8126], [912, 8147], [944, 8163], [946, 976],
    [949, 1013], [952, 977], [954, 1008], [960, 982], [961, 1009], [962, 963], [966, 981],
    [1074, 7296], [1076, 7297], [1086, 7298], [1089, 7299], [1090, 7300, 7301], [1098, 7302],
    [1123, 7303], [7304, 42571], [7777, 7835], [64261, 64262]]

/-- The small form of a code point. -/
def small (ascii : Bool) (code : Nat) : Nat :=
  if ascii then (if 65 ≤ code ∧ code ≤ 90 then code + 32 else code)
  else if code.isValidChar then (Text.lowerSimple (Char.ofNat code)).toNat else code

/-- The small letters that count as the same as a given one. -/
def equivalents (ascii : Bool) (code : Nat) : List Nat :=
  if ascii then [code] else (foldClasses.find? fun cls => cls.contains code).getD [code]

/-- The code points whose small form is the given one. -/
def capitals (ascii : Bool) (code : Nat) : List Nat :=
  let plain := if 97 ≤ code ∧ code ≤ 122 then [code - 32] else []
  let others := if ascii then [] else
    (if code = 105 then [0x130] else []) ++ Text.lowerRuns.runs.toList.filterMap fun run =>
      let distance := code - run.image
      if run.image ≤ code ∧ distance % run.stride = 0 ∧ distance / run.stride < run.count then
        some (run.first + distance)
      else none
  (if small ascii code = code then [code] else []) ++ plain ++ others

/-- The code points that count as the same as a given one when case is ignored. -/
def foldings (ascii : Bool) (code : Nat) : List Nat :=
  (equivalents ascii (small ascii code)).flatMap (capitals ascii)

/-- Whether an element of a class holds one of the candidates, which are a character and what
counts as the same. -/
def itemHolds (ascii : Bool) (candidates : List Nat) (c : Char) : ClassItem → Bool
  | .point code => candidates.contains code
  | .range low high => candidates.any fun code => low ≤ code && code ≤ high
  | .category category negated => category.holds ascii c != negated

/-- The code points that stand for a character under the modes. -/
def candidates (modes : Modes) (c : Char) : List Nat :=
  if modes.ignoreCase then foldings modes.ascii c.toNat else [c.toNat]

/-- Whether a class holds a character under the modes. -/
def classHolds (modes : Modes) (negated : Bool) (items : List ClassItem) (c : Char) : Bool :=
  items.any (itemHolds modes.ascii (candidates modes c) c) != negated

/-- Whether a code point of a pattern matches a character under the modes. -/
def pointMatches (modes : Modes) (code : Nat) (c : Char) : Bool :=
  (candidates modes c).contains code

end Pattern

end PipeTable
