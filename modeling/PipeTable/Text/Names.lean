import PipeTable.Text.NameTable

/-! # Names of characters

Characters can be asked for by name, in any case.  The names of ideographs follow from their code
points; those of other characters stand in a table, which covers common scripts and symbols.
-/

namespace PipeTable.Text

/-- The value of hexadecimal digits. -/
def ofHex? (digits : List Char) : Option Nat :=
  let digit? (c : Char) : Option Nat :=
    if c.isDigit then some (c.toNat - 48)
    else if 'A' ≤ c ∧ c ≤ 'F' then some (c.toNat - 55)
    else none
  if digits.isEmpty then none
  else (digits.mapM digit?).map fun values => values.foldl (fun value d => 16 * value + d) 0

/-- An entry of the table: a code point and a name. -/
def readEntry? (entry : String) : Option (Nat × String) :=
  match entry.toList.span (· != ' ') with
  | (digits, _ :: name) => (ofHex? digits).map fun code => (code, String.ofList name)
  | _ => none

/-- The names and code points of the table. -/
def nameEntries : List (Nat × String) :=
  ((nameTable.replace "\n" "").splitOn "|").filterMap readEntry?

/-- Whether a code point is an ideograph that is named by its number. -/
def isIdeograph (code : Nat) : Bool :=
  (0x3400 ≤ code && code ≤ 0x4DBF) || (0x4E00 ≤ code && code ≤ 0x9FFC) ||
    (0x20000 ≤ code && code ≤ 0x2A6DD) || (0x2A700 ≤ code && code ≤ 0x2B734) ||
    (0x2B740 ≤ code && code ≤ 0x2B81D) || (0x2B820 ≤ code && code ≤ 0x2CEA1) ||
    (0x2CEB0 ≤ code && code ≤ 0x2EBE0) || (0x30000 ≤ code && code ≤ 0x3134A)

/-- The ideograph that a name asks for by number. -/
def ideographNamed? (name : String) : Option Nat :=
  let start := "CJK UNIFIED IDEOGRAPH-"
  if start.toList.isPrefixOf name.toList then
    let digits := name.toList.drop start.length
    match ofHex? digits with
    | some code =>
      if (digits.length = 4 || digits.length = 5) && isIdeograph code then some code else none
    | none => none
  else none

/-- The character with a name. -/
def characterNamed? (name : String) : Option Char :=
  let wanted := name.map Char.toUpper
  let code : Option Nat := match ideographNamed? wanted with
    | some code => some code
    | none => (nameEntries.find? fun entry => entry.2 = wanted).map Prod.fst
  code.map Char.ofNat

end PipeTable.Text
