import PipeTable.Number.Fixed
import PipeTable.Number.Reading
import PipeTable.Value.Arithmetic
import PipeTable.Value.Convert
import PipeTable.Value.Printer
import PipeTable.Value.Sequence

/-! # Texts with placeholders

A placeholder is a percent sign, optionally a key in parentheses, flags, a width, a precision and
a letter that says how a value is written.  Values are taken in order from a tuple, by key from a
mapping, or the value as a whole is the only one.
-/

namespace PipeTable.Value

/-- How a placeholder is to be filled, apart from its letter. -/
structure Directive where
  leftJustified : Bool := false
  plus : Bool := false
  blank : Bool := false
  alternate : Bool := false
  zeros : Bool := false
  width : Option Nat := Option.none
  precision : Option Nat := Option.none

/-- What values are still there to be taken. -/
structure Supply where
  values : List Value
  /-- Whether values left over do no harm. -/
  mapping : Option Value

/-- A computation that takes values. -/
abbrev Fill := StateT Supply (Except Fault)

namespace Fill

/-- Takes the next value. -/
def take : Fill Value := do
  let supply ← get
  match supply.values with
  | v :: vs =>
    modify fun _ => { supply with values := vs }
    return v
  | [] => throw .mismatch

/-- Takes the next value, which has to be an integer. -/
def takeInteger : Fill Int := do
  match (← take).integer? with
  | some n => return n
  | Option.none => throw .mismatch

end Fill

/-! ## Reading placeholders -/

/-- Splits at the parenthesis that closes the one before. -/
def splitKey? : Nat → List Char → Option (List Char × List Char)
  | _, [] => Option.none
  | 0, ')' :: cs => some ([], cs)
  | depth, c :: cs =>
    let inner := if c = '(' then depth + 1 else if c = ')' then depth - 1 else depth
    (splitKey? inner cs).map fun (key, rest) => (c :: key, rest)

/-- Replaces the supply by the value that the mapping has for a key. -/
def chooseKey (isBytes : Bool) (cs : List Char) : Fill (List Char) := do
  match cs with
  | '(' :: more =>
    match (← get).mapping with
    | Option.none => throw .mismatch
    | some mapping =>
      match splitKey? 0 more with
      | Option.none => throw .badValue
      | some (key, rest) =>
        let v ← item mapping
          (if isBytes then .bytes (key.map fun c => UInt8.ofNat c.toNat)
            else .text (String.ofList key))
        modify fun _ => { values := [v], mapping := some mapping }
        return rest
  | _ => return cs

/-- Reads flags. -/
def readFlags (d : Directive) : List Char → Directive × List Char
  | '-' :: cs => readFlags { d with leftJustified := true } cs
  | '+' :: cs => readFlags { d with plus := true } cs
  | ' ' :: cs => readFlags { d with blank := true } cs
  | '#' :: cs => readFlags { d with alternate := true } cs
  | '0' :: cs => readFlags { d with zeros := true } cs
  | cs => (d, cs)

/-- Reads a run of digits. -/
def readCount (most : Int) (cs : List Char) : Except Fault (Nat × List Char) :=
  let n := Number.digitsValue (cs.takeWhile Char.isDigit)
  if most < n then .error .badValue else .ok (n, cs.dropWhile Char.isDigit)

/-- Reads a width: digits, or a star for a value. -/
def readWidth (d : Directive) (cs : List Char) : Fill (Directive × List Char) := do
  match cs with
  | '*' :: rest =>
    let n ← Fill.takeInteger
    if n < -maxIndex - 1 || maxIndex < n then throw .overflow
    return ({ d with width := some n.natAbs, leftJustified := d.leftJustified || n < 0 }, rest)
  | c :: _ =>
    if c.isDigit then
      let (n, rest) ← readCount maxIndex cs
      return ({ d with width := some n }, rest)
    else return (d, cs)
  | [] => return (d, cs)

/-- The greatest precision. -/
def maxPrecision : Int := Nat.pow 2 31 - 1

/-- Reads a precision after its point: digits, nothing, or a star for a value. -/
def readPrecision (d : Directive) (cs : List Char) : Fill (Directive × List Char) := do
  match cs with
  | '.' :: '*' :: rest =>
    let n ← Fill.takeInteger
    if n < -maxPrecision - 1 || maxPrecision < n then throw .overflow
    return ({ d with precision := some n.toNat }, rest)
  | '.' :: rest =>
    let (n, after) ← readCount maxPrecision rest
    return ({ d with precision := some n }, after)
  | _ => return (d, cs)

/-- Passes over a letter for the size of a number. -/
def skipSize : List Char → List Char
  | c :: cs => if c = 'h' || c = 'l' || c = 'L' then cs else c :: cs
  | [] => []

/-! ## Writing values -/

/-- The text of an integer in a base, with the base's sign and its digits apart. -/
def integerDigits (base : Nat) (n : Int) : List Char := Nat.toDigits base n.natAbs

/-- An integer as a letter asks for it: its sign, the mark of its base, and its digits. -/
def writeInteger (letter : Char) (d : Directive) (n : Int) : List Char × List Char × List Char :=
  let (base, mark) : Nat × List Char :=
    if letter = 'o' then (8, ['0', 'o'])
    else if letter = 'x' then (16, ['0', 'x'])
    else if letter = 'X' then (16, ['0', 'X'])
    else (10, [])
  let digits := integerDigits base n
  let cased := if letter = 'X' then digits.map Char.toUpper else digits
  let padded := List.replicate (d.precision.getD 0 - cased.length) '0' ++ cased
  (if n < 0 then ['-'] else [], if d.alternate then mark else [], padded)

/-- The integer that a value is written as.  In decimal it must not have too many digits. -/
def integerFor (letter : Char) (v : Value) : Except Fault Int :=
  match v with
  | .int n =>
    if letter = 'o' || letter = 'x' || letter = 'X' || Text.isWritable n then .ok n
    else .error .badValue
  | .bool b => .ok (if b then 1 else 0)
  | .float _ =>
    if letter = 'o' || letter = 'x' || letter = 'X' then .error .mismatch else v.toInteger
  | _ => .error .mismatch

/-- The double that a value is written as.  Among bytes a number beyond all doubles is none. -/
def realFor (isBytes : Bool) (v : Value) : Except Fault Float :=
  match numeric? v with
  | some x => if isBytes then x.toReal.mapError fun _ => .mismatch else x.toReal
  | Option.none => .error .mismatch

/-- A double as a letter asks for it: its sign and its digits. -/
def writeReal (letter : Char) (d : Directive) (x : Float) : List Char × List Char :=
  let layout : Number.Layout :=
    if letter.toLower = 'e' then .scientific else if letter.toLower = 'f' then .fixed else .general
  let cs := Number.writeAs layout (d.precision.getD 6) d.alternate x
  let cased := if letter.isUpper then cs.map Char.toUpper else cs
  match cased with
  | '-' :: digits => (['-'], digits)
  | digits => ([], digits)

/-- A sign, a mark and digits brought to the width of a placeholder. -/
def justifyNumber (d : Directive) (sign mark digits : List Char) : List Char :=
  let shown :=
    if !sign.isEmpty then sign else if d.plus then ['+'] else if d.blank then [' '] else []
  let missing := d.width.getD 0 - (shown.length + mark.length + digits.length)
  if d.leftJustified then shown ++ mark ++ digits ++ List.replicate missing ' '
  else if d.zeros then shown ++ mark ++ List.replicate missing '0' ++ digits
  else List.replicate missing ' ' ++ shown ++ mark ++ digits

/-- A text brought to the width of a placeholder. -/
def justifyText (d : Directive) (cs : List Char) : List Char :=
  let missing := d.width.getD 0 - cs.length
  if d.leftJustified then cs ++ List.replicate missing ' ' else List.replicate missing ' ' ++ cs

/-- The characters that bytes stand for one by one. -/
def byteChars (data : List UInt8) : List Char := data.map fun b => Char.ofNat b.toNat

/-- The single character that a value is written as. -/
def characterFor (isBytes : Bool) (v : Value) : Except Fault Char :=
  let ofNumber : Except Fault Char :=
    match v.integer? with
    | some n =>
      if n < 0 || (if isBytes then 255 else 0x10FFFF) < n then .error .overflow
      else .ok (Char.ofNat n.toNat)
    | Option.none => .error .mismatch
  match v with
  | .text s => match isBytes, s.toList with
    | false, [c] => .ok c
    | _, _ => .error .mismatch
  | .bytes data => match isBytes, data with
    | true, [b] => .ok (Char.ofNat b.toNat)
    | _, _ => .error .mismatch
  | _ => ofNumber

/-- The text that a value is written as by the letters for texts. -/
def textFor (isBytes : Bool) (letter : Char) (v : Value) : Except Fault (List Char) :=
  if !v.isWritable && (!isBytes || letter = 'a' || letter = 'r') then .error .badValue
  else if letter = 'a' || (isBytes && letter = 'r') then .ok (Text.escapeWide v.literal.toList)
  else if letter = 'r' then .ok v.literal.toList
  else if isBytes then
    match v with
    | .bytes data => .ok (byteChars data)
    | _ => .error .mismatch
  else .ok v.toText.toList

/-- What a placeholder becomes. -/
def fillWith (isBytes : Bool) (letter : Char) (d : Directive) (v : Value) :
    Except Fault (List Char) := do
  if letter = 's' || letter = 'r' || letter = 'a' || (isBytes && letter = 'b') then
    let cs ← textFor isBytes letter v
    return justifyText d (match d.precision with
      | some most => cs.take most
      | Option.none => cs)
  else if ['d', 'i', 'u', 'o', 'x', 'X'].contains letter then
    let (sign, mark, digits) := writeInteger letter d (← integerFor letter v)
    return justifyNumber d sign mark digits
  else if ['e', 'E', 'f', 'F', 'g', 'G'].contains letter then
    let (sign, digits) := writeReal letter d (← realFor isBytes v)
    return justifyNumber d sign [] digits
  else if letter = 'c' then
    return justifyText d [← characterFor isBytes v]
  else throw .badValue

/-- Fills the placeholder after a percent sign; a second percent sign stands for itself. -/
def fillOne (isBytes : Bool) (cs : List Char) : Fill (List Char × List Char) := do
  match cs with
  | '%' :: rest => return (['%'], rest)
  | _ =>
    let afterKey ← chooseKey isBytes cs
    let (flagged, afterFlags) := readFlags {} afterKey
    let (wide, afterWidth) ← readWidth flagged afterFlags
    let (d, afterPrecision) ← readPrecision wide afterWidth
    match skipSize afterPrecision with
    | [] => throw .badValue
    | letter :: rest =>
      let v ← Fill.take
      return (← fillWith isBytes letter d v, rest)

/-- Fills all placeholders.  Each step takes a character at least, so the length is fuel enough. -/
def fillAll (isBytes : Bool) : Nat → List Char → Fill (List Char)
  | 0, _ => return []
  | _, [] => return []
  | fuel + 1, '%' :: cs => do
    let (filled, rest) ← fillOne isBytes cs
    return filled ++ (← fillAll isBytes fuel rest)
  | fuel + 1, c :: cs => do return c :: (← fillAll isBytes fuel cs)

/-- The values that an argument supplies. -/
def supplyOf (argument : Value) : Supply :=
  match argument with
  | .tuple items => ⟨items, Option.none⟩
  | .list _ | .dict _ => ⟨[argument], some argument⟩
  | _ => ⟨[argument], Option.none⟩

/-- Fills a template with the values of an argument, all of which have to be used. -/
def fillTemplate (isBytes : Bool) (template : List Char) (supply : Supply) :
    Except Fault (List Char) := do
  let (cs, left) ← (fillAll isBytes template.length template).run supply
  if !left.values.isEmpty && left.mapping.isNone then .error .mismatch
  return cs

/-- The remainder of numbers, or a template on the left filled with the value on the right. -/
def modulo (a b : Value) : Except Fault Value :=
  match a with
  | .text template =>
    let supply := match b with
      | .bytes _ => { supplyOf b with mapping := some b }
      | _ => supplyOf b
    (fillTemplate false template.toList supply).map fun cs => .text (String.ofList cs)
  | .bytes template => (fillTemplate true (byteChars template) (supplyOf b)).map fun cs =>
      .bytes (cs.map fun c => UInt8.ofNat c.toNat)
  | _ => remainder a b

end PipeTable.Value
