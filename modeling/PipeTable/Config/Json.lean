import PipeTable.Number.Reading
import PipeTable.Text.Hex
import PipeTable.Value.Equality

/-! # JSON

Reading a JSON text as a value.  Objects are mappings in which the last of equal keys counts.
Numbers without fraction and exponent are integers; the words for infinities and for what is not a
number are read too.
-/

namespace PipeTable.Config.Json

/-- The characters that may stand between tokens. -/
def isSpace (c : Char) : Bool := c = ' ' || c = '\t' || c = '\n' || c = '\r'

/-- The character that a letter or sign stands for after a backslash. -/
def escaped? : Char → Option Char
  | '"' => some '"'
  | '\\' => some '\\'
  | '/' => some '/'
  | 'b' => some '\x08'
  | 'f' => some '\x0c'
  | 'n' => some '\n'
  | 'r' => some '\r'
  | 't' => some '\t'
  | _ => none

/-- The code points of a string after its opening quote, and what follows its closing quote.  A
character beyond sixteen bits may come as two halves. -/
def readCodes? : List Char → Option (List Nat × List Char)
  | [] => none
  | '"' :: rest => some ([], rest)
  | '\\' :: 'u' :: a :: b :: c :: d :: rest => do
    let (code, _) ← Text.takeHex? 4 0 [a, b, c, d]
    let (codes, rest) ← readCodes? rest
    return (code :: codes, rest)
  | '\\' :: c :: rest => do
    let meant ← escaped? c
    let (codes, rest) ← readCodes? rest
    return (meant.toNat :: codes, rest)
  | c :: rest =>
    if c.toNat < 0x20 then none
    else (readCodes? rest).map fun (codes, rest) => (c.toNat :: codes, rest)

/-- The code points with halves that belong together joined. -/
def joinHalves : List Nat → List Nat
  | high :: low :: rest =>
    if 0xD800 ≤ high ∧ high < 0xDC00 ∧ 0xDC00 ≤ low ∧ low < 0xE000 then
      (0x10000 + (high - 0xD800) * 0x400 + (low - 0xDC00)) :: joinHalves rest
    else high :: joinHalves (low :: rest)
  | codes => codes

/-- The character of a code point; half a character is shown as the replacement character. -/
def character (code : Nat) : Char :=
  if code.isValidChar then Char.ofNat code else '\uFFFD'

/-- A string after its opening quote, and what follows its closing quote. -/
def readString? (cs : List Char) : Option (String × List Char) :=
  (readCodes? cs).map fun (codes, rest) =>
    (String.ofList ((joinHalves codes).map character), rest)

/-- The digits at the start of a text, and what follows them. -/
def takeDigits (cs : List Char) : List Char × List Char :=
  (cs.takeWhile Char.isDigit, cs.dropWhile Char.isDigit)

/-- The digits after a point, if there are any, and what follows them. -/
def takeFraction (cs : List Char) : List Char × List Char :=
  match cs with
  | '.' :: more =>
    let (digits, rest) := takeDigits more
    if digits.isEmpty then ([], cs) else (digits, rest)
  | _ => ([], cs)

/-- The power of ten after the letter for exponents, if there is one, and what follows it. -/
def takeExponent (cs : List Char) : Option Int × List Char :=
  let read (negative : Bool) (more : List Char) : Option Int × List Char :=
    let (digits, rest) := takeDigits more
    if digits.isEmpty then (none, cs)
    else
      let power : Int := Number.digitsValue digits
      (some (if negative then -power else power), rest)
  match cs with
  | letter :: sign :: more =>
    if letter = 'e' ∨ letter = 'E' then
      if sign = '-' then read true more
      else if sign = '+' then read false more
      else read false (sign :: more)
    else (none, cs)
  | _ => (none, cs)

/-- The whole part of a number: a zero alone, or digits that do not start with one. -/
def takeWhole (cs : List Char) : List Char × List Char :=
  match cs with
  | '0' :: rest => (['0'], rest)
  | _ => takeDigits cs

/-- A number without its sign, and what follows it. -/
def readUnsigned? (negative : Bool) (cs : List Char) : Option (Value × List Char) :=
  let (whole, afterWhole) := takeWhole cs
  let (fraction, afterFraction) := takeFraction afterWhole
  let (power, rest) := takeExponent afterFraction
  if whole.isEmpty then none
  else if fraction.isEmpty && power.isNone then
    if whole.length ≤ Text.maxIntegerDigits then
      let size : Int := Number.digitsValue whole
      some (.int (if negative then -size else size), rest)
    else none
  else
    some (.float (Number.ofDecimal negative (Number.digitsValue (whole ++ fraction))
      (power.getD 0 - (fraction.length : Int))), rest)

/-- A number, and what follows it. -/
def readNumber? (cs : List Char) : Option (Value × List Char) :=
  match cs with
  | '-' :: rest => readUnsigned? true rest
  | _ => readUnsigned? false cs

/-- The words that stand for values. -/
def wordValues : List (String × Value) :=
  [("null", .none), ("true", .bool true), ("false", .bool false), ("NaN", .float Number.nan),
    ("Infinity", .float Number.infinity), ("-Infinity", .float (-Number.infinity))]

/-- The value of a word at the start of a text, and what follows it. -/
def readWord? (cs : List Char) : Option (Value × List Char) :=
  wordValues.findSome? fun (word, v) =>
    if word.toList.isPrefixOf cs then some (v, cs.drop word.length) else none

mutual

/-- A value, and what follows it.  Every second call takes a character. -/
def readValue? : Nat → List Char → Option (Value × List Char)
  | 0, _ => none
  | fuel + 1, cs =>
    match cs.dropWhile isSpace with
    | '"' :: rest => (readString? rest).map fun (s, rest) => (.text s, rest)
    | '[' :: rest =>
      match rest.dropWhile isSpace with
      | ']' :: after => some (.list [], after)
      | _ => (readItems? fuel rest).map fun (items, after) => (.list items, after)
    | '\x7b' :: rest =>
      match rest.dropWhile isSpace with
      | '\x7d' :: after => some (.dict [], after)
      | _ => (readMembers? fuel [] rest).map fun (entries, after) => (.dict entries, after)
    | other => (readWord? other).or (readNumber? other)

/-- The items of a list up to its closing bracket, and what follows that. -/
def readItems? : Nat → List Char → Option (List Value × List Char)
  | 0, _ => none
  | fuel + 1, cs => do
    let (v, rest) ← readValue? fuel cs
    match rest.dropWhile isSpace with
    | ',' :: more =>
      let (items, after) ← readItems? fuel more
      return (v :: items, after)
    | ']' :: after => return ([v], after)
    | _ => none

/-- The members of an object up to its closing brace put to those before them, and what follows
it. -/
def readMembers? : Nat → List (Value × Value) → List Char →
    Option (List (Value × Value) × List Char)
  | 0, _, _ => none
  | fuel + 1, entries, cs =>
    match cs.dropWhile isSpace with
    | '"' :: quoted => do
      let (key, afterKey) ← readString? quoted
      match afterKey.dropWhile isSpace with
      | ':' :: more =>
        let (v, rest) ← readValue? fuel more
        let extended := Value.putEntry entries (.text key) v
        match rest.dropWhile isSpace with
        | ',' :: next => readMembers? fuel extended next
        | '\x7d' :: after => return (extended, after)
        | _ => none
      | _ => none
    | _ => none

end

/-- The value that a whole text spells. -/
def read? (text : String) : Option Value :=
  let cs := text.toList
  match readValue? (2 * cs.length + 2) cs with
  | some (v, rest) => if rest.all isSpace then some v else none
  | none => none

end PipeTable.Config.Json
