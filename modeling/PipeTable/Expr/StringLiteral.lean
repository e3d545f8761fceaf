import PipeTable.Text.Hex
import PipeTable.Text.Names

/-! # Escapes in quoted literals

What a backslash and the characters after it stand for, in texts and in bytes.  An unknown escape
stands for itself, backslash included.
-/

namespace PipeTable.Expr

/-- The value of up to `count` octal digits, and what follows them. -/
def takeOctal : Nat → Nat → List Char → Nat × List Char
  | count + 1, value, c :: cs =>
    if '0' ≤ c ∧ c ≤ '7' then takeOctal count (8 * value + (c.toNat - 48)) cs else (value, c :: cs)
  | _, value, cs => (value, cs)

/-- The character that a letter or sign stands for after a backslash. -/
def simpleEscape? : Char → Option Nat
  | '\\' => some 92
  | '\'' => some 39
  | '"' => some 34
  | 'a' => some 7
  | 'b' => some 8
  | 'f' => some 12
  | 'n' => some 10
  | 'r' => some 13
  | 't' => some 9
  | 'v' => some 11
  | _ => none

/-- The character named in braces, and what follows them. -/
def takeNamed? (cs : List Char) : Option (Nat × List Char) :=
  match cs with
  | '\x7b' :: more =>
    match more.span (· != '\x7d') with
    | (name, _ :: rest) => (Text.characterNamed? (String.ofList name)).map fun c => (c.toNat, rest)
    | _ => none
  | _ => none

/-- What an escape stands for, given the characters after its backslash, and what follows it.
None if it is malformed. -/
def readEscape? (isText : Bool) : List Char → Option (List Nat × List Char)
  | [] => none
  | c :: cs =>
    let single (r : Option (Nat × List Char)) : Option (List Nat × List Char) :=
      r.map fun (code, rest) => ([code], rest)
    if c = '\n' then some ([], cs)
    else match simpleEscape? c with
      | some code => some ([code], cs)
      | none =>
        if '0' ≤ c ∧ c ≤ '7' then
          let (code, rest) := takeOctal 3 0 (c :: cs)
          some ([code], rest)
        else if c = 'x' then single (Text.takeHex? 2 0 cs)
        else if isText && c = 'u' then single (Text.takeHex? 4 0 cs)
        else if isText && c = 'U' then
          match Text.takeHex? 8 0 cs with
          | some (code, rest) => if code ≤ 0x10FFFF then some ([code], rest) else none
          | none => none
        else if isText && c = 'N' then single (takeNamed? cs)
        else some ([92, c.toNat], cs)

/-- The code points that the inside of a literal stands for.  Every step takes a character, so its
length is fuel enough. -/
def unescape? (isText : Bool) : Nat → List Char → Option (List Nat)
  | 0, _ => some []
  | _, [] => some []
  | fuel + 1, '\\' :: cs =>
    match readEscape? isText cs with
    | some (codes, rest) => (unescape? isText fuel rest).map (codes ++ ·)
    | none => none
  | fuel + 1, c :: cs => (unescape? isText fuel cs).map (c.toNat :: ·)

/-- The code points of the inside of a literal, whose escapes count unless it is raw. -/
def decode? (isText raw : Bool) (body : List Char) : Option (List Nat) :=
  if raw then some (body.map Char.toNat) else unescape? isText body.length body

/-- The text that the inside of a literal stands for. -/
def decodeText? (raw : Bool) (body : List Char) : Option String :=
  (decode? true raw body).map fun codes => String.ofList (codes.map Char.ofNat)

/-- The bytes that the inside of a literal stands for; it has to be ASCII. -/
def decodeBytes? (raw : Bool) (body : List Char) : Option (List UInt8) :=
  if body.all fun c => c.val < 0x80 then
    (decode? false raw body).map fun codes => codes.map fun code => UInt8.ofNat (code % 256)
  else none

end PipeTable.Expr
