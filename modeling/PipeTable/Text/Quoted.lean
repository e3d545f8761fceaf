import PipeTable.Text.Hex
import PipeTable.Text.Printable

/-! # Quoted text

A text in quotes shows printable characters as themselves and escapes the rest.  The quote is a
single one unless the text holds single quotes and no double one.
-/

namespace PipeTable.Text

/-- The quote to put around the characters. -/
def quoteFor (cs : List Char) : Char :=
  if cs.contains '\'' && !cs.contains '"' then '"' else '\''

/-- The escape of a character by its number. -/
def escapeNumber (c : Char) : List Char :=
  if c.toNat < 0x100 then '\\' :: 'x' :: hexDigits 2 c.toNat
  else if c.toNat < 0x10000 then '\\' :: 'u' :: hexDigits 4 c.toNat
  else '\\' :: 'U' :: hexDigits 8 c.toNat

/-- The character as it stands inside a quoted text. -/
def escapeChar (mark c : Char) : List Char :=
  if c = mark || c = '\\' then ['\\', c]
  else if c = '\n' then ['\\', 'n']
  else if c = '\r' then ['\\', 'r']
  else if c = '\t' then ['\\', 't']
  else if isPrintable c then [c]
  else escapeNumber c

/-- A text with all characters beyond ASCII escaped. -/
def escapeWide (cs : List Char) : List Char :=
  cs.flatMap fun c => if c.toNat < 0x80 then [c] else escapeNumber c

/-- The characters in quotes. -/
def quoteChars (cs : List Char) : List Char :=
  let mark := quoteFor cs
  mark :: (cs.flatMap (escapeChar mark) ++ [mark])

/-- The text in quotes. -/
def quote (s : String) : String := String.ofList (quoteChars s.toList)

/-- The byte as it stands inside quoted bytes. -/
def escapeByte (mark : Char) (b : UInt8) : List Char :=
  let c := Char.ofNat b.toNat
  if c = mark || c = '\\' then ['\\', c]
  else if c = '\n' then ['\\', 'n']
  else if c = '\r' then ['\\', 'r']
  else if c = '\t' then ['\\', 't']
  else if 0x20 ≤ b && b < 0x7f then [c]
  else '\\' :: 'x' :: hexDigits 2 b.toNat

/-- Bytes in quotes, marked as such by the letter before them. -/
def quoteBytes (bytes : List UInt8) : String :=
  let mark := quoteFor (bytes.map fun b => Char.ofNat b.toNat)
  String.ofList ('b' :: mark :: (bytes.flatMap (escapeByte mark) ++ [mark]))

end PipeTable.Text
