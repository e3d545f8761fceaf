import PipeTable.Expr.Template
import PipeTable.Number.Reading
import PipeTable.Text.Compatibility
import PipeTable.Text.Hex
import PipeTable.Text.Identifier
import PipeTable.Value.Basic

/-! # Tokens of expressions

An expression is one logical line: line breaks count only outside brackets, and after the line only
comments may follow.  Every token knows where it stands in the source.
-/

namespace PipeTable.Expr

/-- What a token says. -/
inductive Lexeme where
  | name (id : String)
  | keyword (word : String)
  | number (v : Value)
  | text (s : String)
  | bytes (data : List UInt8)
  /-- A text with fields that hold the given expressions. -/
  | template (fields : List (List Char))
  | mark (symbol : String)

/-- A lexeme and the stretch of the source that it fills. -/
structure Token where
  lexeme : Lexeme
  start : Nat
  stop : Nat

/-- The words that cannot be names. -/
def keywords : List String :=
  ["False", "None", "True", "and", "as", "assert", "async", "await", "break", "class", "continue",
    "def", "del", "elif", "else", "except", "finally", "for", "from", "global", "if", "import",
    "in", "is", "lambda", "nonlocal", "not", "or", "pass", "raise", "return", "try", "while",
    "with", "yield"]

/-- The marks, longest first. -/
def marks : List String :=
  ["**=", "//=", "<<=", ">>=", "...", "!=", "%=", "&=", "**", "*=", "+=", "-=", "->", "//", "/=",
    ":=", "<<", "<=", "==", ">=", ">>", "@=", "^=", "|=", "<>", "%", "&", "(", ")", "*", "+", ",",
    "-", ".", "/", ":", ";", "<", "=", ">", "@", "[", "]", "^", "\x7b", "|", "\x7d", "~"]

/-- Whether a character can stand in a word before the word is looked at as a whole. -/
def isWordChar (c : Char) : Bool := c.isAlphanum || c = '_' || 0x80 ≤ c.val

/-- A run of digits of a base with single underscores between them, and what follows it. -/
def digitRun? (isDigit : Char → Bool) : Nat → List Char → Option (List Char × List Char)
  | 0, _ => none
  | fuel + 1, cs =>
    let digits := cs.takeWhile isDigit
    if digits.isEmpty then none
    else match cs.dropWhile isDigit with
      | '_' :: rest =>
        (digitRun? isDigit fuel rest).map fun (more, after) => (digits ++ more, after)
      | rest => some (digits, rest)

/-- Whether a word may follow a number without a blank, and then starts with one of these. -/
def mayFollowNumber (cs : List Char) : Bool :=
  match cs with
  | c :: _ =>
    !isWordChar c || ["and", "else", "for", "if", "in", "is", "or", "not"].any fun word =>
      word.toList.isPrefixOf cs
  | [] => true

/-- A number in a base other than ten, after its prefix. -/
def baseNumber? (base : Nat) (isDigit : Char → Bool) (cs : List Char) :
    Option (Value × List Char) := do
  let body := match cs with
    | '_' :: rest => rest
    | _ => cs
  let (digits, rest) ← digitRun? isDigit (body.length + 1) body
  match rest with
  | c :: _ => if c.isDigit then none
  | [] => pure ()
  if mayFollowNumber rest then
    let value := digits.foldl (fun value c => base * value + (Text.hexValue? c).getD 0) 0
    return (.int value, rest)
  else none

/-- The exponent at a place, as a power of ten, and what follows it.  None if there is no exponent
there. -/
def exponent? (cs : List Char) : Option (Option (Int × List Char)) :=
  match cs with
  | c :: rest =>
    if c = 'e' || c = 'E' then
      match rest with
      | '+' :: more => (digitRun? Char.isDigit (more.length + 1) more).map fun (ds, after) =>
        some ((Number.digitsValue ds : Int), after)
      | '-' :: more => (digitRun? Char.isDigit (more.length + 1) more).map fun (ds, after) =>
        some (-(Number.digitsValue ds : Int), after)
      | d :: _ =>
        if d.isDigit then (digitRun? Char.isDigit (rest.length + 1) rest).map fun (ds, after) =>
          some ((Number.digitsValue ds : Int), after)
        else some none
      | [] => some none
    else some none
  | [] => some none

/-- The end of a number whose digits are known: an imaginary one, a float or an integer. -/
def numberEnd? (whole fraction : List Char) (isFloat : Bool) (cs : List Char) :
    Option (Value × List Char) := do
  let (power, isFloat, rest) ← match ← exponent? cs with
    | some (power, rest) => pure (power, true, rest)
    | none => pure (0, isFloat, cs)
  let value := Number.ofDecimal false (Number.digitsValue (whole ++ fraction))
    (power - (fraction.length : Int))
  let imaginary? := match rest with
    | 'j' :: after | 'J' :: after => some after
    | _ => none
  match imaginary? with
  | some after => if mayFollowNumber after then return (.complex 0.0 value, after) else none
  | none =>
    if !mayFollowNumber rest then none
    else if isFloat then return (.float value, rest)
    else if whole.length > Text.maxIntegerDigits then none
    else if whole.head? = some '0' && whole.any (· != '0') then none
    else return (.int (Number.digitsValue whole), rest)

/-- The fraction after a point: digits or nothing. -/
def fraction? (cs : List Char) : Option (List Char × List Char) :=
  match cs with
  | c :: _ => if c.isDigit then digitRun? Char.isDigit (cs.length + 1) cs else some ([], cs)
  | [] => some ([], [])

/-- A number at a place that starts with a digit, or with a point and a digit. -/
def readNumber? (cs : List Char) : Option (Value × List Char) :=
  match cs with
  | '.' :: rest => do
    let (fraction, after) ← fraction? rest
    numberEnd? [] fraction true after
  | '0' :: c :: rest =>
    if c = 'x' || c = 'X' then baseNumber? 16 (fun d => (Text.hexValue? d).isSome) rest
    else if c = 'o' || c = 'O' then baseNumber? 8 (fun d => '0' ≤ d && d ≤ '7') rest
    else if c = 'b' || c = 'B' then baseNumber? 2 (fun d => d = '0' || d = '1') rest
    else decimal? cs
  | _ => decimal? cs
where
  /-- A number that starts with decimal digits. -/
  decimal? (cs : List Char) : Option (Value × List Char) := do
    let (whole, rest) ← digitRun? Char.isDigit (cs.length + 1) cs
    match rest with
    | '.' :: more =>
      let (fraction, after) ← fraction? more
      numberEnd? whole fraction true after
    | _ => numberEnd? whole [] false rest

/-- The kinds of a quoted literal, as its prefix says. -/
structure QuoteKind where
  isBytes : Bool := false
  raw : Bool := false
  template : Bool := false

/-- The kind that a prefix stands for. -/
def quoteKind? (letters : List Char) : Option QuoteKind :=
  match letters.map Char.toLower with
  | [] | ['u'] => some {}
  | ['b'] => some { isBytes := true }
  | ['r'] => some { raw := true }
  | ['f'] => some { template := true }
  | ['b', 'r'] | ['r', 'b'] => some { isBytes := true, raw := true }
  | ['f', 'r'] | ['r', 'f'] => some { template := true, raw := true }
  | _ => none

/-- The inside of a literal up to its closing quote, and what follows it.  Without three quotes a
line break has to be escaped. -/
def quotedBody? (quote : Char) (triple : Bool) : List Char → Option (List Char × List Char)
  | [] => none
  | '\\' :: c :: cs =>
    (quotedBody? quote triple cs).map fun (body, after) => ('\\' :: c :: body, after)
  | c :: cs =>
    if c = quote then
      if !triple then some ([], cs)
      else match cs with
        | d :: e :: rest =>
          if d = quote ∧ e = quote then some ([], rest)
          else (quotedBody? quote triple cs).map fun (body, after) => (c :: body, after)
        | _ => none
    else if c = '\n' && !triple then none
    else (quotedBody? quote triple cs).map fun (body, after) => (c :: body, after)

/-- The lexeme of a literal with a known kind and inside. -/
def quotedLexeme? (kind : QuoteKind) (body : List Char) : Option Lexeme :=
  if kind.template then (fields? kind.raw body).map Lexeme.template
  else if kind.isBytes then (decodeBytes? kind.raw body).map Lexeme.bytes
  else (decodeText? kind.raw body).map Lexeme.text

/-- A literal at its opening quote. -/
def readQuoted? (kind : QuoteKind) (cs : List Char) : Option (Lexeme × List Char) :=
  match cs with
  | q :: rest => do
    let (triple, inside) := match rest with
      | d :: e :: more => if d = q ∧ e = q then (true, more) else (false, rest)
      | _ => (false, rest)
    let (body, after) ← quotedBody? q triple inside
    return (← quotedLexeme? kind body, after)
  | [] => none

/-- A word: a keyword, a name, or the prefix of a literal. -/
def readWord? (cs : List Char) : Option (Lexeme × List Char) :=
  let word := cs.takeWhile isWordChar
  let rest := cs.dropWhile isWordChar
  let quoted := match rest with
    | c :: _ => if c = '\'' || c = '"' then quoteKind? word else none
    | [] => none
  match quoted with
  | some kind => readQuoted? kind rest
  | none =>
    let s := String.ofList word
    if keywords.contains s then some (.keyword s, rest)
    else if word.all (fun c => c.val < 0x80) || Text.isIdentifier word then
      some (.name (Text.compatibilityForm s), rest)
    else none

/-- A mark at a place. -/
def readMark? (cs : List Char) : Option (Lexeme × List Char) :=
  (marks.find? fun m => m.toList.isPrefixOf cs).map fun m => (.mark m, cs.drop m.length)

/-- The lexeme at a place that starts none of blanks, comments and line breaks. -/
def readLexeme? (cs : List Char) : Option (Lexeme × List Char) :=
  let starts (c : Char) (rest : List Char) : Option (Lexeme × List Char) :=
    if c.isDigit || (c = '.' && (rest.head?.any Char.isDigit)) then
      (readNumber? cs).map fun (v, after) => (.number v, after)
    else if isWordChar c then readWord? cs
    else if c = '\'' || c = '"' then readQuoted? {} cs
    else readMark? cs
  match cs with
  | c :: rest => starts c rest
  | [] => none

/-- Whether a character is passed over between tokens. -/
def isTokenBlank (c : Char) : Bool := c = ' ' || c = '\t' || c.toNat = 12

/-- The stack of open brackets after a lexeme; none if it closes what is not open. -/
def trackBrackets? (brackets : List String) : Lexeme → Option (List String)
  | .mark "(" => some (")" :: brackets)
  | .mark "[" => some ("]" :: brackets)
  | .mark "\x7b" => some ("\x7d" :: brackets)
  | .mark m =>
    if m = ")" || m = "]" || m = "\x7d" then
      match brackets with
      | close :: outer => if m = close then some outer else none
      | [] => none
    else some brackets
  | _ => some brackets

/-- The greatest depth of brackets. -/
def maxBrackets : Nat := 200

/-- The tokens from a place on.  `ended` tells that the logical line is over, so that nothing but
comments may follow.  `size` is the length of the whole source. -/
def tokensFrom? (size : Nat) : Nat → List String → Bool → List Char → Option (List Token)
  | 0, _, _, _ => none
  | _, brackets, _, [] => if brackets.isEmpty then some [] else none
  | fuel + 1, brackets, ended, c :: cs =>
    if isTokenBlank c then tokensFrom? size fuel brackets ended cs
    else if c = '#' then tokensFrom? size fuel brackets ended (cs.dropWhile (· != '\n'))
    else if c = '\n' then tokensFrom? size fuel brackets (ended || brackets.isEmpty) cs
    else if ended then none
    else if c = '\\' then
      match cs with
      | '\n' :: rest => if rest.isEmpty then none else tokensFrom? size fuel brackets ended rest
      | _ => none
    else do
      let (lexeme, rest) ← readLexeme? (c :: cs)
      let inside ← trackBrackets? brackets lexeme
      if maxBrackets < inside.length then none
      let more ← tokensFrom? size fuel inside ended rest
      return ⟨lexeme, size - (cs.length + 1), size - rest.length⟩ :: more

/-- Skips comment lines and line breaks before the logical line; none if that line is indented. -/
def skipLeading? : Nat → List Char → Option (List Char)
  | 0, cs => some cs
  | fuel + 1, cs =>
    let body := cs.dropWhile isTokenBlank
    match body with
    | '#' :: _ => skipLeading? fuel (body.dropWhile (· != '\n'))
    | '\n' :: rest => skipLeading? fuel rest
    | _ => if body.length = cs.length then skipContinued? fuel cs else none
where
  /-- Skips escaped line breaks at the start of the logical line. -/
  skipContinued? : Nat → List Char → Option (List Char)
    | fuel + 1, '\\' :: '\n' :: rest =>
      match rest with
      | c :: _ => if isTokenBlank c then none else skipContinued? fuel rest
      | [] => none
    | _, cs => some cs

/-- The tokens of a source whose line breaks are line feeds. -/
def tokens? (source : List Char) : Option (List Token) := do
  let body ← skipLeading? (source.length + 1) source
  tokensFrom? source.length (source.length + 1) [] false body

end PipeTable.Expr
