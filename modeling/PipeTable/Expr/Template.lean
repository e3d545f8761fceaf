import PipeTable.Expr.StringLiteral

/-! # Texts with fields

A text marked with `f` holds expressions in braces.  Expressions with such texts are refused, but
only after they have been read, so the places of the fields and their texts matter.
-/

namespace PipeTable.Expr

/-- Where the scan of a field stands: inside a quoted text or not, and inside which brackets. -/
structure FieldScan where
  quote : Option (Char × Bool) := none
  brackets : List Char := []

/-- The bracket that closes another. -/
def closingBracket? : Char → Option Char
  | '(' => some ')'
  | '[' => some ']'
  | '\x7b' => some '\x7d'
  | _ => none

/-- Whether two characters form a comparison that does not end a field. -/
def isComparison (c d : Char) : Bool := d = '=' && (c = '!' || c = '=' || c = '<' || c = '>')

/-- The text of the expression of a field and what follows it, which starts with the character that
ended it. -/
def scanField? : Nat → FieldScan → List Char → Option (List Char × List Char)
  | 0, _, _ => none
  | _, _, [] => none
  | fuel + 1, scan, c :: cs =>
    let keep (taken : List Char) (s : FieldScan) (rest : List Char) :
        Option (List Char × List Char) :=
      (scanField? fuel s rest).map fun (field, after) => (taken ++ field, after)
    if c = '\\' then none
    else match scan.quote with
      | some (q, triple) =>
        if c = q then
          if triple then
            match cs with
            | d :: e :: rest =>
              if d = q ∧ e = q then keep [c, d, e] { scan with quote := none } rest
              else keep [c] scan cs
            | _ => keep [c] scan cs
          else keep [c] { scan with quote := none } cs
        else keep [c] scan cs
      | none =>
        if c = '\'' || c = '"' then
          match cs with
          | d :: e :: rest =>
            if d = c ∧ e = c then keep [c, d, e] { scan with quote := some (c, true) } rest
            else keep [c] { scan with quote := some (c, false) } cs
          | _ => keep [c] { scan with quote := some (c, false) } cs
        else if c = '#' then none
        else match closingBracket? c with
          | some close => keep [c] { scan with brackets := close :: scan.brackets } cs
          | none =>
            if scan.brackets.isEmpty && (c = '!' || c = ':' || c = '\x7d' || c = '=' || c = '<' ||
                c = '>') then
              match cs with
              | d :: rest =>
                if isComparison c d then keep [c, d] scan rest
                else if c = '<' || c = '>' then keep [c] scan cs
                else some ([], c :: cs)
              | [] => if c = '<' || c = '>' then none else some ([], c :: cs)
            else if c = ')' || c = ']' || c = '\x7d' then
              match scan.brackets with
              | close :: outer =>
                if c = close then keep [c] { scan with brackets := outer } cs else none
              | [] => none
            else keep [c] scan cs

/-- Whether a text holds something other than blanks. -/
def hasContent (cs : List Char) : Bool :=
  cs.any fun c => !(c = ' ' || c = '\t' || c = '\n' || c.toNat = 12)

/-- The literal part of a text up to a single brace, and what follows it.  `nested` tells whether
it is the format of a field, in which braces are never doubled. -/
def scanLiteral? (raw nested : Bool) : Nat → List Char → Option (List Char × List Char)
  | 0, cs => some ([], cs)
  | _, [] => some ([], [])
  | fuel + 1, c :: cs =>
    let keep (taken rest : List Char) : Option (List Char × List Char) :=
      (scanLiteral? raw nested fuel rest).map fun (found, after) => (taken ++ found, after)
    if c = '\\' && !raw then
      match cs with
      | [] => keep [c] []
      | 'N' :: '\x7b' :: more =>
        match more.span (· != '\x7d') with
        | (name, close :: rest) => keep ('\\' :: 'N' :: '\x7b' :: (name ++ [close])) rest
        | (name, []) => keep ('\\' :: 'N' :: '\x7b' :: name) []
      | d :: rest =>
        -- a backslash before a brace stands for itself
        if d = '\x7b' || d = '\x7d' then keep [c, c] (d :: rest) else keep [c, d] rest
    else if c = '\x7b' || c = '\x7d' then
      if nested then some ([], c :: cs)
      else match cs with
        | d :: rest =>
          if d = c then keep [c] rest else if c = '\x7d' then none else some ([], c :: cs)
        | [] => if c = '\x7d' then none else some ([], [c])
    else keep [c] cs

mutual

/-- The expressions in the fields of a text.  A text at `level` two cannot hold fields. -/
def fieldsFrom? (raw : Bool) : Nat → Nat → List Char → Option (List (List Char) × List Char)
  | 0, _, _ => none
  | fuel + 1, level, cs => do
    let (found, after) ← scanLiteral? raw (0 < level) cs.length cs
    let _ ← decodeText? raw found
    match after with
    | [] => return ([], [])
    | c :: rest =>
      if c = '\x7d' then return ([], after)
      else
        let (inner, next) ← fieldFrom? raw fuel level rest
        let (others, last) ← fieldsFrom? raw fuel level next
        return (inner ++ others, last)

/-- The expressions of a field after its opening brace, and what follows its closing one. -/
def fieldFrom? (raw : Bool) : Nat → Nat → List Char → Option (List (List Char) × List Char)
  | 0, _, _ => none
  | fuel + 1, level, cs => do
    if 2 ≤ level then none
    let (expression, after) ← scanField? (cs.length + 1) {} cs
    if !hasContent expression then none
    let shown := match after with
      | '=' :: rest => rest.dropWhile fun c => c = ' ' || (9 ≤ c.toNat && c.toNat ≤ 13)
      | _ => after
    let converted ← match shown with
      | '!' :: c :: rest => if c = 's' || c = 'r' || c = 'a' then some rest else none
      | '!' :: [] => none
      | _ => some shown
    match converted with
    | '\x7d' :: rest => return ([expression], rest)
    | ':' :: rest =>
      let (inner, next) ← fieldsFrom? raw fuel (level + 1) rest
      match next with
      | '\x7d' :: last => return (expression :: inner, last)
      | _ => none
    | _ => none

end

/-- The expressions in the fields of the inside of a literal. -/
def fields? (raw : Bool) (body : List Char) : Option (List (List Char)) :=
  match fieldsFrom? raw (2 * body.length + 4) 0 body with
  | some (found, []) => some found
  | _ => none

end PipeTable.Expr
