import PipeTable.Expr.Lexer
import PipeTable.Expr.Term

/-! # Reading expressions

The grammar is read by recursive descent over tokens.  Each rule is a function of the reader for the
expressions nested in it, and the knot is tied once, over the depth of nesting.
-/

namespace PipeTable.Expr

/-- What is still to be read, and where the last token read ends. -/
structure Rest where
  tokens : List Token
  last : Nat

/-- A rule of the grammar. -/
abbrev Rule := StateT Rest Option

/-- How nested expressions are read. -/
structure Nested where
  expression : Rule Term
  /-- Whether the text of a field holds an expression. -/
  isField : List Char → Bool

namespace Rule

/-- No rule applies. -/
def fail {α : Type} : Rule α := fun _ => none

/-- The number of tokens that are left. -/
def size : Rule Nat := do return (← get).tokens.length

/-- Where the next token starts. -/
def here : Rule Nat := do
  match (← get).tokens with
  | t :: _ => return t.start
  | [] => return (← get).last

/-- The stretch from a start to the end of the last token. -/
def stretchFrom (start : Nat) : Rule Stretch := do return ⟨start, (← get).last⟩

/-- The next lexeme, left in place. -/
def peek : Rule (Option Lexeme) := do return (← get).tokens.head?.map Token.lexeme

/-- The lexeme after the next one, left in place. -/
def peekSecond : Rule (Option Lexeme) := do return (← get).tokens[1]?.map Token.lexeme

/-- Takes the next token. -/
def skip : Rule Unit := do
  match (← get).tokens with
  | t :: ts => set (Rest.mk ts t.stop)
  | [] => fail

/-- Whether a lexeme is the given mark. -/
def isMark (symbol : String) : Option Lexeme → Bool
  | some (.mark s) => s = symbol
  | _ => false

/-- Whether a lexeme is the given keyword. -/
def isKeyword (word : String) : Option Lexeme → Bool
  | some (.keyword w) => w = word
  | _ => false

/-- Whether a lexeme is a name. -/
def isName : Option Lexeme → Bool
  | some (.name _) => true
  | _ => false

/-- Takes a mark if it comes next. -/
def mark? (symbol : String) : Rule Bool := do
  if isMark symbol (← peek) then
    skip
    return true
  return false

/-- Takes a keyword if it comes next. -/
def keyword? (word : String) : Rule Bool := do
  if isKeyword word (← peek) then
    skip
    return true
  return false

/-- Takes a mark that has to come next. -/
def mark (symbol : String) : Rule Unit := do if !(← mark? symbol) then fail

/-- Takes a keyword that has to come next. -/
def keyword (word : String) : Rule Unit := do if !(← keyword? word) then fail

/-- Takes a name that has to come next. -/
def name : Rule String := do
  match ← peek with
  | some (.name id) =>
    skip
    return id
  | _ => fail

/-- Items between commas up to a closing mark, which is taken too; a comma may end them.  Tells also
whether the last thing before the end was a comma. -/
def itemsUntil (close : String) (item : Rule Term) : Nat → Rule (List Term × Bool)
  | 0 => fail
  | fuel + 1 => do
    if ← mark? close then return ([], true)
    let first ← item
    if ← mark? "," then
      let (more, comma) ← itemsUntil close item fuel
      return (first :: more, comma)
    mark close
    return ([first], false)

/-- Operands joined by a keyword. -/
def joined (word : String) (operand : Rule Term) : Nat → Rule (List Term)
  | 0 => fail
  | fuel + 1 => do
    let first ← operand
    if ← keyword? word then return first :: (← joined word operand fuel)
    return [first]

end Rule

open Rule

/-! ## Operators -/

/-- The binary operator of a mark at a level of precedence, the weakest being zero. -/
def binaryOp? (level : Nat) (symbol : String) : Option BinaryOp :=
  match level, symbol with
  | 0, "|" => some .bitOr
  | 1, "^" => some .bitXor
  | 2, "&" => some .bitAnd
  | 3, "<<" => some .shiftLeft
  | 3, ">>" => some .shiftRight
  | 4, "+" => some .add
  | 4, "-" => some .sub
  | 5, "*" => some .mul
  | 5, "/" => some .div
  | 5, "//" => some .floorDiv
  | 5, "%" => some .mod
  | 5, "@" => some .matMul
  | _, _ => none

/-- Takes a binary operator of a level if it comes next. -/
def takeBinaryOp (level : Nat) : Rule (Option BinaryOp) := do
  match ← peek with
  | some (.mark s) =>
    match binaryOp? level s with
    | some op =>
      skip
      return some op
    | none => return none
  | _ => return none

/-- Goes on joining operands of a level to the left. -/
def binaryRest (level : Nat) (operand : Rule Term) : Nat → Term → Rule Term
  | 0, _ => fail
  | fuel + 1, left => do
    match ← takeBinaryOp level with
    | some op =>
      let right ← operand
      binaryRest level operand fuel (.binary left op right)
    | none => return left

/-- Operands of one level, joined to the left. -/
def binaryLevel (level : Nat) (operand : Rule Term) : Rule Term := do
  let left ← operand
  binaryRest level operand ((← size) + 1) left

/-- The prefix operator of a mark. -/
def prefixOp? : String → Option UnaryOp
  | "-" => some .minus
  | "+" => some .plus
  | "~" => some .invert
  | _ => none

/-- A power with its prefix operators.  The exponent of a power has prefix operators of its own. -/
def factor (primary : Rule Term) : Nat → Rule Term
  | 0 => fail
  | fuel + 1 => do
    let op? := match ← peek with
      | some (.mark s) => prefixOp? s
      | _ => none
    match op? with
    | some op =>
      skip
      return .unary op (← factor primary fuel)
    | none =>
      let start ← here
      let awaits ← keyword? "await"
      let plain ← primary
      let base ← if awaits then do pure (.unsupported "Await" (← stretchFrom start)) else pure plain
      if ← mark? "**" then return .binary base .pow (← factor primary fuel)
      return base

/-- Takes a comparison if it comes next. -/
def takeCompareOp : Rule (Option CompareOp) := do
  let simple? : Option Lexeme → Option CompareOp
    | some (.mark "==") => some .eq
    | some (.mark "!=") => some .ne
    | some (.mark "<") => some .lt
    | some (.mark "<=") => some .le
    | some (.mark ">") => some .gt
    | some (.mark ">=") => some .ge
    | some (.keyword "in") => some .isIn
    | _ => none
  let next ← peek
  match simple? next with
  | some op =>
    skip
    return some op
  | none =>
    if isKeyword "is" next then
      skip
      if ← keyword? "not" then return some .notSame
      return some .same
    if isKeyword "not" next && isKeyword "in" (← peekSecond) then
      skip
      skip
      return some .notIn
    return none

/-- The links of a chain of comparisons. -/
def compareLinks (operand : Rule Term) : Nat → Rule (List (CompareOp × Term))
  | 0 => fail
  | fuel + 1 => do
    match ← takeCompareOp with
    | some op =>
      let right ← operand
      return (op, right) :: (← compareLinks operand fuel)
    | none => return []

/-- A chain of comparisons. -/
def comparison (operand : Rule Term) : Rule Term := do
  let first ← operand
  match ← compareLinks operand ((← size) + 1) with
  | [] => return first
  | links => return .compare first links

/-- A comparison with its negations. -/
def negation (operand : Rule Term) : Nat → Rule Term
  | 0 => fail
  | fuel + 1 => do
    if ← keyword? "not" then return .unary .not (← negation operand fuel)
    comparison operand

/-- Several operands under their connective, or a single one by itself. -/
def connect (connective : List Term → Term) : List Term → Term
  | [single] => single
  | operands => connective operands

/-- Operands joined by arithmetic of all levels. -/
def arithmetic (primary : Rule Term) : Rule Term := do
  let n := (← size) + 1
  binaryLevel 0 <| binaryLevel 1 <| binaryLevel 2 <| binaryLevel 3 <| binaryLevel 4 <|
    binaryLevel 5 <| factor primary n

/-- Operators of all kinds, but neither a choice nor a function. -/
def disjunction (primary : Rule Term) : Rule Term := do
  let n := (← size) + 1
  let conjunction : Rule Term := do
    return connect .all (← joined "and" (negation (arithmetic primary) n) n)
  return connect .any (← joined "or" conjunction n)

/-! ## Comprehensions -/

/-- Whether a term can be the target of a comprehension. -/
def isTarget : Nat → Term → Bool
  | 0, _ => false
  | _, .name _ => true
  | _, .unsupported construct _ => construct = "Attribute"
  | _, .subscript .. => true
  | fuel + 1, .tuple items => items.all (isItem fuel)
  | fuel + 1, .list items => items.all (isItem fuel)
  | _, _ => false
where
  /-- Whether a term can be an item of a target. -/
  isItem (fuel : Nat) : Term → Bool
    | .starred item _ => isTarget fuel item
    | t => isTarget fuel t

/-- A target between commas: a primary, possibly with a star. -/
def target (primary : Rule Term) : Rule Unit := do
  let n ← size
  let _ ← mark? "*"
  if !isTarget (n + 1) (← primary) then fail

/-- The targets of a comprehension, up to the keyword after them. -/
def targets (primary : Rule Term) : Nat → Rule Unit
  | 0 => fail
  | fuel + 1 => do
    target primary
    if ← mark? "," then
      if ← keyword? "in" then return ()
      targets primary fuel
    else keyword "in"

/-- The conditions of a comprehension's clause. -/
def conditions (test : Rule Term) : Nat → Rule Unit
  | 0 => fail
  | fuel + 1 => do
    if ← keyword? "if" then
      let _ ← test
      conditions test fuel

/-- The clauses of a comprehension; tells whether there are any. -/
def clauses (primary : Rule Term) : Nat → Rule Bool
  | 0 => fail
  | fuel + 1 => do
    let next ← peek
    if isKeyword "async" next || isKeyword "for" next then
      let _ ← keyword? "async"
      keyword "for"
      targets primary ((← size) + 1)
      let _ ← disjunction primary
      conditions (disjunction primary) ((← size) + 1)
      let _ ← clauses primary fuel
      return true
    return false

/-! ## Atoms -/

/-- Whether a name with the sign of an assignment comes next. -/
def isAssignment : Rule Bool := do return isName (← peek) && isMark ":=" (← peekSecond)

/-- A named or unnamed value: `name := expression` or an expression. -/
def named (nested : Nested) : Rule Term := do
  let start ← here
  if ← isAssignment then
    skip
    skip
    let _ ← nested.expression
    return .unsupported "NamedExpr" (← stretchFrom start)
  nested.expression

/-- A starred operand, or what else may stand in its place. -/
def starredOr (operand other : Rule Term) : Rule Term := do
  let start ← here
  if ← mark? "*" then
    let item ← operand
    return .starred item (← stretchFrom start)
  other

/-- Whether a term is starred. -/
def isStarred : Term → Bool
  | .starred .. => true
  | _ => false

/-- The pieces of literals that stand side by side: a text, bytes, or a text with fields. -/
inductive Literal where
  | text (s : String)
  | bytes (data : List UInt8)
  | template

/-- Joins two literals; texts and bytes do not mix. -/
def Literal.join? : Literal → Literal → Option Literal
  | .bytes a, .bytes b => some (.bytes (a ++ b))
  | .bytes _, _ => none
  | _, .bytes _ => none
  | .text a, .text b => some (.text (a ++ b))
  | _, _ => some .template

/-- The literals that stand side by side at a place. -/
def literals (isField : List Char → Bool) : Nat → Rule (List Literal)
  | 0 => fail
  | fuel + 1 => do
    match ← peek with
    | some (.text s) =>
      skip
      return .text s :: (← literals isField fuel)
    | some (.bytes data) =>
      skip
      return .bytes data :: (← literals isField fuel)
    | some (.template fields) =>
      if !fields.all isField then fail
      skip
      return .template :: (← literals isField fuel)
    | _ => return []

/-- Literals side by side as one. -/
def literal (isField : List Char → Bool) : Rule Term := do
  let start ← here
  match ← literals isField ((← size) + 1) with
  | [] => fail
  | first :: more =>
    match more.foldlM Literal.join? first with
    | some (.text s) => return .constant (.text s)
    | some (.bytes data) => return .constant (.bytes data)
    | some .template => return .unsupported "JoinedStr" (← stretchFrom start)
    | none => fail

/-- An item of a sequence: a named or unnamed value, or a starred operand. -/
def sequenceItem (nested : Nested) (primary : Rule Term) : Rule Term :=
  starredOr (arithmetic primary) (named nested)

/-- What follows `yield`: nothing, or values between commas up to a closing parenthesis, which is
left. -/
def yieldedItems (item : Rule Term) : Nat → Rule Unit
  | 0 => fail
  | fuel + 1 => do
    if isMark ")" (← peek) then return ()
    let _ ← item
    if ← mark? "," then yieldedItems item fuel

/-- A `yield` after its keyword, with the closing parenthesis. -/
def yielded (nested : Nested) (primary : Rule Term) (start : Nat) : Rule Term := do
  let construct ← do
    if ← keyword? "from" then
      let _ ← nested.expression
      pure "YieldFrom"
    else
      yieldedItems (starredOr (arithmetic primary) nested.expression) ((← size) + 1)
      pure "Yield"
  let place ← stretchFrom start
  mark ")"
  return .unsupported construct place

/-- The inside of parentheses after the opening one: nothing, a value, a tuple or a comprehension.
-/
def parenthesized (nested : Nested) (primary : Rule Term) (start : Nat) : Rule Term := do
  if ← mark? ")" then return .tuple []
  let inner ← here
  if ← keyword? "yield" then yielded nested primary inner
  else
    let first ← sequenceItem nested primary
    if ← mark? "," then
      let (more, _) ← itemsUntil ")" (sequenceItem nested primary) ((← size) + 1)
      return .tuple (first :: more)
    if isStarred first then fail
    let found ← clauses primary ((← size) + 1)
    mark ")"
    if found then return .unsupported "GeneratorExp" (← stretchFrom start)
    return first

/-- The inside of square brackets after the opening one: a list or a comprehension. -/
def bracketed (nested : Nested) (primary : Rule Term) (start : Nat) : Rule Term := do
  if ← mark? "]" then return .list []
  let first ← sequenceItem nested primary
  if ← mark? "," then
    let (more, _) ← itemsUntil "]" (sequenceItem nested primary) ((← size) + 1)
    return .list (first :: more)
  let found ← if isStarred first then pure false else clauses primary ((← size) + 1)
  mark "]"
  if found then return .unsupported "ListComp" (← stretchFrom start)
  return .list [first]

/-- The entries of a mapping from a place on, up to the closing brace or the first of others that it
takes over; tells also whether there are such. -/
def entries (nested : Nested) (operand : Rule Term) : Nat → Rule (List (Term × Term) × Bool)
  | 0 => fail
  | fuel + 1 => do
    if ← mark? "\x7d" then return ([], false)
    let first ← do
      if ← mark? "**" then
        let _ ← operand
        pure none
      else
        let key ← nested.expression
        mark ":"
        pure (some (key, ← nested.expression))
    let (more, spread) ← do
      if ← mark? "," then entries nested operand fuel
      else
        mark "\x7d"
        pure ([], false)
    match first with
    | some entry => return (entry :: more, spread)
    | none => return ([], true)

/-- A mapping whose first key has been read, after the colon, or a comprehension of one. -/
def mappingFrom (nested : Nested) (primary : Rule Term) (start : Nat) (key : Term) : Rule Term := do
  let value ← nested.expression
  if ← clauses primary ((← size) + 1) then
    mark "\x7d"
    return .unsupported "DictComp" (← stretchFrom start)
  let (more, spread) ← do
    if ← mark? "," then entries nested (arithmetic primary) ((← size) + 1)
    else
      mark "\x7d"
      pure ([], false)
  return .dict ((key, value) :: more) spread (← stretchFrom start)

/-- The inside of braces after the opening one: a mapping, a set or a comprehension of either. -/
def braced (nested : Nested) (primary : Rule Term) (start : Nat) : Rule Term := do
  let next ← peek
  if isMark "\x7d" next || isMark "**" next then
    let (found, spread) ← entries nested (arithmetic primary) ((← size) + 1)
    return .dict found spread (← stretchFrom start)
  else
    let assigns ← isAssignment
    let first ← sequenceItem nested primary
    if ← mark? ":" then
      if assigns || isStarred first then fail
      mappingFrom nested primary start first
    else if ← mark? "," then
      let (more, _) ← itemsUntil "\x7d" (sequenceItem nested primary) ((← size) + 1)
      return .set (first :: more) (← stretchFrom start)
    else
      let found ← if isStarred first then pure false else clauses primary ((← size) + 1)
      mark "\x7d"
      let place ← stretchFrom start
      return if found then .unsupported "SetComp" place else .set [first] place

/-- An atom: a name, a literal, or something in brackets. -/
def atom (nested : Nested) (primary : Rule Term) : Rule Term := do
  let start ← here
  match ← peek with
  | some (.name id) =>
    skip
    return .name id
  | some (.number v) =>
    skip
    return .constant v
  | some (.keyword "True") =>
    skip
    return .constant (.bool true)
  | some (.keyword "False") =>
    skip
    return .constant (.bool false)
  | some (.keyword "None") =>
    skip
    return .constant .none
  | some (.mark "...") =>
    skip
    return .constant .ellipsis
  | some (.mark "(") =>
    skip
    parenthesized nested primary start
  | some (.mark "[") =>
    skip
    bracketed nested primary start
  | some (.mark "\x7b") =>
    skip
    braced nested primary start
  | _ => literal nested.isField

/-! ## Calls and subscripts -/

/-- How far the arguments of a call have come: past a keyword, and past a mapping. -/
structure CallState where
  arguments : List Term := []
  keywords : Bool := false
  mappings : Bool := false

/-- The arguments of a call after its opening parenthesis, up to the closing one. -/
def callArguments (nested : Nested) (primary : Rule Term) (opening : Nat) :
    Nat → CallState → Rule CallState
  | 0, _ => fail
  | fuel + 1, s => do
    if ← mark? ")" then return s
    let start ← here
    let goOn (t : CallState) : Rule CallState := do
      if ← mark? "," then callArguments nested primary opening fuel t
      else
        mark ")"
        return t
    if ← mark? "**" then
      let _ ← nested.expression
      goOn { s with keywords := true, mappings := true }
    else if ← mark? "*" then
      if s.mappings then fail
      let item ← nested.expression
      let place ← stretchFrom start
      goOn { s with arguments := s.arguments ++ [.starred item place] }
    else
      let next ← peek
      let afterNext ← peekSecond
      if isName next && isMark "=" afterNext then
        skip
        skip
        let _ ← nested.expression
        goOn { s with keywords := true }
      else
        if s.keywords then fail
        let item ← named nested
        if ← clauses primary ((← size) + 1) then
          if !s.arguments.isEmpty then fail
          mark ")"
          return { s with arguments := [.unsupported "GeneratorExp" (← stretchFrom opening)] }
        goOn { s with arguments := s.arguments ++ [item] }

/-- An optional expression: none before a colon, a comma or a closing bracket. -/
def optional (nested : Nested) : Rule (Option Term) := do
  let next ← peek
  if isMark ":" next || isMark "," next || isMark "]" next then return none
  return some (← nested.expression)

/-- One part of a subscript: a value, a starred operand or a slice. -/
def subscriptPart (nested : Nested) : Rule Term := do
  let next ← peek
  let assigns ← isAssignment
  let first ← do
    if isMark ":" next then pure none
    else pure (some (← starredOr nested.expression (named nested)))
  if ← mark? ":" then
    if assigns || first.any isStarred then fail
    let upper ← optional nested
    let step ← if ← mark? ":" then optional nested else pure none
    return .slice first upper step
  match first with
  | some item => return item
  | none => fail

/-- The inside of a subscript after the opening bracket. -/
def subscriptIndex (nested : Nested) : Rule Term := do
  let first ← subscriptPart nested
  if ← mark? "," then
    let (more, _) ← itemsUntil "]" (subscriptPart nested) ((← size) + 1)
    return .tuple (first :: more)
  mark "]"
  if isStarred first then return .tuple [first]
  return first

/-- Goes on with attributes, calls and subscripts of what was read from `start` on. -/
def suffixes (nested : Nested) (primary : Rule Term) (start : Nat) : Nat → Term → Rule Term
  | 0, _ => fail
  | fuel + 1, t => do
    let opening ← here
    if ← mark? "." then
      let _ ← name
      suffixes nested primary start fuel (.unsupported "Attribute" (← stretchFrom start))
    else if ← mark? "(" then
      let s ← callArguments nested primary opening ((← size) + 1) {}
      suffixes nested primary start fuel (.call t s.arguments s.keywords)
    else if ← mark? "[" then
      suffixes nested primary start fuel (.subscript t (← subscriptIndex nested))
    else return t

/-- An atom with its suffixes.  Atoms in it are read by the same rule, at most `fuel` deep. -/
def primary (nested : Nested) : Nat → Rule Term
  | 0 => fail
  | fuel + 1 => do
    let start ← here
    let inner := primary nested fuel
    let t ← atom nested inner
    suffixes nested inner start ((← size) + 1) t

/-! ## Whole expressions -/

/-- How far the parameters of a function have come. -/
structure Parameters where
  count : Nat := 0
  defaults : Bool := false
  slash : Bool := false
  star : Bool := false
  /-- A bare star needs a name after it. -/
  bare : Bool := false
  mapping : Bool := false

/-- The parameters of a function, up to the colon after them. -/
def parameters (nested : Nested) : Nat → Parameters → Rule Unit
  | 0, _ => fail
  | fuel + 1, p => do
    if ← mark? ":" then
      if p.bare then fail
      return ()
    if p.mapping then fail
    let goOn (q : Parameters) : Rule Unit := do
      if ← mark? "," then parameters nested fuel q
      else
        mark ":"
        if q.bare then fail
    if ← mark? "/" then
      if p.count = 0 || p.slash || p.star then fail
      goOn { p with slash := true }
    else if ← mark? "**" then
      if p.bare then fail
      let _ ← name
      goOn { p with mapping := true }
    else if ← mark? "*" then
      if p.star then fail
      match ← peek with
      | some (.name _) =>
        skip
        goOn { p with star := true }
      | _ =>
        if !isMark "," (← peek) then fail
        goOn { p with star := true, bare := true }
    else
      let _ ← name
      if ← mark? "=" then
        let _ ← nested.expression
        goOn { p with count := p.count + 1, defaults := true, bare := false }
      else
        if p.defaults && !p.star then fail
        goOn { p with count := p.count + 1, bare := false }

/-- One layer of expressions around those nested in it. -/
def expressionLayer (nested : Nested) : Rule Term := do
  let start ← here
  if ← keyword? "lambda" then
    parameters nested ((← size) + 1) {}
    let _ ← nested.expression
    return .unsupported "Lambda" (← stretchFrom start)
  let first ← disjunction (primary nested ((← size) + 1))
  if ← keyword? "if" then
    let test ← disjunction (primary nested ((← size) + 1))
    keyword "else"
    return .ifElse test first (← nested.expression)
  return first

/-- An expression that nests at most as deep as its fuel. -/
def expression (isField : List Char → Bool) : Nat → Rule Term
  | 0 => fail
  | fuel + 1 => expressionLayer ⟨expression isField fuel, isField⟩

/-- Further expressions of a tuple without parentheses. -/
def tupleRest (item : Rule Term) : Nat → Rule (List Term)
  | 0 => fail
  | fuel + 1 => do
    if (← peek).isNone then return []
    let first ← item
    if ← mark? "," then return first :: (← tupleRest item fuel)
    return [first]

/-- A whole source: an expression, or a tuple without parentheses. -/
def whole (item : Rule Term) : Rule Term := do
  let first ← item
  let t ← if ← mark? "," then do pure (.tuple (first :: (← tupleRest item ((← size) + 1))))
    else pure first
  if (← peek).isSome then fail
  return t

/-- Reads tokens as a whole source. -/
def readTokens? (isField : List Char → Bool) (tokens : List Token) : Option Term :=
  ((whole (expression isField (tokens.length + 1))).run ⟨tokens, 0⟩).map Prod.fst

/-- Whether the text of a field holds an expression, with fields of its own at most `fuel` deep. -/
def isField : Nat → List Char → Bool
  | 0, _ => false
  | fuel + 1, cs =>
    match tokens? ('(' :: (cs ++ [')'])) with
    | some tokens => (readTokens? (isField fuel) tokens).isSome
    | none => false

/-- Reads a source whose line breaks are line feeds. -/
def Term.read? (source : List Char) : Option Term := do
  let tokens ← tokens? source
  readTokens? (isField source.length) tokens

end PipeTable.Expr
