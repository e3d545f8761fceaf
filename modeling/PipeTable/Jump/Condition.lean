import PipeTable.Expr.Eval
import PipeTable.Jump.Functions
import PipeTable.Selection

/-! # Conditions of jumps

A condition comes as a value: the name of a preset, a pattern, a pattern with an offset, a pair of
coordinates, a connective with conditions, a sequence that takes its turns, or an expression.  It is
compiled before each step, and tested cell by cell.
-/

namespace PipeTable.Jump

open Expr (Eval Expression Registry)

/-- What conditions are compiled against. -/
structure Setting where
  presets : Preset.Table := Preset.builtin
  registry : Registry Session := Jump.registry

/-- A compiled condition. -/
inductive Condition where
  /-- A pattern that occurs in the cell at an offset. -/
  | pattern (p : Pattern.Compiled) (lines columns : Int)
  /-- A place; a coordinate that is absent does not matter. -/
  | place (line column : Option Int)
  | all (conditions : List Condition)
  | any (conditions : List Condition)
  | not (condition : Condition)
  | expression (e : Expression Session)

/-! ## Testing -/

/-- Whether a pattern occurs in the stripped cell at an offset. -/
def occursAt (p : Pattern.Compiled) (lines columns : Int) (s : Session) : Except Fault Bool := do
  return match ← s.field lines columns with
    | some content => p.search (Text.strip content)
    | none => false

/-- Whether a cursor stands at a place. -/
def isAt (line column : Option Int) (c : Cursor) : Bool :=
  line.all (· = c.line) && column.all (· = c.column)

mutual

/-- Whether the condition holds at the cursor. -/
def Condition.holds : Condition → Eval Session Bool
  | .pattern p lines columns => do Eval.ofFault (occursAt p lines columns (← get))
  | .place line column => do return isAt line column (← get).cursor
  | .all conditions => allHold conditions
  | .any conditions => anyHolds conditions
  | .not condition => do return !(← condition.holds)
  | .expression e => e.isTrue {}

/-- Whether all conditions hold, tested up to the first that does not. -/
def allHold : List Condition → Eval Session Bool
  | [] => return true
  | c :: cs => do if ← c.holds then allHold cs else return false

/-- Whether any condition holds, tested up to the first that does. -/
def anyHolds : List Condition → Eval Session Bool
  | [] => return false
  | c :: cs => do if ← c.holds then return true else anyHolds cs

end

/-! ## Shapes -/

/-- The words that join conditions. -/
inductive Connective where
  | all
  | any
  | not
  deriving DecidableEq, Repr

/-- The word for a connective. -/
def Connective.name : Connective → String
  | .all => "and"
  | .any => "or"
  | .not => "not"

/-- What a value says as a condition. -/
inductive Shape where
  /-- The name of a preset, or else a pattern for the current cell. -/
  | word (text : String)
  | pattern (text : String) (lines columns : Int)
  | place (line column : Option Int)
  /-- Conditions that take turns. -/
  | turns (parts : List Value)
  | connective (c : Connective) (parts : List Value)
  /-- What follows the word for expressions, which should be a single source. -/
  | sources (parts : List Value)
  /-- An expression that compiled before. -/
  | compiled (v : Value)

/-- The coordinate that a value is. -/
def coordinate? : Value → Option (Option Int)
  | .none => some none
  | .int n => some (some n)
  | _ => none

/-- The shape of conditions behind a word. -/
def wordShape? (head : String) (parts : List Value) : Option Shape :=
  match head with
  | "and" => some (.connective .all parts)
  | "or" => some (.connective .any parts)
  | "not" => some (.connective .not parts)
  | "jmpseq" => some (.turns parts)
  | "expr" => some (.sources parts)
  | _ => none

/-- The shape of a pair of coordinates. -/
def placeShape? : List Value → Option Shape
  | [line, column] => do return .place (← coordinate? line) (← coordinate? column)
  | _ => none

/-- The shape of a condition in its normal form; none if it has no meaning. -/
def shape? : Value → Option Shape
  | .expression source context => some (.compiled (.expression source context))
  | .text word => some (.word word)
  | .tuple [.text pattern, .int lines, .int columns] => some (.pattern pattern lines columns)
  | .tuple (.text head :: parts) => wordShape? head parts
  | .tuple parts => placeShape? parts
  | _ => none

/-! ## Compiling -/

/-- Whether a jump goes on or back. -/
inductive Sense where
  | onward
  | back
  deriving DecidableEq, Repr

/-- The change of a turn. -/
def Sense.step : Sense → Int
  | .onward => 1
  | .back => -1

/-- Lifts an outcome that needs no session. -/
def ofOutcome {α : Type} : Except Error α → Eval Session α
  | .ok a => return a
  | .error e => throw e

/-- The pattern that a text spells, tested at an offset. -/
def patternAt (text : String) (lines columns : Int) : Except Error Condition :=
  match Pattern.Compiled.ofText text with
  | .ok p => .ok (.pattern p lines columns)
  | .error .badPattern => .error (.parse (.badPattern text))
  | .error fault => .error (.fault fault)

/-- The place of coordinates on a grid. -/
def placeOn (grid : Grid) (line column : Option Int) : Condition :=
  .place (line.map (Selection.resolveIndex · grid.height))
    (column.map (Selection.resolveIndex · grid.width))

/-- Compiles an expression in a condition. -/
def compileExpression (setting : Setting) (v : Value) : Except Error Condition :=
  (Expression.ofValue v registry setting.registry).map .expression

/-- Refuses a condition with its literal; one whose literal cannot be written is a fault instead. -/
def refuse (cause : Value → ParseError) (condition : Value) : Error :=
  if condition.isWritable then .parse (cause condition) else .fault .badValue

/-- Joins compiled conditions. -/
def connect (c : Connective) (condition : Value) (parts : List Condition) :
    Except Error Condition :=
  match c, parts with
  | _, [] => .error (refuse (.noOperand c.name) condition)
  | .all, _ => .ok (.all parts)
  | .any, _ => .ok (.any parts)
  | .not, [part] => .ok (.not part)
  | .not, _ => .error (refuse .notOneOperand condition)

/-- The key under which a sequence remembers its turn. -/
def turnKey (sequence : Value) : Except Fault Value :=
  if sequence.isWritable then .ok (.text ("jmpseq:" ++ sequence.literal)) else .error .badValue

/-- The turn after the one that is remembered; at first, the first one onward and the last one
back. -/
def nextTurn (sense : Sense) (remembered : Value) (count : Nat) : Except Fault Nat :=
  match remembered, remembered.integer? with
  | .none, _ => .ok (match sense with
    | .onward => 0
    | .back => count - 1)
  | _, some turn => .ok ((turn + sense.step) % (count : Int)).toNat
  | _, none => .error .mismatch

/-- Takes the next turn of a sequence. -/
def takeTurn (sense : Sense) (sequence : Value) (parts : List Value) : Eval Session Value := do
  let key ← Eval.ofFault (turnKey sequence)
  let remembered := (Value.findEntry (← get).memory key).getD .none
  let turn ← if parts.isEmpty then pure 0
    else Eval.ofFault (nextTurn sense remembered parts.length)
  match parts[turn]? with
  | some part =>
    modify fun s => { s with memory := Value.putEntry s.memory key (.int turn) }
    return part
  | none => throw (.parse (.emptySequence sequence))

mutual

/-- Compiles a condition that may nest as many levels as there is room for.  Sequences take their
turn as they are compiled. -/
def compile (setting : Setting) (sense : Sense) : Nat → Value → Eval Session Condition
  | 0, given => throw (refuse .tooDeep given)
  | room + 1, given => do
    let condition := given.normalize
    match shape? condition with
    | none => throw (refuse .badCondition condition)
    | some (.compiled v) => ofOutcome (compileExpression setting v)
    | some (.word text) =>
      match setting.presets.find? text with
      | some preset => compile setting sense room preset
      | none => ofOutcome (patternAt text 0 0)
    | some (.pattern text lines columns) => ofOutcome (patternAt text lines columns)
    | some (.place line column) => return placeOn (← get).grid line column
    | some (.turns parts) => do
      let part ← takeTurn sense condition parts
      compile setting sense room part
    | some (.sources [source]) => ofOutcome (compileExpression setting source)
    | some (.sources _) => throw (refuse .notOneExpression condition)
    | some (.connective c parts) => do
      let compiled ← compileAll setting sense room parts
      ofOutcome (connect c condition compiled)

/-- Compiles conditions of one level from the first to the last. -/
def compileAll (setting : Setting) (sense : Sense) (room : Nat) :
    List Value → Eval Session (List Condition)
  | [] => return []
  | part :: parts => do
    let c ← compile setting sense room part
    return c :: (← compileAll setting sense room parts)

end

/-- How deep conditions may nest below the root. -/
def maxDepth : Nat := 32

end PipeTable.Jump
