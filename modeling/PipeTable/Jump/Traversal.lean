import PipeTable.Jump.Condition

/-! # Jumps

A jump moves the cursor to the next cell that satisfies its condition, cell by cell in a direction
and once around the grid at most; it can take several steps.  A jump that fails leaves the table,
the cursor and the memory as they were.
-/

namespace PipeTable.Jump

open Expr (Eval)

/-- Moves on cell by cell until a test succeeds, at most as often as `count` says. -/
def search (grid : Grid) (direction : Direction) (test : Eval Session Bool) :
    Nat → Eval Session Bool
  | 0 => return false
  | count + 1 => do
    modify fun s => { s with cursor := grid.move direction s.cursor }
    if ← test then return true else search grid direction test count

/-- Takes one step: straight to the place that a condition is, else to the next cell at which it
holds.  Tells whether there is one. -/
def step (setting : Setting) (sense : Sense) (direction : Direction) : Eval Session Bool := do
  let condition ← compile setting sense (maxDepth + 1) (← get).condition
  match condition with
  | .place line column =>
    modify fun s =>
      { s with cursor := ⟨line.getD s.cursor.line, column.getD s.cursor.column⟩ }
    return true
  | _ =>
    let grid := (← get).grid
    search grid direction condition.holds grid.size

/-- Takes several steps, up to the first that fails. -/
def steps (setting : Setting) (sense : Sense) (direction : Direction) : Nat → Eval Session Bool
  | 0 => return true
  | count + 1 => do
    if ← step setting sense direction then steps setting sense direction count else return false

/-- The session with the table, the cursor and the memory of another one. -/
def restore (before now : Session) : Session :=
  { now with table := before.table, cursor := before.cursor, memory := before.memory }

/-- What is shown when no cell satisfies the condition. -/
def noMatch : Report := ⟨"No matching cell", 2⟩

/-- Runs a test as a jump: unless it succeeds, all that it did to the table, the cursor and the
memory is undone. -/
def transact (test : Eval Session Bool) (s : Session) : Except Error Bool × Session :=
  match test.run { s with running := true } with
  | (.ok true, after) => (.ok true, { after with running := false })
  | (.ok false, after) =>
    let undone := restore s { after with running := false }
    (.ok false, { undone with reports := undone.reports ++ [noMatch] })
  | (.error e, after) => (.error e, restore s { after with running := false })

/-- The session with a new condition and a new direction, where they are given. -/
def configure (s : Session) (condition direction : Value) : Except Error Session := do
  let d ← if direction.isNone then pure s.direction else Direction.ofValue direction
  return { s with direction := d,
                  condition := if condition.isNone then s.condition else condition.normalize }

/-- Whether a jump can start. -/
def checkStart (s : Session) : Except Error Unit := do
  if s.condition.isNone then throw (.precondition .noCondition)
  if s.grid.size = 0 then throw (.precondition .notInTable)
  if !s.grid.contains s.cursor then
    throw (.precondition (.cursorOutside s.cursor.line s.cursor.column))

/-- Jumps a number of steps, backward if it is negative, with a new condition and direction if they
are given.  Tells whether all steps found a cell. -/
def next (setting : Setting) (count : Int) (condition direction : Value) (s : Session) :
    Except Error Bool × Session :=
  if s.running then (.error (.precondition .nestedJump), s)
  else match configure s condition direction with
    | .error e => (.error e, s)
    | .ok ready =>
      match checkStart ready with
      | .error e => (.error e, ready)
      | .ok () =>
        let sense : Sense := if 0 ≤ count then .onward else .back
        let way := if 0 ≤ count then ready.direction else ready.direction.opposite
        transact (steps setting sense way count.natAbs) ready

/-- Jumps a number of steps backward. -/
def previous (setting : Setting) (count : Int) (condition direction : Value) (s : Session) :
    Except Error Bool × Session :=
  next setting (-count) condition direction s

end PipeTable.Jump
