import DeltaFrames.Solver.Basic
import DeltaFrames.Solver.ScopeStack
import DeltaFrames.Solver.World

/-!
# A solver that follows a script

The solver looks at no term. Its script says what the checks answer and which calls fail; a call
that the script lets pass keeps the scope stack as any solver does.
-/

namespace DeltaFrames

inductive CallKind where
  | push
  | pop
  | declare
  | assert
  | check
  | reset
  deriving DecidableEq, Repr

def Call.kind : Call → CallKind
  | .push => .push
  | .pop => .pop
  | .declare .. => .declare
  | .assert _ => .assert
  | .check => .check
  | .reset => .reset

namespace Scripted

/-- The call of a kind that fails, counted from one among the calls of that kind. -/
structure Failure where
  kind : CallKind
  number : Nat
  message : String
  deriving DecidableEq

structure Script where
  verdicts : List Verdict := []
  /-- The answer of every check beyond those. -/
  afterwards : Verdict := .sat
  failures : List Failure := []
  cancellation : Option CancelOrder := none

structure Tally where
  push : Nat := 0
  pop : Nat := 0
  declare : Nat := 0
  assert : Nat := 0
  check : Nat := 0
  reset : Nat := 0
  deriving Inhabited

namespace Tally

def count (tally : Tally) : CallKind → Nat
  | .push => tally.push
  | .pop => tally.pop
  | .declare => tally.declare
  | .assert => tally.assert
  | .check => tally.check
  | .reset => tally.reset

def increment (tally : Tally) : CallKind → Tally
  | .push => { tally with push := tally.push + 1 }
  | .pop => { tally with pop := tally.pop + 1 }
  | .declare => { tally with declare := tally.declare + 1 }
  | .assert => { tally with assert := tally.assert + 1 }
  | .check => { tally with check := tally.check + 1 }
  | .reset => { tally with reset := tally.reset + 1 }

end Tally

structure State where
  made : Tally := {}
  stack : ScopeStack := {}
  deriving Inhabited

def Script.failure (script : Script) (kind : CallKind) (made : Tally) : Option String :=
  let failing := script.failures.reverse.find? fun failure =>
    failure.kind = kind ∧ failure.number = made.count kind
  failing.map Failure.message

def Script.verdict (script : Script) (number : Nat) : Verdict :=
  script.verdicts[number - 1]?.getD script.afterwards

def modifyStack (change : ScopeStack → ScopeStack) : EStateM String (World State) Unit :=
  modify fun world => { world with solver.stack := change world.solver.stack }

def perform (script : Script) : (call : Call) → EStateM String (World State) call.Answer
  | .push => modifyStack (·.push)
  | .pop => do
      match (← get).solver.stack.pop with
      | some stack => modifyStack fun _ => stack
      | none => throw "no scope to pop"
  | .declare .. => pure ()
  | .assert term => modifyStack (·.assert term)
  | .check => return script.verdict (← get).solver.made.check
  | .reset => modifyStack fun _ => {}

def register (script : Script) (kind : CallKind) (world : World State) : World State :=
  let counted := { world with solver.made := world.solver.made.increment kind }
  if kind = .check then
    CancelOrder.carryOut script.cancellation counted.solver.made.check counted
  else counted

def solver (script : Script) : Solver (World State) String where
  respond call := do
    modify (register script call.kind)
    match script.failure call.kind (← get).solver.made with
    | some message => throw message
    | none => perform script call

end Scripted
end DeltaFrames
