import DeltaFrames.OrderedSet
import DeltaFrames.Solver.Basic
import DeltaFrames.Solver.ScopeStack
import DeltaFrames.Solver.World
import DeltaFrames.Term.Eval
import DeltaFrames.Term.Names

/-!
# A solver that tries every assignment

The solver decides a query over a small domain: integers from -8 to 16 and both Booleans. It goes
through the assignments of the variables that occur in the assertions and stops at the first one
that makes all assertions true, or under which one has no value. Variables are taken in the order
of the assertions and by name inside each; the first one changes slowest. A variable that was never
declared is found before anything is tried.
-/

namespace DeltaFrames

def TermSort.domain : TermSort → List Value
  | .bool => [.bool false, .bool true]
  | .int => (List.range 25).map fun offset : Nat => .int (Int64.ofInt (offset - 8))

namespace Enumerating

inductive Error where
  | evaluation (error : EvalError)
  | emptyStack
  deriving DecidableEq

def Error.message : Error → String
  | .evaluation error => error.message
  | .emptyStack => "pop without matching push"

instance : ToString Error := ⟨Error.message⟩

structure State where
  /-- The declarations made, the latest first. Scopes do not limit them. -/
  declared : Declarations := []
  stack : ScopeStack := {}
  checks : Nat := 0
  deriving Inhabited

structure Settings where
  undecided : Bool := false
  cancellation : Option CancelOrder := none

def declaredSort (declared : Declarations) (name : String) : Except EvalError TermSort :=
  match declared.lookup name with
  | some sort => .ok sort
  | none => .error (.unbound name)

def unknowns (declared : Declarations) (terms : List Term) : Except EvalError Declarations :=
  (OrderedSet.ofList (terms.flatMap Term.freeVars)).toList.mapM fun name => do
    return (name, ← declaredSort declared name)

def search (terms : List Term) : Declarations → Assignment → Except EvalError Bool
  | [], assignment => allTrue assignment terms
  | (name, sort) :: rest, assignment =>
      sort.domain.anyM fun value => search terms rest (assignment.bind name value)

def satisfiable (declared : Declarations) (terms : List Term) : Except EvalError Bool := do
  search terms (← unknowns declared terms) .empty

def State.verdict (state : State) (settings : Settings) : Except Error Verdict :=
  if settings.undecided then .ok (.unknown "bounded solver: forced unknown")
  else
    match satisfiable state.declared state.stack.assertions with
    | .ok true => .ok .sat
    | .ok false => .ok .unsat
    | .error error => .error (.evaluation error)

def modifyState (change : State → State) : EStateM Error (World State) Unit :=
  modify fun world => { world with solver := change world.solver }

def check (settings : Settings) : EStateM Error (World State) Verdict := do
  modifyState fun state => { state with checks := state.checks + 1 }
  modify fun world => CancelOrder.carryOut settings.cancellation world.solver.checks world
  match (← get).solver.verdict settings with
  | .ok verdict => return verdict
  | .error error => throw error

def solver (settings : Settings) : Solver (World State) Error where
  respond
    | .push => modifyState fun state => { state with stack := state.stack.push }
    | .pop => do
        match (← get).solver.stack.pop with
        | some stack => modifyState fun state => { state with stack }
        | none => throw .emptyStack
    | .declare name sort =>
        modifyState fun state => { state with declared := (name, sort) :: state.declared }
    | .assert term => modifyState fun state => { state with stack := state.stack.assert term }
    | .check => check settings
    | .reset => modifyState fun state => { state with declared := [], stack := {} }

end Enumerating
end DeltaFrames
