import DeltaFrames.FrameSet.Basic
import DeltaFrames.Session.Basic

/-!
# Blocking and propagation

Frames are filled from the outside, by blocking states, and by propagation, which visits the levels
below the frontier from the bottom up. At each level it moves up every clause that is inductive
relative to the level (`pushClauses`) and then, if the options say so, drops every clause that one
clause of the next level implies (`removeSubsumed`). A level that has become empty agrees with the
next one, and the search is over.

Work can be interrupted after each query. Whatever stops it, the frames stay as they were left by
the last query that was answered.
-/

namespace DeltaFrames

structure Workbench (ω ε : Type) where
  system : TransitionSystem
  options : Options
  solver : Solver ω ε
  clock : ω → Nat

namespace FrameSet

open StateAction

variable {ω ε ρ α : Type}

abbrev Work (ε ρ α : Type) := EStateM (FrameSetError ε) (FrameSet × ρ) α

def checkpoint (poll : ρ → Except Cancellation.Interrupted Unit) : Work ε ρ Unit := fun state =>
  match poll state.2 with
  | .ok _ => .ok () state
  | .error interruption => .error (.interrupted interruption) state

def timed (clock : ρ → Nat) (record : Duration → FrameSet → FrameSet) (action : Work ε ρ α) :
    Work ε ρ α := fun state =>
  let recorded (after : FrameSet × ρ) : FrameSet × ρ :=
    (record (.ofNanoseconds (clock after.2 - clock state.2)) after.1, after.2)
  match action state with
  | .ok value after => .ok value (recorded after)
  | .error error after => .error error (recorded after)

def onLevel (access : FrameSet → Except LevelError α) : Work ε ρ α := do
  match access (← get).1 with
  | .ok value => return value
  | .error error => throw (.level error)

def emit (event : Event ε) : Work ε (Run ω ε) Unit :=
  modifySecond (·.emit event)

variable (bench : Workbench ω ε) (poll : ω → Except Cancellation.Interrupted Unit)

def openFrame : Work ε (Run ω ε) Unit := do
  modifyFirst (openNext bench.system)
  emit (.openedFrame (← get).1.frontier)

/-- Records that the given states are not reached within `level` steps. -/
def block (states : Term) (level : Nat) : Work ε (Run ω ε) Unit := do
  let index ← onLevel (·.deltaIndex level)
  emit (.blockingStates level states.negate)
  modifyFirst (·.addClause index states.negate)

/-- Moves a clause up if no step leads from the level's states to one that violates the clause. -/
def pushClause (index : Nat) (clause : Term) : Work ε (Session ω ε) Unit := do
  let query := bench.system.prime clause.negate
  let relativelyInductive ← timed (fun session => bench.clock session.run.world) recordSolver
    (onSecond (.adaptExcept .solver (Session.isUnsatWith bench.solver query)))
  if relativelyInductive then
    modifySecond (·.emit (.clausePropagated (index + 1) clause))
    modifyFirst (·.promote index clause)
  checkpoint fun session => poll session.run.world

/-- Tries the clauses stored at a level one after the other. All are judged by the clauses that
held at the level before the first of them moved. -/
def pushClauses (index : Nat) : Work ε (Run ω ε) Unit := do
  let frames := (← get).1
  let premises := bench.system.transition :: (frames.effective (index + 1)).toList
  let candidates := (frames.storedAt (index + 1)).toList
  Session.within bench.solver .solver bench.system.declarations do
    onSecond (.adaptExcept .solver (Session.pushAll bench.solver premises))
    candidates.forM (pushClause bench poll index)

def trySubsume (index : Nat) (stronger clause : Term) : Work ε (Run ω ε) Unit := do
  let query := Term.not (stronger.implies clause)
  let implied ← EStateM.adaptExcept .solver
    (Session.isUnsatAlone bench.solver bench.system.declarations query)
  if implied then
    emit (.clauseSubsumed (index + 1) clause stronger)
    modifyFirst (·.discard index clause)
  checkpoint fun run => poll run.world

def subsumeBy (index : Nat) (stronger : Term) : Work ε (Run ω ε) Unit := do
  let candidates := ((← get).1.storedAt (index + 1)).toList
  candidates.forM (trySubsume bench poll index stronger)

def removeSubsumed (index : Nat) : Work ε (Run ω ε) Unit := do
  let stronger := ((← get).1.effective (index + 2)).toList
  stronger.forM (subsumeBy bench poll index)

def visitLevel (index : Nat) : Work ε (Run ω ε) Bool := do
  modifyFirst countLevel
  pushClauses bench poll index
  if bench.options.subsumption then
    timed (fun run => bench.clock run.world) recordSubsumption (removeSubsumed bench poll index)
  if ((← get).1.storedAt (index + 1)).isEmpty then
    emit (.fixpointReached (index + 1))
    return true
  else return false

def visitLevels : List Nat → Work ε (Run ω ε) Bool
  | [] => return false
  | index :: rest => do
      if ← visitLevel bench poll index then return true else visitLevels rest

/-- Visits all levels between 0 and the frontier, and tells whether two neighbouring levels agree. -/
def propagate : Work ε (Run ω ε) Bool := do
  checkpoint fun run => poll run.world
  let frontier := (← get).1.frontier
  emit (.propagatingClauses frontier)
  timed (fun run => bench.clock run.world) (fun elapsed => recount ∘ recordPropagation elapsed)
    (visitLevels bench poll (List.range (frontier - 1)))

end FrameSet
end DeltaFrames
