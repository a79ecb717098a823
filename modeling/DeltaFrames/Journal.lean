import DeltaFrames.Session.Error
import DeltaFrames.Solver.Basic
import DeltaFrames.Term.Printer

/-!
# The journal of a run

A run is the world a solver lives in together with a journal of what has happened in it: every
call of the solver with its answer, and the events worth telling, in the order in which they came.
-/

namespace DeltaFrames

structure Exchange (ε : Type) where
  call : Call
  answer : Except ε call.Answer

inductive Event (ε : Type) where
  | openedFrame (frontier : Nat)
  | blockingStates (level : Nat) (clause : Term)
  | propagatingClauses (frontier : Nat)
  | clausePropagated (level : Nat) (clause : Term)
  | clauseSubsumed (level : Nat) (clause stronger : Term)
  | fixpointReached (level : Nat)
  | releaseFailed (error : SessionError ε)

inductive Entry (ε : Type) where
  | exchange (exchange : Exchange ε)
  | event (event : Event ε)

structure Run (ω ε : Type) where
  world : ω
  journal : Array (Entry ε) := #[]

namespace Run

variable {ω ε : Type}

def emit (run : Run ω ε) (event : Event ε) : Run ω ε :=
  { run with journal := run.journal.push (.event event) }

def log (run : Run ω ε) (exchange : Exchange ε) (world : ω) : Run ω ε :=
  { world, journal := run.journal.push (.exchange exchange) }

end Run

def Solver.call {ω ε : Type} (solver : Solver ω ε) (call : Call) :
    EStateM ε (Run ω ε) call.Answer := fun run =>
  match solver.respond call run.world with
  | .ok answer world => .ok answer (run.log ⟨call, .ok answer⟩ world)
  | .error error world => .error error (run.log ⟨call, .error error⟩ world)

def Verdict.print : Verdict → String
  | .sat => "sat"
  | .unsat => "unsat"
  | .unknown _ => "unknown"

def Call.print : Call → String
  | .push => "push"
  | .pop => "pop"
  | .declare name sort => "declare " ++ name ++ " " ++ sort.print
  | .assert term => "assert " ++ term.print
  | .check => "check"
  | .reset => "reset"

def Exchange.print {ε : Type} [ToString ε] : Exchange ε → String
  | ⟨.check, .ok verdict⟩ => Call.check.print ++ " " ++ verdict.print
  | ⟨call, .error error⟩ => call.print ++ " ! " ++ toString error
  | ⟨call, .ok _⟩ => call.print

def Event.print {ε : Type} [ToString ε] : Event ε → String
  | .openedFrame frontier => "DEBUG pdr: opened frame frontier=" ++ Nat.repr frontier
  | .blockingStates level clause =>
      "DEBUG pdr: blocking states level=" ++ Nat.repr level ++ " clause=" ++ clause.print
  | .propagatingClauses frontier => "INFO pdr: propagating clauses frontier=" ++ Nat.repr frontier
  | .clausePropagated level clause =>
      "DEBUG pdr: clause propagated level=" ++ Nat.repr level ++ " clause=" ++ clause.print
  | .clauseSubsumed level clause stronger =>
      "DEBUG pdr: clause subsumed level=" ++ Nat.repr level ++ " clause=" ++ clause.print ++
        " by=" ++ stronger.print
  | .fixpointReached level => "INFO pdr: fixpoint reached level=" ++ Nat.repr level
  | .releaseFailed error =>
      "WARN smt session: failed to release solver scopes error=" ++ error.message

def Entry.print {ε : Type} [ToString ε] : Entry ε → String
  | .exchange made => made.print
  | .event told => told.print

end DeltaFrames
