import DeltaFrames.Term.Basic

/-!
# Solvers

A solver keeps a stack of scopes: what is asserted after a `push` is taken back by the matching
`pop`. It is known only by how it responds to calls, each of which may fail, and a call may change
the world in which the solver lives whether it fails or not.
-/

namespace DeltaFrames

inductive Verdict where
  | sat
  | unsat
  | unknown (reason : String)
  deriving DecidableEq, Repr, Inhabited

inductive Call where
  | push
  | pop
  | declare (name : String) (sort : TermSort)
  | assert (term : Term)
  | check
  | reset
  deriving DecidableEq

abbrev Call.Answer : Call → Type
  | .check => Verdict
  | _ => Unit

structure Solver (ω ε : Type) where
  respond : (call : Call) → EStateM ε ω call.Answer

end DeltaFrames
