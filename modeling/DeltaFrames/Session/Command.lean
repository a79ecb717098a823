import DeltaFrames.Session.Basic

namespace DeltaFrames.Session

inductive Command where
  | push (term : Term)
  | pushAll (terms : List Term)
  | pop
  | check
  | isUnsat
  | isUnsatWith (term : Term)
  deriving DecidableEq

inductive Reply where
  | done
  | verdict (verdict : Verdict)
  | holds (answer : Bool)
  deriving DecidableEq, Repr

variable {ω ε : Type} (solver : Solver ω ε)

def perform : Command → EStateM (SessionError ε) (Session ω ε) Reply
  | .push term => do push solver term; return .done
  | .pushAll terms => do pushAll solver terms; return .done
  | .pop => do pop solver; return .done
  | .check => return .verdict (← check solver)
  | .isUnsat => return .holds (← isUnsat solver)
  | .isUnsatWith term => return .holds (← isUnsatWith solver term)

end DeltaFrames.Session
