import DeltaFrames.FrameSet.Propagation

namespace DeltaFrames.FrameSet

inductive Command (ω : Type) where
  | openFrame
  | block (states : Term) (level : Nat)
  | propagate (poll : ω → Except Cancellation.Interrupted Unit)

inductive Reply where
  | done
  | fixpoint (reached : Bool)
  deriving DecidableEq, Repr

variable {ω ε : Type} (bench : Workbench ω ε)

def perform : Command ω → Work ε (Run ω ε) Reply
  | .openFrame => do openFrame bench; return .done
  | .block states level => do block states level; return .done
  | .propagate poll => return .fixpoint (← propagate bench poll)

end DeltaFrames.FrameSet
