import DeltaFrames.FrameSet.Basic
import DeltaFrames.Term.Printer

namespace DeltaFrames.FrameSet

def printLevel (frames : FrameSet) (level : Nat) : String :=
  let clauses := (frames.effective level).toList.map fun clause => "     " ++ clause.print ++ "\n"
  "\n  Level " ++ Nat.repr level ++ "\n :" ++ String.join clauses

def print (frames : FrameSet) : String :=
  "Frame set : " ++ String.join ((List.range (frames.frontier + 1)).map frames.printLevel)

def inductionQuery (system : TransitionSystem) (states : Frame) (clause : Term) : List Term :=
  system.transition :: states.toList ++ [system.prime clause.negate]

/-- A script that is unsatisfiable exactly if the clause can move from the level to the next. -/
def inductionScript (system : TransitionSystem) (frames : FrameSet) (level : Nat) (clause : Term) :
    Except LevelError String := do
  let states ← frames.states level
  return satisfiabilityScript system.declarations (inductionQuery system states clause)

end DeltaFrames.FrameSet
