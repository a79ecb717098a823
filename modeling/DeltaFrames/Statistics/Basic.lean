import DeltaFrames.Statistics.Timer

namespace DeltaFrames

structure Statistics where
  frames : Counter := 0
  /-- The clauses stored above level 0 at present. -/
  clauses : Counter := 0
  clausesAdded : Counter := 0
  subsumedClauses : Counter := 0
  propagatedClauses : Counter := 0
  levelsPropagated : Counter := 0
  propagation : Timer := {}
  propagationSolver : Timer := {}
  subsumption : Timer := {}
  deriving Inhabited

namespace Statistics

def totalClauses (statistics : Statistics) : Counter :=
  Counter.add statistics.clauses statistics.subsumedClauses

end Statistics
end DeltaFrames
