import DeltaFrames.Statistics.Basic

namespace DeltaFrames

namespace Statistics

def reportName : String := "Frame set"

def timeLines (timer : Timer) (lines : List (String × Duration)) : List String :=
  if timer.hasIntervals then lines.map fun (label, time) => label ++ time.print else []

def reportLines (statistics : Statistics) : List String :=
  let count (label : String) (counter : Counter) := label ++ Nat.repr counter.toNat
  [ count "Number of frames:                        " statistics.frames,
    count "Final number of clauses in all frames:   " statistics.clauses,
    count "Number of subsumed clauses during run:   " statistics.subsumedClauses,
    count "Total number of clauses during run:      " statistics.totalClauses ] ++
  timeLines statistics.propagation
    [ ("Total time for propagation:          ", statistics.propagation.total),
      ("  Average time for propagation:      ", statistics.propagation.average) ] ++
  timeLines statistics.propagationSolver
    [ ("Time spent in solver:                ", statistics.propagationSolver.total) ] ++
  timeLines statistics.subsumption
    [ ("Total time for subsumption:          ", statistics.subsumption.total),
      ("  Average time for subsumption:      ", statistics.subsumption.average) ]

def report (statistics : Statistics) : String :=
  String.join (statistics.reportLines.map (· ++ "\n"))

end Statistics

structure Sink where
  room : Nat
  written : String := ""
  deriving Inhabited

inductive SinkError where
  | full
  deriving DecidableEq, Repr

def SinkError.message : SinkError → String
  | .full => "writer full"

def Sink.write (text : String) : EStateM SinkError Sink Unit := do
  let sink ← get
  let taken := String.ofList (text.toList.take sink.room)
  set { sink with room := sink.room - text.length, written := sink.written ++ taken }
  if sink.room < text.length then throw .full

def Statistics.writeReport (statistics : Statistics) : EStateM SinkError Sink Unit :=
  Sink.write statistics.report

end DeltaFrames
