import DeltaFrames.Cancellation.Registry
import DeltaFrames.FrameSet.Command
import DeltaFrames.FrameSet.Printer
import DeltaFrames.Proofs.Cancellation.Dealings
import DeltaFrames.Proofs.Cancellation.Operations
import DeltaFrames.Proofs.Cancellation.Sharing
import DeltaFrames.Proofs.FrameSet.Accounts
import DeltaFrames.Proofs.FrameSet.Balance
import DeltaFrames.Proofs.FrameSet.Blocking
import DeltaFrames.Proofs.FrameSet.Chronicle
import DeltaFrames.Proofs.FrameSet.Decisions
import DeltaFrames.Proofs.FrameSet.Extent
import DeltaFrames.Proofs.FrameSet.Faults
import DeltaFrames.Proofs.FrameSet.Filtering
import DeltaFrames.Proofs.FrameSet.Fixpoint
import DeltaFrames.Proofs.FrameSet.Idempotence
import DeltaFrames.Proofs.FrameSet.Interruption
import DeltaFrames.Proofs.FrameSet.Moves
import DeltaFrames.Proofs.FrameSet.Order
import DeltaFrames.Proofs.FrameSet.Outcome
import DeltaFrames.Proofs.FrameSet.Progress
import DeltaFrames.Proofs.FrameSet.Queries
import DeltaFrames.Proofs.FrameSet.Reachability
import DeltaFrames.Proofs.FrameSet.Regime
import DeltaFrames.Proofs.FrameSet.Resumption
import DeltaFrames.Proofs.FrameSet.Retention
import DeltaFrames.Proofs.FrameSet.Saturation
import DeltaFrames.Proofs.FrameSet.Thinning
import DeltaFrames.Proofs.FrameSet.Verdict
import DeltaFrames.Proofs.Session.Foreseen
import DeltaFrames.Proofs.Session.Invariant
import DeltaFrames.Proofs.Session.Leaks
import DeltaFrames.Proofs.Session.Posing
import DeltaFrames.Proofs.Session.Record
import DeltaFrames.Proofs.Session.Remnants
import DeltaFrames.Proofs.Session.Scopes
import DeltaFrames.Proofs.Session.Trace
import DeltaFrames.Proofs.Solver.Trials
import DeltaFrames.Proofs.Statistics.Timer
import DeltaFrames.Proofs.System.Acceptance
import DeltaFrames.Proofs.System.Priming
import DeltaFrames.Proofs.Term.Reading
import DeltaFrames.Proofs.Term.Sorting
import DeltaFrames.Proofs.Triple
import DeltaFrames.Session.Command
import DeltaFrames.Solver.Enumerating
import DeltaFrames.Solver.Scripted
import DeltaFrames.Statistics.Report
import DeltaFrames.System.Symbolic
