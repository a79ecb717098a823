import DeltaFrames.Proofs.FrameSet.Regime
import DeltaFrames.Proofs.Session.Faults
import Mathlib.Logic.Relation

/-!
# Why propagations fail

A propagation fails only if it is interrupted or has met a fault, so one that is left alone
succeeds (`Undisturbed.returns`). It is not interrupted if the poll is patient with every world that
the solver's responses lead to (`Patient.uninterrupted`), as it is with a token that nobody cancels.
-/

namespace DeltaFrames

def FrameSetError.IsInterruption {ε : Type} : FrameSetError ε → Prop
  | .interrupted _ => True
  | _ => False

namespace FrameSet

open StateAction

variable {ω ε ρ α : Type} {least : Nat}

def Blamed (least : Nat) (error : FrameSetError ε) (run : Run ω ε) : Prop :=
  error.IsInterruption ∨ least < run.faults

variable {bench : Workbench ω ε} {poll : ω → Except Cancellation.Interrupted Unit} {index : Nat}

def blaming (ω ε : Type) (least : Nat) : Regime ω ε where
  idle _ run := least ≤ run.faults
  opened _ := Session.Counts 1 least
  busy _ := Session.Counts 2 least
  failed error _ run := Blamed least error run
  broken error _ session := Blamed least error session.run

theorem blaming_upheld : (blaming ω ε least).Upheld bench poll index where
  opens few opening := (Session.start_faults bench.solver _ few).of_ok opening
  refuses few opening := .inr ((Session.start_faults bench.solver _ few).of_error opening)
  premises _ := (Session.pushAll_faults _).mono (fun _ counts => counts)
    (fun _ _ counts => counts) fun _ _ more => .inr more
  moves _ clause _ := by
    refine (Session.isUnsatWith_faults _).mono (fun _ counts => counts) (fun unsat session counts => ?_)
      fun _ _ more => .inr more
    cases unsat with
    | true => exact ⟨counts.1, Run.le_faults_emit counts.2 _⟩
    | false => exact counts
  closes counts := (Session.close_faults counts.2).mono (fun _ _ few => few) fun _ _ more => .inr more
  drops blamed := blamed.imp_right Session.drop_faults
  subsumes frames _ _ clause _ := by
    refine (Session.isUnsatAlone_faults _ _ frames).mono (fun _ few => few)
      (fun unsat state few => ⟨few.1, ?_⟩) fun _ _ more => ⟨more.1, .inr more.2⟩
    cases unsat with
    | true => exact Run.le_faults_emit few.2 _
    | false => exact few.2
  interrupts _ _ := .inl trivial
  interruptsBusy _ _ := .inl trivial

theorem propagate_faults : (blaming ω ε least).Keeps (propagate bench poll) :=
  Regime.propagate_upheld (fun _ => blaming_upheld) (fun few => few)
    (fun _ few => Run.le_faults_emit few _) fun _ few => Run.le_faults_emit few _

structure Undisturbed (bench : Workbench ω ε) (poll : ω → Except Cancellation.Interrupted Unit)
    (state : FrameSet × Run ω ε) : Prop where
  uninterrupted : ∀ error after, propagate bench poll state = .error error after →
    ¬ error.IsInterruption
  faultless : (finalState (propagate bench poll state)).2.faults = state.2.faults

theorem undisturbed_of_returned {state : FrameSet × Run ω ε} {reached : Bool}
    (isReturned : returned (propagate bench poll state) = some reached)
    (faultless : (finalState (propagate bench poll state)).2.faults = state.2.faults) :
    Undisturbed bench poll state where
  uninterrupted := by
    intro error after failed
    rw [failed] at isReturned
    cases isReturned
  faultless := faultless

theorem Undisturbed.returns {state : FrameSet × Run ω ε}
    (undisturbed : Undisturbed bench poll state) :
    ∃ reached after, propagate bench poll state = .ok reached after := by
  have blamed : Meets (fun _ after => state.2.faults ≤ after.2.faults)
      (fun error after => Blamed state.2.faults error after.2) (propagate bench poll state) :=
    propagate_faults state (Nat.le_refl _)
  have faultless := undisturbed.faultless
  cases result : propagate bench poll state with
  | ok reached after => exact ⟨reached, after, rfl⟩
  | error error after =>
      rw [result] at blamed faultless
      rcases blamed with interrupted | more
      · exact absurd interrupted (undisturbed.uninterrupted error after result)
      · exact absurd faultless (Nat.ne_of_gt more)

end FrameSet

open Relation StateAction

variable {ω ε : Type}

def Solver.Leads (solver : Solver ω ε) (before after : ω) : Prop :=
  ∃ call, finalState (solver.respond call before) = after

theorem Solver.call_leads (solver : Solver ω ε) (start : ω) (made : Call) :
    Preserves (fun run : Run ω ε => ReflTransGen solver.Leads start run.world)
      (solver.call made) := by
  intro run led
  have next : ReflTransGen solver.Leads start (finalState (solver.respond made run.world)) :=
    led.tail ⟨made, rfl⟩
  unfold call
  cases response : solver.respond made run.world with
  | ok _ world => rwa [response] at next
  | error _ world => rwa [response] at next

theorem Solver.leads_invariant (solver : Solver ω ε) (start : ω) :
    Session.Invariant solver (fun run => ReflTransGen solver.Leads start run.world)
      fun session : Session ω ε => ReflTransGen solver.Leads start session.run.world :=
  Session.invariant_of_calls (solver.call_leads start) fun _ _ led => led

namespace FrameSet

theorem propagate_leads (bench : Workbench ω ε)
    (poll : ω → Except Cancellation.Interrupted Unit) (state : FrameSet × Run ω ε) :
    ReflTransGen bench.solver.Leads state.2.world
      (finalState (propagate bench poll state)).2.world := by
  have leads : Preserves (fun now : FrameSet × Run ω ε =>
      ReflTransGen bench.solver.Leads state.2.world now.2.world) (propagate bench poll) :=
    Regime.propagate_preserves (bench.solver.leads_invariant state.2.world) (fun _ _ led => led)
      fun _ _ led => led
  exact leads.finalState .refl

/-- Wherever the solver is led to from here, the poll lets the work go on. -/
def Patient (solver : Solver ω ε) (poll : ω → Except Cancellation.Interrupted Unit) (start : ω) :
    Prop :=
  ∀ world, ReflTransGen solver.Leads start world → poll world = .ok ()

theorem Patient.of_leads {solver : Solver ω ε} {poll : ω → Except Cancellation.Interrupted Unit}
    {start later : ω} (patient : Patient solver poll start)
    (leads : ReflTransGen solver.Leads start later) : Patient solver poll later :=
  fun world onward => patient world (leads.trans onward)

theorem Patient.uninterrupted {bench : Workbench ω ε}
    {poll : ω → Except Cancellation.Interrupted Unit} {state after : FrameSet × Run ω ε}
    (patient : Patient bench.solver poll state.2.world) {error : FrameSetError ε}
    (failed : propagate bench poll state = .error error after) : ¬ error.IsInterruption := by
  have spared {world : ω} {interruption : Cancellation.Interrupted} {blamed : Prop}
      (led : ReflTransGen bench.solver.Leads state.2.world world)
      (polled : poll world = .error interruption) : blamed := by
    rw [patient world led] at polled
    cases polled
  have met : Meets (fun _ _ => True) (fun error _ => ¬ error.IsInterruption)
      (propagate bench poll state) :=
    (Regime.propagate_sessions (bench.solver.leads_invariant state.2.world)
      (fun _ _ led => led) (fun _ _ led => led) (fun _ => id) (fun _ _ led => spared led)
      (fun _ _ led => spared led) state .refl).mono (fun _ _ _ => trivial) fun _ _ left => left.1
  rwa [failed] at met

end FrameSet
end DeltaFrames
