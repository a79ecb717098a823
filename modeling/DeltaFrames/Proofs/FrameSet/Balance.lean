import DeltaFrames.Proofs.FrameSet.Regime
import DeltaFrames.Proofs.FrameSet.Strength

/-!
# No scope leaks

Whatever becomes of a propagation, the scopes of the solver are afterwards what they were before
(`propagate_stack`). The other operations of a frame set do not turn to the solver at all: they are
`Silent`.
-/

namespace DeltaFrames

def Run.exchanges {ω ε : Type} (run : Run ω ε) : List (Exchange ε) :=
  run.journal.toList.filterMap fun
    | .exchange made => some made
    | .event _ => none

theorem Run.exchanges_emit {ω ε : Type} (run : Run ω ε) (event : Event ε) :
    (run.emit event).exchanges = run.exchanges := by
  simp [exchanges, emit]

namespace FrameSet

open StateAction

variable {ω ε α : Type}

def Silent (action : Work ε (Run ω ε) α) : Prop :=
  ∀ state, (finalState (action state)).2.world = state.2.world ∧
    (finalState (action state)).2.exchanges = state.2.exchanges

theorem silent_onLevel (access : FrameSet → Except LevelError α) :
    Silent (onLevel access : Work ε (Run ω ε) α) := by
  intro state
  unfold onLevel
  simp only [bind_apply, get_apply]
  cases access state.1 <;> exact ⟨rfl, rfl⟩

theorem silent_openFrame (bench : Workbench ω ε) : Silent (openFrame bench) :=
  fun _ => ⟨rfl, Run.exchanges_emit _ _⟩

theorem silent_block (states : Term) (level : Nat) :
    Silent (block states level : Work ε (Run ω ε) Unit) := by
  intro state
  unfold block onLevel
  simp only [bind_apply, get_apply]
  cases state.1.deltaIndex level with
  | error error => exact ⟨rfl, rfl⟩
  | ok index => exact ⟨rfl, Run.exchanges_emit _ _⟩

variable {bench : Workbench ω ε} {view : View ω}

theorem propagate_stack (keeps : bench.solver.KeepsScopes view) (pops : bench.solver.PopsSucceed view)
    (poll : ω → Except Cancellation.Interrupted Unit) (base : ScopeStack) :
    Preserves (fun state : FrameSet × Run ω ε => view.stack state.2.world = base)
      (propagate bench poll) := by
  have invariant : Session.Invariant bench.solver (fun run => view.stack run.world = base)
      (Session.Balanced view base) := Session.balanced_invariant keeps pops
  exact Regime.propagate_preserves invariant (fun _ _ stack => stack) fun _ _ balanced => balanced

/-- A propagation leaves the scopes of the solver, with everything asserted in them, as it found
them, whether it succeeds, is interrupted or fails, and whichever call or query it fails at. The
solver has to keep its scopes and to close them when told to; its other calls may fail. Creating a
frame set, opening and blocking, and reading a level make no call. -/
theorem no_scope_leaks (keeps : bench.solver.KeepsScopes view)
    (pops : bench.solver.PopsSucceed view) :
    (∀ poll state, view.stack (finalState (propagate bench poll state)).2.world =
      view.stack state.2.world) ∧
    Silent (modifyFirst fun _ => ofSystem bench.system : Work ε (Run ω ε) Unit) ∧
    Silent (openFrame bench) ∧
    (∀ states level, Silent (block states level : Work ε (Run ω ε) Unit)) ∧
    (∀ level, Silent (onLevel (·.states level) : Work ε (Run ω ε) Frame)) ∧
    (∀ level, Silent (onLevel (·.stored level) : Work ε (Run ω ε) Frame)) ∧
    ∀ level clause,
      Silent (onLevel (inductionScript bench.system · level clause) : Work ε (Run ω ε) String) := by
  refine ⟨fun poll state => ?_, fun _ => ⟨rfl, rfl⟩, silent_openFrame bench, silent_block,
    fun _ => silent_onLevel _, fun _ => silent_onLevel _, fun _ _ => silent_onLevel _⟩
  exact (propagate_stack keeps pops poll (view.stack state.2.world)).finalState rfl

def undecidedBench : Workbench (World Enumerating.State) Enumerating.Error :=
  { latchBench with solver := Enumerating.solver { undecided := true } }

def undecidedOpened : FrameSet × Run (World Enumerating.State) Enumerating.Error :=
  (latchOpened.1.openNext latchBench.system,
    { world := { solver := { stack := { opened := [[.var "p"]] } }, tokens := {} } })

theorem undecided_propagation_leaks_no_scope :
    ∃ error after, propagate undecidedBench (fun _ => .ok ()) undecidedOpened = .error error after ∧
      after.2.world.solver.stack = { opened := [[.var "p"]] } := by
  obtain ⟨error, failed⟩ : ∃ error, propagate undecidedBench (fun _ => .ok ()) undecidedOpened =
      .error error (finalState (propagate undecidedBench (fun _ => .ok ()) undecidedOpened)) :=
    eq_error_of_returned (by decide +kernel)
  have keeps : undecidedBench.solver.KeepsScopes Enumerating.view := Enumerating.keepsScopes _
  have same := (no_scope_leaks keeps (Enumerating.popsSucceed _)).1 (fun _ => .ok ())
    undecidedOpened
  generalize finalState (propagate undecidedBench (fun _ => .ok ()) undecidedOpened) = after
    at failed same
  exact ⟨error, after, failed, same⟩

end FrameSet
end DeltaFrames
