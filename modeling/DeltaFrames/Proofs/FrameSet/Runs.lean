import DeltaFrames.FrameSet.Command
import DeltaFrames.Proofs.FrameSet.Steps

/-!
# Runs of a frame set

A run performs command after command, whether they succeed, are refused or are broken off. With a
sound solver that holds no assertion to begin with, every command changes the frames as `Change`
says and leaves the solver's scopes alone (`perform_change`), so what every change keeps holds
throughout a run (`Runs.induct`).
-/

namespace DeltaFrames.FrameSet

open Relation StateAction

variable {ω ε : Type}

def Advances (bench : Workbench ω ε) (allowed : FrameSet → Command ω → Prop)
    (before after : FrameSet × Run ω ε) : Prop :=
  ∃ command, allowed before.1 command ∧ finalState (perform bench command before) = after

abbrev Runs (bench : Workbench ω ε) (allowed : FrameSet → Command ω → Prop) :
    FrameSet × Run ω ε → FrameSet × Run ω ε → Prop :=
  ReflTransGen (Advances bench allowed)

inductive Change (I : Interpretation) (system : TransitionSystem) (before : FrameSet) :
    Command ω → FrameSet → Prop where
  | opened : Change I system before .openFrame (before.openNext system)
  | blocked {states : Term} {index : Nat} (below : index < before.frontier) :
      Change I system before (.block states (index + 1)) (before.addClause index states.negate)
  | refused {states : Term} {level : Nat} (outside : level = 0 ∨ before.frontier < level) :
      Change I system before (.block states level) before
  | propagated {poll : ω → Except Cancellation.Interrupted Unit} {after : FrameSet}
      (steps : Steps I system 0 before.ledger after.ledger) :
      Change I system before (.propagate poll) after

variable {bench : Workbench ω ε} {I : Interpretation} {view : View ω} {frames : FrameSet}
  {run : Run ω ε}

theorem block_apply (run : Run ω ε) (states : Term) {index : Nat}
    (below : index < frames.frontier) :
    block states (index + 1) (frames, run) = .ok () (frames.addClause index states.negate,
      run.emit (.blockingStates (index + 1) states.negate)) := by
  have allowed : frames.deltaIndex (index + 1) = .ok index := by
    simp [deltaIndex, checkLevel, Nat.succ_le_of_lt below, FrameLevel.of, bind, Except.bind, pure,
      Except.pure]
  simp only [block, onLevel, bind_apply, get_apply, allowed, pure_apply, emit, modifySecond_apply,
    modifyFirst_apply]

theorem perform_block (bench : Workbench ω ε) (run : Run ω ε) (states : Term) {index : Nat}
    (below : index < frames.frontier) :
    perform bench (.block states (index + 1)) (frames, run) =
      .ok .done (frames.addClause index states.negate,
        run.emit (.blockingStates (index + 1) states.negate)) := by
  simp only [perform, bind_apply, block_apply run states below, pure_apply]

theorem perform_block_refused (bench : Workbench ω ε) (run : Run ω ε) (states : Term) {level : Nat}
    (outside : level = 0 ∨ frames.frontier < level) :
    ∃ error, perform bench (.block states level) (frames, run) = .error error (frames, run) := by
  have refused : ∃ error, frames.deltaIndex level = .error error := by
    rcases outside with rfl | beyond
    · exact ⟨.initialFrameImmutable, rfl⟩
    · refine ⟨.outOfRange level frames.frontier, ?_⟩
      simp [deltaIndex, checkLevel, Nat.not_le_of_lt beyond, bind, Except.bind]
  obtain ⟨error, refused⟩ := refused
  refine ⟨.level error, ?_⟩
  simp only [perform, block, onLevel, bind_apply, get_apply, refused, throw_apply]

theorem perform_block_cases (bench : Workbench ω ε) (states : Term) (level : Nat)
    (state : FrameSet × Run ω ε) :
    (∃ index, level = index + 1 ∧ index < state.1.frontier ∧
      perform bench (.block states level) state = .ok .done (state.1.addClause index states.negate,
        state.2.emit (.blockingStates (index + 1) states.negate))) ∨
    (level = 0 ∨ state.1.frontier < level) ∧
      ∃ error, perform bench (.block states level) state = .error error state := by
  by_cases inside : 0 < level ∧ level ≤ state.1.frontier
  · obtain ⟨index, rfl⟩ : ∃ index, level = index + 1 := ⟨level - 1, by omega⟩
    have below : index < state.1.frontier := by omega
    exact .inl ⟨index, rfl, below, perform_block bench state.2 states below⟩
  · have outside : level = 0 ∨ state.1.frontier < level := by omega
    exact .inr ⟨outside, perform_block_refused bench state.2 states outside⟩

theorem of_perform_block_ok {states : Term} {level : Nat} {reply : Reply}
    {after : FrameSet × Run ω ε}
    (accepted : perform bench (.block states level) (frames, run) = .ok reply after) :
    ∃ index, level = index + 1 ∧ index < frames.frontier ∧
      after.1 = frames.addClause index states.negate ∧ after.2.world = run.world := by
  rcases perform_block_cases bench states level (frames, run) with
    ⟨index, rfl, below, performed⟩ | ⟨-, error, refused⟩
  · rw [performed] at accepted
    cases accepted
    exact ⟨index, rfl, below, rfl, rfl⟩
  · rw [refused] at accepted
    cases accepted

theorem finalState_propagate (bench : Workbench ω ε)
    (poll : ω → Except Cancellation.Interrupted Unit) (state : FrameSet × Run ω ε) :
    finalState (perform bench (.propagate poll) state) =
      finalState (propagate bench poll state) := by
  simp only [perform, bind_apply]
  cases propagate bench poll state <;> rfl

theorem lt_frontier_of_mem_range {index : Nat} (member : index ∈ List.range (frames.frontier - 1)) :
    index + 1 < frames.frontier := by
  have small := List.mem_range.1 member
  omega

theorem perform_propagate (sound : bench.solver.Sound I view) (frames : FrameSet)
    (run : Run ω ε) (free : (view.stack run.world).assertions = [])
    (poll : ω → Except Cancellation.Interrupted Unit) :
    Steps I bench.system 0 frames.ledger
        (finalState (perform bench (.propagate poll) (frames, run))).1.ledger ∧
      view.stack (finalState (perform bench (.propagate poll) (frames, run))).2.world =
        view.stack run.world := by
  have refutes (query : List Term)
      (decided : decisions bench view (view.stack run.world) query true) :
      ¬ Satisfiable I bench.system.declarations.signature query := by
    rw [decisions, free] at decided
    exact sound.not_satisfiable decided
  have below : ∀ index ∈ List.range (frames.frontier - 1),
      index + 1 < frames.ledger.frontier := fun _ => lt_frontier_of_mem_range
  have high : ∀ index ∈ List.range (frames.frontier - 1), 0 ≤ index := fun _ _ => Nat.zero_le _
  have met := propagate_course poll sound.toDisciplined frames run rfl
  simp only [perform, bind_apply]
  cases result : propagate bench poll (frames, run) with
  | ok reached after =>
      rw [result] at met
      exact ⟨met.1.1.steps refutes high below, met.2⟩
  | error failure after =>
      rw [result] at met
      rcases met with ⟨same | ⟨visits, -⟩, stack⟩
      · rw [finalState_error, same]
        exact ⟨.refl, stack⟩
      · exact ⟨visits.steps refutes high below, stack⟩

theorem perform_change (sound : bench.solver.Sound I view) (frames : FrameSet) (run : Run ω ε)
    (free : (view.stack run.world).assertions = []) (command : Command ω) :
    Change I bench.system frames command (finalState (perform bench command (frames, run))).1 ∧
      view.stack (finalState (perform bench command (frames, run))).2.world =
        view.stack run.world := by
  cases command with
  | openFrame => exact ⟨.opened, rfl⟩
  | block states level =>
      rcases perform_block_cases bench states level (frames, run) with
        ⟨index, rfl, below, accepted⟩ | ⟨outside, error, refused⟩
      · rw [accepted]
        exact ⟨.blocked below, rfl⟩
      · rw [refused]
        exact ⟨.refused outside, rfl⟩
  | propagate poll =>
      obtain ⟨steps, stack⟩ := perform_propagate sound frames run free poll
      exact ⟨.propagated steps, stack⟩

theorem Runs.induct {allowed : FrameSet → Command ω → Prop} {start state : FrameSet × Run ω ε}
    (invariant : FrameSet → Prop) (runs : Runs bench allowed start state)
    (sound : bench.solver.Sound I view) (free : (view.stack start.2.world).assertions = [])
    (holds : invariant start.1)
    (kept : ∀ before command after, allowed before command →
      Change I bench.system before command after → invariant before → invariant after) :
    invariant state.1 ∧ (view.stack state.2.world).assertions = [] := by
  induction runs with
  | refl => exact ⟨holds, free⟩
  | @tail between _ _ advances ih =>
      obtain ⟨command, isAllowed, rfl⟩ := advances
      obtain ⟨change, stack⟩ := perform_change sound between.1 between.2 ih.2 command
      exact ⟨kept _ command _ isAllowed change ih.1, stack ▸ ih.2⟩

end DeltaFrames.FrameSet
