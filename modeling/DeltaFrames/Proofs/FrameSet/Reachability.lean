import DeltaFrames.Proofs.FrameSet.Strength
import DeltaFrames.Proofs.Solver.Enumerating

/-!
# Levels cover what is reached in as many steps

A clause moves up one level only when no step leads from the level below to a state that violates
it, which is what the states reached at the very last step need.
-/

namespace DeltaFrames.FrameSet

open Relation

variable {ω ε : Type} {I : Interpretation} {system : SymbolicSystem}

/-- Blocked states are not reached within the number of the level, and the property holds within
the number of the level that is opened. -/
def HonestCommand (I : Interpretation) (system : SymbolicSystem) (frames : FrameSet) :
    Command ω → Prop
  | .openFrame => ∀ steps ≤ frames.frontier + 1, ∀ state : Valuation I,
      system.ReachableIn steps state → system.property.Holds state
  | .block states level => 0 < level → level ≤ frames.frontier →
      states.HasSort system.stateSignature .bool ∧
        ∀ steps ≤ level, ∀ state : Valuation I,
          system.ReachableIn steps state → ¬ states.Holds state
  | .propagate _ => True

structure Covering (I : Interpretation) (system : SymbolicSystem) (frames : FrameSet) : Prop where
  sorted : frames.ClausesSorted system.stateSignature
  covers : ∀ level, ∀ steps ≤ level, ∀ state : Valuation I, system.ReachableIn steps state →
    frames.Admits level state

theorem covering_ofSystem (system : SymbolicSystem) :
    Covering I system (ofSystem system.toTransitionSystem) where
  sorted := by
    intro level clause positive stored
    exact absurd (le_frontier_of_stored stored) (Nat.not_le_of_lt positive)
  covers := by
    intro level steps le state reached clause member
    rcases Nat.eq_zero_or_pos level with rfl | positive
    · obtain rfl := Nat.le_zero.1 le
      cases reached with
      | initial _ holds =>
          rw [mem_effective_ofSystem.1 member, SymbolicSystem.unprime_initial]
          exact holds
    · exact absurd (le_frontier_of_effective positive member) (Nat.not_le_of_lt positive)

theorem Step.covering {before after : FrameSet}
    (step : Step I system.toTransitionSystem 0 before after) (covering : Covering I system before) :
    Covering I system after where
  sorted := step.clausesSorted covering.sorted
  covers := by
    intro level steps le state reached clause member
    rcases Nat.eq_zero_or_pos level with rfl | positive
    · rw [step.effective_zero] at member
      exact covering.covers 0 steps le state reached clause member
    rcases step.gains covering.sorted positive member with member | ⟨index, rfl, held, kept⟩
    · exact covering.covers level steps le state reached clause member
    · -- The level below vouches for the states that are reached earlier, the query for the others.
      rcases Nat.lt_or_eq_of_le le with earlier | rfl
      · exact covering.covers (index + 1) steps (by omega) state reached clause held
      · cases reached with
        | step reachedBefore moves =>
            obtain ⟨both, fits, related, rfl, rfl⟩ := moves
            exact kept both fits related
              (covering.covers (index + 1) _ (Nat.le_refl _) _ reachedBefore)

theorem Steps.covering {before after : FrameSet}
    (steps : Steps I system.toTransitionSystem 0 before after) (covering : Covering I system before) :
    Covering I system after := by
  induction steps with
  | refl => exact covering
  | tail _ step ih => exact step.covering ih

theorem Change.covering {before after : FrameSet} {command : Command ω}
    (change : Change I system.toTransitionSystem before command after)
    (wellSorted : system.WellSorted) (honest : HonestCommand I system before command)
    (covering : Covering I system before) : Covering I system after := by
  cases change with
  | opened =>
      refine ⟨covering.sorted.openNext wellSorted.unprime_property, ?_⟩
      intro level steps le state reached clause member
      rcases mem_of_effective_openNext member with member | ⟨opened, rfl⟩
      · exact covering.covers level steps le state reached clause member
      · rw [SymbolicSystem.unprime_property]
        exact honest steps (Nat.le_trans le opened) state reached
  | @blocked states index below =>
      obtain ⟨sorted, unreached⟩ := honest (Nat.succ_pos _) below
      refine ⟨covering.sorted.addClause below sorted.negate, ?_⟩
      intro level steps le state reached clause member
      rcases mem_of_effective_addClause below member with member | ⟨blocked, rfl⟩
      · exact covering.covers level steps le state reached clause member
      · exact (Term.holds_negate sorted reached.fits).2
          (unreached steps (Nat.le_trans le blocked) state reached)
  | refused _ => exact covering
  | propagated steps =>
      have kept := Steps.covering steps ⟨covering.sorted, covering.covers⟩
      exact ⟨kept.sorted, kept.covers⟩

/-- Every level of a frame set, at any point of a run that blocks and opens honestly, admits the
states that are reached within its number of steps. The enumerating solver is one that may be
used. -/
theorem levels_cover_reached_states {bench : Workbench ω ε} {view : View ω}
    {start : Run ω ε} {state : FrameSet × Run ω ε}
    (modelled : bench.system = system.toTransitionSystem) (wellSorted : system.WellSorted)
    (sound : bench.solver.Sound I view) (free : (view.stack start.world).assertions = [])
    (reached : Runs bench (HonestCommand I system) (ofSystem bench.system, start) state) :
    (∀ level ≤ state.1.frontier, ∃ frame, state.1.states level = .ok frame ∧
      ∀ steps ≤ level, ∀ valuation : Valuation I, system.ReachableIn steps valuation →
        ∀ clause ∈ frame, clause.Holds valuation) ∧
    ∀ settings, (Enumerating.solver settings).Sound (.words Enumerating.range)
      Enumerating.view := by
  refine ⟨fun level le => ⟨_, states_of_le le, ?_⟩, fun settings =>
    (Enumerating.solver_exact settings).toSound⟩
  refine (Runs.induct (Covering I system) reached sound free ?_ ?_).1.covers level
  · rw [modelled]
    exact covering_ofSystem system
  · intro before command after honest change covering
    rw [modelled] at change
    exact change.covering wellSorted honest covering

theorem latch_level_covers_reached_states :
    ∃ frame, latchPropagated.1.states 2 = .ok frame ∧ .var "p" ∈ frame ∧
      ∀ steps ≤ 2, ∀ valuation : Valuation (.words Enumerating.range),
        SymbolicSystem.latch.ReachableIn steps valuation →
          ∀ clause ∈ frame, clause.Holds valuation := by
  have honest (frames : FrameSet) : HonestCommand (ω := World Enumerating.State)
      (.words Enumerating.range) SymbolicSystem.latch frames .openFrame :=
    fun _ _ _ => SymbolicSystem.latch_holds
  have sorted : (Term.var "p").HasSort SymbolicSystem.latch.stateSignature .bool :=
    .var (by decide)
  have blocks (frames : FrameSet) : HonestCommand (ω := World Enumerating.State)
      (.words Enumerating.range) SymbolicSystem.latch frames (.block (.not (.var "p")) 2) :=
    fun _ _ => ⟨.not sorted, fun _ _ _ reached =>
      (Term.holds_negate sorted.not reached.fits).1 (SymbolicSystem.latch_holds reached)⟩
  have reached : Runs latchBench
      (HonestCommand (.words Enumerating.range) SymbolicSystem.latch)
      (ofSystem latchBench.system, latchStart) latchPropagated :=
    .tail (.tail (.tail (.single ⟨.openFrame, honest _, rfl⟩) ⟨.openFrame, honest _, rfl⟩)
      ⟨.block _ 2, blocks _, rfl⟩) ⟨.propagate _, trivial, rfl⟩
  have frontier : latchPropagated.1.frontier = 2 := by decide +kernel
  have stored : Term.var "p" ∈ latchPropagated.1.effective 2 := by decide +kernel
  obtain ⟨covers, -⟩ := levels_cover_reached_states rfl SymbolicSystem.latch_wellSorted
    (Enumerating.solver_exact {}).toSound rfl reached
  obtain ⟨frame, held, admits⟩ := covers 2 (Nat.le_of_eq frontier.symm)
  exact ⟨frame, held, (of_states held).2 ▸ stored, admits⟩

end DeltaFrames.FrameSet
