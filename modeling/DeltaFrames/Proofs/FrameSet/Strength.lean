import DeltaFrames.Proofs.FrameSet.Runs
import DeltaFrames.Proofs.Solver.Enumerating

namespace DeltaFrames.FrameSet

open Relation StateAction

variable {ω ε : Type} {I : Interpretation} {system : TransitionSystem}

def WellSortedCommand (system : TransitionSystem) (_ : FrameSet) : Command ω → Prop
  | .block states _ => states.HasSort system.declarations.signature .bool
  | _ => True

def Excludes (I : Interpretation) (system : TransitionSystem) (states : Term) (level : Nat)
    (frames : FrameSet) : Prop :=
  ∀ below, 0 < below → below ≤ level → ∀ valuation : Valuation I,
    valuation.Fits system.declarations.signature → frames.Admits below valuation →
      ¬ states.Holds valuation

structure Guarded (I : Interpretation) (system : TransitionSystem) (frames : FrameSet) : Prop where
  sorted : frames.ClausesSorted system.declarations.signature
  safe : ∀ level, 0 < level → level ≤ frames.frontier → ∀ valuation : Valuation I,
    valuation.Fits system.declarations.signature → frames.Admits level valuation →
      (system.unprime system.property).Holds valuation

theorem clausesSorted_ofSystem (system : TransitionSystem) (signature : Signature) :
    (ofSystem system).ClausesSorted signature := by
  intro level clause positive stored
  exact absurd (le_frontier_of_stored stored) (Nat.not_le_of_lt positive)

theorem guarded_ofSystem (I : Interpretation) (system : TransitionSystem) :
    Guarded I system (ofSystem system) where
  sorted := clausesSorted_ofSystem system _
  safe := fun _ positive le => absurd le (Nat.not_le_of_lt positive)

section Change

variable {before after : FrameSet} {command : Command ω} {signature : Signature}

theorem Change.clausesSorted (change : Change I system before command after)
    (wellSorted : system.WellSorted) (allowed : WellSortedCommand system before command)
    (sorted : before.ClausesSorted system.declarations.signature) :
    after.ClausesSorted system.declarations.signature := by
  cases change with
  | opened => exact sorted.openNext wellSorted.property
  | blocked below => exact sorted.addClause below (Term.HasSort.negate allowed)
  | refused _ => exact sorted
  | propagated steps =>
      have kept := Steps.clausesSorted steps sorted
      exact kept

theorem Change.admits (change : Change I system before command after)
    (sorted : before.ClausesSorted signature)
    (larger : signature.Extends system.declarations.signature) {level : Nat}
    {valuation : Valuation I} (fits : valuation.Fits signature)
    (admits : after.Admits level valuation) : before.Admits level valuation := by
  cases change with
  | opened => exact fun clause member => admits clause (mem_effective_openNext_of_mem member)
  | blocked below =>
      exact fun clause member => admits clause (mem_effective_addClause_of_mem below member)
  | refused _ => exact admits
  | propagated steps =>
      have kept := Steps.admits steps sorted larger fits admits
      exact kept

theorem Change.guarded (change : Change I system before command after)
    (wellSorted : system.WellSorted) (allowed : WellSortedCommand system before command)
    (guarded : Guarded I system before) : Guarded I system after where
  sorted := change.clausesSorted wellSorted allowed guarded.sorted
  safe := by
    intro level positive le valuation fits admits
    have earlier (inside : level ≤ before.frontier) :
        (system.unprime system.property).Holds valuation :=
      guarded.safe level positive inside valuation fits
        (change.admits guarded.sorted (fun _ _ known => known) fits admits)
    cases change with
    | opened =>
        rw [frontier_openNext] at le
        exact admits _ ((mem_effective_openNext positive).2 (.inr ⟨le, rfl⟩))
    | blocked _ => exact earlier (by rwa [frontier_addClause] at le)
    | refused _ => exact earlier le
    | propagated steps =>
        have same := Steps.frontier_eq steps
        exact earlier (Nat.le_trans le (Nat.le_of_eq same))

theorem Change.excludes (change : Change I system before command after)
    (sorted : before.ClausesSorted system.declarations.signature) {states : Term} {level : Nat}
    (excluded : Excludes I system states level before) :
    Excludes I system states level after :=
  fun below positive le valuation fits admits =>
    excluded below positive le valuation fits
      (change.admits sorted (fun _ _ known => known) fits admits)

end Change

theorem excludes_addClause {frames : FrameSet} {index : Nat} {states : Term}
    (below : index < frames.frontier)
    (sorted : states.HasSort system.declarations.signature .bool) :
    Excludes I system states (index + 1) (frames.addClause index states.negate) := by
  intro level positive le valuation fits admits
  refine (Term.holds_negate sorted fits).1 (admits _ ?_)
  exact (mem_effective_addClause below positive).2 (.inr ⟨le, rfl⟩)

section Runs

variable {bench : Workbench ω ε} {view : View ω} {start state : FrameSet × Run ω ε}

theorem Runs.guarded (runs : Runs bench (WellSortedCommand bench.system) start state)
    (sound : bench.solver.Sound I view) (wellSorted : bench.system.WellSorted)
    (free : (view.stack start.2.world).assertions = [])
    (guarded : Guarded I bench.system start.1) :
    Guarded I bench.system state.1 ∧ (view.stack state.2.world).assertions = [] :=
  Runs.induct (Guarded I bench.system) runs sound free guarded fun _ _ _ allowed change guarded =>
    change.guarded wellSorted allowed guarded

theorem Runs.excludes (runs : Runs bench (WellSortedCommand bench.system) start state)
    (sound : bench.solver.Sound I view) (wellSorted : bench.system.WellSorted)
    (free : (view.stack start.2.world).assertions = []) (guarded : Guarded I bench.system start.1)
    {states : Term} {level : Nat} (excluded : Excludes I bench.system states level start.1) :
    Excludes I bench.system states level state.1 :=
  (Runs.induct (fun frames => Guarded I bench.system frames ∧
      Excludes I bench.system states level frames) runs sound free ⟨guarded, excluded⟩
    fun _ _ _ allowed change holds =>
      ⟨change.guarded wellSorted allowed holds.1, change.excludes holds.1.sorted holds.2⟩).1.2

/-- In every run of a frame set, blocked states stay excluded from the levels they were blocked at,
every level above 0 entails the property, and a propagation, whether it succeeds or not, keeps the
meaning of level 1 and weakens none of the others. -/
theorem blocked_states_stay_excluded (sound : bench.solver.Sound I view)
    (wellSorted : bench.system.WellSorted) {run : Run ω ε}
    (free : (view.stack run.world).assertions = [])
    (reached : Runs bench (WellSortedCommand bench.system) (ofSystem bench.system, run) state) :
    (∀ states level reply blocked later,
      states.HasSort bench.system.declarations.signature .bool →
      perform bench (.block states level) state = .ok reply blocked →
      Runs bench (WellSortedCommand bench.system) blocked later →
      Excludes I bench.system states level later.1) ∧
    (∀ level, 0 < level → level ≤ state.1.frontier → ∀ valuation : Valuation I,
      valuation.Fits bench.system.declarations.signature → state.1.Admits level valuation →
        (bench.system.unprime bench.system.property).Holds valuation) ∧
    ∀ poll after, finalState (perform bench (.propagate poll) state) = after →
      ∀ valuation : Valuation I, valuation.Fits bench.system.declarations.signature →
        (after.1.Admits 1 valuation ↔ state.1.Admits 1 valuation) ∧
        ∀ level, 1 < level → after.1.Admits level valuation → state.1.Admits level valuation := by
  obtain ⟨guarded, stillFree⟩ := Runs.guarded reached sound wellSorted free
    (guarded_ofSystem I bench.system)
  refine ⟨?_, guarded.safe, ?_⟩
  · intro states level reply blocked later sorted accepted onward
    obtain ⟨index, rfl, below, frames, world⟩ := of_perform_block_ok accepted
    have change : Change I bench.system state.1 (.block (ω := ω) states (index + 1)) blocked.1 :=
      frames ▸ .blocked below
    refine Runs.excludes onward sound wellSorted (world ▸ stillFree)
      (change.guarded wellSorted sorted guarded) ?_
    rw [frames]
    exact excludes_addClause below sorted
  · rintro poll after rfl valuation fits
    obtain ⟨steps, -⟩ := perform_propagate sound state.1 state.2 stillFree poll
    have weakens (level : Nat)
        (admits : (finalState (perform bench (.propagate poll) state)).1.Admits level valuation) :
        state.1.Admits level valuation := by
      have kept := Steps.admits steps guarded.sorted (fun _ _ known => known) fits admits
      exact kept
    refine ⟨⟨weakens 1, fun admits clause member => ?_⟩, fun level _ => weakens level⟩
    exact admits clause (Steps.effective_subset steps Nat.one_pos (Nat.le_refl 1) member)

end Runs

theorem runs_openTwice (bench : Workbench ω ε) (run : Run ω ε) :
    Runs bench (WellSortedCommand bench.system) (ofSystem bench.system, run)
      (finalState (perform bench .openFrame
        (finalState (perform bench .openFrame (ofSystem bench.system, run))))) :=
  .tail (.single ⟨.openFrame, trivial, rfl⟩) ⟨.openFrame, trivial, rfl⟩

def latchBench : Workbench (World Enumerating.State) Enumerating.Error where
  system := SymbolicSystem.latch.toTransitionSystem
  options := {}
  solver := Enumerating.solver {}
  clock := World.clock

def latchStart : Run (World Enumerating.State) Enumerating.Error where
  world := { solver := {}, tokens := {} }

def latchOpened : FrameSet × Run (World Enumerating.State) Enumerating.Error :=
  finalState (perform latchBench .openFrame (ofSystem latchBench.system, latchStart))

def latchBlocked : FrameSet × Run (World Enumerating.State) Enumerating.Error :=
  finalState (perform latchBench (.block (.not (.var "p")) 2)
    (finalState (perform latchBench .openFrame latchOpened)))

def latchPropagated : FrameSet × Run (World Enumerating.State) Enumerating.Error :=
  finalState (perform latchBench (.propagate fun _ => .ok ()) latchBlocked)

/-- The clause has left level 1, and yet the states are excluded there. -/
theorem latch_blocked_states_stay_excluded :
    (latchBlocked.1.storedAt 1).isEmpty = false ∧
    (latchPropagated.1.storedAt 1).isEmpty = true ∧
    Excludes (.words Enumerating.range) latchBench.system (.not (.var "p")) 2 latchPropagated.1 ∧
    ∀ valuation : Valuation (.words Enumerating.range),
      valuation.Fits latchBench.system.declarations.signature →
        (latchBlocked.1.Admits 2 valuation → (Term.var "p").Holds valuation) ∧
        (latchPropagated.1.Admits 1 valuation ↔ latchBlocked.1.Admits 1 valuation) ∧
        (latchPropagated.1.Admits 2 valuation → latchBlocked.1.Admits 2 valuation) := by
  have sorted : (Term.not (.var "p")).HasSort latchBench.system.declarations.signature .bool :=
    .not (.var (by decide))
  have opened := runs_openTwice latchBench latchStart
  have propagates : Runs latchBench (WellSortedCommand latchBench.system) latchBlocked
      latchPropagated :=
    .single ⟨.propagate _, trivial, rfl⟩
  have accepted : perform latchBench (.block (.not (.var "p")) 2)
      (finalState (perform latchBench .openFrame latchOpened)) = .ok .done latchBlocked :=
    perform_block latchBench _ (.not (.var "p"))
      (show 1 < (finalState (perform latchBench .openFrame latchOpened)).1.frontier from
        Nat.lt_succ_self 1)
  have sound := Enumerating.solver_exact {}
  have wellSorted := SymbolicSystem.latch_wellSorted.toTransitionSystem
  obtain ⟨excluded, -⟩ := blocked_states_stay_excluded sound.toSound wellSorted rfl opened
  obtain ⟨-, safe, kept⟩ := blocked_states_stay_excluded sound.toSound wellSorted rfl
    (opened.tail ⟨.block _ 2, sorted, rfl⟩)
  refine ⟨by decide +kernel, by decide +kernel,
    excluded _ _ _ _ _ sorted accepted propagates, fun valuation fits => ?_⟩
  obtain ⟨same, weakens⟩ := kept _ latchPropagated rfl valuation fits
  exact ⟨safe 2 Nat.two_pos (by decide +kernel) valuation fits, same,
    weakens 2 (Nat.lt_succ_self 1)⟩

end DeltaFrames.FrameSet
