import DeltaFrames.Proofs.FrameSet.Idempotence
import DeltaFrames.Proofs.FrameSet.Retention

/-!
# A finished propagation is saturated

What was judged about a level was judged when it was visited, and the frames change afterwards. But
later visits only move and drop clauses further up, which takes premises away from the level and
from the one above it, so nothing that was refused becomes possible (`Settled.steps`).
-/

namespace DeltaFrames.FrameSet

open StateAction

section Visits

variable {I : Interpretation} {system : TransitionSystem} {subsumption : Bool} {levels : List Nat}
  {before after : FrameSet} {reached : Bool}

theorem Visits.settles
    (visits : Visits (Truthful I system) system subsumption levels before after (some reached))
    (ascending : levels.Pairwise (· < ·)) (below : ∀ index ∈ levels, index + 1 < before.frontier) :
    ∀ index ∈ levels.take (visitsAmong after levels), Settled I system subsumption index after := by
  generalize isOutcome : some reached = outcome at visits
  induction visits with
  | finished => exact fun _ member => absurd member List.not_mem_nil
  | stopped _ => cases isOutcome
  | fixpoint visit empty =>
      rw [visitsAmong, if_pos empty, List.take_succ_cons, List.take_zero]
      exact List.forall_mem_singleton.2 (visit.settled (below _ List.mem_cons_self))
  | onward visit nonempty others ih =>
      obtain ⟨least, restAscending⟩ := List.pairwise_cons.1 ascending
      obtain ⟨stillBelow, settled, same⟩ := visit.left_behind others least below
      rw [← same] at nonempty
      rw [visitsAmong, if_neg (by rw [nonempty]; exact Bool.false_ne_true), List.take_succ_cons]
      exact List.forall_mem_cons.2 ⟨settled, ih restAscending stillBelow isOutcome⟩

theorem visitsAmong_le_length (frames : FrameSet) (levels : List Nat) :
    visitsAmong frames levels ≤ levels.length := by
  induction levels with
  | nil => exact Nat.le_refl _
  | cons index rest ih =>
      rw [visitsAmong, List.length_cons]
      split
      · exact Nat.succ_pos _
      · exact Nat.succ_le_succ ih

theorem levelsVisited_le (frames : FrameSet) : frames.levelsVisited ≤ frames.frontier - 1 := by
  have bounded := visitsAmong_le_length frames (List.range (frames.frontier - 1))
  rwa [List.length_range] at bounded

end Visits

section Settled

variable {I : Interpretation} {system : TransitionSystem} {subsumption : Bool} {index : Nat}
  {frames : FrameSet} (settled : Settled I system subsumption index frames) {clause : Term}
  (stored : clause ∈ frames.storedAt (index + 1))

include settled stored

theorem Settled.not_inductive :
    Satisfiable I system.declarations.signature
      (inductionQuery system (frames.effective (index + 1)) clause) :=
  contradictory_eq_false_iff.1 (settled.pushes clause stored)

theorem Settled.not_entailed (on : subsumption = true)
    (sorted : frames.ClausesSorted system.declarations.signature) {stronger : Term}
    (held : stronger ∈ frames.effective (index + 2)) :
    ¬ Entails I system.declarations.signature [stronger] clause := by
  intro entailed
  have refuted := (not_satisfiable_not_implies_iff (sorted.effective (Nat.succ_pos _) held)
    (sorted _ clause (Nat.succ_pos _) stored)).2 entailed
  exact refuted (contradictory_eq_false_iff.1 (settled.prunes on stronger held clause stored))

theorem Settled.not_stored_above (on : subsumption = true)
    (sorted : frames.ClausesSorted system.declarations.signature) {higher : Nat}
    (above : index + 1 < higher) : clause ∉ frames.storedAt higher := by
  intro again
  have held : clause ∈ frames.effective (index + 2) :=
    mem_effective_of_stored (Nat.succ_pos _) above again
  refine settled.not_entailed stored on sorted held fun _ _ holds => ?_
  exact List.forall_mem_singleton.1 holds

end Settled

variable {ω ε : Type} {I : Interpretation} {bench : Workbench ω ε} {view : View ω}

theorem propagate_settles {poll : ω → Except Cancellation.Interrupted Unit}
    {state after : FrameSet × Run ω ε} {reached : Bool}
    (exactSolver : bench.solver.Exact I view) (wellSorted : bench.system.WellSorted)
    (sorted : state.1.ClausesSorted bench.system.declarations.signature)
    (free : (view.stack state.2.world).assertions = [])
    (returned : propagate bench poll state = .ok reached after) :
    after.1.ClausesSorted bench.system.declarations.signature ∧
      ∀ index < after.1.levelsVisited,
        Settled I bench.system bench.options.subsumption index after.1 := by
  have course := propagate_course poll exactSolver.toDisciplined state.1 state.2 rfl
  rw [returned] at course
  have ledgerSorted : state.1.ledger.ClausesSorted bench.system.declarations.signature := sorted
  obtain ⟨truthful, afterSorted⟩ :=
    course.1.1.truthful (decisions_reliable exactSolver free) ledgerSorted wellSorted
  have below : ∀ index ∈ List.range (state.1.frontier - 1), index + 1 < state.1.ledger.frontier :=
    fun _ => lt_frontier_of_mem_range
  refine ⟨afterSorted, fun index visited => ?_⟩
  have sameStored (level : Nat) :
      (after.1.ledger.storedAt level).isEmpty = (after.1.storedAt level).isEmpty := rfl
  have sameVisits : after.1.ledger.levelsVisited = after.1.levelsVisited :=
    visitsAmong_congr sameStored _
  rw [← sameVisits] at visited
  have settled : Settled I bench.system bench.options.subsumption index after.1.ledger := by
    refine truthful.settles List.pairwise_lt_range below index ?_
    rw [List.take_range, List.mem_range, ← propagate_frontier returned]
    exact Nat.lt_min.2 ⟨visited, Nat.lt_of_lt_of_le visited (levelsVisited_le after.1.ledger)⟩
  exact ⟨settled.pushes, settled.prunes⟩

/-- Frames that were filled by well-sorted commands, with whatever solver, are saturated by a
propagation that succeeds with an exact one. At every level that it visited, no clause can be
pushed any more. With subsumption, none follows from a clause that holds at the next level, and so
none is stored a second time further up. -/
theorem finished_propagation_is_saturated {ω' ε' : Type} {origin : Workbench ω' ε'}
    {start : Run ω' ε'} {filled : FrameSet × Run ω' ε'} {entry : Run ω ε}
    {poll : ω → Except Cancellation.Interrupted Unit} {after : FrameSet × Run ω ε} {reached : Bool}
    (exactSolver : bench.solver.Exact I view) (wellSorted : bench.system.WellSorted)
    (sameSystem : origin.system = bench.system)
    (runs : Runs origin (WellSortedCommand origin.system) (ofSystem origin.system, start) filled)
    (free : (view.stack entry.world).assertions = [])
    (returned : propagate bench poll (filled.1, entry) = .ok reached after) :
    after.1.statistics.levelsPropagated =
        Counter.next^[after.1.levelsVisited] filled.1.statistics.levelsPropagated ∧
      ∀ level, 0 < level → level ≤ after.1.levelsVisited →
        ∃ here held above, after.1.stored level = .ok here ∧ after.1.states level = .ok held ∧
          after.1.states (level + 1) = .ok above ∧
          ∀ clause ∈ here,
            Satisfiable I bench.system.declarations.signature
              (bench.system.transition :: held.toList ++ [bench.system.prime clause.negate]) ∧
            (bench.options.subsumption = true →
              (∀ stronger ∈ above,
                ¬ Entails I bench.system.declarations.signature [stronger] clause) ∧
              ∀ higher frame, level < higher → after.1.stored higher = .ok frame →
                clause ∉ frame) := by
  have sorted : filled.1.ClausesSorted bench.system.declarations.signature := by
    rw [← sameSystem] at wellSorted ⊢
    exact runs.clausesSorted wellSorted
  obtain ⟨afterSorted, settles⟩ := propagate_settles exactSolver wellSorted sorted free returned
  refine ⟨propagate_levels returned (propagate_frontier returned), fun level positive visited => ?_⟩
  obtain ⟨index, rfl⟩ : ∃ index, level = index + 1 := ⟨level - 1, by omega⟩
  have settled := settles index visited
  have inside : index + 2 ≤ after.1.frontier := by
    have bounded := Nat.le_trans visited (levelsVisited_le after.1)
    omega
  refine ⟨_, _, _, stored_of_le (Nat.le_of_succ_le inside), states_of_le (Nat.le_of_succ_le inside),
    states_of_le inside, fun clause stored => ⟨settled.not_inductive stored, fun on => ⟨?_, ?_⟩⟩⟩
  · exact fun stronger held => settled.not_entailed stored on afterSorted held
  · intro higher frame above found
    obtain ⟨-, rfl⟩ := of_stored found
    exact settled.not_stored_above stored on afterSorted above

theorem flicker_finished_propagation_is_saturated :
    ∃ after held, propagate (flickerBench.subsuming true) (fun _ => .ok ()) flickerFilled =
        .ok false after ∧
      after.1.levelsVisited = 1 ∧ after.1.states 1 = .ok held ∧
      .binary .eq (.var "p") (.var "q") ∈ after.1.storedAt 1 ∧
      Satisfiable (.words Enumerating.range) flickerBench.system.declarations.signature
        (flickerBench.system.transition :: held.toList ++
          [flickerBench.system.prime (Term.binary .eq (.var "p") (.var "q")).negate]) := by
  have free : (Enumerating.view.stack flickerFilled.2.world).assertions = [] := by decide +kernel
  have left : (finalState (propagate (flickerBench.subsuming true) (fun _ => .ok ())
        flickerFilled)).1.levelsVisited = 1 ∧
      .binary .eq (.var "p") (.var "q") ∈ (finalState (propagate (flickerBench.subsuming true)
        (fun _ => .ok ()) flickerFilled)).1.storedAt 1 := by decide +kernel
  obtain ⟨after, ends⟩ := eq_ok_of_returned (show returned (propagate (flickerBench.subsuming true)
    (fun _ => .ok ()) flickerFilled) = some false by decide +kernel)
  rw [ends] at left
  obtain ⟨visited, stays⟩ := left
  obtain ⟨-, saturated⟩ := finished_propagation_is_saturated (Enumerating.solver_exact {})
    flicker_wellSorted.toTransitionSystem rfl flickerFilled_reached free ends
  obtain ⟨here, held, above, stored, found, -, clauses⟩ :=
    saturated 1 Nat.one_pos (Nat.le_of_eq visited.symm)
  obtain ⟨-, rfl⟩ := of_stored stored
  exact ⟨after, held, ends, visited, found, stays, (clauses _ stays).1⟩

end DeltaFrames.FrameSet
