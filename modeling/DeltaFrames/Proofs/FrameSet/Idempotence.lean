import DeltaFrames.Proofs.FrameSet.Decisions
import DeltaFrames.Proofs.FrameSet.Extent

/-!
# A second propagation changes nothing

Each level that was visited was left with nothing to move or drop, and what happens later further up
gives no new reason to (`Settled.steps`). So the levels are found as they were left.
-/

namespace DeltaFrames.FrameSet

open StateAction

section Visits

variable {I : Interpretation} {system : TransitionSystem} {subsumption : Bool} {index : Nat}
  {levels rest : List Nat} {before between after : FrameSet}

theorem Visit.left_behind {outcome : Option Bool}
    (visit : Visit (Truthful I system) system subsumption index true before between)
    (others : Visits (Truthful I system) system subsumption rest between after outcome)
    (least : ∀ other ∈ rest, index < other)
    (below : ∀ other ∈ index :: rest, other + 1 < before.frontier) :
    (∀ other ∈ rest, other + 1 < between.frontier) ∧
      Settled I system subsumption index after ∧
      after.storedAt (index + 1) = between.storedAt (index + 1) := by
  obtain ⟨here, restBelow⟩ := List.forall_mem_cons.1 below
  have frontier := Steps.frontier_eq (visit.steps truthful_refutes (Nat.zero_le _) here)
  have stillBelow : ∀ other ∈ rest, other + 1 < between.frontier :=
    fun other member => frontier ▸ restBelow other member
  have steps := others.steps truthful_refutes least stillBelow
  exact ⟨stillBelow, (visit.settled here).steps steps,
    Steps.storedAt_below steps (Nat.le_refl _)⟩

theorem Visits.repeated {reached : Bool}
    (visits : Visits (Truthful I system) system subsumption levels before after (some reached))
    (ascending : levels.Pairwise (· < ·)) (below : ∀ index ∈ levels, index + 1 < before.frontier) :
    visitedAll I system subsumption levels after = (reached, after) := by
  generalize isOutcome : some reached = outcome at visits
  induction visits with
  | finished => cases isOutcome; rfl
  | stopped _ => cases isOutcome
  | fixpoint visit empty =>
      cases isOutcome
      have settled := visit.settled (below _ List.mem_cons_self)
      rw [visitedAll, settled.visited_eq_self, if_pos empty]
  | onward visit nonempty others ih =>
      obtain ⟨least, restAscending⟩ := List.pairwise_cons.1 ascending
      obtain ⟨stillBelow, settled, same⟩ := visit.left_behind others least below
      rw [← same] at nonempty
      rw [visitedAll, settled.visited_eq_self, if_neg (by rw [nonempty]; exact Bool.false_ne_true)]
      exact ih restAscending stillBelow isOutcome

end Visits

variable {ω ε : Type} {I : Interpretation} {bench : Workbench ω ε} {view : View ω}

/-- A propagation that succeeded may be repeated at once: the second one succeeds with the same
verdict, moves and drops nothing, and counts as many levels as the first one did. -/
theorem propagation_is_idempotent {start : Run ω ε} {state once : FrameSet × Run ω ε}
    {poll again : ω → Except Cancellation.Interrupted Unit} {reached : Bool}
    (decisive : bench.solver.Decisive I view) (wellSorted : bench.system.WellSorted)
    (free : (view.stack start.world).assertions = [])
    (runs : Runs bench (WellSortedCommand bench.system) (ofSystem bench.system, start) state)
    (first : propagate bench poll state = .ok reached once)
    (patient : Patient bench.solver again once.2.world) :
    ∃ twice, propagate bench again once = .ok reached twice ∧
      (∀ level, twice.1.stored level = once.1.stored level) ∧
      twice.1.statistics.clauses = once.1.statistics.clauses ∧
      twice.1.statistics.clausesAdded = once.1.statistics.clausesAdded ∧
      twice.1.statistics.subsumedClauses = once.1.statistics.subsumedClauses ∧
      twice.1.statistics.propagatedClauses = once.1.statistics.propagatedClauses ∧
      once.1.statistics.levelsPropagated =
        Counter.next^[once.1.levelsVisited] state.1.statistics.levelsPropagated ∧
      twice.1.statistics.levelsPropagated =
        Counter.next^[once.1.levelsVisited] once.1.statistics.levelsPropagated := by
  obtain ⟨guarded, stillFree⟩ := Runs.guarded runs decisive.toSound wellSorted free
    (guarded_ofSystem I bench.system)
  have course := propagate_course poll decisive.toDisciplined state.1 state.2 rfl
  rw [first] at course
  obtain ⟨⟨visits, onceCount⟩, stack⟩ := course
  have startSorted : state.1.ledger.ClausesSorted bench.system.declarations.signature :=
    guarded.sorted
  have ⟨truthful, ledgerSorted⟩ :=
    visits.truthful (decisions_reliable decisive.toExact stillFree) startSorted wellSorted
  have onceSorted : once.1.ClausesSorted bench.system.declarations.signature := ledgerSorted
  have below : ∀ index ∈ List.range (state.1.frontier - 1), index + 1 < state.1.ledger.frontier :=
    fun _ => lt_frontier_of_mem_range
  have ledgerFrontier :=
    Steps.frontier_eq (truthful.steps truthful_refutes (fun index _ => Nat.zero_le index) below)
  have frontier : once.1.frontier = state.1.frontier := ledgerFrontier
  have onceFree : (view.stack once.2.world).assertions = [] := stack ▸ stillFree
  obtain ⟨verdict, twice, second⟩ :=
    propagate_decided decisive wellSorted onceSorted onceFree patient
  have ⟨twiceEnd, twiceCount⟩ :=
    propagate_outcome decisive.toExact wellSorted onceSorted onceFree second
  rw [frontier, truthful.repeated List.pairwise_lt_range below] at twiceEnd
  obtain ⟨rfl, sameLedger⟩ := Prod.mk.inj twiceEnd
  have sameStored (level : Nat) : twice.1.storedAt level = once.1.storedAt level :=
    (congrArg (·.storedAt level) sameLedger).symm
  have sameFrontier : twice.1.frontier = once.1.frontier := (congrArg FrameSet.frontier sameLedger).symm
  have sameVisits : twice.1.levelsVisited = once.1.levelsVisited := by
    rw [levelsVisited, levelsVisited, sameFrontier, visitsAmong_congr fun level =>
      congrArg OrderedSet.isEmpty (sameStored level)]
  have sameClauses : twice.1.storedClauses = once.1.storedClauses :=
    (congrArg storedClauses sameLedger).symm
  refine ⟨twice, second, fun level => ?_, ?_, ?_, ?_, ?_, propagate_levels first frontier, ?_⟩
  · exact (congrArg (·.stored level) sameLedger).symm
  · rw [twiceCount, onceCount, sameClauses]
  · exact (congrArg (·.statistics.clausesAdded) sameLedger).symm
  · exact (congrArg (·.statistics.subsumedClauses) sameLedger).symm
  · exact (congrArg (·.statistics.propagatedClauses) sameLedger).symm
  · rw [← sameVisits]
    exact propagate_levels second sameFrontier

theorem latch_propagation_is_idempotent :
    ∃ once twice : FrameSet × Run (World Enumerating.State) Enumerating.Error,
      propagate latchBench (fun _ => .ok ())
        (finalState (perform latchBench .openFrame latchOpened)) = .ok true once ∧
      propagate latchBench (fun _ => .ok ()) once = .ok true twice ∧
      ∀ level, twice.1.stored level = once.1.stored level := by
  obtain ⟨once, first⟩ := eq_ok_of_returned (show returned (propagate latchBench
    (fun _ => .ok ()) (finalState (perform latchBench .openFrame latchOpened))) = some true by
      decide +kernel)
  obtain ⟨twice, second, same, -⟩ := propagation_is_idempotent
    (Enumerating.solver_decisive none) SymbolicSystem.latch_wellSorted.toTransitionSystem rfl
    (runs_openTwice latchBench latchStart) first fun _ _ => rfl
  exact ⟨once, twice, first, second, same⟩

end DeltaFrames.FrameSet
