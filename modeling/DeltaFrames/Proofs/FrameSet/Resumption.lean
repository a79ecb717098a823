import DeltaFrames.Proofs.FrameSet.Faults
import DeltaFrames.Proofs.FrameSet.Outcome
import DeltaFrames.Proofs.FrameSet.Strength

/-!
# Resuming a propagation

As long as the clauses are Boolean terms over the declared variables, an exact solver answers every
query of a propagation truthfully (`Visits.truthful`). What is done is then determined by the
frames, so a propagation that was broken off at whatever point can be resumed without changing the
outcome (`interrupted_propagation_resumes`).
-/

namespace DeltaFrames.FrameSet

open StateAction

def Reliable (I : Interpretation) (system : TransitionSystem)
    (answers : List Term → Bool → Prop) : Prop :=
  ∀ query unsat, (∀ term ∈ query, term.HasSort system.declarations.signature .bool) →
    answers query unsat → Truthful I system query unsat

section Truthful

variable {I : Interpretation} {system : TransitionSystem} {answers : List Term → Bool → Prop}
  {subsumption whole : Bool} {index : Nat} {before after : FrameSet}

theorem inductionQuery_sorted (wellSorted : system.WellSorted) {states : Frame} {clause : Term}
    (statesSorted : ∀ other ∈ states, other.HasSort system.declarations.signature .bool)
    (sorted : clause.HasSort system.declarations.signature .bool) :
    ∀ term ∈ inductionQuery system states clause,
      term.HasSort system.declarations.signature .bool := by
  intro term member
  rcases List.mem_append.1 member with premise | goal
  · rcases List.mem_cons.1 premise with rfl | state
    · exact wellSorted.transition
    · exact statesSorted term (OrderedSet.mem_toList.1 state)
  · rw [List.mem_singleton.1 goal]
    exact wellSorted.prime _ sorted.negate

theorem subsumptionQuery_sorted {signature : Signature} {stronger clause : Term}
    (strongerSorted : stronger.HasSort signature .bool) (sorted : clause.HasSort signature .bool) :
    ∀ term ∈ subsumptionQuery stronger clause, term.HasSort signature .bool :=
  List.forall_mem_singleton.2 (.not (strongerSorted.implies sorted))

theorem Sweep.imp {answers' : List Term → Bool → Prop} {query : Term → List Term}
    {act : FrameSet → Term → FrameSet} {clauses : List Term}
    (sweep : Sweep answers query act whole clauses before after)
    (agree : ∀ clause ∈ clauses, ∀ unsat, answers (query clause) unsat →
      answers' (query clause) unsat) :
    Sweep answers' query act whole clauses before after := by
  induction sweep with
  | finished => exact .finished
  | stopped => exact .stopped
  | refuted answered _ ih =>
      have ⟨here, others⟩ := List.forall_mem_cons.1 agree
      exact .refuted (here true answered) (ih others)
  | satisfied answered _ ih =>
      have ⟨here, others⟩ := List.forall_mem_cons.1 agree
      exact .satisfied (here false answered) (ih others)

theorem Sweep.keeps {query : Term → List Term} {act : FrameSet → Term → FrameSet}
    {clauses : List Term} (sweep : Sweep answers query act whole clauses before after)
    (invariant : FrameSet → Prop)
    (kept : ∀ clause ∈ clauses, ∀ frames, invariant frames → invariant (act frames clause))
    (holds : invariant before) : invariant after := by
  induction sweep with
  | finished => exact holds
  | stopped => exact holds
  | refuted _ _ ih =>
      have ⟨here, others⟩ := List.forall_mem_cons.1 kept
      exact ih others (here _ holds)
  | satisfied _ _ ih => exact ih (List.forall_mem_cons.1 kept).2 holds

variable (reliable : Reliable I system answers)
  (sorted : before.ClausesSorted system.declarations.signature)

include sorted in
theorem Pushes.clausesSorted (pushes : Pushes answers system index whole before after) :
    after.ClausesSorted system.declarations.signature :=
  Sweep.keeps pushes (·.ClausesSorted system.declarations.signature)
    (fun clause stored _ kept => kept.promote (sorted _ clause (Nat.succ_pos _) stored)) sorted

include reliable sorted

theorem Pushes.truthful (pushes : Pushes answers system index whole before after)
    (wellSorted : system.WellSorted) : Pushes (Truthful I system) system index whole before after :=
  Sweep.imp pushes fun clause stored _ => reliable _ _ <| inductionQuery_sorted wellSorted
    (fun _ => sorted.effective (Nat.succ_pos _)) (sorted _ clause (Nat.succ_pos _) stored)

theorem Sweep.truthful_discards {stronger : Term}
    (strongerSorted : stronger.HasSort system.declarations.signature .bool)
    (sweep : Sweep answers (subsumptionQuery stronger) (discard · index) whole
      (before.storedAt (index + 1)).toList before after) :
    Sweep (Truthful I system) (subsumptionQuery stronger) (discard · index) whole
      (before.storedAt (index + 1)).toList before after :=
  sweep.imp fun clause stored _ => reliable _ _ <|
    subsumptionQuery_sorted strongerSorted (sorted _ clause (Nat.succ_pos _) stored)

theorem Prunes.truthful {clauses : List Term}
    (prunes : Prunes answers index whole clauses before after)
    (clausesSorted : ∀ clause ∈ clauses, clause.HasSort system.declarations.signature .bool) :
    Prunes (Truthful I system) index whole clauses before after ∧
      after.ClausesSorted system.declarations.signature := by
  have kept {stronger : Term} {whole : Bool} {before after : FrameSet}
      (sorted : before.ClausesSorted system.declarations.signature)
      (sweep : Sweep answers (subsumptionQuery stronger) (discard · index) whole
        (before.storedAt (index + 1)).toList before after) :
      after.ClausesSorted system.declarations.signature :=
    sweep.keeps (·.ClausesSorted system.declarations.signature) (fun _ _ _ kept => kept.discard)
      sorted
  induction prunes with
  | finished => exact ⟨.finished, sorted⟩
  | stopped sweep =>
      have strongerSorted := clausesSorted _ List.mem_cons_self
      exact ⟨.stopped (sweep.truthful_discards reliable sorted strongerSorted), kept sorted sweep⟩
  | onward sweep _ ih =>
      have ⟨here, others⟩ := List.forall_mem_cons.1 clausesSorted
      have ⟨rest, restSorted⟩ := ih (kept sorted sweep) others
      exact ⟨.onward (sweep.truthful_discards reliable sorted here) rest, restSorted⟩

theorem Visit.truthful (visit : Visit answers system subsumption index whole before after)
    (wellSorted : system.WellSorted) :
    Visit (Truthful I system) system subsumption index whole before after ∧
      after.ClausesSorted system.declarations.signature := by
  cases visit with
  | pushing pushes =>
      exact ⟨.pushing (pushes.truthful reliable sorted wellSorted), pushes.clausesSorted sorted⟩
  | pushed pushes off =>
      exact ⟨.pushed (pushes.truthful reliable sorted wellSorted) off, pushes.clausesSorted sorted⟩
  | pruned pushes on prunes =>
      have between := pushes.clausesSorted sorted
      have ⟨truthful, after⟩ := prunes.truthful reliable between fun clause held =>
        between.effective (Nat.succ_pos _) (OrderedSet.mem_toList.1 held)
      exact ⟨.pruned (pushes.truthful reliable sorted wellSorted) on truthful, after⟩

theorem Visits.truthful {levels : List Nat} {outcome : Option Bool}
    (visits : Visits answers system subsumption levels before after outcome)
    (wellSorted : system.WellSorted) :
    Visits (Truthful I system) system subsumption levels before after outcome ∧
      after.ClausesSorted system.declarations.signature := by
  induction visits with
  | finished => exact ⟨.finished, sorted⟩
  | stopped visit => exact (visit.truthful reliable sorted wellSorted).imp_left .stopped
  | fixpoint visit empty =>
      exact (visit.truthful reliable sorted wellSorted).imp_left (.fixpoint · empty)
  | onward visit nonempty _ ih =>
      have ⟨first, between⟩ := visit.truthful reliable sorted wellSorted
      exact (ih between).imp_left (.onward first nonempty)

end Truthful

section Exact

variable {ω ε : Type} {I : Interpretation} {bench : Workbench ω ε} {view : View ω}
  {poll : ω → Except Cancellation.Interrupted Unit} {frames : FrameSet} {run : Run ω ε}
  {after : FrameSet × Run ω ε}

theorem decisions_reliable (exactSolver : bench.solver.Exact I view) {base : ScopeStack}
    (free : base.assertions = []) : Reliable I bench.system (decisions bench view base) := by
  intro query unsat sorted decided
  rw [decisions, free, List.nil_append] at decided
  cases unsat with
  | true => exact contradictory_iff.2 (exactSolver.toSound.not_satisfiable decided)
  | false => exact contradictory_eq_false_iff.2 (exactSolver.satisfiable sorted decided)

variable (exactSolver : bench.solver.Exact I view) (wellSorted : bench.system.WellSorted)
  (sorted : frames.ClausesSorted bench.system.declarations.signature)
  (free : (view.stack run.world).assertions = [])

include exactSolver wellSorted sorted free

theorem propagate_outcome {reached : Bool}
    (returned : propagate bench poll (frames, run) = .ok reached after) :
    visitedAll I bench.system bench.options.subsumption (List.range (frames.frontier - 1))
        frames.ledger = (reached, after.1.ledger) ∧
      after.1.statistics.clauses = Counter.ofNat after.1.storedClauses := by
  have course := propagate_course poll exactSolver.toDisciplined frames run rfl
  rw [returned] at course
  have ledgerSorted : frames.ledger.ClausesSorted bench.system.declarations.signature := sorted
  have truthful := course.1.1.truthful (decisions_reliable exactSolver free) ledgerSorted wellSorted
  exact ⟨truthful.1.outcome, course.1.2⟩

theorem propagate_broken {error : FrameSetError ε}
    (broken : propagate bench poll (frames, run) = .error error after) :
    after.1.frontier = frames.frontier ∧
      visitedAll I bench.system bench.options.subsumption (List.range (frames.frontier - 1))
          after.1.ledger =
        visitedAll I bench.system bench.options.subsumption (List.range (frames.frontier - 1))
          frames.ledger ∧
      after.1.ClausesSorted bench.system.declarations.signature ∧
      view.stack after.2.world = view.stack run.world := by
  have course := propagate_course poll exactSolver.toDisciplined frames run rfl
  rw [broken] at course
  obtain ⟨same | ⟨visits, -⟩, stack⟩ := course
  · rw [same]
    exact ⟨rfl, rfl, sorted, stack⟩
  · have ledgerSorted : frames.ledger.ClausesSorted bench.system.declarations.signature := sorted
    have ⟨truthful, afterSorted⟩ :=
      visits.truthful (decisions_reliable exactSolver free) ledgerSorted wellSorted
    have below : ∀ index ∈ List.range (frames.frontier - 1),
        index + 1 < frames.ledger.frontier := fun _ => lt_frontier_of_mem_range
    have frontier := Steps.frontier_eq
      (truthful.steps truthful_refutes (fun index _ => Nat.zero_le index) below)
    exact ⟨frontier, truthful.resumed List.pairwise_lt_range below, afterSorted, stack⟩

end Exact

/-- A propagation that was broken off, for whatever reason, leaves no assertion behind. If another
one follows and is left alone, the verdict, the stored clauses in their order and the counters of
clauses are those of a single propagation that is left alone. -/
theorem interrupted_propagation_resumes {ω ε : Type} {I : Interpretation} {bench : Workbench ω ε}
    {view : View ω} {poll : ω → Except Cancellation.Interrupted Unit} {start : Run ω ε}
    {state aborted : FrameSet × Run ω ε} {error : FrameSetError ε}
    (exactSolver : bench.solver.Exact I view) (wellSorted : bench.system.WellSorted)
    (free : (view.stack start.world).assertions = [])
    (reached : Runs bench (WellSortedCommand bench.system) (ofSystem bench.system, start) state)
    (broken : propagate bench poll state = .error error aborted) :
    (view.stack aborted.2.world).assertions = [] ∧
    ∀ (resumedPoll singlePoll : ω → Except Cancellation.Interrupted Unit)
      (restarted alone : FrameSet × Run ω ε), restarted.1 = aborted.1 → alone.1 = state.1 →
      (view.stack restarted.2.world).assertions = [] →
      (view.stack alone.2.world).assertions = [] →
      Undisturbed bench resumedPoll restarted → Undisturbed bench singlePoll alone →
      ∃ verdict resumed single,
        propagate bench resumedPoll restarted = .ok verdict resumed ∧
        propagate bench singlePoll alone = .ok verdict single ∧
        (∀ level, resumed.1.stored level = single.1.stored level) ∧
        resumed.1.statistics.clauses = single.1.statistics.clauses ∧
        resumed.1.statistics.clausesAdded = single.1.statistics.clausesAdded ∧
        resumed.1.statistics.subsumedClauses = single.1.statistics.subsumedClauses ∧
        resumed.1.statistics.propagatedClauses = single.1.statistics.propagatedClauses := by
  obtain ⟨guarded, stillFree⟩ := Runs.guarded reached exactSolver.toSound wellSorted free
    (guarded_ofSystem I bench.system)
  obtain ⟨frontier, sameEnd, abortedSorted, stack⟩ :=
    propagate_broken exactSolver wellSorted guarded.sorted stillFree broken
  refine ⟨stack ▸ stillFree, ?_⟩
  rintro resumedPoll singlePoll ⟨_, resumedRun⟩ ⟨_, singleRun⟩ rfl rfl resumedFree singleFree
    resumes leftAlone
  obtain ⟨verdict, resumed, resumedReturns⟩ := resumes.returns
  obtain ⟨singleVerdict, single, singleReturns⟩ := leftAlone.returns
  have ⟨resumedEnd, resumedCount⟩ :=
    propagate_outcome exactSolver wellSorted abortedSorted resumedFree resumedReturns
  have ⟨singleEnd, singleCount⟩ :=
    propagate_outcome exactSolver wellSorted guarded.sorted singleFree singleReturns
  -- Both propagations come to the end that is determined by the frames at the start.
  rw [frontier, sameEnd, singleEnd] at resumedEnd
  have ⟨sameVerdict, sameLedger⟩ := Prod.mk.inj resumedEnd
  have sameStored (level : Nat) : resumed.1.stored level = single.1.stored level := by
    show resumed.1.ledger.stored level = single.1.ledger.stored level
    rw [sameLedger]
  have sameClauses : resumed.1.storedClauses = single.1.storedClauses := by
    show resumed.1.ledger.storedClauses = single.1.ledger.storedClauses
    rw [sameLedger]
  refine ⟨verdict, resumed, single, resumedReturns, sameVerdict ▸ singleReturns, sameStored, ?_, ?_,
    ?_, ?_⟩
  · rw [resumedCount, singleCount, sameClauses]
  · exact congrArg (·.statistics.clausesAdded) sameLedger.symm
  · exact congrArg (·.statistics.subsumedClauses) sameLedger.symm
  · exact congrArg (·.statistics.propagatedClauses) sameLedger.symm

def cancellingBench : Workbench (World Enumerating.State) Enumerating.Error :=
  { latchBench with
    solver := Enumerating.solver
      { cancellation := some { checks := 1, token := ⟨0⟩, reason := "stop" } } }

def cancellingStart : Run (World Enumerating.State) Enumerating.Error where
  world := { solver := {}, tokens := { cells := #[{}] } }

def cancellingOpened : FrameSet × Run (World Enumerating.State) Enumerating.Error :=
  finalState (perform cancellingBench .openFrame
    (finalState (perform cancellingBench .openFrame
      (ofSystem cancellingBench.system, cancellingStart))))

def cancellingBroken : FrameSet × Run (World Enumerating.State) Enumerating.Error :=
  finalState (propagate cancellingBench (World.poll ⟨0⟩) cancellingOpened)

theorem latch_interrupted_propagation_resumes :
    ∃ error resumed single,
      propagate cancellingBench (World.poll ⟨0⟩) cancellingOpened = .error error cancellingBroken ∧
      propagate cancellingBench (fun _ => .ok ()) cancellingBroken = .ok true resumed ∧
      propagate cancellingBench (fun _ => .ok ()) cancellingOpened = .ok true single ∧
      ∀ level, resumed.1.stored level = single.1.stored level := by
  obtain ⟨error, broken⟩ : ∃ error,
      propagate cancellingBench (World.poll ⟨0⟩) cancellingOpened = .error error cancellingBroken :=
    eq_error_of_returned (by decide +kernel)
  have reports : returned (propagate cancellingBench (fun _ => .ok ()) cancellingBroken) =
      some true := by decide +kernel
  have resumes : Undisturbed cancellingBench (fun _ => .ok ()) cancellingBroken :=
    undisturbed_of_returned reports (by decide +kernel)
  have leftAlone : Undisturbed cancellingBench (fun _ => .ok ()) cancellingOpened :=
    undisturbed_of_returned (show _ = some true by decide +kernel) (by decide +kernel)
  have known := interrupted_propagation_resumes (Enumerating.solver_exact _)
    SymbolicSystem.latch_wellSorted.toTransitionSystem rfl
    (runs_openTwice cancellingBench cancellingStart) broken
  obtain ⟨verdict, resumed, single, resumedReturns, singleReturns, sameStored, -⟩ :=
    known.2 _ _ cancellingBroken cancellingOpened rfl rfl known.1 rfl resumes leftAlone
  rw [resumedReturns] at reports
  obtain rfl : verdict = true := Option.some.inj reports
  exact ⟨error, resumed, single, broken, resumedReturns, singleReturns, sameStored⟩

end DeltaFrames.FrameSet
