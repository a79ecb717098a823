import DeltaFrames.Proofs.FrameSet.Reachability

/-!
# An empty level is a proof

Levels form a chain: the initial states satisfy all of them, the transition relation leads from
each into the next, and all but level 0 entail the property. Opening and blocking keep the chain if
they are justified by the levels as they are, and propagation always keeps it. When a propagation
reports a fixpoint, an empty level agrees with the next one, so its clauses are an inductive
invariant that entails the property (`fixpoint_proves_property`).
-/

namespace DeltaFrames.FrameSet

open Relation StateAction

variable {ω ε : Type} {I : Interpretation} {system : SymbolicSystem}

/-- The frontier may be opened when no step leads from it out of the property. States may be blocked
when they are not initial and no step leads to them from the other states of the level below. -/
def JustifiedCommand (I : Interpretation) (system : SymbolicSystem) (frames : FrameSet) :
    Command ω → Prop
  | .openFrame => Entails I system.signature
      (system.transition :: (frames.effective frames.frontier).toList)
      (system.toTransitionSystem.prime system.property)
  | .block states level => 0 < level → level ≤ frames.frontier →
      states.HasSort system.stateSignature .bool ∧
      Entails I system.signature [system.initial] states.negate ∧
      Entails I system.signature
        (system.transition :: ((frames.effective (level - 1)).toList ++ [states.negate]))
        (system.toTransitionSystem.prime states.negate)
  | .propagate _ => True

structure Chain (I : Interpretation) (system : SymbolicSystem) (frames : FrameSet) : Prop where
  sorted : frames.ClausesSorted system.stateSignature
  bottom : ∀ clause, clause ∈ frames.effective 0 ↔ clause = system.initial
  initiation : ∀ state : Valuation I, state.Fits system.stateSignature →
    system.initial.Holds state → ∀ level, frames.Admits level state
  consecution : ∀ both : Valuation I, both.Fits system.signature → system.transition.Holds both →
    ∀ level < frames.frontier, frames.Admits level (system.present both) →
      frames.Admits (level + 1) (system.next both)
  safety : ∀ state : Valuation I, state.Fits system.stateSignature → ∀ level, 0 < level →
    level ≤ frames.frontier → frames.Admits level state → system.property.Holds state

theorem Chain.effective_sorted {frames : FrameSet} (chain : Chain I system frames)
    (wellSorted : system.WellSorted) (level : Nat) :
    ∀ clause ∈ frames.effective level, clause.HasSort system.stateSignature .bool := by
  intro clause member
  rcases Nat.eq_zero_or_pos level with rfl | positive
  · rw [(chain.bottom clause).1 member]
    exact wellSorted.initial
  · exact chain.sorted.effective positive member

theorem chain_ofSystem (system : SymbolicSystem) :
    Chain I system (ofSystem system.toTransitionSystem) where
  sorted := (covering_ofSystem (I := I) system).sorted
  bottom clause := by
    rw [mem_effective_ofSystem, SymbolicSystem.unprime_initial]
  initiation := by
    intro state fits holds level clause member
    exact (covering_ofSystem system).covers level 0 (Nat.zero_le _) state (.initial fits holds)
      clause member
  consecution := fun _ _ _ _ impossible => absurd impossible (Nat.not_lt_zero _)
  safety := fun _ _ _ positive le => absurd le (Nat.not_le_of_lt positive)

theorem Step.chain {before after : FrameSet}
    (step : Step I system.toTransitionSystem 0 before after) (chain : Chain I system before) :
    Chain I system after where
  sorted := step.clausesSorted chain.sorted
  bottom := by
    rw [step.effective_zero]
    exact chain.bottom
  initiation := by
    intro state fits holds level clause member
    rcases Nat.eq_zero_or_pos level with rfl | positive
    · rw [step.effective_zero] at member
      exact chain.initiation state fits holds 0 clause member
    rcases step.gains chain.sorted positive member with member | ⟨index, -, held, -⟩
    · exact chain.initiation state fits holds level clause member
    · exact chain.initiation state fits holds (index + 1) clause held
  consecution := by
    intro both fits related level below admits clause member
    rw [step.frontier_eq] at below
    have admitted : before.Admits level (system.present both) :=
      step.admits chain.sorted SymbolicSystem.stateSignature_extends
        (SymbolicSystem.present_fits fits) admits
    rcases step.gains chain.sorted (Nat.succ_pos _) member with member | ⟨index, same, -, kept⟩
    · exact chain.consecution both fits related level below admitted clause member
    · obtain rfl : level = index + 1 := Nat.succ.inj same
      exact kept both fits related admitted
  safety := by
    intro state fits level positive le admits
    rw [step.frontier_eq] at le
    exact chain.safety state fits level positive le
      (step.admits chain.sorted SymbolicSystem.stateSignature_extends fits admits)

theorem Steps.chain {before after : FrameSet}
    (steps : Steps I system.toTransitionSystem 0 before after) (chain : Chain I system before) :
    Chain I system after := by
  induction steps with
  | refl => exact chain
  | tail _ step ih => exact step.chain ih

theorem chain_openNext {frames : FrameSet} (wellSorted : system.WellSorted)
    (safeStart : Entails I system.signature [system.initial] system.property)
    (justified : Entails I system.signature
      (system.transition :: (frames.effective frames.frontier).toList)
      (system.toTransitionSystem.prime system.property))
    (chain : Chain I system frames) :
    Chain I system (frames.openNext system.toTransitionSystem) where
  sorted := chain.sorted.openNext wellSorted.unprime_property
  bottom := chain.bottom
  initiation := by
    intro state fits holds level clause member
    rcases mem_of_effective_openNext member with member | ⟨-, rfl⟩
    · exact chain.initiation state fits holds level clause member
    · rw [SymbolicSystem.unprime_property]
      refine (SymbolicSystem.entails_iff ?_ wellSorted.property).1 safeStart state fits ?_
      · exact List.forall_mem_singleton.2 wellSorted.initial
      · exact List.forall_mem_singleton.2 holds
  consecution := by
    intro both fits related level le admits clause member
    rw [frontier_openNext] at le
    have admitted : frames.Admits level (system.present both) :=
      fun other held => admits other (mem_effective_openNext_of_mem held)
    have successor (below : level < frames.frontier) :
        frames.Admits (level + 1) (system.next both) :=
      chain.consecution both fits related level below admitted
    rcases mem_of_effective_openNext member with member | ⟨-, rfl⟩
    · exact successor (le_frontier_of_effective (Nat.succ_pos _) member) clause member
    · rw [SymbolicSystem.unprime_property]
      rcases Nat.lt_or_eq_of_le (Nat.le_of_lt_succ le) with below | rfl
      · exact chain.safety _ (SymbolicSystem.next_fits fits) (level + 1) (Nat.succ_pos _) below
          (successor below)
      · exact (SymbolicSystem.entails_prime_iff (chain.effective_sorted wellSorted _)
          wellSorted.property).1 justified both fits related admitted
  safety := by
    intro state fits level positive le admits
    rw [frontier_openNext] at le
    have seed := admits _ ((mem_effective_openNext positive).2 (.inr ⟨le, rfl⟩))
    rwa [SymbolicSystem.unprime_property] at seed

theorem chain_addClause {frames : FrameSet} {clause : Term} {index : Nat}
    (wellSorted : system.WellSorted) (below : index < frames.frontier)
    (sorted : clause.HasSort system.stateSignature .bool)
    (initial : Entails I system.signature [system.initial] clause)
    (relative : Entails I system.signature
      (system.transition :: ((frames.effective index).toList ++ [clause]))
      (system.toTransitionSystem.prime clause))
    (chain : Chain I system frames) : Chain I system (frames.addClause index clause) := by
  have holdsInitially (state : Valuation I) (fits : state.Fits system.stateSignature)
      (holds : system.initial.Holds state) : clause.Holds state :=
    (SymbolicSystem.entails_iff (List.forall_mem_singleton.2 wellSorted.initial) sorted).1 initial
      state fits (List.forall_mem_singleton.2 holds)
  have premisesSorted : ∀ premise ∈ (frames.effective index).toList ++ [clause],
      premise.HasSort system.stateSignature .bool :=
    List.forall_mem_append.2 ⟨chain.effective_sorted wellSorted index,
      List.forall_mem_singleton.2 sorted⟩
  have holdsNext := (SymbolicSystem.entails_prime_iff premisesSorted sorted).1 relative
  refine ⟨chain.sorted.addClause below sorted, ?_, ?_, ?_, ?_⟩
  · rw [effective_addClause_zero]
    exact chain.bottom
  · intro state fits holds level other member
    rcases mem_of_effective_addClause below member with member | ⟨-, rfl⟩
    · exact chain.initiation state fits holds level other member
    · exact holdsInitially state fits holds
  · intro both fits related level le admits other member
    rw [frontier_addClause] at le
    have admitted : frames.Admits level (system.present both) :=
      fun other held => admits other (mem_effective_addClause_of_mem below held)
    rcases mem_of_effective_addClause below member with member | ⟨lower, rfl⟩
    · exact chain.consecution both fits related level le admitted other member
    · refine holdsNext both fits related ?_
      rcases Nat.eq_zero_or_pos level with rfl | positive
      · have presentFits := SymbolicSystem.present_fits fits
        have holds := admitted system.initial ((chain.bottom _).2 rfl)
        exact List.forall_mem_append.2 ⟨chain.initiation _ presentFits holds index,
          List.forall_mem_singleton.2 (holdsInitially _ presentFits holds)⟩
      · have blocked : other ∈ (frames.addClause index other).effective level :=
          (mem_effective_addClause below positive).2 (.inr ⟨Nat.le_of_succ_le lower, rfl⟩)
        exact List.forall_mem_append.2
          ⟨fun premise held => admitted premise
            (effective_antitone positive (Nat.le_of_succ_le_succ lower) held),
          List.forall_mem_singleton.2 (admits _ blocked)⟩
  · intro state fits level positive le admits
    rw [frontier_addClause] at le
    exact chain.safety state fits level positive le fun other held =>
      admits other (mem_effective_addClause_of_mem below held)

theorem Change.chain {before after : FrameSet} {command : Command ω}
    (change : Change I system.toTransitionSystem before command after)
    (wellSorted : system.WellSorted)
    (safeStart : Entails I system.signature [system.initial] system.property)
    (justified : JustifiedCommand I system before command) (chain : Chain I system before) :
    Chain I system after := by
  cases change with
  | opened => exact chain_openNext wellSorted safeStart justified chain
  | blocked below =>
      obtain ⟨sorted, initial, relative⟩ := justified (Nat.succ_pos _) below
      exact chain_addClause wellSorted below sorted.negate initial relative chain
  | refused _ => exact chain
  | propagated steps =>
      have kept := Steps.chain steps
        ⟨chain.sorted, chain.bottom, chain.initiation, chain.consecution, chain.safety⟩
      exact ⟨kept.sorted, kept.bottom, kept.initiation, kept.consecution, kept.safety⟩

structure ProvesProperty (I : Interpretation) (system : SymbolicSystem) (terms : List Term) :
    Prop where
  initiation : ∀ term ∈ terms, Entails I system.signature [system.initial] term
  consecution : ∀ term ∈ terms, Entails I system.signature (system.transition :: terms)
    (system.toTransitionSystem.prime term)
  safety : Entails I system.signature terms system.property

theorem ProvesProperty.reachable {terms : List Term} (wellSorted : system.WellSorted)
    (sorted : ∀ term ∈ terms, term.HasSort system.stateSignature .bool)
    (proves : ProvesProperty I system terms) {state : Valuation I}
    (reachable : system.Reachable state) : system.property.Holds state := by
  obtain ⟨steps, reached⟩ := reachable
  refine (SymbolicSystem.entails_iff sorted wellSorted.property).1 proves.safety state
    reached.fits ?_
  induction reached with
  | initial fits holds =>
      intro term member
      exact (SymbolicSystem.entails_iff (List.forall_mem_singleton.2 wellSorted.initial)
        (sorted term member)).1 (proves.initiation term member) _ fits
        (List.forall_mem_singleton.2 holds)
  | step _ moves ih =>
      obtain ⟨both, fits, related, rfl, rfl⟩ := moves
      intro term member
      exact (SymbolicSystem.entails_prime_iff sorted (sorted term member)).1
        (proves.consecution term member) both fits related ih

/-- Nothing is lost above an empty level, so its clauses are kept by every step. -/
theorem Chain.provesProperty {frames : FrameSet} (chain : Chain I system frames)
    (wellSorted : system.WellSorted) {level : Nat} (positive : 0 < level)
    (below : level < frames.frontier) (empty : (frames.storedAt level).isEmpty = true) :
    ProvesProperty I system (frames.effective level).toList where
  initiation := by
    intro clause member
    refine (SymbolicSystem.entails_iff (List.forall_mem_singleton.2 wellSorted.initial)
      (chain.effective_sorted wellSorted level clause member)).2 fun state fits holds => ?_
    exact chain.initiation state fits (holds _ List.mem_cons_self) level clause member
  consecution := by
    intro clause member
    refine (SymbolicSystem.entails_prime_iff (chain.effective_sorted wellSorted level)
      (chain.effective_sorted wellSorted level clause member)).2 fun both fits related admits => ?_
    exact chain.consecution both fits related level below admits clause
      (mem_effective_succ_of_isEmpty positive empty member)
  safety := by
    refine (SymbolicSystem.entails_iff (chain.effective_sorted wellSorted level)
      wellSorted.property).2 fun state fits admits => ?_
    exact chain.safety state fits level positive (Nat.le_of_lt below) admits

/-- A propagation that reports a fixpoint leaves a level between 0 and the frontier empty, the
clauses that hold at any such level prove the property, and so every reachable state has it. The
enumerating solver is one that may be used. -/
theorem fixpoint_proves_property {bench : Workbench ω ε} {view : View ω} {start : Run ω ε}
    {state : FrameSet × Run ω ε} (modelled : bench.system = system.toTransitionSystem)
    (wellSorted : system.WellSorted) (sound : bench.solver.Sound I view)
    (free : (view.stack start.world).assertions = [])
    (safeStart : Entails I system.signature [system.initial] system.property)
    (reached : Runs bench (JustifiedCommand I system) (ofSystem bench.system, start) state)
    {poll : ω → Except Cancellation.Interrupted Unit} {after : FrameSet × Run ω ε}
    (reported : propagate bench poll state = .ok true after) :
    ((∃ level, 0 < level ∧ level < after.1.frontier ∧
        (after.1.storedAt level).isEmpty = true) ∧
      (∀ level, 0 < level → level < after.1.frontier → (after.1.storedAt level).isEmpty = true →
        ProvesProperty I system (after.1.effective level).toList) ∧
      ∀ valuation : Valuation I, system.Reachable valuation →
        system.property.Holds valuation) ∧
    ∀ settings, (Enumerating.solver settings).Sound (.words Enumerating.range)
      Enumerating.view := by
  refine ⟨?_, fun settings => (Enumerating.solver_exact settings).toSound⟩
  obtain ⟨chain, stillFree⟩ := Runs.induct (Chain I system) reached sound free
    (modelled ▸ chain_ofSystem system) fun _ _ _ justified change chain =>
      Change.chain (modelled ▸ change) wellSorted safeStart justified chain
  have course := propagate_course poll sound.toDisciplined state.1 state.2 rfl
  obtain ⟨steps, -⟩ := perform_propagate sound state.1 state.2 stillFree poll
  simp only [perform, bind_apply, reported, modelled] at course steps
  have change : Change I system.toTransitionSystem state.1 (.propagate poll) after.1 :=
    .propagated steps
  have chainAfter : Chain I system after.1 := change.chain wellSorted safeStart trivial chain
  obtain ⟨index, member, empty⟩ := course.1.1.empty_level
  have below : index + 1 < after.1.frontier :=
    Nat.lt_of_lt_of_eq (lt_frontier_of_mem_range member) (Steps.frontier_eq steps).symm
  have proves (level : Nat) (positive : 0 < level) (below : level < after.1.frontier)
      (empty : (after.1.storedAt level).isEmpty = true) :=
    chainAfter.provesProperty wellSorted positive below empty
  refine ⟨⟨index + 1, Nat.succ_pos _, below, empty⟩, proves, fun valuation reachable => ?_⟩
  exact (proves (index + 1) (Nat.succ_pos _) below empty).reachable wellSorted
    (chainAfter.effective_sorted wellSorted (index + 1)) reachable

theorem latch_fixpoint_proves_property :
    ∃ after : FrameSet × Run (World Enumerating.State) Enumerating.Error,
      propagate latchBench (fun _ => .ok ())
        (finalState (perform latchBench .openFrame latchOpened)) = .ok true after ∧
      (∃ level, 0 < level ∧ level < after.1.frontier ∧
        (after.1.storedAt level).isEmpty = true) ∧
      ∀ valuation : Valuation (.words Enumerating.range),
        SymbolicSystem.latch.Reachable valuation →
          SymbolicSystem.latch.property.Holds valuation := by
  have safeStart : Entails (.words Enumerating.range) SymbolicSystem.latch.signature
      [SymbolicSystem.latch.initial] SymbolicSystem.latch.property :=
    fun _ _ holds => holds _ List.mem_cons_self
  have justified (frames : FrameSet) : JustifiedCommand (ω := World Enumerating.State)
      (.words Enumerating.range) SymbolicSystem.latch frames .openFrame :=
    fun _ _ holds => SymbolicSystem.latch_prime_property ▸ holds _ List.mem_cons_self
  have reached : Runs latchBench
      (JustifiedCommand (.words Enumerating.range) SymbolicSystem.latch)
      (ofSystem latchBench.system, latchStart)
      (finalState (perform latchBench .openFrame latchOpened)) :=
    .tail (.single ⟨.openFrame, justified _, rfl⟩) ⟨.openFrame, justified _, rfl⟩
  obtain ⟨after, reported⟩ := eq_ok_of_returned (show returned (propagate latchBench
    (fun _ => .ok ()) (finalState (perform latchBench .openFrame latchOpened))) = some true by
      decide +kernel)
  have known := fixpoint_proves_property rfl SymbolicSystem.latch_wellSorted
    (Enumerating.solver_exact {}).toSound rfl safeStart reached reported
  exact ⟨after, reported, known.1.1, known.1.2.2⟩

end DeltaFrames.FrameSet
