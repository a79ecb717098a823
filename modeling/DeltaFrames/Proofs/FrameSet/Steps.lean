import DeltaFrames.Proofs.FrameSet.Course
import DeltaFrames.Proofs.FrameSet.Levels
import DeltaFrames.Proofs.System.States
import Mathlib.Logic.Relation

/-!
# Justified steps

However far a propagation gets, it moves and drops single clauses, each time for a reason
(`Visits.steps`). A step weakens no level (`Step.admits`), and whatever it adds to a level was held
at the level below and is kept by every transition (`Step.origin`).
-/

namespace DeltaFrames.FrameSet

open Relation

/-- Moves a clause up, or drops one, for a reason that the frames give. The clause is not stored
below the lowest level that is concerned. -/
inductive Step (I : Interpretation) (system : TransitionSystem) (lowest : Nat) :
    FrameSet → FrameSet → Prop where
  | promote {frames : FrameSet} {index : Nat} {clause : Term} (high : lowest ≤ index)
      (below : index + 1 < frames.frontier) (stored : clause ∈ frames.storedAt (index + 1))
      (refuted : ¬ Satisfiable I system.declarations.signature
        (inductionQuery system (frames.effective (index + 1)) clause)) :
      Step I system lowest frames (frames.promote index clause)
  | discard {frames : FrameSet} {index : Nat} {stronger clause : Term} (high : lowest ≤ index)
      (stored : clause ∈ frames.storedAt (index + 1)) (held : stronger ∈ frames.effective (index + 2))
      (refuted : ¬ Satisfiable I system.declarations.signature (subsumptionQuery stronger clause)) :
      Step I system lowest frames (frames.discard index clause)

abbrev Steps (I : Interpretation) (system : TransitionSystem) (lowest : Nat) :
    FrameSet → FrameSet → Prop :=
  ReflTransGen (Step I system lowest)

section Courses

variable {I : Interpretation} {system : TransitionSystem} {answers : List Term → Bool → Prop}
  {subsumption whole : Bool} {lowest index : Nat} {before after : FrameSet}

theorem inductionQuery_subset {states states' : Frame} {clause : Term}
    (included : ∀ other, other ∈ states → other ∈ states') :
    inductionQuery system states clause ⊆ inductionQuery system states' clause := by
  intro term
  simp only [inductionQuery, List.cons_append, List.mem_cons, List.mem_append, OrderedSet.mem_toList]
  exact Or.imp_right (Or.imp_left (included term))

theorem Sweep.promote_steps {states : Frame} {clauses : List Term}
    (refutes : ∀ query, answers query true →
      ¬ Satisfiable I system.declarations.signature query)
    (sweep : Sweep answers (inductionQuery system states) (promote · index) whole clauses before
      after)
    (high : lowest ≤ index) (below : index + 1 < before.frontier) (distinct : clauses.Nodup)
    (same : ∀ other, other ∈ before.effective (index + 1) ↔ other ∈ states)
    (stored : ∀ clause ∈ clauses, clause ∈ before.storedAt (index + 1)) :
    Steps I system lowest before after ∧
      ∀ other, other ∈ after.effective (index + 1) ↔ other ∈ states := by
  -- A clause stays stored until its own turn comes, so each of them is moved from the level.
  induction sweep with
  | finished => exact ⟨.refl, same⟩
  | stopped => exact ⟨.refl, same⟩
  | satisfied _ _ ih =>
      have ⟨_, rest⟩ := List.forall_mem_cons.1 stored
      exact ih below distinct.of_cons same rest
  | @refuted _ clause rest before _ answered _ ih =>
      have ⟨here, others⟩ := List.forall_mem_cons.1 stored
      have ⟨fresh, restDistinct⟩ := List.nodup_cons.1 distinct
      have step : Step I system lowest before (before.promote index clause) := by
        refine .promote high below here fun possible => refutes _ answered (possible.subset ?_)
        exact inductionQuery_subset fun other => (same other).2
      refine (ih ?_ restDistinct ?_ ?_).imp_left (.head step)
      · rwa [frontier_promote]
      · intro other
        rw [← same other, mem_effective_promote below here (Nat.succ_pos _)]
        simp
      · intro other member
        refine (mem_storedAt_promote below).2 (.inl ⟨others other member, ?_⟩)
        rintro ⟨-, rfl⟩
        exact fresh member

theorem Pushes.steps
    (refutes : ∀ query, answers query true → ¬ Satisfiable I system.declarations.signature query)
    (pushes : Pushes answers system index whole before after) (high : lowest ≤ index)
    (below : index + 1 < before.frontier) :
    Steps I system lowest before after ∧
      ∀ other, other ∈ after.effective (index + 1) ↔ other ∈ before.effective (index + 1) :=
  Sweep.promote_steps refutes pushes high below (before.storedAt (index + 1)).nodup (fun _ => Iff.rfl)
    fun _ member => member

theorem Sweep.discard_above {query : Term → List Term} {clauses : List Term} {level : Nat}
    (sweep : Sweep answers query (discard · index) whole clauses before after)
    (above : index + 1 < level) : after.effective level = before.effective level := by
  induction sweep with
  | finished => rfl
  | stopped => rfl
  | satisfied _ _ ih => exact ih
  | refuted _ _ ih => exact ih.trans (effective_discard_above above)

theorem Sweep.discard_steps {stronger : Term} {clauses : List Term}
    (refutes : ∀ query, answers query true → ¬ Satisfiable I system.declarations.signature query)
    (sweep : Sweep answers (subsumptionQuery stronger) (discard · index) whole clauses before after)
    (high : lowest ≤ index) (distinct : clauses.Nodup) (held : stronger ∈ before.effective (index + 2))
    (stored : ∀ clause ∈ clauses, clause ∈ before.storedAt (index + 1)) :
    Steps I system lowest before after := by
  induction sweep with
  | finished => exact .refl
  | stopped => exact .refl
  | satisfied _ _ ih => exact ih distinct.of_cons held (List.forall_mem_cons.1 stored).2
  | @refuted _ clause rest before _ answered _ ih =>
      have ⟨here, others⟩ := List.forall_mem_cons.1 stored
      have ⟨fresh, restDistinct⟩ := List.nodup_cons.1 distinct
      refine .head (.discard high here held (refutes _ answered)) (ih restDistinct ?_ ?_)
      · rwa [effective_discard_above (Nat.lt_succ_self _)]
      · intro other member
        refine mem_storedAt_discard.2 ⟨others other member, ?_⟩
        rintro ⟨-, rfl⟩
        exact fresh member

theorem Prunes.steps {clauses : List Term}
    (refutes : ∀ query, answers query true → ¬ Satisfiable I system.declarations.signature query)
    (prunes : Prunes answers index whole clauses before after) (high : lowest ≤ index)
    (held : ∀ stronger ∈ clauses, stronger ∈ before.effective (index + 2)) :
    Steps I system lowest before after := by
  induction prunes with
  | finished => exact .refl
  | @stopped _ _ before _ sweep =>
      exact sweep.discard_steps refutes high (before.storedAt (index + 1)).nodup
        (held _ List.mem_cons_self) fun _ member => member
  | @onward _ _ _ before _ _ sweep _ ih =>
      have ⟨here, others⟩ := List.forall_mem_cons.1 held
      refine (sweep.discard_steps refutes high (before.storedAt (index + 1)).nodup here
        fun _ member => member).trans (ih fun stronger member => ?_)
      rw [sweep.discard_above (Nat.lt_succ_self _)]
      exact others stronger member

theorem Visit.steps
    (refutes : ∀ query, answers query true → ¬ Satisfiable I system.declarations.signature query)
    (visit : Visit answers system subsumption index whole before after) (high : lowest ≤ index)
    (below : index + 1 < before.frontier) : Steps I system lowest before after := by
  cases visit with
  | pushing pushes => exact (pushes.steps refutes high below).1
  | pushed pushes _ => exact (pushes.steps refutes high below).1
  | pruned pushes _ prunes =>
      have moved := (pushes.steps refutes high below).1
      exact moved.trans (prunes.steps refutes high fun _ member => member)

end Courses

/-! ## What a step leaves as it was -/

section Step

variable {I : Interpretation} {system : TransitionSystem} {lowest : Nat} {before after : FrameSet}

theorem Step.frontier_eq (step : Step I system lowest before after) :
    after.frontier = before.frontier := by
  cases step with
  | promote _ _ _ _ => exact frontier_promote ..
  | discard _ _ _ _ => exact frontier_discard ..

theorem Step.effective_zero (step : Step I system lowest before after) :
    after.effective 0 = before.effective 0 := by
  cases step <;> rfl

theorem Steps.frontier_eq (steps : Steps I system lowest before after) :
    after.frontier = before.frontier := by
  induction steps with
  | refl => rfl
  | tail _ step ih => exact step.frontier_eq.trans ih

theorem Visits.steps {answers : List Term → Bool → Prop} {subsumption : Bool} {levels : List Nat}
    {outcome : Option Bool}
    (refutes : ∀ query, answers query true → ¬ Satisfiable I system.declarations.signature query)
    (visits : Visits answers system subsumption levels before after outcome)
    (high : ∀ index ∈ levels, lowest ≤ index)
    (below : ∀ index ∈ levels, index + 1 < before.frontier) : Steps I system lowest before after := by
  induction visits with
  | finished => exact .refl
  | stopped visit =>
      exact visit.steps refutes (high _ List.mem_cons_self) (below _ List.mem_cons_self)
  | fixpoint visit _ =>
      exact visit.steps refutes (high _ List.mem_cons_self) (below _ List.mem_cons_self)
  | onward visit _ _ ih =>
      have ⟨here, others⟩ := List.forall_mem_cons.1 below
      have ⟨hereHigh, othersHigh⟩ := List.forall_mem_cons.1 high
      have steps := visit.steps refutes hereHigh here
      exact steps.trans (ih othersHigh fun index member => by
        rw [Steps.frontier_eq steps]
        exact others index member)

theorem Visits.empty_level {answers : List Term → Bool → Prop} {subsumption : Bool}
    {levels : List Nat} (visits : Visits answers system subsumption levels before after (some true)) :
    ∃ index ∈ levels, (after.storedAt (index + 1)).isEmpty = true := by
  generalize isTrue : some true = outcome at visits
  induction visits with
  | finished => cases isTrue
  | stopped _ => cases isTrue
  | @fixpoint index _ _ _ _ empty => exact ⟨index, List.mem_cons_self, empty⟩
  | onward _ _ _ ih =>
      obtain ⟨index, member, empty⟩ := ih isTrue
      exact ⟨index, List.mem_cons_of_mem _ member, empty⟩

end Step

/-! ## What a step does to the meaning of the levels -/

def Admits {I : Interpretation} (frames : FrameSet) (level : Nat) (valuation : Valuation I) : Prop :=
  ∀ clause ∈ frames.effective level, clause.Holds valuation

def ClausesSorted (frames : FrameSet) (signature : Signature) : Prop :=
  ∀ level clause, 0 < level → clause ∈ frames.storedAt level → clause.HasSort signature .bool

theorem ClausesSorted.effective {frames : FrameSet} {signature : Signature}
    (sorted : frames.ClausesSorted signature) {level : Nat} {clause : Term} (positive : 0 < level)
    (member : clause ∈ frames.effective level) : clause.HasSort signature .bool := by
  obtain ⟨above, le, stored⟩ := (mem_effective_iff positive).1 member
  exact sorted above clause (Nat.lt_of_lt_of_le positive le) stored

theorem ClausesSorted.openNext {frames : FrameSet} {system : TransitionSystem}
    {signature : Signature} (sorted : frames.ClausesSorted signature)
    (seedSorted : (system.unprime system.property).HasSort signature .bool) :
    (frames.openNext system).ClausesSorted signature := by
  intro level clause positive stored
  rcases (mem_storedAt_openNext positive).1 stored with stored | ⟨-, rfl⟩
  · exact sorted level clause positive stored
  · exact seedSorted

theorem ClausesSorted.addClause {frames : FrameSet} {signature : Signature} {index : Nat}
    {clause : Term} (sorted : frames.ClausesSorted signature) (below : index < frames.frontier)
    (clauseSorted : clause.HasSort signature .bool) :
    (frames.addClause index clause).ClausesSorted signature := by
  intro level other positive stored
  rcases (mem_storedAt_addClause below).1 stored with stored | ⟨-, rfl⟩
  · exact sorted level other positive stored
  · exact clauseSorted

theorem ClausesSorted.promote {frames : FrameSet} {signature : Signature} {index : Nat}
    {clause : Term} (sorted : frames.ClausesSorted signature)
    (clauseSorted : clause.HasSort signature .bool) :
    (frames.promote index clause).ClausesSorted signature := by
  intro level other positive stored
  rcases mem_of_storedAt_promote stored with stored | rfl
  · exact sorted level other positive stored
  · exact clauseSorted

theorem ClausesSorted.discard {frames : FrameSet} {signature : Signature} {index : Nat}
    {clause : Term} (sorted : frames.ClausesSorted signature) :
    (frames.discard index clause).ClausesSorted signature :=
  fun level other positive stored =>
    sorted level other positive (mem_storedAt_discard.1 stored).1

section Meaning

variable {I : Interpretation} {system : TransitionSystem} {lowest : Nat} {before after : FrameSet}
  {signature : Signature}

theorem Step.clausesSorted (step : Step I system lowest before after)
    (sorted : before.ClausesSorted signature) : after.ClausesSorted signature := by
  cases step with
  | promote _ _ stored _ => exact sorted.promote (sorted _ _ (Nat.succ_pos _) stored)
  | discard _ _ _ _ => exact sorted.discard

/-- Nothing that a level excludes is let in: a clause that is dropped follows from one that holds
wherever it was needed. -/
theorem Step.admits (step : Step I system lowest before after)
    (sorted : before.ClausesSorted signature)
    (larger : signature.Extends system.declarations.signature) {level : Nat}
    {valuation : Valuation I} (fits : valuation.Fits signature)
    (admits : after.Admits level valuation) : before.Admits level valuation := by
  intro clause member
  rcases Nat.eq_zero_or_pos level with rfl | positive
  · exact admits clause (step.effective_zero ▸ member)
  cases step with
  | promote _ below stored _ =>
      exact admits clause ((mem_effective_promote below stored positive).2 (.inl member))
  | @discard index stronger dropped _ stored held refuted =>
      have kept : clause ∈ (before.discard index dropped).effective level ∨
          level ≤ index + 1 ∧ clause = dropped := mem_effective_discard_or positive member
      rcases kept with member | ⟨le, rfl⟩
      · exact admits clause member
      · -- The stronger clause is held above the level that is thinned out, and so still is.
        have entailed : Entails I signature [stronger] clause :=
          (not_satisfiable_not_implies_iff (sorted.effective (Nat.succ_pos _) held)
            (sorted _ _ (Nat.succ_pos _) stored)).1 fun possible => refuted (possible.extend larger)
        refine entailed valuation fits (List.forall_mem_singleton.2 (admits stronger ?_))
        rw [← effective_discard_above (Nat.lt_succ_self (index + 1))] at held
        exact effective_antitone positive (by omega) held

theorem Step.origin (step : Step I system lowest before after) {level : Nat} (positive : 0 < level)
    {clause : Term} (member : clause ∈ after.effective level) :
    clause ∈ before.effective level ∨
      ∃ index, lowest ≤ index ∧ level = index + 2 ∧ clause ∈ before.effective (index + 1) ∧
        ¬ Satisfiable I system.declarations.signature
          (inductionQuery system (before.effective (index + 1)) clause) := by
  cases step with
  | discard _ _ _ _ => exact .inl (mem_effective_of_discard positive member)
  | @promote index _ high below stored refuted =>
      rcases (mem_effective_promote below stored positive).1 member with member | ⟨rfl, rfl⟩
      · exact .inl member
      · exact .inr ⟨index, high, rfl, mem_effective_of_stored (Nat.succ_pos _) (Nat.le_refl _) stored,
          refuted⟩

theorem Steps.clausesSorted (steps : Steps I system lowest before after)
    (sorted : before.ClausesSorted signature) : after.ClausesSorted signature := by
  induction steps with
  | refl => exact sorted
  | tail _ step ih => exact step.clausesSorted ih

theorem Steps.admits (steps : Steps I system lowest before after)
    (sorted : before.ClausesSorted signature)
    (larger : signature.Extends system.declarations.signature) {level : Nat}
    {valuation : Valuation I} (fits : valuation.Fits signature)
    (admits : after.Admits level valuation) : before.Admits level valuation := by
  induction steps with
  | refl => exact admits
  | tail earlier step ih =>
      exact ih (step.admits (Steps.clausesSorted earlier sorted) larger fits admits)

theorem Steps.effective_subset (steps : Steps I system lowest before after) {level : Nat}
    (positive : 0 < level) (le : level ≤ lowest + 1) {clause : Term}
    (member : clause ∈ after.effective level) : clause ∈ before.effective level := by
  induction steps with
  | refl => exact member
  | tail _ step ih =>
      rcases step.origin positive member with member | ⟨index, high, same, -⟩
      · exact ih member
      · omega

theorem Steps.storedAt_below (steps : Steps I system lowest before after) {level : Nat}
    (le : level ≤ lowest) : after.storedAt level = before.storedAt level := by
  induction steps with
  | refl => rfl
  | tail _ step ih =>
      refine Eq.trans ?_ ih
      cases step with
      | promote high _ _ _ => exact storedAt_promote_below (Nat.le_trans le high)
      | discard high _ _ _ => exact storedAt_discard_below (Nat.le_trans le high)

end Meaning

section Symbolic

variable {I : Interpretation} {system : SymbolicSystem} {lowest : Nat} {before after : FrameSet}

theorem holds_next_of_refuted {states : Frame} {clause : Term}
    (statesSorted : ∀ other ∈ states, other.HasSort system.stateSignature .bool)
    (sorted : clause.HasSort system.stateSignature .bool)
    (refuted : ¬ Satisfiable I system.signature
      (inductionQuery system.toTransitionSystem states clause))
    {both : Valuation I} (fits : both.Fits system.signature) (moves : system.transition.Holds both)
    (holds : ∀ other ∈ states, other.Holds (system.present both)) :
    clause.Holds (system.next both) := by
  have primed : system.toTransitionSystem.prime clause.negate =
      (system.toTransitionSystem.prime clause).negate := Term.rename_negate ..
  have primeSorted : (system.toTransitionSystem.prime clause).HasSort system.signature .bool :=
    SymbolicSystem.hasSort_prime (sorted.mono SymbolicSystem.stateSignature_extends)
  unfold inductionQuery at refuted
  rw [primed, not_satisfiable_negate_iff primeSorted] at refuted
  exact (SymbolicSystem.entails_prime_iff statesSorted sorted).1 refuted both fits moves holds

theorem Step.gains (step : Step I system.toTransitionSystem lowest before after)
    (sorted : before.ClausesSorted system.stateSignature) {level : Nat}
    (positive : 0 < level) {clause : Term} (member : clause ∈ after.effective level) :
    clause ∈ before.effective level ∨
      ∃ index, level = index + 2 ∧ clause ∈ before.effective (index + 1) ∧
        ∀ both : Valuation I, both.Fits system.signature → system.transition.Holds both →
          before.Admits (index + 1) (system.present both) → clause.Holds (system.next both) := by
  refine (step.origin positive member).imp_right ?_
  rintro ⟨index, -, rfl, held, refuted⟩
  refine ⟨index, rfl, held, fun both fits moves admits => ?_⟩
  exact holds_next_of_refuted (fun _ => sorted.effective (Nat.succ_pos _))
    (sorted.effective (Nat.succ_pos _) held) refuted fits moves admits

end Symbolic

end DeltaFrames.FrameSet
