import DeltaFrames.Proofs.FrameSet.Steps

/-!
# The outcome of a propagation

Where every query is answered as its assertions decide, the course of a propagation is determined:
`visitedAll` computes it (`Visits.outcome`). A course that breaks off leaves frames from which the
visits lead to the same end as from the start (`Visits.resumed`). The levels that were left behind
are `Settled` and stay so, and at the level where the course broke off only the clauses still ahead
are acted on.
-/

namespace DeltaFrames.FrameSet

def swept (chosen : Term → Bool) (act : FrameSet → Term → FrameSet) (clauses : List Term)
    (frames : FrameSet) : FrameSet :=
  clauses.foldl (fun frames clause => if chosen clause then act frames clause else frames) frames

section Sweeps

variable {chosen : Term → Bool} {act : FrameSet → Term → FrameSet} {level : Nat}

theorem swept_cons (clause : Term) (rest : List Term) (frames : FrameSet) :
    swept chosen act (clause :: rest) frames =
      swept chosen act rest (if chosen clause then act frames clause else frames) := rfl

theorem swept_append (first second : List Term) (frames : FrameSet) :
    swept chosen act (first ++ second) frames =
      swept chosen act second (swept chosen act first frames) :=
  List.foldl_append

theorem swept_eq_self {clauses : List Term} {frames : FrameSet}
    (spared : ∀ clause ∈ clauses, chosen clause = false) :
    swept chosen act clauses frames = frames := by
  induction clauses with
  | nil => rfl
  | cons clause rest ih =>
      have ⟨here, others⟩ := List.forall_mem_cons.1 spared
      rw [swept_cons, here, if_neg Bool.false_ne_true]
      exact ih others

theorem swept_keeps (kept : FrameSet → Prop) {clauses : List Term} {frames : FrameSet}
    (acted : ∀ clause ∈ clauses, chosen clause = true → ∀ frames, kept frames →
      kept (act frames clause))
    (holds : kept frames) : kept (swept chosen act clauses frames) := by
  induction clauses generalizing frames with
  | nil => exact holds
  | cons clause rest ih =>
      have ⟨here, others⟩ := List.forall_mem_cons.1 acted
      rw [swept_cons]
      cases choice : chosen clause with
      | true => exact ih others (here choice frames holds)
      | false => exact ih others holds

theorem swept_related (related : FrameSet → FrameSet → Prop)
    (acted : ∀ clause first second, related first second →
      related (act first clause) (act second clause)) (clauses : List Term)
    {first second : FrameSet} (holds : related first second) :
    related (swept chosen act clauses first) (swept chosen act clauses second) := by
  induction clauses generalizing first second with
  | nil => exact holds
  | cons clause rest ih =>
      rw [swept_cons, swept_cons]
      cases chosen clause with
      | true => exact ih (acted clause first second holds)
      | false => exact ih holds

theorem toList_storedAt_swept_append
    (takes : ∀ frames clause, ((act frames clause).storedAt level).toList =
      (frames.storedAt level).toList.erase clause)
    {before done rest : List Term} {frames : FrameSet}
    (stored : (frames.storedAt level).toList = before ++ done ++ rest) :
    ((swept chosen act done frames).storedAt level).toList =
      before ++ done.filter (!chosen ·) ++ rest := by
  induction done generalizing before frames with
  | nil => exact stored
  | cons clause done ih =>
      rw [swept_cons]
      cases choice : chosen clause with
      | false =>
          have shifted : (frames.storedAt level).toList = (before ++ [clause]) ++ done ++ rest := by
            simpa using stored
          rw [if_neg Bool.false_ne_true, ih shifted]
          simp [choice]
      | true =>
          have distinct := (frames.storedAt level).nodup
          rw [stored, List.append_assoc, List.nodup_append] at distinct
          have fresh : clause ∉ before := fun member =>
            distinct.2.2 clause member clause (by simp) rfl
          have taken : ((act frames clause).storedAt level).toList = before ++ done ++ rest := by
            rw [takes, stored, List.append_assoc, List.erase_append_right _ fresh]
            simp
          rw [if_pos rfl, ih taken]
          simp [choice]

theorem toList_storedAt_swept (chosen : Term → Bool)
    (takes : ∀ frames clause, ((act frames clause).storedAt level).toList =
      (frames.storedAt level).toList.erase clause)
    {done rest : List Term} {frames : FrameSet}
    (stored : (frames.storedAt level).toList = done ++ rest) :
    ((swept chosen act done frames).storedAt level).toList = done.filter (!chosen ·) ++ rest := by
  have fromStart : (frames.storedAt level).toList = [] ++ done ++ rest := stored
  exact toList_storedAt_swept_append takes fromStart

end Sweeps

open Classical in
noncomputable def contradictory (I : Interpretation) (system : TransitionSystem)
    (query : List Term) : Bool :=
  decide (¬ Satisfiable I system.declarations.signature query)

def Truthful (I : Interpretation) (system : TransitionSystem) (query : List Term) (unsat : Bool) :
    Prop :=
  contradictory I system query = unsat

section Outcome

variable {I : Interpretation} {system : TransitionSystem}

theorem contradictory_iff {query : List Term} :
    contradictory I system query = true ↔
      ¬ Satisfiable I system.declarations.signature query := by
  simp [contradictory]

theorem contradictory_eq_false_iff {query : List Term} :
    contradictory I system query = false ↔ Satisfiable I system.declarations.signature query := by
  rw [← Bool.not_eq_true, contradictory_iff, Classical.not_not]

theorem not_contradictory_of_subset {few many : List Term} (included : few ⊆ many)
    (possible : contradictory I system many = false) : contradictory I system few = false := by
  rw [contradictory_eq_false_iff] at possible ⊢
  exact possible.subset included

theorem contradictory_congr {query query' : List Term} (forth : query ⊆ query')
    (back : query' ⊆ query) : contradictory I system query = contradictory I system query' := by
  rw [Bool.eq_iff_iff, contradictory_iff, contradictory_iff]
  exact not_congr ⟨Satisfiable.subset back, Satisfiable.subset forth⟩

/-- What the frames become when everything is answered truthfully. -/
noncomputable def pushed (I : Interpretation) (system : TransitionSystem) (index : Nat)
    (frames : FrameSet) : FrameSet :=
  swept (fun clause => contradictory I system
      (inductionQuery system (frames.effective (index + 1)) clause))
    (promote · index) (frames.storedAt (index + 1)).toList frames

noncomputable def prunedBy (I : Interpretation) (system : TransitionSystem) (index : Nat)
    (frames : FrameSet) (stronger : Term) : FrameSet :=
  swept (fun clause => contradictory I system (subsumptionQuery stronger clause))
    (discard · index) (frames.storedAt (index + 1)).toList frames

noncomputable def pruned (I : Interpretation) (system : TransitionSystem) (index : Nat)
    (frames : FrameSet) : FrameSet :=
  (frames.effective (index + 2)).toList.foldl (prunedBy I system index) frames

noncomputable def visited (I : Interpretation) (system : TransitionSystem) (subsumption : Bool)
    (index : Nat) (frames : FrameSet) : FrameSet :=
  if subsumption then pruned I system index (pushed I system index frames)
  else pushed I system index frames

noncomputable def visitedAll (I : Interpretation) (system : TransitionSystem) (subsumption : Bool) :
    List Nat → FrameSet → Bool × FrameSet
  | [], frames => (false, frames)
  | index :: rest, frames =>
      let after := visited I system subsumption index frames
      if (after.storedAt (index + 1)).isEmpty then (true, after)
      else visitedAll I system subsumption rest after

variable {subsumption whole : Bool} {index level : Nat} {before after : FrameSet}

theorem Sweep.truthful {query : Term → List Term} {act : FrameSet → Term → FrameSet}
    {clauses : List Term} (sweep : Sweep (Truthful I system) query act whole clauses before after) :
    ∃ done rest, clauses = done ++ rest ∧
      after = swept (fun clause => contradictory I system (query clause)) act done before ∧
      (whole = true → rest = []) := by
  induction sweep with
  | finished => exact ⟨[], [], rfl, rfl, fun _ => rfl⟩
  | @stopped clauses frames => exact ⟨[], clauses, rfl, rfl, nofun⟩
  | @refuted _ clause _ _ _ answered _ ih =>
      obtain ⟨done, rest, rfl, rfl, finishes⟩ := ih
      refine ⟨clause :: done, rest, rfl, ?_, finishes⟩
      rw [swept_cons, show contradictory I system (query clause) = true from answered, if_pos rfl]
  | @satisfied _ clause _ _ _ answered _ ih =>
      obtain ⟨done, rest, rfl, rfl, finishes⟩ := ih
      refine ⟨clause :: done, rest, rfl, ?_, finishes⟩
      rw [swept_cons, show contradictory I system (query clause) = false from answered,
        if_neg Bool.false_ne_true]

section Takes

variable {query : Term → List Term} {act : FrameSet → Term → FrameSet}
  (takes : ∀ frames clause, ((act frames clause).storedAt level).toList =
    (frames.storedAt level).toList.erase clause)

include takes

theorem Sweep.survivors
    (sweep : Sweep (Truthful I system) query act whole (before.storedAt level).toList before after) :
    (∀ clause ∈ after.storedAt level, clause ∈ before.storedAt level) ∧
      (whole = true → ∀ clause ∈ after.storedAt level,
        contradictory I system (query clause) = false) := by
  obtain ⟨done, rest, split, rfl, finishes⟩ := sweep.truthful
  have left := toList_storedAt_swept (fun clause => contradictory I system (query clause)) takes split
  constructor
  · intro clause member
    rw [← OrderedSet.mem_toList, left, List.mem_append] at member
    rw [← OrderedSet.mem_toList, split, List.mem_append]
    exact member.imp_left fun held => (List.mem_filter.1 held).1
  · intro isWhole clause member
    rw [← OrderedSet.mem_toList, left, finishes isWhole, List.append_nil] at member
    simpa using (List.mem_filter.1 member).2

theorem Sweep.resumed
    (sweep : Sweep (Truthful I system) query act whole (before.storedAt level).toList before after) :
    swept (fun clause => contradictory I system (query clause)) act (after.storedAt level).toList
        after =
      swept (fun clause => contradictory I system (query clause)) act
        (before.storedAt level).toList before := by
  obtain ⟨done, rest, split, rfl, -⟩ := sweep.truthful
  have spared : ∀ clause ∈ done.filter fun clause => !contradictory I system (query clause),
      contradictory I system (query clause) = false := by
    intro clause member
    simpa using (List.mem_filter.1 member).2
  rw [toList_storedAt_swept _ takes split, swept_append, swept_eq_self spared, split, swept_append]

end Takes

/-! ## Pruning -/

theorem Prunes.effective_above {clauses : List Term}
    (prunes : Prunes (Truthful I system) index whole clauses before after)
    (above : index + 1 < level) : after.effective level = before.effective level := by
  induction prunes with
  | finished => rfl
  | stopped sweep => exact sweep.discard_above above
  | onward sweep _ ih => exact ih.trans (sweep.discard_above above)

theorem Sweep.eq_prunedBy {stronger : Term}
    (sweep : Sweep (Truthful I system) (subsumptionQuery stronger) (discard · index) true
      (before.storedAt (index + 1)).toList before after) :
    after = prunedBy I system index before stronger := by
  obtain ⟨done, rest, split, result, finishes⟩ := sweep.truthful
  rw [finishes rfl, List.append_nil] at split
  rw [result, prunedBy, split]

theorem Prunes.eq_foldl_prunedBy {clauses : List Term}
    (prunes : Prunes (Truthful I system) index true clauses before after) :
    after = clauses.foldl (prunedBy I system index) before := by
  generalize isWhole : true = whole at prunes
  induction prunes with
  | finished => rfl
  | stopped _ => cases isWhole
  | onward sweep _ ih =>
      rw [List.foldl_cons, ← sweep.eq_prunedBy]
      exact ih isWhole

theorem Prunes.survivors {clauses : List Term}
    (prunes : Prunes (Truthful I system) index whole clauses before after) :
    (∀ clause ∈ after.storedAt (index + 1), clause ∈ before.storedAt (index + 1)) ∧
      (whole = true → ∀ stronger ∈ clauses, ∀ clause ∈ after.storedAt (index + 1),
        contradictory I system (subsumptionQuery stronger clause) = false) := by
  induction prunes with
  | finished => exact ⟨fun _ member => member, nofun⟩
  | stopped sweep =>
      exact ⟨(sweep.survivors fun _ _ => toList_storedAt_discard).1, nofun⟩
  | onward sweep _ ih =>
      obtain ⟨kept, spared⟩ := sweep.survivors fun _ _ => toList_storedAt_discard
      refine ⟨fun clause member => kept clause (ih.1 clause member), fun isWhole => ?_⟩
      exact List.forall_mem_cons.2 ⟨fun clause member => spared rfl clause (ih.1 clause member),
        ih.2 isWhole⟩

theorem Prunes.resumed {clauses : List Term}
    (prunes : Prunes (Truthful I system) index whole clauses before after) :
    clauses.foldl (prunedBy I system index) after =
      clauses.foldl (prunedBy I system index) before := by
  induction prunes with
  | finished => rfl
  | @stopped stronger _ before after sweep =>
      have same : prunedBy I system index after stronger =
          prunedBy I system index before stronger :=
        sweep.resumed fun _ _ => toList_storedAt_discard
      rw [List.foldl_cons, List.foldl_cons, same]
  | @onward _ stronger _ _ _ after sweep others ih =>
      -- What is left was left by this sweep as well, so repeating it drops nothing.
      have spared : prunedBy I system index after stronger = after :=
        swept_eq_self fun clause member =>
          (sweep.survivors fun _ _ => toList_storedAt_discard).2 rfl clause
            (others.survivors.1 clause member)
      rw [List.foldl_cons, List.foldl_cons, spared, ih, sweep.eq_prunedBy]

/-! ## Settled levels -/

/-- Nothing is left to do at the level. -/
structure Settled (I : Interpretation) (system : TransitionSystem) (subsumption : Bool)
    (index : Nat) (frames : FrameSet) : Prop where
  pushes : ∀ clause ∈ frames.storedAt (index + 1), contradictory I system
    (inductionQuery system (frames.effective (index + 1)) clause) = false
  prunes : subsumption = true → ∀ stronger ∈ frames.effective (index + 2),
    ∀ clause ∈ frames.storedAt (index + 1),
      contradictory I system (subsumptionQuery stronger clause) = false

theorem pushed_eq_self {frames : FrameSet}
    (spared : ∀ clause ∈ frames.storedAt (index + 1), contradictory I system
      (inductionQuery system (frames.effective (index + 1)) clause) = false) :
    pushed I system index frames = frames :=
  swept_eq_self spared

theorem foldl_prunedBy_eq_self {clauses : List Term} {frames : FrameSet}
    (spared : ∀ stronger ∈ clauses, ∀ clause ∈ frames.storedAt (index + 1),
      contradictory I system (subsumptionQuery stronger clause) = false) :
    clauses.foldl (prunedBy I system index) frames = frames := by
  induction clauses with
  | nil => rfl
  | cons stronger rest ih =>
      have ⟨here, others⟩ := List.forall_mem_cons.1 spared
      have same : prunedBy I system index frames stronger = frames := swept_eq_self here
      rw [List.foldl_cons, same]
      exact ih others

theorem Settled.visited_eq_self {frames : FrameSet}
    (settled : Settled I system subsumption index frames) :
    visited I system subsumption index frames = frames := by
  unfold visited
  rw [pushed_eq_self settled.pushes]
  split
  · next on => exact foldl_prunedBy_eq_self (settled.prunes on)
  · rfl

theorem Settled.steps (settled : Settled I system subsumption index before)
    (steps : Steps I system (index + 1) before after) :
    Settled I system subsumption index after := by
  have same := Steps.storedAt_below steps (Nat.le_refl (index + 1))
  have fewer (level : Nat) (positive : 0 < level) (le : level ≤ index + 2) (clause : Term)
      (member : clause ∈ after.effective level) : clause ∈ before.effective level :=
    Steps.effective_subset steps positive le member
  refine ⟨fun clause member => ?_, fun on stronger held clause member => ?_⟩
  · rw [same] at member
    exact not_contradictory_of_subset
      (inductionQuery_subset (fewer (index + 1) (Nat.succ_pos _) (by omega)))
      (settled.pushes clause member)
  · rw [same] at member
    exact settled.prunes on stronger (fewer (index + 2) (Nat.succ_pos _) (Nat.le_refl _) _ held)
      clause member

theorem truthful_refutes (query : List Term) (answered : Truthful I system query true) :
    ¬ Satisfiable I system.declarations.signature query :=
  contradictory_iff.1 answered

/-! ## Visits -/

theorem Pushes.mem_effective (pushes : Pushes (Truthful I system) system index whole before after)
    (below : index + 1 < before.frontier) (other : Term) :
    other ∈ after.effective (index + 1) ↔ other ∈ before.effective (index + 1) :=
  (pushes.steps truthful_refutes (Nat.zero_le _) below).2 other

theorem Pushes.resumed (pushes : Pushes (Truthful I system) system index whole before after)
    (below : index + 1 < before.frontier) :
    pushed I system index after = pushed I system index before := by
  have same (clause : Term) :
      contradictory I system (inductionQuery system (after.effective (index + 1)) clause) =
        contradictory I system (inductionQuery system (before.effective (index + 1)) clause) :=
    contradictory_congr
      (inductionQuery_subset fun other => (pushes.mem_effective below other).1)
      (inductionQuery_subset fun other => (pushes.mem_effective below other).2)
  unfold pushed
  rw [funext same]
  exact Sweep.resumed (fun _ _ => toList_storedAt_promote) pushes

theorem Pushes.eq_pushed (pushes : Pushes (Truthful I system) system index true before after) :
    after = pushed I system index before := by
  obtain ⟨done, rest, split, result, finishes⟩ := Sweep.truthful pushes
  rw [finishes rfl, List.append_nil] at split
  rw [result, pushed, split]

theorem Pushes.spared (pushes : Pushes (Truthful I system) system index true before after)
    (below : index + 1 < before.frontier) {later : FrameSet}
    (stored : ∀ clause ∈ later.storedAt (index + 1), clause ∈ after.storedAt (index + 1))
    (held : ∀ clause ∈ later.effective (index + 1), clause ∈ after.effective (index + 1)) :
    ∀ clause ∈ later.storedAt (index + 1), contradictory I system
      (inductionQuery system (later.effective (index + 1)) clause) = false := by
  intro clause member
  refine not_contradictory_of_subset (inductionQuery_subset fun other otherHeld =>
    (pushes.mem_effective below other).1 (held other otherHeld)) ?_
  exact (Sweep.survivors (fun _ _ => toList_storedAt_promote) pushes).2 rfl clause
    (stored clause member)

theorem Prunes.effective_subset {clauses : List Term}
    (prunes : Prunes (Truthful I system) index whole clauses before after)
    (held : ∀ stronger ∈ clauses, stronger ∈ before.effective (index + 2)) (clause : Term)
    (member : clause ∈ after.effective (index + 1)) : clause ∈ before.effective (index + 1) :=
  Steps.effective_subset (prunes.steps truthful_refutes (Nat.le_refl index) held) (Nat.succ_pos _)
    (Nat.le_refl _) member

theorem Visit.eq_visited
    (visit : Visit (Truthful I system) system subsumption index true before after) :
    after = visited I system subsumption index before := by
  unfold visited
  cases visit with
  | pushed pushes off => rw [if_neg (by rw [off]; exact Bool.false_ne_true), pushes.eq_pushed]
  | pruned pushes on prunes =>
      rw [if_pos on, ← pushes.eq_pushed]
      exact prunes.eq_foldl_prunedBy

theorem Visit.resumed
    (visit : Visit (Truthful I system) system subsumption index whole before after)
    (below : index + 1 < before.frontier) :
    visited I system subsumption index after =
      visited I system subsumption index before := by
  unfold visited
  cases visit with
  | pushing pushes => rw [pushes.resumed below]
  | pushed pushes _ => rw [pushes.resumed below]
  | pruned pushes on prunes =>
      -- All pushes were made, and fewer clauses do not justify more of them.
      have spared := pushes.spared below prunes.survivors.1
        (prunes.effective_subset fun _ member => member)
      rw [if_pos on, if_pos on, pushed_eq_self spared, ← pushes.eq_pushed, FrameSet.pruned,
        FrameSet.pruned, prunes.effective_above (Nat.lt_succ_self _)]
      exact prunes.resumed

theorem Visit.settled (visit : Visit (Truthful I system) system subsumption index true before after)
    (below : index + 1 < before.frontier) : Settled I system subsumption index after := by
  cases visit with
  | pushed pushes off =>
      refine ⟨pushes.spared below (fun _ member => member) fun _ member => member, fun on => ?_⟩
      rw [off] at on
      cases on
  | pruned pushes _ prunes =>
      refine ⟨pushes.spared below prunes.survivors.1
        (prunes.effective_subset fun _ member => member), fun _ stronger held => ?_⟩
      rw [prunes.effective_above (Nat.lt_succ_self _)] at held
      exact prunes.survivors.2 rfl stronger held

theorem Visits.outcome {levels : List Nat} {reached : Bool}
    (visits : Visits (Truthful I system) system subsumption levels before after (some reached)) :
    visitedAll I system subsumption levels before = (reached, after) := by
  generalize isOutcome : some reached = outcome at visits
  induction visits with
  | finished => cases isOutcome; rfl
  | stopped _ => cases isOutcome
  | fixpoint visit empty =>
      cases isOutcome
      rw [visitedAll, ← visit.eq_visited, if_pos empty]
  | onward visit nonempty _ ih =>
      rw [visitedAll, ← visit.eq_visited, if_neg (by rw [nonempty]; exact Bool.false_ne_true)]
      exact ih isOutcome

theorem Visits.resumed {levels : List Nat}
    (visits : Visits (Truthful I system) system subsumption levels before after none)
    (ascending : levels.Pairwise (· < ·)) (below : ∀ index ∈ levels, index + 1 < before.frontier) :
    visitedAll I system subsumption levels after =
      visitedAll I system subsumption levels before := by
  generalize isNone : none = outcome at visits
  induction visits with
  | finished => cases isNone
  | fixpoint _ _ => cases isNone
  | stopped visit =>
      rw [visitedAll, visitedAll, visit.resumed (below _ List.mem_cons_self)]
  | @onward index rest before between after _ visit nonempty others ih =>
      have ⟨here, restBelow⟩ := List.forall_mem_cons.1 below
      have ⟨least, restAscending⟩ := List.pairwise_cons.1 ascending
      have frontier := Steps.frontier_eq (visit.steps truthful_refutes (Nat.zero_le _) here)
      have stillBelow : ∀ index ∈ rest, index + 1 < between.frontier :=
        fun index member => frontier ▸ restBelow index member
      have steps := others.steps truthful_refutes least stillBelow
      -- The level was left settled, and the levels above it are all that has changed since.
      have same : (after.storedAt (index + 1)).isEmpty = false := by
        rw [Steps.storedAt_below steps (Nat.le_refl _), nonempty]
      have settled := (visit.settled here).steps steps
      rw [visitedAll, visitedAll, settled.visited_eq_self, ← visit.eq_visited, same, nonempty]
      exact ih restAscending stillBelow isNone

end Outcome

end DeltaFrames.FrameSet
