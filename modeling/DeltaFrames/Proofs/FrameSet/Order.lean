import DeltaFrames.Proofs.FrameSet.Retention

/-!
# The order of clauses does not matter

A level lists its clauses in the order in which they came, and a propagation goes through them in
this order. But what is moved and what is dropped is decided for each clause by the set of the
clauses around it (`mem_storedAt_pushed`, `mem_storedAt_pruned`), and so is how often that happens.
-/

namespace DeltaFrames.FrameSet

open StateAction

variable {I : Interpretation} {system : TransitionSystem} {index level : Nat} {frames : FrameSet}
  {clause : Term} {chosen : Term → Bool}

section Chosen

variable {first : Term} {rest : List Term}

theorem chosen_cons_of_not (spared : chosen first = false) :
    clause ∈ first :: rest ∧ chosen clause = true ↔ clause ∈ rest ∧ chosen clause = true := by
  rw [List.mem_cons]
  constructor
  · rintro ⟨rfl | member, choice⟩
    · rw [spared] at choice
      cases choice
    · exact ⟨member, choice⟩
  · exact fun ⟨member, choice⟩ => ⟨.inr member, choice⟩

theorem chosen_cons (choice : chosen first = true) :
    clause ∈ first :: rest ∧ chosen clause = true ↔
      clause = first ∨ clause ∈ rest ∧ chosen clause = true := by
  rw [List.mem_cons, or_and_right]
  refine or_congr_left ⟨And.left, ?_⟩
  rintro rfl
  exact ⟨rfl, choice⟩

end Chosen

theorem mem_storedAt_swept_promote {clauses : List Term} (below : index + 1 < frames.frontier) :
    clause ∈ (swept chosen (promote · index) clauses frames).storedAt level ↔
      clause ∈ frames.storedAt level ∧
          ¬ (level = index + 1 ∧ clause ∈ clauses ∧ chosen clause = true) ∨
        level = index + 2 ∧ clause ∈ clauses ∧ chosen clause = true := by
  induction clauses generalizing frames with
  | nil => simp [swept]
  | cons first rest ih =>
      rw [swept_cons]
      cases choice : chosen first with
      | false => rw [if_neg Bool.false_ne_true, ih below, chosen_cons_of_not choice]
      | true =>
          -- What has been moved stays where it is, as the clauses are moved from the level below.
          have apart : ¬ (level = index + 1 ∧ level = index + 2) := by omega
          rw [if_pos rfl, ih (by rwa [frontier_promote]), mem_storedAt_promote below,
            chosen_cons choice]
          grind

theorem mem_storedAt_swept_discard {clauses : List Term} :
    clause ∈ (swept chosen (discard · index) clauses frames).storedAt level ↔
      clause ∈ frames.storedAt level ∧
        ¬ (level = index + 1 ∧ clause ∈ clauses ∧ chosen clause = true) := by
  induction clauses generalizing frames with
  | nil => simp [swept]
  | cons first rest ih =>
      rw [swept_cons]
      cases choice : chosen first with
      | false => rw [if_neg Bool.false_ne_true, ih, chosen_cons_of_not choice]
      | true =>
          rw [if_pos rfl, ih, mem_storedAt_discard, chosen_cons choice, and_assoc, ← not_or,
            ← and_or_left]

theorem mem_storedAt_pushed (below : index + 1 < frames.frontier) :
    clause ∈ (pushed I system index frames).storedAt level ↔
      clause ∈ frames.storedAt level ∧ ¬ (level = index + 1 ∧
          relativelyInductive I system index frames clause = true) ∨
        level = index + 2 ∧ clause ∈ frames.storedAt (index + 1) ∧
          relativelyInductive I system index frames clause = true := by
  rw [pushed_eq_swept, mem_storedAt_swept_promote below, OrderedSet.mem_toList]
  refine or_congr_left (and_congr_right fun stored => not_congr ?_)
  constructor
  · rintro ⟨same, -, choice⟩
    exact ⟨same, choice⟩
  · rintro ⟨rfl, choice⟩
    exact ⟨rfl, stored, choice⟩

theorem mem_storedAt_prunedBy {stronger : Term} :
    clause ∈ (prunedBy I system index frames stronger).storedAt level ↔
      clause ∈ frames.storedAt level ∧ ¬ (level = index + 1 ∧
        contradictory I system (subsumptionQuery stronger clause) = true) := by
  rw [prunedBy, mem_storedAt_swept_discard, OrderedSet.mem_toList]
  refine and_congr_right fun stored => not_congr ?_
  constructor
  · rintro ⟨same, -, choice⟩
    exact ⟨same, choice⟩
  · rintro ⟨rfl, choice⟩
    exact ⟨rfl, stored, choice⟩

theorem mem_storedAt_foldl_prunedBy {clauses : List Term} :
    clause ∈ (clauses.foldl (prunedBy I system index) frames).storedAt level ↔
      clause ∈ frames.storedAt level ∧ ¬ (level = index + 1 ∧ ∃ stronger ∈ clauses,
        contradictory I system (subsumptionQuery stronger clause) = true) := by
  induction clauses generalizing frames with
  | nil => simp
  | cons stronger rest ih =>
      rw [List.foldl_cons, ih, mem_storedAt_prunedBy]
      simp only [List.mem_cons, exists_eq_or_imp, and_or_left, not_or, and_assoc]

theorem mem_storedAt_pruned :
    clause ∈ (pruned I system index frames).storedAt level ↔
      clause ∈ frames.storedAt level ∧ ¬ (level = index + 1 ∧
        ∃ stronger ∈ frames.effective (index + 2),
          contradictory I system (subsumptionQuery stronger clause) = true) :=
  mem_storedAt_foldl_prunedBy

/-! ## How often clauses are moved and dropped -/

structure Counts (moved dropped : Nat) (before after : FrameSet) : Prop where
  moved : after.statistics.propagatedClauses =
    Counter.next^[moved] before.statistics.propagatedClauses
  dropped : after.statistics.subsumedClauses =
    Counter.next^[dropped] before.statistics.subsumedClauses

theorem Counts.trans {moved dropped moreMoved moreDropped : Nat} {before between after : FrameSet}
    (first : Counts moved dropped before between)
    (second : Counts moreMoved moreDropped between after) :
    Counts (moreMoved + moved) (moreDropped + dropped) before after where
  moved := by rw [second.moved, first.moved, Function.iterate_add_apply]
  dropped := by rw [second.dropped, first.dropped, Function.iterate_add_apply]

theorem counts_swept {moved dropped : Nat} (chosen : Term → Bool)
    {act : FrameSet → Term → FrameSet}
    (once : ∀ frames clause, Counts moved dropped frames (act frames clause)) (clauses : List Term)
    (frames : FrameSet) :
    Counts (clauses.countP chosen * moved) (clauses.countP chosen * dropped) frames
      (swept chosen act clauses frames) := by
  induction clauses generalizing frames with
  | nil => exact ⟨by simp [swept], by simp [swept]⟩
  | cons first rest ih =>
      rw [swept_cons]
      cases choice : chosen first with
      | false =>
          rw [if_neg Bool.false_ne_true, List.countP_cons_of_neg (Bool.eq_false_iff.1 choice)]
          exact ih frames
      | true =>
          rw [if_pos rfl, List.countP_cons_of_pos choice, Nat.succ_mul, Nat.succ_mul]
          exact (once frames first).trans (ih _)

theorem counts_pushed (I : Interpretation) (system : TransitionSystem) (index : Nat)
    (frames : FrameSet) :
    Counts
      ((frames.storedAt (index + 1)).toList.countP (relativelyInductive I system index frames)) 0
      frames (pushed I system index frames) := by
  have once (frames : FrameSet) (clause : Term) : Counts 1 0 frames (frames.promote index clause) :=
    ⟨rfl, rfl⟩
  have counts := counts_swept (relativelyInductive I system index frames) once
    (frames.storedAt (index + 1)).toList frames
  rwa [Nat.mul_one, Nat.mul_zero] at counts

def thinnedBy (implied : Term → Term → Bool) (index : Nat) (frames : FrameSet) (stronger : Term) :
    FrameSet :=
  swept (implied stronger) (discard · index) (frames.storedAt (index + 1)).toList frames

section Thinning

variable {implied : Term → Term → Bool}

theorem toList_storedAt_thinnedBy (stronger : Term) :
    ((thinnedBy implied index frames stronger).storedAt (index + 1)).toList =
      (frames.storedAt (index + 1)).toList.filter (!implied stronger ·) := by
  have split := toList_storedAt_swept (implied stronger) (fun _ _ => toList_storedAt_discard)
    (List.append_nil (frames.storedAt (index + 1)).toList).symm
  rwa [List.append_nil] at split

theorem counts_thinnedBy (frames : FrameSet) (stronger : Term) :
    ∃ dropped,
      ((thinnedBy implied index frames stronger).storedAt (index + 1)).size + dropped =
        (frames.storedAt (index + 1)).size ∧
      Counts 0 dropped frames (thinnedBy implied index frames stronger) := by
  have once (frames : FrameSet) (clause : Term) : Counts 0 1 frames (frames.discard index clause) :=
    ⟨rfl, rfl⟩
  have counts := counts_swept (implied stronger) once (frames.storedAt (index + 1)).toList frames
  rw [Nat.mul_zero, Nat.mul_one] at counts
  refine ⟨_, ?_, counts⟩
  have whole := List.length_eq_countP_add_countP (implied stronger)
    (l := (frames.storedAt (index + 1)).toList)
  simp only [Bool.not_eq_true, Bool.decide_eq_false] at whole
  rw [OrderedSet.size, toList_storedAt_thinnedBy, ← List.countP_eq_length_filter, Nat.add_comm]
  exact whole.symm

theorem counts_foldl_thinnedBy (clauses : List Term) (frames : FrameSet) :
    ∃ dropped,
      ((clauses.foldl (thinnedBy implied index) frames).storedAt (index + 1)).size + dropped =
        (frames.storedAt (index + 1)).size ∧
      Counts 0 dropped frames (clauses.foldl (thinnedBy implied index) frames) := by
  induction clauses generalizing frames with
  | nil => exact ⟨0, rfl, rfl, rfl⟩
  | cons stronger rest ih =>
      obtain ⟨dropped, left, counts⟩ := counts_thinnedBy frames stronger
      obtain ⟨more, moreLeft, moreCounts⟩ := ih (thinnedBy implied index frames stronger)
      refine ⟨more + dropped, ?_, counts.trans moreCounts⟩
      rw [List.foldl_cons, ← Nat.add_assoc, moreLeft, left]

end Thinning

theorem counts_foldl_prunedBy (I : Interpretation) (system : TransitionSystem) (index : Nat)
    (clauses : List Term) (frames : FrameSet) :
    ∃ dropped,
      ((clauses.foldl (prunedBy I system index) frames).storedAt (index + 1)).size + dropped =
        (frames.storedAt (index + 1)).size ∧
      Counts 0 dropped frames (clauses.foldl (prunedBy I system index) frames) :=
  counts_foldl_thinnedBy clauses frames

/-! ## Frames that hold the same clauses -/

structure Alike (first second : FrameSet) : Prop where
  frontier : second.frontier = first.frontier
  stored : ∀ level clause, clause ∈ second.storedAt level ↔ clause ∈ first.storedAt level

def CountAlike (first second firstAfter secondAfter : FrameSet) : Prop :=
  ∃ moved dropped, Counts moved dropped first firstAfter ∧ Counts moved dropped second secondAfter

theorem CountAlike.trans {first second firstBetween secondBetween firstAfter secondAfter : FrameSet}
    (earlier : CountAlike first second firstBetween secondBetween)
    (later : CountAlike firstBetween secondBetween firstAfter secondAfter) :
    CountAlike first second firstAfter secondAfter := by
  obtain ⟨moved, dropped, ofFirst, ofSecond⟩ := earlier
  obtain ⟨moreMoved, moreDropped, moreOfFirst, moreOfSecond⟩ := later
  exact ⟨_, _, ofFirst.trans moreOfFirst, ofSecond.trans moreOfSecond⟩

theorem frontier_swept {act : FrameSet → Term → FrameSet}
    (same : ∀ frames clause, (act frames clause).frontier = frames.frontier) (clauses : List Term)
    (frames : FrameSet) : (swept chosen act clauses frames).frontier = frames.frontier :=
  swept_keeps (·.frontier = frames.frontier)
    (fun clause _ _ now kept => (same now clause).trans kept) rfl

theorem frontier_pruned : (pruned I system index frames).frontier = frames.frontier := by
  have folded (clauses : List Term) (frames : FrameSet) :
      (clauses.foldl (prunedBy I system index) frames).frontier = frames.frontier := by
    induction clauses generalizing frames with
    | nil => rfl
    | cons stronger rest ih =>
        rw [List.foldl_cons, ih]
        exact frontier_swept (fun frames clause => frontier_discard frames index clause) _ frames
  exact folded _ frames

theorem frontier_pushed : (pushed I system index frames).frontier = frames.frontier :=
  frontier_swept (fun frames clause => frontier_promote frames index clause) _ frames

namespace Alike

variable {first second : FrameSet} (alike : Alike first second)

include alike

theorem perm (level : Nat) :
    (second.storedAt level).toList.Perm (first.storedAt level).toList :=
  (List.perm_ext_iff_of_nodup (second.storedAt level).nodup (first.storedAt level).nodup).2
    (alike.stored level)

theorem size_eq (level : Nat) : (second.storedAt level).size = (first.storedAt level).size :=
  (alike.perm level).length_eq

theorem isEmpty_eq (level : Nat) :
    (second.storedAt level).isEmpty = (first.storedAt level).isEmpty := by
  rw [Bool.eq_iff_iff, OrderedSet.isEmpty, OrderedSet.isEmpty, List.isEmpty_iff, List.isEmpty_iff]
  exact ⟨fun none => (none ▸ alike.perm level).symm.eq_nil,
    fun none => (none ▸ alike.perm level).eq_nil⟩

theorem mem_effective_iff (level : Nat) :
    clause ∈ second.effective level ↔ clause ∈ first.effective level := by
  rcases Nat.eq_zero_or_pos level with rfl | positive
  · exact alike.stored 0 clause
  · simp only [FrameSet.mem_effective_iff positive, alike.stored]

theorem relativelyInductive_eq :
    relativelyInductive I system index second = relativelyInductive I system index first := by
  funext clause
  exact contradictory_congr
    (inductionQuery_subset fun _ => (alike.mem_effective_iff (index + 1)).1)
    (inductionQuery_subset fun _ => (alike.mem_effective_iff (index + 1)).2)

theorem pushed (I : Interpretation) (system : TransitionSystem)
    (below : index + 1 < first.frontier) :
    Alike (pushed I system index first) (pushed I system index second) ∧
      CountAlike first second (FrameSet.pushed I system index first)
        (FrameSet.pushed I system index second) := by
  refine ⟨⟨?_, fun level clause => ?_⟩, _, 0, counts_pushed I system index first, ?_⟩
  · rw [frontier_pushed, frontier_pushed, alike.frontier]
  · rw [mem_storedAt_pushed below, mem_storedAt_pushed (alike.frontier ▸ below),
      alike.relativelyInductive_eq, alike.stored, alike.stored]
  · rw [← alike.relativelyInductive_eq, ← (alike.perm (index + 1)).countP_eq]
    exact counts_pushed I system index second

theorem pruned (I : Interpretation) (system : TransitionSystem) (index : Nat) :
    Alike (pruned I system index first) (pruned I system index second) ∧
      CountAlike first second (FrameSet.pruned I system index first)
        (FrameSet.pruned I system index second) := by
  have after : Alike (FrameSet.pruned I system index first)
      (FrameSet.pruned I system index second) := by
    refine ⟨?_, fun level clause => ?_⟩
    · rw [frontier_pruned, frontier_pruned, alike.frontier]
    · simp only [mem_storedAt_pruned, alike.stored, alike.mem_effective_iff]
  obtain ⟨dropped, left, counts⟩ :=
    counts_foldl_prunedBy I system index (first.effective (index + 2)).toList first
  obtain ⟨others, othersLeft, othersCounts⟩ :=
    counts_foldl_prunedBy I system index (second.effective (index + 2)).toList second
  -- As much is left of both, so as much was dropped.
  have same : others = dropped := by
    have ofLeft := after.size_eq (index + 1)
    have ofStored := alike.size_eq (index + 1)
    unfold FrameSet.pruned at ofLeft
    omega
  exact ⟨after, 0, dropped, counts, same ▸ othersCounts⟩

theorem visited (I : Interpretation) (system : TransitionSystem) (subsumption : Bool)
    (below : index + 1 < first.frontier) :
    Alike (visited I system subsumption index first) (visited I system subsumption index second) ∧
      CountAlike first second (FrameSet.visited I system subsumption index first)
        (FrameSet.visited I system subsumption index second) ∧
      (FrameSet.visited I system subsumption index first).frontier = first.frontier := by
  obtain ⟨pushed, counts⟩ := alike.pushed I system below
  unfold FrameSet.visited
  cases subsumption with
  | false => exact ⟨pushed, counts, frontier_pushed⟩
  | true =>
      obtain ⟨pruned, moreCounts⟩ := pushed.pruned I system index
      exact ⟨pruned, counts.trans moreCounts, frontier_pruned.trans frontier_pushed⟩

theorem visitedAll (I : Interpretation) (system : TransitionSystem) (subsumption : Bool)
    {levels : List Nat} (below : ∀ index ∈ levels, index + 1 < first.frontier) :
    (visitedAll I system subsumption levels second).1 =
        (visitedAll I system subsumption levels first).1 ∧
      Alike (FrameSet.visitedAll I system subsumption levels first).2
        (FrameSet.visitedAll I system subsumption levels second).2 ∧
      CountAlike first second (FrameSet.visitedAll I system subsumption levels first).2
        (FrameSet.visitedAll I system subsumption levels second).2 := by
  induction levels generalizing first second with
  | nil => exact ⟨rfl, alike, 0, 0, ⟨rfl, rfl⟩, rfl, rfl⟩
  | cons index rest ih =>
      have ⟨here, others⟩ := List.forall_mem_cons.1 below
      obtain ⟨visited, counts, frontier⟩ := alike.visited I system subsumption here
      rw [FrameSet.visitedAll, FrameSet.visitedAll, visited.isEmpty_eq]
      split
      · exact ⟨rfl, visited, counts⟩
      · obtain ⟨verdict, after, moreCounts⟩ := ih visited fun index member =>
          frontier ▸ others index member
        exact ⟨verdict, after, counts.trans moreCounts⟩

end Alike

/-! ## Two propagations -/

variable {ω ε : Type} {bench : Workbench ω ε} {view : View ω}

theorem Alike.levelsVisited {first second : FrameSet} (alike : Alike first second) :
    second.levelsVisited = first.levelsVisited := by
  rw [FrameSet.levelsVisited, FrameSet.levelsVisited, alike.frontier,
    visitsAmong_congr alike.isEmpty_eq]

/-- With an exact solver a propagation of the same clauses in another order comes to the same
verdict. It leaves the same clauses at each level, and has moved as many, dropped as many and
visited as many levels. -/
theorem propagation_ignores_order {first second : FrameSet × Run ω ε}
    {firstPoll secondPoll : ω → Except Cancellation.Interrupted Unit}
    (decisive : bench.solver.Decisive I view) (wellSorted : bench.system.WellSorted)
    (sorted : first.1.ClausesSorted bench.system.declarations.signature)
    (alike : Alike first.1 second.1)
    (firstFree : (view.stack first.2.world).assertions = [])
    (secondFree : (view.stack second.2.world).assertions = [])
    (firstPatient : Patient bench.solver firstPoll first.2.world)
    (secondPatient : Patient bench.solver secondPoll second.2.world) :
    ∃ reached firstAfter secondAfter,
      propagate bench firstPoll first = .ok reached firstAfter ∧
      propagate bench secondPoll second = .ok reached secondAfter ∧
      Alike firstAfter.1 secondAfter.1 ∧
      ∃ moved dropped visited,
        firstAfter.1.statistics.propagatedClauses =
          Counter.next^[moved] first.1.statistics.propagatedClauses ∧
        secondAfter.1.statistics.propagatedClauses =
          Counter.next^[moved] second.1.statistics.propagatedClauses ∧
        firstAfter.1.statistics.subsumedClauses =
          Counter.next^[dropped] first.1.statistics.subsumedClauses ∧
        secondAfter.1.statistics.subsumedClauses =
          Counter.next^[dropped] second.1.statistics.subsumedClauses ∧
        firstAfter.1.statistics.levelsPropagated =
          Counter.next^[visited] first.1.statistics.levelsPropagated ∧
        secondAfter.1.statistics.levelsPropagated =
          Counter.next^[visited] second.1.statistics.levelsPropagated := by
  have secondSorted : second.1.ClausesSorted bench.system.declarations.signature :=
    fun level clause positive stored =>
      sorted level clause positive ((alike.stored level clause).1 stored)
  obtain ⟨reached, firstAfter, firstReturned⟩ :=
    propagate_decided decisive wellSorted sorted firstFree firstPatient
  obtain ⟨verdict, secondAfter, secondReturned⟩ :=
    propagate_decided decisive wellSorted secondSorted secondFree secondPatient
  have firstEnd := (propagate_outcome decisive.toExact wellSorted sorted firstFree firstReturned).1
  have secondEnd :=
    (propagate_outcome decisive.toExact wellSorted secondSorted secondFree secondReturned).1
  have ledgers : Alike first.1.ledger second.1.ledger := ⟨alike.frontier, alike.stored⟩
  have below : ∀ index ∈ List.range (first.1.frontier - 1), index + 1 < first.1.ledger.frontier :=
    fun _ => lt_frontier_of_mem_range
  obtain ⟨same, after, moved, dropped, firstCounts, secondCounts⟩ :=
    ledgers.visitedAll I bench.system bench.options.subsumption below
  rw [alike.frontier] at secondEnd
  rw [firstEnd, secondEnd] at same
  rw [firstEnd] at after firstCounts
  rw [secondEnd] at after secondCounts
  obtain rfl : verdict = reached := same
  have afterAlike : Alike firstAfter.1 secondAfter.1 := ⟨after.frontier, after.stored⟩
  have firstLevels := propagate_levels firstReturned (propagate_frontier firstReturned)
  have secondLevels := propagate_levels secondReturned (propagate_frontier secondReturned)
  rw [afterAlike.levelsVisited] at secondLevels
  exact ⟨verdict, firstAfter, secondAfter, firstReturned, secondReturned, afterAlike, moved,
    dropped, _, firstCounts.moved, secondCounts.moved, firstCounts.dropped, secondCounts.dropped,
    firstLevels, secondLevels⟩

def flickerReordered : FrameSet × Run (World Enumerating.State) Enumerating.Error :=
  history flickerBench latchStart
    [.openFrame, .openFrame, .block (.not (.binary .eq (.var "p") (.var "q"))) 1,
      .block (.not flickerClause) 1, .block (.not (.var "q")) 2]

theorem flicker_alike : Alike flickerFilled.1 flickerReordered.1 := by
  have filled : flickerFilled.1.frontier = 2 := by decide +kernel
  have reordered : flickerReordered.1.frontier = 2 := by decide +kernel
  refine ⟨reordered.trans filled.symm, fun level clause => ?_⟩
  have permuted (level : Nat) (few : level ≤ 2) : (flickerReordered.1.storedAt level).toList.Perm
      (flickerFilled.1.storedAt level).toList := by
    have each : ∀ level ∈ List.range 3, (flickerReordered.1.storedAt level).toList.Perm
        (flickerFilled.1.storedAt level).toList := by decide +kernel
    exact each level (List.mem_range.2 (Nat.lt_succ_of_le few))
  by_cases few : level ≤ 2
  · exact (permuted level few).mem_iff
  · rw [storedAt_beyond (by omega), storedAt_beyond (by omega)]

theorem flicker_propagation_ignores_order :
    (flickerReordered.1.storedAt 1).toList ≠ (flickerFilled.1.storedAt 1).toList ∧
    ∃ reached filled reordered,
      propagate flickerBench (fun _ => .ok ()) flickerFilled = .ok reached filled ∧
      propagate flickerBench (fun _ => .ok ()) flickerReordered = .ok reached reordered ∧
      Alike filled.1 reordered.1 := by
  have decisive : flickerBench.solver.Decisive (.words Enumerating.range) Enumerating.view :=
    Enumerating.solver_decisive none
  have wellSorted := flicker_wellSorted.toTransitionSystem
  have sorted := flickerFilled_reached.clausesSorted wellSorted
  have filledFree : (Enumerating.view.stack flickerFilled.2.world).assertions = [] := by
    decide +kernel
  have reorderedFree : (Enumerating.view.stack flickerReordered.2.world).assertions = [] := by
    decide +kernel
  obtain ⟨reached, filled, reordered, fills, reorders, alike, -⟩ :=
    propagation_ignores_order decisive wellSorted sorted flicker_alike filledFree reorderedFree
      (fun _ _ => rfl) fun _ _ => rfl
  exact ⟨by decide +kernel, reached, filled, reordered, fills, reorders, alike⟩

end DeltaFrames.FrameSet
