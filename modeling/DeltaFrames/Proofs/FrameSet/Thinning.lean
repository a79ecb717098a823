import DeltaFrames.Proofs.FrameSet.Decisions
import DeltaFrames.Proofs.FrameSet.Moves

/-!
# Subsumption only thins levels out

Two propagations from the same frames, of which one drops subsumed clauses, go hand in hand. What is
dropped at a level is not needed any more: the levels above, which are all that later queries are
about, are the same in both (`Thinned.above`). So the same clauses are moved, and where the thinner
frames lack a clause, one of the next level makes up for it (`Thinned.replaced`).
-/

namespace DeltaFrames

open StateAction

def Workbench.subsuming {ω ε : Type} (bench : Workbench ω ε) (subsumption : Bool) :
    Workbench ω ε :=
  { bench with options := { bench.options with subsumption } }

namespace FrameSet

variable {I : Interpretation} {system : TransitionSystem} {lowest level : Nat}
  {full thin : FrameSet}

structure Thinned (I : Interpretation) (system : TransitionSystem) (lowest : Nat)
    (full thin : FrameSet) : Prop where
  initial : thin.initial = full.initial
  frontier : thin.frontier = full.frontier
  above : ∀ level, lowest < level → thin.storedAt level = full.storedAt level
  sublist : ∀ level, (thin.storedAt level).toList.Sublist (full.storedAt level).toList
  replaced : ∀ level, ∀ clause ∈ full.storedAt level, clause ∉ thin.storedAt level →
    ∃ stronger ∈ full.effective (level + 1),
      contradictory I system (subsumptionQuery stronger clause) = true

theorem thinned_refl (frames : FrameSet) : Thinned I system lowest frames frames where
  initial := rfl
  frontier := rfl
  above _ _ := rfl
  sublist _ := List.Sublist.refl _
  replaced _ _ stored missing := absurd stored missing

namespace Thinned

variable (thinned : Thinned I system lowest full thin)

include thinned

theorem mem_of_mem {clause : Term} (stored : clause ∈ thin.storedAt level) :
    clause ∈ full.storedAt level :=
  OrderedSet.mem_toList.1 ((thinned.sublist level).subset (OrderedSet.mem_toList.2 stored))

theorem mem_effective_iff (high : lowest < level) {clause : Term} :
    clause ∈ thin.effective level ↔ clause ∈ full.effective level := by
  have positive : 0 < level := Nat.zero_lt_of_lt high
  rw [FrameSet.mem_effective_iff positive, FrameSet.mem_effective_iff positive]
  constructor
  · rintro ⟨above, le, stored⟩
    exact ⟨above, le, thinned.mem_of_mem stored⟩
  · rintro ⟨above, le, stored⟩
    exact ⟨above, le, (thinned.above above (Nat.lt_of_lt_of_le high le)).symm ▸ stored⟩

theorem mem_effective_of_mem {clause : Term} (positive : 0 < level)
    (member : clause ∈ thin.effective level) : clause ∈ full.effective level := by
  obtain ⟨above, le, stored⟩ := (FrameSet.mem_effective_iff positive).1 member
  exact mem_effective_of_stored positive le (thinned.mem_of_mem stored)

theorem promote {clause : Term} (below : lowest + 1 < full.frontier) :
    Thinned I system lowest (full.promote lowest clause) (thin.promote lowest clause) := by
  have above (level : Nat) (high : lowest < level) :
      (thin.promote lowest clause).storedAt level =
        (full.promote lowest clause).storedAt level := by
    rw [storedAt_promote below, storedAt_promote (thinned.frontier ▸ below),
      thinned.above level high]
  refine ⟨thinned.initial, ?_, above, fun level => ?_, fun level other stored missing => ?_⟩
  · rw [frontier_promote, frontier_promote, thinned.frontier]
  · rcases Nat.lt_or_ge lowest level with high | low
    · exact (above level high).symm ▸ List.Sublist.refl _
    · rw [storedAt_promote_below low, storedAt_promote_below low]
      exact thinned.sublist level
  · rcases Nat.lt_or_ge lowest level with high | low
    · rw [above level high] at missing
      exact absurd stored missing
    · rw [storedAt_promote_below low] at stored missing
      obtain ⟨stronger, held, refuted⟩ := thinned.replaced level other stored missing
      exact ⟨stronger, mem_effective_promote_of_mem below (Nat.succ_pos _) held, refuted⟩

theorem discard {index : Nat} {stronger clause : Term} (low : index < lowest)
    (held : stronger ∈ full.effective (index + 2))
    (refuted : contradictory I system (subsumptionQuery stronger clause) = true) :
    Thinned I system lowest full (thin.discard index clause) where
  initial := thinned.initial
  frontier := by rw [frontier_discard, thinned.frontier]
  above level high := by
    rw [storedAt_discard, if_neg (by omega), thinned.above level high]
  sublist level := by
    rw [storedAt_discard]
    split
    · exact (List.erase_sublist).trans (thinned.sublist level)
    · exact thinned.sublist level
  replaced level other stored missing := by
    by_cases kept : other ∈ thin.storedAt level
    · obtain ⟨rfl, rfl⟩ : level = index + 1 ∧ other = clause := by
        by_contra stays
        exact missing (mem_storedAt_discard.2 ⟨kept, stays⟩)
      exact ⟨stronger, held, refuted⟩
    · exact thinned.replaced level other stored kept

theorem raise : Thinned I system (lowest + 1) full thin :=
  { thinned with above := fun level high => thinned.above level (Nat.lt_of_succ_lt high) }

theorem relativelyInductive_eq (clause : Term) :
    relativelyInductive I system lowest thin clause =
      relativelyInductive I system lowest full clause :=
  contradictory_congr
    (inductionQuery_subset fun _ => (thinned.mem_effective_iff (Nat.lt_succ_self _)).1)
    (inductionQuery_subset fun _ => (thinned.mem_effective_iff (Nat.lt_succ_self _)).2)

theorem moved_eq : moved I system lowest thin = moved I system lowest full := by
  rw [moved, moved, funext thinned.relativelyInductive_eq, thinned.above _ (Nat.lt_succ_self _)]

theorem pushed (below : lowest + 1 < full.frontier) :
    Thinned I system lowest (pushed I system lowest full) (pushed I system lowest thin) ∧
      (FrameSet.pushed I system lowest full).frontier = full.frontier := by
  rw [pushed_eq_swept, pushed_eq_swept, funext thinned.relativelyInductive_eq,
    thinned.above _ (Nat.lt_succ_self _)]
  refine swept_related
    (fun now later => Thinned I system lowest now later ∧ now.frontier = full.frontier)
    (fun clause now later holds => ?_) (full.storedAt (lowest + 1)).toList ⟨thinned, rfl⟩
  exact ⟨holds.1.promote (holds.2 ▸ below), (frontier_promote now lowest clause).trans holds.2⟩

theorem pruned : Thinned I system (lowest + 1) full (pruned I system lowest thin) := by
  have held : ∀ stronger ∈ (thin.effective (lowest + 2)).toList,
      stronger ∈ full.effective (lowest + 2) := fun stronger member =>
    (thinned.mem_effective_iff (by omega)).1 (OrderedSet.mem_toList.1 member)
  -- The clauses that others are compared with do not change on the way.
  unfold FrameSet.pruned
  generalize (thin.effective (lowest + 2)).toList = clauses at held
  have raised := thinned.raise
  clear thinned
  induction clauses generalizing thin with
  | nil => exact raised
  | cons stronger rest ih =>
      have ⟨here, others⟩ := List.forall_mem_cons.1 held
      have onward : Thinned I system (lowest + 1) full (prunedBy I system lowest thin stronger) :=
        swept_keeps (Thinned I system (lowest + 1) full)
          (fun _ _ refuted _ kept => kept.discard (Nat.lt_succ_self _) here refuted) raised
      exact ih others onward

theorem visited (below : lowest + 1 < full.frontier) :
    Thinned I system (lowest + 1) (visited I system false lowest full)
        (visited I system true lowest thin) ∧
      (FrameSet.visited I system false lowest full).frontier = full.frontier := by
  obtain ⟨pushed, frontier⟩ := thinned.pushed below
  exact ⟨pushed.pruned, frontier⟩

theorem isEmpty_of_isEmpty (empty : (full.storedAt level).isEmpty = true) :
    (thin.storedAt level).isEmpty = true := by
  have none : (full.storedAt level).toList = [] := List.isEmpty_iff.1 empty
  exact List.isEmpty_iff.2 (List.eq_nil_of_sublist_nil (none ▸ thinned.sublist level))

theorem visitedAll {count : Nat} {left : FrameSet} (below : lowest + count ≤ full.frontier - 1)
    (thins : visitedAll I system true (List.range' lowest count) thin = (false, left)) :
    ∃ kept, FrameSet.visitedAll I system false (List.range' lowest count) full = (false, kept) ∧
      Thinned I system (lowest + count) kept left ∧
      movesAll I system false (List.range' lowest count) full =
        movesAll I system true (List.range' lowest count) thin := by
  induction count generalizing lowest full thin with
  | zero =>
      obtain rfl : thin = left := (Prod.mk.inj thins).2
      exact ⟨full, rfl, thinned, rfl⟩
  | succ count ih =>
      obtain ⟨visited, frontier⟩ := thinned.visited (by omega)
      rw [List.range'_succ] at thins ⊢
      rw [FrameSet.visitedAll] at thins
      split at thins
      · cases (Prod.mk.inj thins).1
      · next nonempty =>
          obtain ⟨kept, fills, after, sameMoves⟩ := ih visited (by omega) thins
          -- A level that the thinner propagation leaves something at is not emptied by the other.
          have stillNonempty : ¬ ((FrameSet.visited I system false lowest full).storedAt
              (lowest + 1)).isEmpty = true := mt visited.isEmpty_of_isEmpty nonempty
          refine ⟨kept, ?_, ?_, ?_⟩
          · rw [FrameSet.visitedAll, if_neg stillNonempty, fills]
          · rwa [Nat.add_right_comm, Nat.add_assoc] at after
          · rw [movesAll, movesAll, if_neg nonempty, if_neg stillNonempty, thinned.moved_eq,
              sameMoves]

/-! ## What the levels mean -/

section Meaning

variable (sorted : full.ClausesSorted system.declarations.signature)

include sorted

theorem entailed {clause : Term} (stored : clause ∈ full.storedAt level)
    (missing : clause ∉ thin.storedAt level) :
    ∃ stronger ∈ full.effective (level + 1),
      Entails I system.declarations.signature [stronger] clause := by
  have positive : 0 < level := by
    refine Nat.pos_of_ne_zero ?_
    rintro rfl
    have same : thin.storedAt 0 = full.storedAt 0 := thinned.initial
    exact missing (same ▸ stored)
  obtain ⟨stronger, held, refuted⟩ := thinned.replaced level clause stored missing
  exact ⟨stronger, held, (not_satisfiable_not_implies_iff (sorted.effective (Nat.succ_pos _) held)
    (sorted level clause positive stored)).1 (contradictory_iff.1 refuted)⟩

theorem holds_of_stored {valuation : Valuation I}
    (fits : valuation.Fits system.declarations.signature) (positive : 0 < level)
    (admits : thin.Admits level valuation) {above : Nat} (le : level ≤ above) {clause : Term}
    (stored : clause ∈ full.storedAt above) : clause.Holds valuation := by
  by_cases kept : clause ∈ thin.storedAt above
  · exact admits clause (mem_effective_of_stored positive le kept)
  · -- What replaces the clause is stored further up, and the levels come to an end.
    obtain ⟨stronger, held, entailed⟩ := thinned.entailed sorted stored kept
    obtain ⟨place, higher, strongerStored⟩ := (FrameSet.mem_effective_iff (Nat.succ_pos _)).1 held
    have inside := le_frontier_of_stored strongerStored
    have placeLe : level ≤ place := Nat.le_trans le (Nat.le_of_succ_le higher)
    exact entailed valuation fits (List.forall_mem_singleton.2
      (holds_of_stored fits positive admits placeLe strongerStored))
termination_by full.frontier - above

theorem admits_iff {valuation : Valuation I} (fits : valuation.Fits system.declarations.signature) :
    thin.Admits level valuation ↔ full.Admits level valuation := by
  rcases Nat.eq_zero_or_pos level with rfl | positive
  · have same : thin.effective 0 = full.effective 0 := thinned.initial
    rw [Admits, Admits, same]
  · constructor
    · intro admits clause member
      obtain ⟨above, le, stored⟩ := (FrameSet.mem_effective_iff positive).1 member
      exact thinned.holds_of_stored sorted fits positive admits le stored
    · exact fun admits clause member => admits clause (thinned.mem_effective_of_mem positive member)

end Meaning

end Thinned

/-! ## Two propagations -/

variable {ω ε : Type} {bench : Workbench ω ε} {view : View ω}

theorem propagate_clausesSorted (bench : Workbench ω ε)
    (poll : ω → Except Cancellation.Interrupted Unit) {signature : Signature}
    {state : FrameSet × Run ω ε} (sorted : state.1.ClausesSorted signature) :
    (finalState (propagate bench poll state)).1.ClausesSorted signature := by
  have keeps : (Regime.ofFrames ω ε (·.ClausesSorted signature)).Keeps (propagate bench poll) :=
    Regime.propagate_upheld
      (fun _ => Regime.ofFrames_upheld
        (fun _ clause stored sorted => sorted.promote (sorted _ clause (Nat.succ_pos _) stored))
        fun _ _ _ sorted => sorted.discard)
      (fun sorted => sorted) (fun _ sorted => sorted) fun _ sorted => sorted
  have preserves : Preserves (fun now : FrameSet × Run ω ε => now.1.ClausesSorted signature)
      (propagate bench poll) := keeps
  exact preserves.finalState sorted

theorem perform_clausesSorted (bench : Workbench ω ε) (wellSorted : bench.system.WellSorted)
    {state : FrameSet × Run ω ε} {command : Command ω}
    (allowed : WellSortedCommand bench.system state.1 command)
    (sorted : state.1.ClausesSorted bench.system.declarations.signature) :
    (finalState (perform bench command state)).1.ClausesSorted
      bench.system.declarations.signature := by
  cases command with
  | openFrame => exact ClausesSorted.openNext sorted wellSorted.property
  | block states level =>
      rcases perform_block_cases bench states level state with
        ⟨index, rfl, below, accepted⟩ | ⟨-, error, refused⟩
      · rw [accepted]
        exact sorted.addClause below (Term.HasSort.negate allowed)
      · rw [refused]
        exact sorted
  | propagate poll =>
      rw [finalState_propagate]
      exact propagate_clausesSorted bench poll sorted

theorem Runs.clausesSorted (wellSorted : bench.system.WellSorted) {start : Run ω ε}
    {state : FrameSet × Run ω ε}
    (runs : Runs bench (WellSortedCommand bench.system) (ofSystem bench.system, start) state) :
    state.1.ClausesSorted bench.system.declarations.signature := by
  induction runs with
  | refl => exact clausesSorted_ofSystem bench.system _
  | tail _ advances ih =>
      obtain ⟨command, allowed, rfl⟩ := advances
      exact perform_clausesSorted bench wellSorted allowed ih

theorem propagate_counts {poll : ω → Except Cancellation.Interrupted Unit} {frames : FrameSet}
    {run : Run ω ε} {after : FrameSet × Run ω ε} {reached : Bool} {moves : List (Nat × Term)}
    (returned : propagate bench poll (frames, run) = .ok reached after)
    (moved : after.2.moves = run.moves ++ moves) :
    after.1.statistics.propagatedClauses =
      Counter.next^[moves.length] frames.statistics.propagatedClauses := by
  obtain ⟨more, told, counts⟩ := propagate_tallies bench poll (frames, run)
  rw [returned] at told counts
  obtain rfl : moves = more := List.append_cancel_left (moved.symm.trans told)
  exact counts

theorem thinned_of_propagations {frames : FrameSet} {thinRun fullRun : Run ω ε}
    {thinPoll fullPoll : ω → Except Cancellation.Interrupted Unit}
    {thin full : FrameSet × Run ω ε} {verdict : Bool}
    (exactSolver : bench.solver.Exact I view) (wellSorted : bench.system.WellSorted)
    (sorted : frames.ClausesSorted bench.system.declarations.signature)
    (thinFree : (view.stack thinRun.world).assertions = [])
    (fullFree : (view.stack fullRun.world).assertions = [])
    (thins : propagate (bench.subsuming true) thinPoll (frames, thinRun) = .ok false thin)
    (fills : propagate (bench.subsuming false) fullPoll (frames, fullRun) = .ok verdict full) :
    verdict = false ∧ Thinned I bench.system (frames.frontier - 1) full.1 thin.1 ∧
      ∃ moves, thin.2.moves = thinRun.moves ++ moves ∧ full.2.moves = fullRun.moves ++ moves := by
  have solver (subsumption : Bool) : (bench.subsuming subsumption).solver.Exact I view :=
    exactSolver
  have thinEnd := (propagate_outcome (solver true) wellSorted sorted thinFree thins).1
  have fullEnd := (propagate_outcome (solver false) wellSorted sorted fullFree fills).1
  have thinMoves := propagate_moves thinPoll (solver true) wellSorted sorted thinFree thins
  have fullMoves := propagate_moves fullPoll (solver false) wellSorted sorted fullFree fills
  rw [List.range_eq_range'] at thinEnd fullEnd thinMoves fullMoves
  have inside : 0 + (frames.frontier - 1) ≤ frames.ledger.frontier - 1 :=
    Nat.le_of_eq (Nat.zero_add _)
  obtain ⟨kept, keptEnd, thinned, sameMoves⟩ :=
    (thinned_refl frames.ledger).visitedAll inside thinEnd
  obtain ⟨sameVerdict, rfl⟩ := Prod.mk.inj (keptEnd.symm.trans fullEnd)
  rw [Nat.zero_add] at thinned
  exact ⟨sameVerdict.symm, ⟨thinned.initial, thinned.frontier, thinned.above, thinned.sublist,
    thinned.replaced⟩, _, thinMoves, sameMoves ▸ fullMoves⟩

/-- If a propagation that drops subsumed clauses finds no two levels that agree, then neither does
one that keeps them. Both move the same clauses, in the same order, and the levels mean the same. A
level of the thinner frames lists the clauses of the other in their order, except some that follow
from one clause of the next level. -/
theorem subsumption_only_thins {start thinRun fullRun : Run ω ε} {state thin : FrameSet × Run ω ε}
    {thinPoll fullPoll : ω → Except Cancellation.Interrupted Unit}
    (decisive : bench.solver.Decisive I view) (wellSorted : bench.system.WellSorted)
    (free : (view.stack start.world).assertions = [])
    (runs : Runs bench (WellSortedCommand bench.system) (ofSystem bench.system, start) state)
    (thinFree : (view.stack thinRun.world).assertions = [])
    (fullFree : (view.stack fullRun.world).assertions = [])
    (patient : Patient bench.solver fullPoll fullRun.world)
    (thins : propagate (bench.subsuming true) thinPoll (state.1, thinRun) = .ok false thin) :
    ∃ full, propagate (bench.subsuming false) fullPoll (state.1, fullRun) = .ok false full ∧
      (∃ moves, thin.2.moves = thinRun.moves ++ moves ∧ full.2.moves = fullRun.moves ++ moves ∧
        thin.1.statistics.propagatedClauses =
          Counter.next^[moves.length] state.1.statistics.propagatedClauses ∧
        full.1.statistics.propagatedClauses =
          Counter.next^[moves.length] state.1.statistics.propagatedClauses) ∧
      (∀ level, (thin.1.storedAt level).toList.Sublist (full.1.storedAt level).toList) ∧
      (∀ level, ∀ clause ∈ full.1.storedAt level, clause ∉ thin.1.storedAt level →
        ∃ stronger ∈ full.1.effective (level + 1),
          Entails I bench.system.declarations.signature [stronger] clause) ∧
      ∀ level, ∀ valuation : Valuation I, valuation.Fits bench.system.declarations.signature →
        (thin.1.Admits level valuation ↔ full.1.Admits level valuation) := by
  have sorted : state.1.ClausesSorted bench.system.declarations.signature :=
    (Runs.guarded runs decisive.toSound wellSorted free
      (guarded_ofSystem I bench.system)).1.sorted
  obtain ⟨verdict, full, fills⟩ : ∃ verdict full,
      propagate (bench.subsuming false) fullPoll (state.1, fullRun) = .ok verdict full := by
    have solver : (bench.subsuming false).solver.Decisive I view := decisive
    refine propagate_decided solver ?_ ?_ ?_ ?_
    exacts [wellSorted, sorted, fullFree, patient]
  obtain ⟨rfl, thinned, moves, thinMoves, fullMoves⟩ :=
    thinned_of_propagations decisive.toExact wellSorted sorted thinFree fullFree thins fills
  have fullSorted : full.1.ClausesSorted bench.system.declarations.signature := by
    have kept : (finalState (propagate (bench.subsuming false) fullPoll
        (state.1, fullRun))).1.ClausesSorted bench.system.declarations.signature :=
      propagate_clausesSorted _ _ sorted
    rwa [fills] at kept
  refine ⟨full, fills, ⟨moves, thinMoves, fullMoves, propagate_counts thins thinMoves,
    propagate_counts fills fullMoves⟩, thinned.sublist, fun level clause stored missing => ?_,
    fun level valuation fits => thinned.admits_iff fullSorted fits⟩
  exact thinned.entailed fullSorted stored missing

/-- Two Booleans that hold at first. One is kept for ever, the other may change at any step. -/
def flicker : SymbolicSystem where
  stateVariables := [("p", .bool), ("q", .bool)]
  initial := .nary .and [.var "p", .var "q"]
  property := .var "p"
  transition := .var "p_next"
  names_nodup := by decide
  primedName_not_mem := by decide
  initial_closed := by decide
  property_closed := by decide
  transition_closed := by decide

theorem flicker_wellSorted : flicker.WellSorted where
  initial := .nary (List.forall_mem_cons.2 ⟨.var rfl, List.forall_mem_singleton.2 (.var rfl)⟩)
  property := .var rfl
  transition := .var (by decide)

def flickerBench : Workbench (World Enumerating.State) Enumerating.Error :=
  { latchBench with system := flicker.toTransitionSystem }

/-- A clause that is not kept, but follows from one that is blocked further up. -/
def flickerClause : Term := .implies (.var "p") (.var "q")

def flickerCommands : List (Command (World Enumerating.State)) :=
  [.openFrame, .openFrame, .block (.not (.var "q")) 2, .block (.not flickerClause) 1,
    .block (.not (.binary .eq (.var "p") (.var "q"))) 1]

def flickerFilled : FrameSet × Run (World Enumerating.State) Enumerating.Error :=
  flickerCommands.foldl (fun state command => finalState (perform flickerBench command state))
    (ofSystem flickerBench.system, latchStart)

theorem flickerFilled_reached :
    Runs flickerBench (WellSortedCommand flickerBench.system)
      (ofSystem flickerBench.system, latchStart) flickerFilled := by
  have p : (Term.var "p").HasSort flickerBench.system.declarations.signature .bool := .var rfl
  have q : (Term.var "q").HasSort flickerBench.system.declarations.signature .bool := .var rfl
  exact .tail (.tail (.tail (.tail (.single ⟨.openFrame, trivial, rfl⟩) ⟨.openFrame, trivial, rfl⟩)
    ⟨.block _ 2, .not q, rfl⟩) ⟨.block _ 1, .not (.implies p q), rfl⟩)
    ⟨.block _ 1, .not (.eq p q), rfl⟩

theorem flicker_subsumption_only_thins :
    ∃ thin full,
      propagate (flickerBench.subsuming true) (fun _ => .ok ()) flickerFilled = .ok false thin ∧
      propagate (flickerBench.subsuming false) (fun _ => .ok ()) flickerFilled = .ok false full ∧
      flickerClause ∉ thin.1.storedAt 1 ∧ flickerClause ∈ full.1.storedAt 1 ∧
      ∀ level, ∀ valuation : Valuation (.words Enumerating.range),
        valuation.Fits flickerBench.system.declarations.signature →
          (thin.1.Admits level valuation ↔ full.1.Admits level valuation) := by
  have free : (Enumerating.view.stack flickerFilled.2.world).assertions = [] := by decide +kernel
  have patient : Patient flickerBench.solver (fun _ => .ok ()) flickerFilled.2.world :=
    fun _ _ => rfl
  obtain ⟨thin, thins⟩ := eq_ok_of_returned (show returned (propagate (flickerBench.subsuming true)
    (fun _ => .ok ()) flickerFilled) = some false by decide +kernel)
  obtain ⟨full, fills, -, -, -, same⟩ := subsumption_only_thins (Enumerating.solver_decisive none)
    flicker_wellSorted.toTransitionSystem rfl flickerFilled_reached free free patient thins
  have dropped : flickerClause ∉ (finalState (propagate (flickerBench.subsuming true)
    (fun _ => .ok ()) flickerFilled)).1.storedAt 1 := by decide +kernel
  have kept : flickerClause ∈ (finalState (propagate (flickerBench.subsuming false)
    (fun _ => .ok ()) flickerFilled)).1.storedAt 1 := by decide +kernel
  rw [thins] at dropped
  rw [fills] at kept
  exact ⟨thin, full, thins, fills, dropped, kept, same⟩

end FrameSet
end DeltaFrames
