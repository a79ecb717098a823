import DeltaFrames.Proofs.FrameSet.Extent
import DeltaFrames.Proofs.FrameSet.Strength

namespace DeltaFrames.FrameSet

open StateAction

variable {ω ε : Type} {bench : Workbench ω ε} {poll : ω → Except Cancellation.Interrupted Unit}

theorem toNat_iterate_next (counter : Counter) (visits : Nat) :
    (Counter.next^[visits] counter).toNat = min (counter.toNat + visits) Counter.largest := by
  induction visits with
  | zero =>
      have bounded : counter.toNat < UInt64.size := counter.toNat_lt
      rw [Function.iterate_zero_apply, Nat.add_zero, Counter.largest]
      omega
  | succ visits ih =>
      rw [Function.iterate_succ_apply', Counter.toNat_next, ih]
      omega

theorem stored_congr {frames other : FrameSet} {level : Nat}
    (frontier : other.frontier = frames.frontier)
    (same : other.storedAt level = frames.storedAt level) :
    other.stored level = frames.stored level := by
  by_cases inside : level ≤ frames.frontier
  · rw [stored_of_le inside, stored_of_le (frontier ▸ inside), same]
  · simp [stored, checkLevel, inside, frontier, bind, Except.bind]

/-- A propagation that returns has visited a number of levels, which is what its counter has grown
by as long as the counter has not come to its largest value. If a fixpoint is reported then the last
level that was visited is empty, it agrees with the level above to the order of the clauses, the
levels below it are not empty, and neither the initial frame nor a frame beyond the level above it
has changed. Otherwise all the levels between 0 and the frontier have been visited, none of them is
empty, and the last frame has lost nothing. -/
theorem verdict_tells_reach {state after : FrameSet × Run ω ε} {reached : Bool}
    (returned : propagate bench poll state = .ok reached after) :
    ∃ visits,
      after.1.statistics.levelsPropagated.toNat =
        min (state.1.statistics.levelsPropagated.toNat + visits) Counter.largest ∧
      (reached = true →
        1 ≤ visits ∧ visits < state.1.frontier ∧
        after.1.stored visits = .ok ∅ ∧
        (∀ level, 0 < level → level < visits →
          ∃ here, after.1.stored level = .ok here ∧ here ≠ ∅) ∧
        (∃ held, after.1.states visits = .ok held ∧ after.1.states (visits + 1) = .ok held) ∧
        after.1.stored 0 = state.1.stored 0 ∧
        ∀ level, visits + 1 < level → after.1.stored level = state.1.stored level) ∧
      (reached = false →
        visits = state.1.frontier - 1 ∧
        (∀ level, 0 < level → level < state.1.frontier →
          ∃ here, after.1.stored level = .ok here ∧ here ≠ ∅) ∧
        ∃ before now, state.1.stored state.1.frontier = .ok before ∧
          after.1.stored state.1.frontier = .ok now ∧ ∀ clause ∈ before, clause ∈ now) := by
  obtain ⟨visits, extent, halts⟩ := propagate_extent returned
  have within := halts.within
  have nonempty (level : Nat) (positive : 0 < level) (visited : level ≤ visits)
      (last : reached = true → level ≠ visits) :
      ∃ here, after.1.stored level = .ok here ∧ here ≠ ∅ := by
    refine ⟨_, stored_of_le (by rw [extent.frontier]; omega), fun none => ?_⟩
    have isEmpty := halts.isEmpty level positive (by omega)
    rw [none, Nat.zero_add] at isEmpty
    have isLast : (reached && level == visits) = true := isEmpty.symm
    rw [Bool.and_eq_true, beq_iff_eq] at isLast
    exact last isLast.1 isLast.2
  refine ⟨visits, by rw [extent.counts, toNat_iterate_next], ?_, ?_⟩
  · rintro rfl
    have positive : 0 < visits := halts.ends
    have inside : visits + 1 ≤ after.1.frontier := by rw [extent.frontier]; omega
    have empty : (after.1.storedAt visits).isEmpty = true := by
      rw [halts.isEmpty visits positive (by omega)]
      simp
    refine ⟨positive, by omega, ?_, ?_, ?_, ?_, ?_⟩
    · rw [stored_of_le (Nat.le_of_succ_le inside)]
      exact congrArg Except.ok (OrderedSet.ext (List.isEmpty_iff.1 empty))
    · exact fun level above visited =>
        nonempty level above (Nat.le_of_lt visited) fun _ => Nat.ne_of_lt visited
    · refine ⟨_, states_of_le (Nat.le_of_succ_le inside), ?_⟩
      rw [states_of_le inside, effective_succ_of_isEmpty positive empty]
    · exact stored_congr extent.frontier (extent.below 0 (Nat.le_refl 0))
    · exact fun level above => stored_congr extent.frontier (extent.beyond level (by omega))
  · rintro rfl
    have all : visits = state.1.frontier - 1 := halts.ends
    refine ⟨all, ?_, ?_⟩
    · exact fun level positive below =>
        nonempty level positive (by omega) fun impossible => by cases impossible
    · refine ⟨_, _, stored_of_le (Nat.le_refl _), stored_of_le (Nat.le_of_eq extent.frontier.symm),
        fun clause stored => ?_⟩
      rcases Nat.eq_zero_or_pos state.1.frontier with none | positive
      · rw [none] at stored ⊢
        rwa [extent.below 0 (Nat.le_refl 0)]
      · have last : 0 + visits + 1 = state.1.frontier := by omega
        exact last ▸ extent.next clause (last ▸ stored)

theorem latch_verdict_tells_reach :
    ∃ after : FrameSet × Run (World Enumerating.State) Enumerating.Error,
      propagate latchBench (fun _ => .ok ())
        (finalState (perform latchBench .openFrame latchOpened)) = .ok true after ∧
      after.1.stored 1 = .ok ∅ ∧
      ∃ held, after.1.states 1 = .ok held ∧ after.1.states 2 = .ok held := by
  obtain ⟨after, returns⟩ := eq_ok_of_returned (show returned (propagate latchBench
    (fun _ => .ok ()) (finalState (perform latchBench .openFrame latchOpened))) = some true by
      decide +kernel)
  obtain ⟨visits, -, fixpoint, -⟩ := verdict_tells_reach returns
  obtain ⟨positive, inside, empty, -, agree, -⟩ := fixpoint rfl
  have frontier : (finalState (perform latchBench .openFrame latchOpened)).1.frontier = 2 := by
    decide +kernel
  obtain rfl : visits = 1 := by omega
  exact ⟨after, returns, empty, agree⟩

end DeltaFrames.FrameSet
