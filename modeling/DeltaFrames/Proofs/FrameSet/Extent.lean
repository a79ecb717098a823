import DeltaFrames.Proofs.FrameSet.Regime
import Mathlib.Logic.Function.Iterate

/-!
# How far a propagation goes

A propagation that succeeds has visited the levels up to the first one that it left empty, or all of
them, so the number of visits can be told from the frames it left (`levelsVisited`). Each visit is
counted once (`propagate_levels`). This does not depend on the solver.
-/

namespace DeltaFrames.FrameSet

open StateAction

def visitsAmong (frames : FrameSet) : List Nat → Nat
  | [] => 0
  | index :: rest =>
      if (frames.storedAt (index + 1)).isEmpty then 1 else visitsAmong frames rest + 1

def levelsVisited (frames : FrameSet) : Nat :=
  visitsAmong frames (List.range (frames.frontier - 1))

theorem visitsAmong_congr {frames other : FrameSet}
    (same : ∀ level, (other.storedAt level).isEmpty = (frames.storedAt level).isEmpty)
    (levels : List Nat) :
    visitsAmong other levels = visitsAmong frames levels := by
  induction levels with
  | nil => rfl
  | cons index rest ih => rw [visitsAmong, visitsAmong, same, ih]

variable {ω ε : Type} {bench : Workbench ω ε} {poll : ω → Except Cancellation.Interrupted Unit}

/-- What a number of visits to the levels from the one above `first` on have left of the frames. The
last level that was visited may have given clauses to the next one, and no other level beyond it has
changed. -/
structure Extent (start : FrameSet) (first visits : Nat) (frames : FrameSet) : Prop where
  counts : frames.statistics.levelsPropagated =
    Counter.next^[visits] start.statistics.levelsPropagated
  frontier : frames.frontier = start.frontier
  below : ∀ level ≤ first, frames.storedAt level = start.storedAt level
  beyond : ∀ level, first + visits + 1 < level → frames.storedAt level = start.storedAt level
  next : ∀ clause ∈ start.storedAt (first + visits + 1),
    clause ∈ frames.storedAt (first + visits + 1)

variable {start frames later : FrameSet} {first index visits count : Nat} {reached : Bool}

namespace Extent

theorem refl (frames : FrameSet) (first : Nat) : Extent frames first 0 frames :=
  ⟨rfl, rfl, fun _ _ => rfl, fun _ _ => rfl, fun _ stored => stored⟩

theorem countLevel : Extent frames index 1 frames.countLevel :=
  ⟨rfl, rfl, fun _ _ => rfl, fun _ _ => rfl, fun _ stored => stored⟩

theorem trans (extent : Extent start index 1 frames)
    (others : Extent frames (index + 1) visits later) : Extent start index (visits + 1) later where
  counts := by rw [others.counts, extent.counts]; rfl
  frontier := others.frontier.trans extent.frontier
  below level le := (others.below level (Nat.le_succ_of_le le)).trans (extent.below level le)
  beyond level above :=
    (others.beyond level (by omega)).trans (extent.beyond level (by omega))
  next clause stored := by
    rw [show index + (visits + 1) + 1 = index + 1 + visits + 1 by omega] at stored ⊢
    apply others.next
    cases visits with
    | zero => exact extent.next clause stored
    | succ more => rwa [extent.beyond _ (by omega)]

theorem promote {clause : Term} (below : index + 1 < start.frontier)
    (extent : Extent start index 1 frames) : Extent start index 1 (frames.promote index clause) := by
  have inside : index + 1 < frames.frontier := extent.frontier ▸ below
  refine ⟨extent.counts, (frontier_promote ..).trans extent.frontier, ?_, ?_, ?_⟩
  · intro level le
    rw [storedAt_promote_below le, extent.below level le]
  · intro level above
    rw [storedAt_promote inside, if_neg (by omega), if_neg (by omega), extent.beyond level above]
  · intro other stored
    exact (mem_storedAt_promote inside).2 (.inl ⟨extent.next other stored, by omega⟩)

theorem discard {clause : Term} (extent : Extent start index 1 frames) :
    Extent start index 1 (frames.discard index clause) := by
  refine ⟨extent.counts, (frontier_discard ..).trans extent.frontier, ?_, ?_, ?_⟩
  · intro level le
    rw [storedAt_discard_below le, extent.below level le]
  · intro level above
    rw [storedAt_discard, if_neg (by omega), extent.beyond level above]
  · intro other stored
    exact mem_storedAt_discard.2 ⟨extent.next other stored, by omega⟩

theorem of_untimed (extent : Extent start first visits frames)
    (same : later.untimed = frames.untimed) : Extent start first visits later := by
  have counts : later.statistics.levelsPropagated = frames.statistics.levelsPropagated :=
    congrArg (·.statistics.levelsPropagated) same
  have frontier : later.frontier = frames.frontier := congrArg (·.frontier) same
  have stored (level : Nat) : later.storedAt level = frames.storedAt level :=
    congrArg (·.storedAt level) same
  refine ⟨counts.trans extent.counts, frontier.trans extent.frontier, ?_, ?_, ?_⟩
  · exact fun level le => (stored level).trans (extent.below level le)
  · exact fun level above => (stored level).trans (extent.beyond level above)
  · exact fun clause member => stored _ ▸ extent.next clause member

theorem upheld (below : index + 1 < start.frontier) :
    (Regime.ofFrames ω ε (Extent start index 1)).Upheld bench poll index :=
  Regime.ofFrames_upheld (fun _ _ _ extent => extent.promote below)
    fun _ _ _ extent => extent.discard

end Extent

theorem visitLevel_extent (below : index + 1 < start.frontier) :
    Triple (fun state : FrameSet × Run ω ε => state.1 = start) (visitLevel bench poll index)
      (fun empty state => Extent start index 1 state.1 ∧
        (state.1.storedAt (index + 1)).isEmpty = empty)
      (fun _ _ => True) := by
  have pushes : Triple (fun state : FrameSet × Run ω ε => Extent start index 1 state.1)
      (pushClauses bench poll index) (fun _ state => Extent start index 1 state.1)
      (fun _ _ => True) :=
    (Extent.upheld below).pushClauses.mono (fun _ extent => extent.of_untimed rfl)
      (fun _ _ extent => extent.of_untimed rfl) fun _ _ _ => trivial
  have prunes : Triple (fun state : FrameSet × Run ω ε => Extent start index 1 state.1)
      (removeSubsumed bench poll index) (fun _ state => Extent start index 1 state.1)
      (fun _ _ => True) :=
    (Extent.upheld below).removeSubsumed.mono (fun _ extent => extent.of_untimed rfl)
      (fun _ _ extent => extent.of_untimed rfl) fun _ _ _ => trivial
  refine visitLevel_rule (fun state => Extent start index 1 state.1) ?_ pushes
    (fun _ _ extent => extent) (fun _ => prunes)
    (fun _ _ _ extent => extent.of_untimed rfl)
    (fun _ _ _ _ _ => trivial) (fun _ _ extent empty => ⟨extent, empty⟩)
    fun _ _ extent nonempty => ⟨extent, nonempty⟩
  rintro _ _ rfl
  exact .countLevel

/-- Of the levels that were visited, only the last one is empty, and only if a fixpoint has been
reached there. Otherwise all the levels have been visited. -/
structure Halts (first count visits : Nat) (reached : Bool) (frames : FrameSet) : Prop where
  within : visits ≤ count
  ends : if reached then 0 < visits else visits = count
  isEmpty : ∀ level, first < level → level ≤ first + visits →
    (frames.storedAt level).isEmpty = (reached && level == first + visits)

theorem Halts.succ (halts : Halts (first + 1) count visits reached frames)
    (nonempty : (frames.storedAt (first + 1)).isEmpty = false) :
    Halts first (count + 1) (visits + 1) reached frames where
  within := Nat.succ_le_succ halts.within
  ends := by
    cases reached with
    | true => exact Nat.succ_pos visits
    | false => exact congrArg Nat.succ halts.ends
  isEmpty level above le := by
    rw [show first + (visits + 1) = first + 1 + visits by omega] at le ⊢
    by_cases lowest : level = first + 1
    · subst lowest
      rw [nonempty]
      cases reached with
      | true =>
          have visited : 0 < visits := halts.ends
          simp
          omega
      | false => rfl
    · exact halts.isEmpty level (by omega) le

theorem Halts.visitsAmong_eq (halts : Halts first count visits reached frames) :
    visitsAmong frames (List.range' first count) = visits := by
  induction count generalizing first visits with
  | zero => exact (Nat.le_zero.1 halts.within).symm
  | succ count ih =>
      have isEmpty := halts.isEmpty
      have within := halts.within
      have ends := halts.ends
      have positive : 0 < visits := by
        cases reached with
        | true => exact ends
        | false => rw [show visits = count + 1 from ends]; exact Nat.succ_pos count
      obtain ⟨others, rfl⟩ : ∃ others, visits = others + 1 := ⟨visits - 1, by omega⟩
      have here := isEmpty (first + 1) (Nat.lt_succ_self first) (by omega)
      rw [List.range'_succ, visitsAmong, here]
      by_cases last : reached = true ∧ others = 0
      · obtain ⟨rfl, rfl⟩ := last
        simp
      · have onward : (reached && first + 1 == first + (others + 1)) = false := by
          cases reached with
          | true => simpa using last
          | false => rfl
        rw [onward, if_neg Bool.false_ne_true, ih ⟨Nat.le_of_succ_le_succ within, ?_, ?_⟩]
        · cases reached with
          | true => exact Nat.pos_of_ne_zero fun none => last ⟨rfl, none⟩
          | false => exact Nat.succ.inj ends
        · intro level above le
          rw [isEmpty level (by omega) (by omega),
            show first + (others + 1) = first + 1 + others by omega]

theorem visitLevels_extent (below : first + count + 1 ≤ start.frontier ∨ count = 0) :
    Triple (fun state : FrameSet × Run ω ε => state.1 = start)
      (visitLevels bench poll (List.range' first count))
      (fun reached state => ∃ visits, Extent start first visits state.1 ∧
        Halts first count visits reached state.1)
      (fun _ _ => True) := by
  induction count generalizing first start with
  | zero =>
      rintro state rfl
      exact ⟨0, .refl state.1 first, Nat.le_refl 0, rfl, fun level above le => by omega⟩
  | succ count ih =>
      rw [List.range'_succ]
      refine (visitLevel_extent (by omega)).bind fun empty => ?_
      rintro ⟨between, run⟩ ⟨visit, isEmpty⟩
      cases empty with
      | true =>
          refine ⟨1, visit, Nat.succ_le_succ (Nat.zero_le count), Nat.one_pos, ?_⟩
          intro level above le
          obtain rfl : level = first + 1 := by omega
          rw [isEmpty]
          simp
      | false =>
          have rest : Triple (fun state : FrameSet × Run ω ε => state.1 = between)
              (visitLevels bench poll (List.range' (first + 1) count)) _ _ :=
            ih (by rw [visit.frontier]; omega)
          refine (rest (between, run) rfl).mono (fun reached state left => ?_) fun _ _ holds => holds
          obtain ⟨visits, others, halts⟩ := left
          -- The level that was left behind is not touched any more.
          have nonempty : (state.1.storedAt (first + 1)).isEmpty = false := by
            rw [others.below (first + 1) (Nat.le_refl _), isEmpty]
          exact ⟨visits + 1, visit.trans others, halts.succ nonempty⟩

theorem of_propagate_ok {state after : FrameSet × Run ω ε} {reached : Bool}
    (returned : propagate bench poll state = .ok reached after) :
    ∃ elapsed visited,
      visitLevels bench poll (List.range (state.1.frontier - 1))
        (state.1, state.2.emit (.propagatingClauses state.1.frontier)) = .ok reached visited ∧
      after = ((visited.1.recordPropagation elapsed).recount, visited.2) := by
  unfold propagate at returned
  simp only [bind_apply, checkpoint] at returned
  cases polled : poll state.2.world with
  | error interruption => simp only [polled] at returned; cases returned
  | ok _ =>
      simp only [polled, get_apply, emit, modifySecond_apply, timed] at returned
      cases result : visitLevels bench poll (List.range (state.1.frontier - 1))
        (state.1, state.2.emit (.propagatingClauses state.1.frontier)) with
      | error error visited => rw [result] at returned; cases returned
      | ok _ visited => rw [result] at returned; cases returned; exact ⟨_, visited, rfl, rfl⟩

theorem propagate_extent {state after : FrameSet × Run ω ε} {reached : Bool}
    (returned : propagate bench poll state = .ok reached after) :
    ∃ visits, Extent state.1 0 visits after.1 ∧
      Halts 0 (state.1.frontier - 1) visits reached after.1 := by
  obtain ⟨elapsed, visited, visits, rfl⟩ := of_propagate_ok returned
  have left : Meets (fun reached now => ∃ visits, Extent state.1 0 visits now.1 ∧
        Halts 0 (state.1.frontier - 1) visits reached now.1) (fun _ _ => True)
      (visitLevels bench poll (List.range' 0 (state.1.frontier - 1))
        (state.1, state.2.emit (.propagatingClauses state.1.frontier))) :=
    visitLevels_extent (by omega) _ rfl
  rw [← List.range_eq_range', visits] at left
  obtain ⟨reach, extent, halts⟩ := left
  exact ⟨reach, extent.of_untimed rfl,
    ⟨halts.within, halts.ends, halts.isEmpty⟩⟩

theorem propagate_levels {state after : FrameSet × Run ω ε} {reached : Bool}
    (returned : propagate bench poll state = .ok reached after)
    (frontier : after.1.frontier = state.1.frontier) :
    after.1.statistics.levelsPropagated =
      Counter.next^[after.1.levelsVisited] state.1.statistics.levelsPropagated := by
  obtain ⟨visits, extent, halts⟩ := propagate_extent returned
  rw [levelsVisited, frontier, List.range_eq_range', halts.visitsAmong_eq]
  exact extent.counts

end DeltaFrames.FrameSet
