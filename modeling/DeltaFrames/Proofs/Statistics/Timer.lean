import DeltaFrames.Statistics.Timer
import Mathlib.Algebra.Order.BigOperators.Group.List
import Mathlib.Tactic.Ring

namespace DeltaFrames

namespace Duration

theorem nanoseconds_eq (duration : Duration) :
    duration.nanoseconds = duration.seconds * nanosPerSecond + duration.subsecond :=
  (Nat.div_add_mod' duration.nanoseconds nanosPerSecond).symm

theorem subsecond_lt (duration : Duration) : duration.subsecond < nanosPerSecond :=
  Nat.mod_lt _ (by decide)

theorem parts_of_nanoseconds {duration : Duration} {seconds subsecond : Nat}
    (total : duration.nanoseconds = seconds * nanosPerSecond + subsecond)
    (small : subsecond < nanosPerSecond) :
    duration.seconds = seconds ∧ duration.subsecond = subsecond := by
  unfold Duration.seconds Duration.subsecond
  rw [total, Nat.mul_comm]
  exact ⟨by rw [Nat.mul_add_div (by decide), Nat.div_eq_of_lt small, Nat.add_zero],
    by rw [Nat.mul_add_mod, Nat.mod_eq_of_lt small]⟩

theorem le_iff_parts (a b : Duration) :
    a.nanoseconds ≤ b.nanoseconds ↔
      a.seconds < b.seconds ∨ a.seconds = b.seconds ∧ a.subsecond ≤ b.subsecond := by
  have first := a.nanoseconds_eq
  have second := b.nanoseconds_eq
  have firstSmall := a.subsecond_lt
  have secondSmall := b.subsecond_lt
  unfold nanosPerSecond at *
  omega

theorem add_parts (a b : Duration) :
    let carry := (a.subsecond + b.subsecond) / nanosPerSecond
    if a.seconds + b.seconds + carry < UInt64.size then
      (a.add b).seconds = a.seconds + b.seconds + carry ∧
        (a.add b).subsecond = (a.subsecond + b.subsecond) % nanosPerSecond
    else a.add b = longest := by
  intro carry
  have carried : carry * nanosPerSecond + (a.subsecond + b.subsecond) % nanosPerSecond =
      a.subsecond + b.subsecond := Nat.div_add_mod' ..
  have total : a.nanoseconds + b.nanoseconds = (a.seconds + b.seconds + carry) * nanosPerSecond +
      (a.subsecond + b.subsecond) % nanosPerSecond := by
    rw [a.nanoseconds_eq, b.nanoseconds_eq, Nat.add_mul, Nat.add_mul]
    omega
  have small : (a.subsecond + b.subsecond) % nanosPerSecond < nanosPerSecond :=
    Nat.mod_lt _ (by decide)
  have cap : longest.nanoseconds + 1 = UInt64.size * nanosPerSecond := by decide
  split
  · next fits =>
      refine parts_of_nanoseconds ?_ small
      have room : (a.seconds + b.seconds + carry + 1) * nanosPerSecond ≤
          UInt64.size * nanosPerSecond := Nat.mul_le_mul_right _ fits
      rw [← cap, Nat.add_one_mul] at room
      rw [nanoseconds_add, total]
      exact Nat.min_eq_left (by omega)
  · next large =>
      have beyond : UInt64.size * nanosPerSecond ≤
          (a.seconds + b.seconds + carry) * nanosPerSecond :=
        Nat.mul_le_mul_right _ (Nat.le_of_not_lt large)
      rw [← cap] at beyond
      apply ext
      rw [nanoseconds_add, total]
      exact Nat.min_eq_right (by omega)

theorem divide_parts (duration : Duration) {count : Nat} (positive : 0 < count) :
    (duration.divide count).seconds = duration.seconds / count ∧
      (duration.divide count).subsecond = duration.subsecond / count +
        (duration.seconds % count * nanosPerSecond + duration.subsecond % count) / count := by
  have seconds := Nat.div_add_mod duration.seconds count
  have subseconds := Nat.div_add_mod duration.subsecond count
  have left : duration.seconds % count < count := Nat.mod_lt _ positive
  have small := duration.subsecond_lt
  generalize duration.seconds / count = wholeSeconds at *
  generalize duration.seconds % count = leftSeconds at *
  generalize duration.subsecond / count = wholeNanos at *
  generalize duration.subsecond % count = leftNanos at *
  have total : duration.nanoseconds =
      leftSeconds * nanosPerSecond + leftNanos +
        count * (wholeSeconds * nanosPerSecond + wholeNanos) := by
    rw [duration.nanoseconds_eq, ← seconds, ← subseconds]
    ring
  refine parts_of_nanoseconds ?_ ?_
  · show duration.nanoseconds / count = _
    rw [total, Nat.add_mul_div_left _ _ positive]
    omega
  · -- The parts that were left over come to less than a second for each of the shares.
    have shares : leftSeconds * nanosPerSecond + nanosPerSecond ≤ count * nanosPerSecond := by
      rw [← Nat.succ_mul]
      exact Nat.mul_le_mul_right _ left
    rw [Nat.add_comm, ← Nat.add_mul_div_left _ _ positive, Nat.div_lt_iff_lt_mul positive,
      Nat.mul_comm nanosPerSecond]
    omega

end Duration

namespace Timer

def recordAll (timer : Timer) (elapsed : List Duration) : Timer :=
  elapsed.foldl record timer

theorem recordAll_cons (timer : Timer) (first : Duration) (rest : List Duration) :
    timer.recordAll (first :: rest) = (timer.record first).recordAll rest := rfl

theorem record_comm (timer : Timer) (a b : Duration) :
    (timer.record a).record b = (timer.record b).record a := by
  have total : (timer.total.add a).add b = (timer.total.add b).add a := by
    apply Duration.ext
    simp only [Duration.nanoseconds_add]
    omega
  have max : (timer.max.max a).max b = (timer.max.max b).max a := by
    apply Duration.ext
    simp only [Duration.nanoseconds_max]
    exact Nat.max_right_comm ..
  simp only [record, total, max]

theorem recordAll_perm {elapsed permuted : List Duration} (perm : elapsed.Perm permuted)
    (timer : Timer) : timer.recordAll permuted = timer.recordAll elapsed :=
  (perm.foldl_eq' (fun a _ b _ timer => record_comm timer a b) timer).symm

theorem toNat_intervals_recordAll (timer : Timer) (elapsed : List Duration) :
    (timer.recordAll elapsed).intervals.toNat =
      min (timer.intervals.toNat + elapsed.length) Counter.largest := by
  induction elapsed generalizing timer with
  | nil =>
      have bounded : timer.intervals.toNat < UInt64.size := timer.intervals.toNat_lt
      show timer.intervals.toNat = min timer.intervals.toNat (UInt64.size - 1)
      omega
  | cons first rest ih =>
      rw [recordAll_cons, ih, record, Counter.toNat_next, List.length_cons]
      omega

theorem nanoseconds_total_recordAll (timer : Timer) (elapsed : List Duration) :
    (timer.recordAll elapsed).total.nanoseconds =
      min (timer.total.nanoseconds + (elapsed.map Duration.nanoseconds).sum)
        Duration.longest.nanoseconds := by
  induction elapsed generalizing timer with
  | nil => exact (Nat.min_eq_left timer.total.nanoseconds_le_longest).symm
  | cons first rest ih =>
      rw [recordAll_cons, ih, record, Duration.nanoseconds_add, List.map_cons, List.sum_cons]
      omega

theorem max_recordAll_eq (timer : Timer) (elapsed : List Duration) :
    (timer.recordAll elapsed).max = timer.max ∨ (timer.recordAll elapsed).max ∈ elapsed := by
  induction elapsed generalizing timer with
  | nil => exact .inl rfl
  | cons first rest ih =>
      rw [recordAll_cons]
      rcases ih (timer.record first) with same | member
      · rw [same, record, Duration.max]
        split
        · exact .inr List.mem_cons_self
        · exact .inl rfl
      · exact .inr (List.mem_cons_of_mem first member)

theorem le_max_recordAll (timer : Timer) (elapsed : List Duration) :
    timer.max.nanoseconds ≤ (timer.recordAll elapsed).max.nanoseconds ∧
      ∀ interval ∈ elapsed, interval.nanoseconds ≤ (timer.recordAll elapsed).max.nanoseconds := by
  induction elapsed generalizing timer with
  | nil => exact ⟨Nat.le_refl _, nofun⟩
  | cons first rest ih =>
      obtain ⟨below, others⟩ := ih (timer.record first)
      have larger : (timer.record first).max.nanoseconds =
          Nat.max timer.max.nanoseconds first.nanoseconds := Duration.nanoseconds_max ..
      rw [larger] at below
      exact ⟨Nat.le_trans (Nat.le_max_left ..) below,
        List.forall_mem_cons.2 ⟨Nat.le_trans (Nat.le_max_right ..) below, others⟩⟩

section Whole

variable {elapsed : List Duration}

theorem sum_le_length_mul {bound : Nat}
    (bounded : ∀ interval ∈ elapsed, interval.nanoseconds ≤ bound) :
    (elapsed.map Duration.nanoseconds).sum ≤ elapsed.length * bound := by
  rw [← List.length_map Duration.nanoseconds]
  exact List.sum_le_card_nsmul _ bound (List.forall_mem_map.2 bounded)

theorem length_mul_le_sum {bound : Nat}
    (bounded : ∀ interval ∈ elapsed, bound ≤ interval.nanoseconds) :
    elapsed.length * bound ≤ (elapsed.map Duration.nanoseconds).sum := by
  rw [← List.length_map Duration.nanoseconds]
  exact List.card_nsmul_le_sum _ bound (List.forall_mem_map.2 bounded)

theorem toNat_intervals_of_few (few : elapsed.length < UInt32.size) :
    (({} : Timer).recordAll elapsed).intervals.toNat = elapsed.length := by
  have wide : UInt32.size ≤ Counter.largest := by decide
  rw [toNat_intervals_recordAll]
  show min (0 + elapsed.length) Counter.largest = elapsed.length
  omega

theorem nanoseconds_total_of_default (elapsed : List Duration) :
    (({} : Timer).recordAll elapsed).total.nanoseconds =
      min (elapsed.map Duration.nanoseconds).sum Duration.longest.nanoseconds := by
  rw [nanoseconds_total_recordAll]
  exact congrArg (min · _) (Nat.zero_add _)

theorem average_of_few (few : elapsed.length < UInt32.size) :
    (({} : Timer).recordAll elapsed).average =
      (({} : Timer).recordAll elapsed).total.divide elapsed.length := by
  unfold average
  rw [toNat_intervals_of_few few]
  exact if_pos few

theorem max_of_default (elapsed : List Duration) :
    elapsed = [] ∧ (({} : Timer).recordAll elapsed).max = .zero ∨
      (({} : Timer).recordAll elapsed).max ∈ elapsed := by
  rcases max_recordAll_eq {} elapsed with none | member
  · cases elapsed with
    | nil => exact .inl ⟨rfl, rfl⟩
    | cons first rest =>
        -- If nothing is larger than no time at all, the first interval is as large.
        have below := (le_max_recordAll {} (first :: rest)).2 first List.mem_cons_self
        rw [none] at below
        have same : first = .zero := Duration.ext (Nat.le_zero.1 below)
        rw [none, same]
        exact .inr List.mem_cons_self
  · exact .inr member

theorem max_le_total (elapsed : List Duration) :
    (({} : Timer).recordAll elapsed).max.nanoseconds ≤
      (({} : Timer).recordAll elapsed).total.nanoseconds := by
  rcases max_recordAll_eq {} elapsed with none | member
  · rw [none]
    exact Nat.zero_le _
  · rw [nanoseconds_total_of_default]
    exact Nat.le_min.2 ⟨List.le_sum_of_mem (List.mem_map_of_mem member),
      Duration.nanoseconds_le_longest _⟩

theorem total_le_length_mul_max (elapsed : List Duration) :
    (({} : Timer).recordAll elapsed).total.nanoseconds ≤
      elapsed.length * (({} : Timer).recordAll elapsed).max.nanoseconds := by
  rw [nanoseconds_total_of_default]
  exact Nat.le_trans (Nat.min_le_left ..) (sum_le_length_mul (le_max_recordAll {} elapsed).2)

end Whole

/-- Fewer than 2³² intervals are recorded in a new timer. Their number is exact, and their sum is
unless it stops at the longest duration. Both they and the largest interval are the same in whichever
order the intervals come. The largest interval is at most the sum, and the average is at most the
largest interval. The average is the sum divided down to the nanosecond, and comes from dividing its
seconds and its nanoseconds with a carry. If the sum has not stopped, then the average is at least
the smallest interval. -/
theorem timer_keeps_its_bounds (elapsed : List Duration) (few : elapsed.length < UInt32.size) :
    let timer := ({} : Timer).recordAll elapsed
    let sum := (elapsed.map Duration.nanoseconds).sum
    timer.intervals.toNat = elapsed.length ∧
    timer.total.nanoseconds = min sum Duration.longest.nanoseconds ∧
    (elapsed = [] ∧ timer.max = .zero ∨ timer.max ∈ elapsed) ∧
    (∀ interval ∈ elapsed, interval.nanoseconds ≤ timer.max.nanoseconds) ∧
    (∀ permuted, elapsed.Perm permuted → ({} : Timer).recordAll permuted = timer) ∧
    timer.max.nanoseconds ≤ timer.total.nanoseconds ∧
    timer.average.nanoseconds ≤ timer.max.nanoseconds ∧
    (elapsed ≠ [] →
      timer.average.nanoseconds * elapsed.length ≤ timer.total.nanoseconds ∧
      timer.total.nanoseconds < (timer.average.nanoseconds + 1) * elapsed.length ∧
      timer.average.seconds = timer.total.seconds / elapsed.length ∧
      timer.average.subsecond = timer.total.subsecond / elapsed.length +
        (timer.total.seconds % elapsed.length * nanosPerSecond +
          timer.total.subsecond % elapsed.length) / elapsed.length) ∧
    (sum ≤ Duration.longest.nanoseconds → ∀ interval ∈ elapsed,
      (∀ other ∈ elapsed, interval.nanoseconds ≤ other.nanoseconds) →
        interval.nanoseconds ≤ timer.average.nanoseconds) := by
  intro timer sum
  have average : timer.average = timer.total.divide elapsed.length := average_of_few few
  have total : timer.total.nanoseconds = min sum Duration.longest.nanoseconds :=
    nanoseconds_total_of_default elapsed
  refine ⟨toNat_intervals_of_few few, total, max_of_default elapsed, (le_max_recordAll {} elapsed).2,
    fun _ perm => recordAll_perm perm {}, max_le_total elapsed, ?_, fun nonempty => ?_, ?_⟩
  · rw [average]
    exact Nat.div_le_of_le_mul (total_le_length_mul_max elapsed)
  · have positive : 0 < elapsed.length := List.length_pos_iff.2 nonempty
    rw [average]
    refine ⟨Nat.div_mul_le_self .., ?_, timer.total.divide_parts positive⟩
    exact Nat.lt_mul_of_div_lt (Nat.lt_succ_self _) positive
  · intro unstopped interval member smallest
    have positive : 0 < elapsed.length := List.length_pos_of_mem member
    rw [average]
    refine (Nat.le_div_iff_mul_le positive).2 ?_
    rw [total, Nat.min_eq_left unstopped, Nat.mul_comm]
    exact length_mul_le_sum smallest

theorem stopped_timer_keeps_its_bounds :
    let second : Duration := ⟨1000000000, by decide⟩
    let timer := ({} : Timer).recordAll [.longest, second]
    [Duration.longest, second].length < UInt32.size ∧
      timer.total = .longest ∧ timer.max = .longest ∧
      timer.average.seconds = 9223372036854775807 ∧ timer.average.subsecond = 999999999 ∧
      ({} : Timer).recordAll [second, .longest] = timer := by
  intro second timer
  have few : [Duration.longest, second].length < UInt32.size := by decide
  obtain ⟨-, total, -, largest, order, -, -, average, -⟩ :=
    timer_keeps_its_bounds [.longest, second] few
  have stopped : timer.total = .longest :=
    Duration.ext (total.trans (Nat.min_eq_right
      (List.le_sum_of_mem (List.mem_map_of_mem List.mem_cons_self))))
  have longest : timer.max = .longest :=
    Duration.ext (Nat.le_antisymm timer.max.nanoseconds_le_longest
      (largest .longest List.mem_cons_self))
  obtain ⟨-, -, seconds, subsecond⟩ := average (List.cons_ne_nil _ _)
  refine ⟨few, stopped, longest, ?_, ?_, order [second, .longest] (.swap _ _ [])⟩
  · exact seconds.trans (stopped.symm ▸ by decide)
  · exact subsecond.trans (stopped.symm ▸ by decide)

end Timer
end DeltaFrames
