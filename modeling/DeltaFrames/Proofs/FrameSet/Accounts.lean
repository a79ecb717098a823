import DeltaFrames.Proofs.FrameSet.Retention
import DeltaFrames.Proofs.Session.Record
import Mathlib.Algebra.BigOperators.Fin

/-!
# The statistics agree with the frames

The journal tells of everything that is done to the frames, so they can be had from it once more
(`account`), together with the number of moves that found their clause already stored at the level
above. Each update keeps the clauses that were added in balance with those that are stored, those
that were dropped and those that were merged in this way (`Balanced`).
-/

namespace DeltaFrames.FrameSet

open StateAction

variable {ω ε : Type} {system : TransitionSystem} {frames : FrameSet} {index : Nat} {clause : Term}

theorem storedClauses_eq_sum (frames : FrameSet) :
    frames.storedClauses =
      ∑ index ∈ Finset.range frames.frontier, (frames.storedAt (index + 1)).size := by
  have sizes := Fin.sum_univ_fun_getElem frames.deltas OrderedSet.size
  rw [storedClauses, List.length_flatMap, Finset.sum_range]
  refine sizes.symm.trans (Finset.sum_congr rfl fun index _ => ?_)
  simp [storedAt, FrameLevel.of]

theorem storedClauses_change {before after : FrameSet} (below : index < before.frontier)
    (frontier : after.frontier = before.frontier)
    (same : ∀ place, place ≠ index → after.storedAt (place + 1) = before.storedAt (place + 1)) :
    after.storedClauses + (before.storedAt (index + 1)).size =
      before.storedClauses + (after.storedAt (index + 1)).size := by
  have inside : index ∈ Finset.range before.frontier := Finset.mem_range.2 below
  have others : ∑ place ∈ (Finset.range before.frontier).erase index,
        (after.storedAt (place + 1)).size =
      ∑ place ∈ (Finset.range before.frontier).erase index, (before.storedAt (place + 1)).size :=
    Finset.sum_congr rfl fun place member => by rw [same place (Finset.ne_of_mem_erase member)]
  rw [storedClauses_eq_sum, storedClauses_eq_sum, frontier, ← Finset.add_sum_erase _ _ inside,
    ← Finset.add_sum_erase _ _ inside, others]
  omega

theorem storedClauses_openNext (system : TransitionSystem) (frames : FrameSet) :
    (frames.openNext system).storedClauses = frames.storedClauses + 1 := by
  simp [storedClauses, openNext, recount, count, OrderedSet.toList_insert]

theorem storedClauses_addClause (below : index < frames.frontier) :
    (frames.addClause index clause).storedClauses =
      frames.storedClauses + if clause ∈ frames.storedAt (index + 1) then 0 else 1 := by
  have change := storedClauses_change below
    (show (frames.addClause index clause).frontier = frames.frontier from frontier_addClause)
    fun place other => by rw [storedAt_addClause below, if_neg (by omega)]
  rw [storedAt_addClause below, if_pos rfl, OrderedSet.size_insert] at change
  split at change
  · next present => rw [if_pos present]; omega
  · next fresh => rw [if_neg fresh]; omega

theorem storedClauses_discard (stored : clause ∈ frames.storedAt (index + 1)) :
    (frames.discard index clause).storedClauses + 1 = frames.storedClauses := by
  have below : index < frames.frontier := le_frontier_of_stored stored
  have some : 0 < (frames.storedAt (index + 1)).size :=
    List.length_pos_of_mem (OrderedSet.mem_toList.2 stored)
  have change := storedClauses_change below (frontier_discard frames index clause)
    fun place other => by rw [storedAt_discard, if_neg (by omega)]
  rw [storedAt_discard, if_pos rfl, OrderedSet.size_erase_of_mem stored] at change
  omega

theorem storedClauses_promote (below : index + 1 < frames.frontier)
    (stored : clause ∈ frames.storedAt (index + 1)) :
    (frames.promote index clause).storedClauses +
      (if clause ∈ frames.storedAt (index + 2) then 1 else 0) = frames.storedClauses := by
  -- A clause is moved by dropping it and adding it to the next level.
  have taken : (frames.discard index clause).storedAt (index + 2) =
      frames.storedAt (index + 2) := by
    rw [storedAt_discard, if_neg (by omega)]
  have added : (frames.promote index clause).storedAt (index + 2) =
      (frames.storedAt (index + 2)).insert clause := by
    rw [storedAt_promote below, if_neg (by omega), if_pos rfl]
  have change : (frames.promote index clause).storedClauses +
        ((frames.discard index clause).storedAt (index + 2)).size =
      (frames.discard index clause).storedClauses +
        ((frames.promote index clause).storedAt (index + 2)).size := by
    refine storedClauses_change ?_ ?_ fun place other => ?_
    · rwa [frontier_discard]
    · rw [frontier_promote, frontier_discard]
    · have elsewhere : place + 1 ≠ index + 2 := by omega
      rw [storedAt_promote below, storedAt_discard, if_neg elsewhere]
  have dropped := storedClauses_discard stored
  rw [taken, added, OrderedSet.size_insert] at change
  split at change
  · next present => rw [if_pos present]; omega
  · next fresh => rw [if_neg fresh]; omega

/-! ## The balance of the statistics -/

/-- What was added is stored, was dropped, or was merged with the same clause. -/
structure Balanced (merges : Nat) (frames : FrameSet) : Prop where
  opened : frames.statistics.frames.toNat = frames.frontier + 1
  added : frames.statistics.clausesAdded.toNat =
    frames.storedClauses + frames.statistics.subsumedClauses.toNat + merges
  moved : merges ≤ frames.statistics.propagatedClauses.toNat
  filled : frames.frontier ≤ frames.statistics.clausesAdded.toNat

def Balances (merges : Nat) (frames : FrameSet) : Prop :=
  frames.statistics.clausesAdded.toNat < Counter.largest → Balanced merges frames

section Balances

variable {merges : Nat}

theorem balances_ofSystem (system : TransitionSystem) : Balances 0 (ofSystem system) :=
  fun _ => ⟨rfl, rfl, Nat.le_refl 0, Nat.le_refl 0⟩

theorem Balances.openNext (balances : Balances merges frames) :
    Balances merges (frames.openNext system) := by
  intro small
  have added : (frames.openNext system).statistics.clausesAdded =
      frames.statistics.clausesAdded.next := rfl
  have opened : (frames.openNext system).statistics.frames = frames.statistics.frames.next := rfl
  have dropped : (frames.openNext system).statistics.subsumedClauses =
      frames.statistics.subsumedClauses := rfl
  rw [added, Counter.toNat_next] at small
  obtain ⟨frontier, balance, moved, filled⟩ := balances (by omega)
  refine ⟨?_, ?_, moved, ?_⟩
  · rw [opened, Counter.toNat_next, frontier_openNext]
    omega
  · rw [added, Counter.toNat_next, dropped, storedClauses_openNext]
    omega
  · rw [added, Counter.toNat_next, frontier_openNext]
    omega

theorem counters_addClause (fresh : clause ∉ frames.storedAt (index + 1)) :
    (frames.addClause index clause).statistics.clausesAdded =
        frames.statistics.clausesAdded.next ∧
      (frames.addClause index clause).statistics.frames = frames.statistics.frames ∧
      (frames.addClause index clause).statistics.subsumedClauses =
        frames.statistics.subsumedClauses ∧
      (frames.addClause index clause).statistics.propagatedClauses =
        frames.statistics.propagatedClauses := by
  have missing : clause ∉ frames.deltas[index]?.getD ∅ := fresh
  unfold FrameSet.addClause
  rw [if_neg missing]
  exact ⟨rfl, rfl, rfl, rfl⟩

theorem ledger_addClause (frames : FrameSet) (index : Nat) (clause : Term) :
    (frames.addClause index clause).ledger = (frames.ledger.addClause index clause).ledger := by
  unfold FrameSet.addClause
  change ledger (if clause ∈ frames.deltas[index]?.getD ∅ then _ else _) =
    ledger (if clause ∈ frames.deltas[index]?.getD ∅ then _ else _)
  split <;> rfl

theorem Balances.addClause (balances : Balances merges frames) (below : index < frames.frontier) :
    Balances merges (frames.addClause index clause) := by
  by_cases present : clause ∈ frames.storedAt (index + 1)
  · have same : frames.addClause index clause = frames := if_pos present
    rwa [same]
  · intro small
    have more : (frames.addClause index clause).storedClauses =
        frames.storedClauses + if clause ∈ frames.storedAt (index + 1) then 0 else 1 :=
      storedClauses_addClause below
    obtain ⟨added, opened, dropped, counted⟩ := counters_addClause present
    rw [if_neg present] at more
    rw [added, Counter.toNat_next] at small
    obtain ⟨frontier, balance, moved, filled⟩ := balances (by omega)
    refine ⟨?_, ?_, ?_, ?_⟩
    · rwa [opened, frontier_addClause]
    · rw [added, Counter.toNat_next, dropped, more]
      omega
    · rwa [counted]
    · rw [added, Counter.toNat_next, frontier_addClause]
      omega

theorem Balances.discard (balances : Balances merges frames)
    (stored : clause ∈ frames.storedAt (index + 1)) :
    Balances merges (frames.discard index clause) := by
  intro small
  have counted : (frames.discard index clause).statistics.subsumedClauses =
      frames.statistics.subsumedClauses.next := rfl
  have added : (frames.discard index clause).statistics.clausesAdded =
      frames.statistics.clausesAdded := rfl
  have fewer := storedClauses_discard stored
  rw [added] at small
  obtain ⟨frontier, balance, moved, filled⟩ := balances small
  refine ⟨?_, ?_, moved, ?_⟩
  · rwa [frontier_discard]
  · rw [added, counted, Counter.toNat_next]
    omega
  · rwa [frontier_discard]

theorem Balances.promote (balances : Balances merges frames) (below : index + 1 < frames.frontier)
    (stored : clause ∈ frames.storedAt (index + 1)) :
    Balances (merges + if clause ∈ frames.storedAt (index + 2) then 1 else 0)
      (frames.promote index clause) := by
  intro small
  have counted : (frames.promote index clause).statistics.propagatedClauses =
      frames.statistics.propagatedClauses.next := rfl
  have added : (frames.promote index clause).statistics.clausesAdded =
      frames.statistics.clausesAdded := rfl
  have dropped : (frames.promote index clause).statistics.subsumedClauses =
      frames.statistics.subsumedClauses := rfl
  have fewer := storedClauses_promote below stored
  have atMostOne : (if clause ∈ frames.storedAt (index + 2) then 1 else 0) ≤ 1 := by
    split
    · exact Nat.le_refl 1
    · exact Nat.zero_le 1
  rw [added] at small
  obtain ⟨frontier, balance, moved, filled⟩ := balances small
  generalize (if clause ∈ frames.storedAt (index + 2) then 1 else 0) = merged at fewer atMostOne ⊢
  refine ⟨?_, ?_, ?_, ?_⟩
  · rwa [frontier_promote]
  · rw [added, dropped]
    omega
  · rw [counted, Counter.toNat_next]
    exact Nat.le_min.2 ⟨by omega, by omega⟩
  · rwa [frontier_promote]

theorem Balances.of_ledger {other : FrameSet} (balances : Balances merges frames)
    (same : frames.ledger = other.ledger) : Balances merges other := by
  have frontier : frames.frontier = other.frontier := (congrArg FrameSet.frontier same :)
  have stored : frames.storedClauses = other.storedClauses := (congrArg storedClauses same :)
  have opened : frames.statistics.frames = other.statistics.frames :=
    (congrArg (·.statistics.frames) same :)
  have added : frames.statistics.clausesAdded = other.statistics.clausesAdded :=
    (congrArg (·.statistics.clausesAdded) same :)
  have dropped : frames.statistics.subsumedClauses = other.statistics.subsumedClauses :=
    (congrArg (·.statistics.subsumedClauses) same :)
  have moved : frames.statistics.propagatedClauses = other.statistics.propagatedClauses :=
    (congrArg (·.statistics.propagatedClauses) same :)
  intro small
  rw [← added] at small
  obtain ⟨isOpened, isAdded, isMoved, isFilled⟩ := balances small
  exact ⟨by rwa [← opened, ← frontier], by rwa [← added, ← stored, ← dropped], by rwa [← moved],
    by rwa [← frontier, ← added]⟩

end Balances

/-! ## The account of a journal -/

structure Account where
  frames : FrameSet
  /-- The moves that found their clause already stored at the level above. -/
  merges : Nat := 0

def Account.enter (system : TransitionSystem) (account : Account) : Entry ε → Account
  | .event (.openedFrame _) => { account with frames := account.frames.openNext system }
  | .event (.blockingStates level clause) =>
      { account with frames := account.frames.addClause (level - 1) clause }
  | .event (.clausePropagated level clause) =>
      { frames := account.frames.promote (level - 1) clause
        merges := account.merges + if clause ∈ account.frames.storedAt (level + 1) then 1 else 0 }
  | .event (.clauseSubsumed level clause _) =>
      { account with frames := account.frames.discard (level - 1) clause }
  | _ => account

/-- What the journal says has become of a new frame set. -/
def account (system : TransitionSystem) (run : Run ω ε) : Account :=
  run.entries.foldl (Account.enter system) { frames := ofSystem system }

theorem account_emit (system : TransitionSystem) (run : Run ω ε) (event : Event ε) :
    account system (run.emit event) = (account system run).enter system (.event event) := by
  rw [account, Run.entries_emit, List.foldl_append]
  rfl

theorem account_log (system : TransitionSystem) (run : Run ω ε) (exchange : Exchange ε)
    (world : ω) : account system (run.log exchange world) = account system run := by
  rw [account, Run.entries_log, List.foldl_append]
  rfl

def Reconciled (system : TransitionSystem) (frames : FrameSet) (run : Run ω ε) : Prop :=
  (account system run).frames.ledger = frames.ledger ∧
    Balances (account system run).merges (account system run).frames

namespace Reconciled

variable {run : Run ω ε} (reconciled : Reconciled system frames run)

include reconciled

theorem logged (exchange : Exchange ε) (world : ω) :
    Reconciled system frames (run.log exchange world) := by
  rwa [Reconciled, account_log]

theorem untold {event : Event ε}
    (silent : ∀ account : Account, account.enter system (.event event) = account) :
    Reconciled system frames (run.emit event) := by
  rwa [Reconciled, account_emit, silent]

theorem frontier_eq : (account system run).frames.frontier = frames.frontier :=
  (congrArg FrameSet.frontier reconciled.1 :)

theorem storedAt_eq (level : Nat) :
    (account system run).frames.storedAt level = frames.storedAt level :=
  (congrArg (·.storedAt level) reconciled.1 :)

theorem opened (frontier : Nat) :
    Reconciled system (frames.openNext system) (run.emit (.openedFrame frontier)) := by
  obtain ⟨same, balances⟩ := reconciled
  rw [Reconciled, account_emit]
  exact ⟨congrArg (fun frames => (frames.openNext system).ledger) same, balances.openNext⟩

theorem blocked (below : index < frames.frontier) :
    Reconciled system (frames.addClause index clause)
      (run.emit (.blockingStates (index + 1) clause)) := by
  rw [← reconciled.frontier_eq] at below
  obtain ⟨same, balances⟩ := reconciled
  rw [Reconciled, account_emit]
  refine ⟨?_, balances.addClause below⟩
  show ((account system run).frames.addClause index clause).ledger = _
  rw [ledger_addClause, same, ← ledger_addClause]

theorem promoted (below : index + 1 < frames.frontier)
    (stored : clause ∈ frames.storedAt (index + 1)) :
    Reconciled system (frames.promote index clause)
      (run.emit (.clausePropagated (index + 1) clause)) := by
  rw [← reconciled.frontier_eq] at below
  rw [← reconciled.storedAt_eq] at stored
  obtain ⟨same, balances⟩ := reconciled
  rw [Reconciled, account_emit]
  exact ⟨congrArg (·.promote index clause) same, balances.promote below stored⟩

theorem discarded (stronger : Term) (stored : clause ∈ frames.storedAt (index + 1)) :
    Reconciled system (frames.discard index clause)
      (run.emit (.clauseSubsumed (index + 1) clause stronger)) := by
  rw [← reconciled.storedAt_eq] at stored
  obtain ⟨same, balances⟩ := reconciled
  rw [Reconciled, account_emit]
  exact ⟨congrArg (·.discard index clause) same, balances.discard stored⟩

end Reconciled

theorem propagate_reconciled (bench : Workbench ω ε)
    (poll : ω → Except Cancellation.Interrupted Unit) {state : FrameSet × Run ω ε}
    (reconciled : Reconciled bench.system state.1 state.2) :
    Reconciled bench.system (finalState (propagate bench poll state)).1
      (finalState (propagate bench poll state)).2 := by
  have heeded (index : Nat) (below : index + 1 < state.1.frontier) :
      (Regime.ofJournal fun frames run => frames.frontier = state.1.frontier ∧
        Reconciled bench.system frames (run : Run ω ε)).Heeded bench poll index := by
    refine ⟨(Regime.ofJournal_pushing ?_ ?_ ?_).heeded,
      fun _ => (Regime.ofJournal_pruning ?_ ?_ ?_).heeded⟩
    · exact fun made world holds => ⟨holds.1, holds.2.logged made world⟩
    · exact fun error holds => ⟨holds.1, holds.2.untold fun _ => rfl⟩
    · rintro frames run clause stored ⟨frontier, holds⟩
      exact ⟨(frontier_promote ..).trans frontier, holds.promoted (frontier ▸ below) stored⟩
    · exact fun made world holds => ⟨holds.1, holds.2.logged made world⟩
    · exact fun error holds => ⟨holds.1, holds.2.untold fun _ => rfl⟩
    · rintro frames run stronger clause stored ⟨frontier, holds⟩
      exact ⟨(frontier_discard ..).trans frontier, holds.discarded stronger stored⟩
  have met : Meets (fun _ after => after.1.frontier = state.1.frontier ∧
        Reconciled bench.system after.1 after.2)
      (fun _ after => after.1.frontier = state.1.frontier ∧
        Reconciled bench.system after.1 after.2) (propagate bench poll state) := by
    refine Regime.propagate_heeded ?_ ?_ heeded ?_ ?_
    · exact fun holds => holds
    · exact fun _ holds => ⟨holds.1, holds.2.untold fun _ => rfl⟩
    · exact fun _ => ⟨rfl, Reconciled.untold reconciled fun _ => rfl⟩
    · exact fun _ _ => ⟨rfl, reconciled⟩
  exact met.finalState.2

/-! ## Histories -/

section Histories

variable (bench : Workbench ω ε)

theorem perform_reconciled (command : Command ω) {state : FrameSet × Run ω ε}
    (reconciled : Reconciled bench.system state.1 state.2) :
    Reconciled bench.system (finalState (perform bench command state)).1
      (finalState (perform bench command state)).2 := by
  cases command with
  | openFrame => exact reconciled.opened _
  | block states level =>
      rcases perform_block_cases bench states level state with
        ⟨index, rfl, below, accepted⟩ | ⟨-, error, refused⟩
      · rw [accepted]
        exact reconciled.blocked below
      · rwa [refused]
  | propagate poll =>
      rw [finalState_propagate]
      exact propagate_reconciled bench poll reconciled

theorem perform_counted (command : Command ω) {state : FrameSet × Run ω ε}
    (counted : state.1.statistics.clauses = Counter.ofNat state.1.storedClauses) :
    (finalState (perform bench command state)).1.statistics.clauses =
      Counter.ofNat (finalState (perform bench command state)).1.storedClauses := by
  cases command with
  | openFrame => rfl
  | block states level =>
      rcases perform_block_cases bench states level state with
        ⟨index, rfl, -, accepted⟩ | ⟨-, error, refused⟩
      · rw [accepted]
        simp only [finalState_ok, addClause]
        split
        · exact counted
        · rfl
      · rwa [refused]
  | propagate poll =>
      rw [finalState_propagate]
      -- The clauses are counted again whenever the propagation has begun.
      unfold propagate
      rw [bind_apply]
      cases said : poll state.2.world with
      | error interruption => rw [checkpoint_error said]; exact counted
      | ok _ =>
          rw [checkpoint_ok said]
          simp only [bind_apply, get_apply, emit, modifySecond_apply, timed]
          cases visitLevels bench poll (List.range (state.1.frontier - 1))
            (state.1, state.2.emit (.propagatingClauses state.1.frontier)) <;> rfl

theorem history_reconciled (world : ω) (commands : List (Command ω)) :
    Reconciled bench.system (history bench { world } commands).1
        (history bench { world } commands).2 ∧
      (history bench { world } commands).1.statistics.clauses =
        Counter.ofNat (history bench { world } commands).1.storedClauses := by
  induction commands using List.reverseRecOn with
  | nil => exact ⟨⟨rfl, balances_ofSystem bench.system⟩, rfl⟩
  | append_singleton commands command ih =>
      rw [history_concat]
      exact ⟨perform_reconciled bench command ih.1, perform_counted bench command ih.2⟩

end Histories

/-- As long as the clauses that were added can be counted, the statistics of a new frame set never
drift from the frames, whatever the solver does and however the commands end. The journal accounts
for the frames. Each clause that was added is stored, was dropped, or was merged by one of the moves
that the journal tells of. -/
theorem statistics_agree {bench : Workbench ω ε} {world : ω} {commands : List (Command ω)}
    {run : Run ω ε} (performed : history bench { world } commands = (frames, run))
    (countable : frames.statistics.clausesAdded.toNat < Counter.largest) :
    (account bench.system run).frames.ledger = frames.ledger ∧
    frames.statistics.frames.toNat = frames.frontier + 1 ∧
    frames.statistics.clauses.toNat =
      ∑ index ∈ Finset.range frames.frontier, (frames.storedAt (index + 1)).size ∧
    frames.statistics.clausesAdded.toNat =
      frames.statistics.clauses.toNat + frames.statistics.subsumedClauses.toNat +
        (account bench.system run).merges ∧
    frames.statistics.clauses.toNat + frames.statistics.subsumedClauses.toNat ≤
      frames.statistics.clausesAdded.toNat ∧
    frames.statistics.clausesAdded.toNat ≤
      frames.statistics.clauses.toNat + frames.statistics.subsumedClauses.toNat +
        frames.statistics.propagatedClauses.toNat := by
  obtain ⟨⟨same, balances⟩, counted⟩ := history_reconciled bench world commands
  rw [performed] at same balances counted
  have balanced : Balanced (account bench.system run).merges frames :=
    balances.of_ledger same countable
  obtain ⟨opened, added, moved, -⟩ := balanced
  have clauses : frames.statistics.clauses.toNat = frames.storedClauses := by
    have isCounted : frames.statistics.clauses = Counter.ofNat frames.storedClauses := counted
    rw [isCounted, Counter.toNat_ofNat]
    omega
  refine ⟨same, opened, clauses.trans (storedClauses_eq_sum frames), ?_, ?_, ?_⟩
  · rw [clauses, added]
  · rw [clauses, added]
    exact Nat.le_add_right _ _
  · rw [clauses, added]
    exact Nat.add_le_add_left moved _

theorem flicker_statistics_agree :
    ∃ frames run, history flickerBench { world := latchStart.world } flickerPropagated =
        (frames, run) ∧
      frames.statistics.clausesAdded.toNat < Counter.largest ∧
      (account flickerBench.system run).merges = 1 ∧
      frames.statistics.clausesAdded.toNat =
        frames.statistics.clauses.toNat + frames.statistics.subsumedClauses.toNat + 1 := by
  have countable : (history flickerBench { world := latchStart.world }
      flickerPropagated).1.statistics.clausesAdded.toNat < Counter.largest := by decide +kernel
  have merged : (account flickerBench.system (history flickerBench { world := latchStart.world }
      flickerPropagated).2).merges = 1 := by decide +kernel
  cases performed : history flickerBench { world := latchStart.world } flickerPropagated with
  | mk frames run =>
      rw [performed] at countable merged
      have ⟨_, _, _, balance, _⟩ := statistics_agree performed countable
      rw [merged] at balance
      exact ⟨frames, run, rfl, countable, merged, balance⟩

end DeltaFrames.FrameSet
