import DeltaFrames.Proofs.FrameSet.Runs
import DeltaFrames.Proofs.FrameSet.Thinning
import Mathlib.Data.List.Induction

namespace DeltaFrames.FrameSet

open StateAction

variable {ω ε : Type}

def Command.opens : Command ω → Bool
  | .openFrame => true
  | _ => false

def performAll (bench : Workbench ω ε) (commands : List (Command ω))
    (state : FrameSet × Run ω ε) : FrameSet × Run ω ε :=
  commands.foldl (fun state command => finalState (perform bench command state)) state

def history (bench : Workbench ω ε) (run : Run ω ε) (commands : List (Command ω)) :
    FrameSet × Run ω ε :=
  performAll bench commands (ofSystem bench.system, run)

def Accepted (bench : Workbench ω ε) (run : Run ω ε) (commands : List (Command ω)) (states : Term)
    (level : Nat) : Prop :=
  ∃ earlier later after, commands = earlier ++ .block states level :: later ∧
    perform bench (.block states level) (history bench run earlier) = .ok .done after

section Histories

variable (bench : Workbench ω ε) (run : Run ω ε)

theorem performAll_cons (command : Command ω) (rest : List (Command ω))
    (state : FrameSet × Run ω ε) :
    performAll bench (command :: rest) state =
      performAll bench rest (finalState (perform bench command state)) := rfl

theorem history_append (earlier later : List (Command ω)) :
    history bench run (earlier ++ later) = performAll bench later (history bench run earlier) :=
  List.foldl_append

theorem history_concat (commands : List (Command ω)) (command : Command ω) :
    history bench run (commands ++ [command]) =
      finalState (perform bench command (history bench run commands)) :=
  history_append bench run commands [command]

variable {bench run}

theorem accepted_concat {commands : List (Command ω)} {command : Command ω} {states : Term}
    {level : Nat} :
    Accepted bench run (commands ++ [command]) states level ↔
      Accepted bench run commands states level ∨
        command = .block states level ∧
          ∃ after, perform bench command (history bench run commands) = .ok .done after := by
  constructor
  · rintro ⟨earlier, later, after, split, accepted⟩
    rcases List.eq_nil_or_concat later with rfl | ⟨inner, last, rfl⟩
    · obtain ⟨rfl, same⟩ := List.append_inj' split rfl
      cases same
      exact .inr ⟨rfl, after, accepted⟩
    · rw [List.concat_eq_append, ← List.cons_append, ← List.append_assoc] at split
      obtain ⟨rfl, -⟩ := List.append_inj' split rfl
      exact .inl ⟨earlier, inner, after, rfl, accepted⟩
  · rintro (⟨earlier, later, after, rfl, accepted⟩ | ⟨rfl, after, accepted⟩)
    · exact ⟨earlier, later ++ [command], after, List.append_assoc .., accepted⟩
    · exact ⟨commands, [], after, rfl, accepted⟩

end Histories

structure Retains (before after : FrameSet) : Prop where
  frontier : after.frontier = before.frontier
  lowest : ∀ clause, clause ∈ after.effective 1 ↔ clause ∈ before.effective 1
  grows : ∀ {level clause}, 0 < level → clause ∈ before.effective level →
    clause ∈ after.effective level

theorem Retains.promote {before after : FrameSet} {index : Nat} {clause : Term}
    (retains : Retains before after) (below : index + 1 < before.frontier)
    (stored : clause ∈ after.storedAt (index + 1)) :
    Retains before (after.promote index clause) := by
  rw [← retains.frontier] at below
  refine ⟨(frontier_promote ..).trans retains.frontier, fun other => ?_, fun positive member => ?_⟩
  · rw [mem_effective_promote below stored Nat.one_pos, retains.lowest]
    simp
  · exact mem_effective_promote_of_mem below positive (retains.grows positive member)

section Propagation

variable (bench : Workbench ω ε) (poll : ω → Except Cancellation.Interrupted Unit)
  (state : FrameSet × Run ω ε)

theorem propagate_outline :
    (finalState (propagate bench poll state)).1.initial = state.1.initial ∧
      (finalState (propagate bench poll state)).1.frontier = state.1.frontier := by
  have keeps : (Regime.ofFrames ω ε fun frames => frames.initial = state.1.initial ∧
      frames.frontier = state.1.frontier).Keeps (propagate bench poll) :=
    Regime.propagate_upheld
      (fun index => Regime.ofFrames_upheld
        (fun frames clause _ same => ⟨same.1, (frontier_promote frames index clause).trans same.2⟩)
        fun frames clause _ same => ⟨same.1, (frontier_discard frames index clause).trans same.2⟩)
      (fun same => same) (fun _ same => same) fun _ same => same
  have preserves : Preserves (fun now : FrameSet × Run ω ε => now.1.initial = state.1.initial ∧
      now.1.frontier = state.1.frontier) (propagate bench poll) := keeps
  exact preserves.finalState ⟨rfl, rfl⟩

variable {bench poll state} in
theorem propagate_frontier {reached : Bool} {after : FrameSet × Run ω ε}
    (returned : propagate bench poll state = .ok reached after) :
    after.1.frontier = state.1.frontier := by
  have outline := propagate_outline bench poll state
  rw [returned] at outline
  exact outline.2

theorem propagate_retains (keepsAll : bench.options.subsumption = false) :
    Retains state.1 (finalState (propagate bench poll state)).1 := by
  have heeded (index : Nat) (below : index + 1 < state.1.frontier) :
      (Regime.ofFrames ω ε (Retains state.1)).Heeded bench poll index := by
    refine ⟨(Regime.ofFrames_pushing ?_).heeded, fun subsuming => ?_⟩
    · exact fun frames clause stored retains => retains.promote below stored
    · rw [keepsAll] at subsuming
      cases subsuming
  have unchanged : Retains state.1 state.1.untimed :=
    ⟨rfl, fun _ => Iff.rfl, fun _ member => member⟩
  have met : Meets (fun _ after => Retains state.1 after.1.untimed)
      (fun _ after => Retains state.1 after.1.untimed) (propagate bench poll state) := by
    refine Regime.propagate_heeded ?_ (fun _ retains => retains) heeded (fun _ => unchanged)
      fun _ _ => unchanged
    exact fun retains => ⟨retains.frontier, retains.lowest, retains.grows⟩
  have left : Retains state.1 (finalState (propagate bench poll state)).1.untimed := met.finalState
  exact ⟨left.frontier, left.lowest, left.grows⟩

end Propagation

section Commands

variable {bench : Workbench ω ε}

theorem perform_outline (bench : Workbench ω ε) (command : Command ω) (state : FrameSet × Run ω ε) :
    (finalState (perform bench command state)).1.initial = state.1.initial ∧
      (finalState (perform bench command state)).1.frontier =
        state.1.frontier + if command.opens then 1 else 0 := by
  cases command with
  | openFrame => exact ⟨rfl, frontier_openNext ..⟩
  | block states level =>
      rcases perform_block_cases bench states level state with
        ⟨index, rfl, -, accepted⟩ | ⟨-, error, refused⟩
      · rw [accepted]
        exact ⟨initial_addClause, frontier_addClause⟩
      · rw [refused]
        exact ⟨rfl, rfl⟩
  | propagate poll =>
      rw [finalState_propagate]
      exact propagate_outline bench poll state

variable (keepsAll : bench.options.subsumption = false)

include keepsAll

theorem perform_grows (command : Command ω) (state : FrameSet × Run ω ε) {level : Nat}
    {clause : Term} (positive : 0 < level) (member : clause ∈ state.1.effective level) :
    clause ∈ (finalState (perform bench command state)).1.effective level := by
  cases command with
  | openFrame => exact mem_effective_openNext_of_mem member
  | block states place =>
      rcases perform_block_cases bench states place state with
        ⟨index, rfl, below, accepted⟩ | ⟨-, error, refused⟩
      · rw [accepted]
        exact mem_effective_addClause_of_mem below member
      · rwa [refused]
  | propagate poll =>
      rw [finalState_propagate]
      exact (propagate_retains bench poll state keepsAll).grows positive member

theorem performAll_grows (commands : List (Command ω)) {state : FrameSet × Run ω ε} {level : Nat}
    {clause : Term} (positive : 0 < level) (member : clause ∈ state.1.effective level) :
    clause ∈ (performAll bench commands state).1.effective level := by
  induction commands generalizing state with
  | nil => exact member
  | cons command rest ih => exact ih (perform_grows keepsAll command state positive member)

theorem perform_lowest (command : Command ω) (state : FrameSet × Run ω ε) (clause : Term) :
    clause ∈ (finalState (perform bench command state)).1.effective 1 ↔
      clause ∈ state.1.effective 1 ∨
        (command.opens = true ∧ clause = bench.system.unprime bench.system.property) ∨
        ∃ states level, (command = .block states level ∧
          ∃ after, perform bench command state = .ok .done after) ∧ clause = states.negate := by
  cases command with
  | openFrame =>
      have opened : clause ∈ (state.1.openNext bench.system).effective 1 ↔ _ :=
        mem_effective_openNext Nat.one_pos
      refine opened.trans (or_congr_right ⟨fun seed => .inl ⟨rfl, seed.2⟩, ?_⟩)
      rintro (⟨-, same⟩ | ⟨_, _, ⟨impossible, -⟩, -⟩)
      · exact ⟨by omega, same⟩
      · cases impossible
  | block states place =>
      rcases perform_block_cases bench states place state with
        ⟨index, rfl, below, accepted⟩ | ⟨-, error, refused⟩
      · rw [accepted, finalState_ok, mem_effective_addClause below Nat.one_pos]
        refine or_congr_right ⟨fun added => .inr ⟨states, _, ⟨rfl, _, rfl⟩, added.2⟩, ?_⟩
        rintro (⟨impossible, -⟩ | ⟨_, _, ⟨same, -⟩, rfl⟩)
        · cases impossible
        · cases same
          exact ⟨by omega, rfl⟩
      · rw [refused]
        refine ⟨.inl, ?_⟩
        rintro (member | ⟨impossible, -⟩ | ⟨_, _, ⟨-, _, impossible⟩, -⟩)
        · exact member
        · cases impossible
        · cases impossible
  | propagate poll =>
      rw [finalState_propagate, (propagate_retains bench poll state keepsAll).lowest]
      refine ⟨.inl, ?_⟩
      rintro (member | ⟨impossible, -⟩ | ⟨_, _, ⟨impossible, -⟩, -⟩)
      · exact member
      · cases impossible
      · cases impossible

end Commands

section Histories

variable {bench : Workbench ω ε} {run : Run ω ε}

theorem history_outline (bench : Workbench ω ε) (run : Run ω ε) (commands : List (Command ω)) :
    (history bench run commands).1.initial = (ofSystem bench.system).initial ∧
      (history bench run commands).1.frontier = commands.countP Command.opens := by
  induction commands using List.reverseRecOn with
  | nil => exact ⟨rfl, rfl⟩
  | append_singleton commands command ih =>
      obtain ⟨initial, frontier⟩ := perform_outline bench command (history bench run commands)
      rw [history_concat, initial, frontier, ih.1, ih.2, List.countP_append, List.countP_singleton]
      exact ⟨rfl, rfl⟩

variable (keepsAll : bench.options.subsumption = false)

include keepsAll

theorem mem_history_lowest (commands : List (Command ω)) (clause : Term) :
    clause ∈ (history bench run commands).1.effective 1 ↔
      (0 < (history bench run commands).1.frontier ∧
        clause = bench.system.unprime bench.system.property) ∨
      ∃ states level, Accepted bench run commands states level ∧ clause = states.negate := by
  induction commands using List.reverseRecOn with
  | nil => simp [history, performAll, ofSystem, effective, frontier, FrameLevel.of, Accepted]
  | append_singleton commands command ih =>
      have opened : 0 < (history bench run commands).1.frontier + (if command.opens then 1 else 0) ↔
          0 < (history bench run commands).1.frontier ∨ command.opens = true := by
        cases command.opens <;> simp
      rw [history_concat, perform_lowest keepsAll, ih, (perform_outline ..).2, opened]
      simp only [accepted_concat, or_and_right, exists_or]
      exact or_or_or_comm

theorem Accepted.held {commands : List (Command ω)} {states : Term} {level lower : Nat}
    (accepted : Accepted bench run commands states level) (positive : 0 < lower)
    (le : lower ≤ level) : states.negate ∈ (history bench run commands).1.effective lower := by
  obtain ⟨earlier, later, after, rfl, performed⟩ := accepted
  obtain ⟨index, rfl, below, frames, -⟩ := of_perform_block_ok performed
  rw [history_append, performAll_cons, performed]
  refine performAll_grows keepsAll later positive ?_
  rw [finalState_ok, frames]
  exact (mem_effective_addClause below positive).2 (.inr ⟨le, rfl⟩)

omit keepsAll in
theorem Accepted.le_frontier {commands : List (Command ω)} {states : Term} {level : Nat}
    (accepted : Accepted bench run commands states level) :
    level ≤ (history bench run commands).1.frontier := by
  obtain ⟨earlier, later, after, rfl, performed⟩ := accepted
  obtain ⟨index, rfl, within, -⟩ := of_perform_block_ok performed
  have below : index < (history bench run earlier).1.frontier := within
  rw [(history_outline ..).2, List.countP_append, ← (history_outline bench run earlier).2]
  omega

end Histories

/-- Without subsumption no clause is ever lost or lowered, whatever the solver does and however the
commands end. The lowest level holds exactly the property, once it is open, and the clauses that
were accepted. A clause accepted at a level holds at all levels up to this one from then on, no
level loses a clause, and every level holds what the next one holds. In any case the initial frame
stays as it was, and the frontier tells how many frames were opened. -/
theorem no_clause_is_lost (bench : Workbench ω ε) (run : Run ω ε) (commands : List (Command ω)) :
    (bench.options.subsumption = false →
      (0 < (history bench run commands).1.frontier →
        ∃ lowest, (history bench run commands).1.states 1 = .ok lowest ∧ ∀ clause, clause ∈ lowest ↔
          clause = bench.system.unprime bench.system.property ∨
            ∃ states level, Accepted bench run commands states level ∧ clause = states.negate) ∧
      (∀ states level, Accepted bench run commands states level →
        ∀ lower, 0 < lower → lower ≤ level →
          ∃ held, (history bench run commands).1.states lower = .ok held ∧ states.negate ∈ held) ∧
      (∀ earlier later, commands = earlier ++ later → ∀ level before, 0 < level →
        (history bench run earlier).1.states level = .ok before →
          ∃ after, (history bench run commands).1.states level = .ok after ∧
            ∀ clause ∈ before, clause ∈ after) ∧
      ∀ level above, 0 < level →
        (history bench run commands).1.states (level + 1) = .ok above →
          ∃ held, (history bench run commands).1.states level = .ok held ∧
            ∀ clause ∈ above, clause ∈ held) ∧
    (∃ lowest, (history bench run commands).1.states 0 = .ok lowest ∧
      lowest.toList = [bench.system.unprime bench.system.initial]) ∧
    (history bench run commands).1.frontier = commands.countP Command.opens := by
  obtain ⟨initial, frontier⟩ := history_outline bench run commands
  refine ⟨fun keepsAll => ⟨fun opened => ?_, ?_, ?_, ?_⟩, ?_, frontier⟩
  · refine ⟨_, states_of_le opened, fun clause => ?_⟩
    rw [mem_history_lowest keepsAll, and_iff_right opened]
  · intro states level accepted lower positive le
    exact ⟨_, states_of_le (Nat.le_trans le accepted.le_frontier),
      accepted.held keepsAll positive le⟩
  · rintro earlier later rfl level before positive found
    obtain ⟨inside, rfl⟩ := of_states found
    have grown : (history bench run earlier).1.frontier ≤
        (history bench run (earlier ++ later)).1.frontier := by
      rw [frontier, (history_outline bench run earlier).2, List.countP_append]
      omega
    refine ⟨_, states_of_le (Nat.le_trans inside grown), fun clause member => ?_⟩
    rw [history_append]
    exact performAll_grows keepsAll later positive member
  · intro level above positive found
    obtain ⟨inside, rfl⟩ := of_states found
    exact ⟨_, states_of_le (Nat.le_of_succ_le inside), fun clause member =>
      effective_antitone positive (Nat.le_succ level) member⟩
  · refine ⟨_, states_of_le (Nat.zero_le _), ?_⟩
    show (history bench run commands).1.initial.toList = _
    rw [initial]
    rfl

def flickerPropagated : List (Command (World Enumerating.State)) :=
  flickerCommands ++ [.propagate fun _ => .ok ()]

theorem flicker_no_clause_is_lost :
    (flickerBench.subsuming false).options.subsumption = false ∧
    .var "p" ∉ (history (flickerBench.subsuming false) latchStart flickerPropagated).1.storedAt 1 ∧
    ∃ lowest, (history (flickerBench.subsuming false) latchStart flickerPropagated).1.states 1 =
        .ok lowest ∧
      ∀ clause, clause ∈ lowest ↔ clause = .var "p" ∨ ∃ states level,
        Accepted (flickerBench.subsuming false) latchStart flickerPropagated states level ∧
          clause = states.negate := by
  have opened : 0 <
      (history (flickerBench.subsuming false) latchStart flickerPropagated).1.frontier := by
    decide +kernel
  have property : (flickerBench.subsuming false).system.unprime
      (flickerBench.subsuming false).system.property = .var "p" := by decide +kernel
  obtain ⟨lowest, found, members⟩ :=
    ((no_clause_is_lost (flickerBench.subsuming false) latchStart flickerPropagated).1 rfl).1 opened
  rw [property] at members
  exact ⟨rfl, by decide +kernel, lowest, found, members⟩

end DeltaFrames.FrameSet
