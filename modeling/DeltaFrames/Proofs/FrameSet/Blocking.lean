import DeltaFrames.Proofs.FrameSet.Runs
import DeltaFrames.Proofs.Term.Evaluation

namespace DeltaFrames

namespace Term

def stacked : Term → Bool
  | .not (.not _) => true
  | .not (.bool _) => true
  | _ => false

theorem not_not_ne (term : Term) : Term.not (.not term) ≠ term := by
  intro same
  have larger := congrArg sizeOf same
  simp only [Term.not.sizeOf_spec] at larger
  omega

theorem negate_negate_eq_self_iff (term : Term) :
    term.negate.negate = term ↔ term.stacked = false := by
  cases term with
  | not operand =>
      cases operand with
      | not inner => simpa [negate, stacked] using (not_not_ne inner).symm
      | bool value => simp [negate, stacked]
      | _ => simp [negate, stacked]
  | _ => simp [negate, stacked]

theorem not_eq_negate_iff (term : Term) :
    Term.not term = term.negate ↔ (Term.not term).stacked = false := by
  cases term with
  | not operand => simpa [negate, stacked] using not_not_ne operand
  | _ => simp [negate, stacked]

end Term

namespace FrameSet

variable {ω ε : Type}

/-- The negation of a term has the opposite value of the term, and the same error where this has no
Boolean value. Once states are blocked at a level, they are false under every assignment that makes
true all clauses of this or any lower level above the initial one. -/
theorem blocking_complements_states :
    (∀ (term : Term) (assignment : Assignment),
      term.negate.evalBool assignment = (term.evalBool assignment).map (!·)) ∧
    ∀ (frames : FrameSet) (run : Run ω ε) (states : Term) (level : Nat), 0 < level →
      level ≤ frames.frontier →
      ∃ after, block states level (frames, run) = .ok () after ∧
        ∀ lower, 0 < lower → lower ≤ level →
          ∃ held, after.1.states lower = .ok held ∧
            ∀ assignment, (∀ clause ∈ held, clause.evalBool assignment = .ok true) →
              states.evalBool assignment = .ok false := by
  refine ⟨fun term _ => term.evalBool_negate, fun frames run states level positive inside => ?_⟩
  obtain ⟨index, rfl⟩ := Nat.exists_eq_add_one.2 positive
  have below : index < frames.frontier := inside
  refine ⟨_, block_apply run states below, fun lower lowerPositive le => ?_⟩
  have reached : lower ≤ (frames.addClause index states.negate).frontier := by
    rw [frontier_addClause]
    exact Nat.le_trans le inside
  refine ⟨_, states_of_le reached, fun assignment holds => ?_⟩
  have held : states.negate ∈ (frames.addClause index states.negate).effective lower :=
    (mem_effective_addClause below lowerPositive).2 (.inr ⟨le, rfl⟩)
  exact Term.evalBool_eq_false_of_negate (holds states.negate held)

theorem doubly_negated_blocking_complements_states :
    let frames : FrameSet := { initial := ∅, deltas := [∅, ∅] }
    let run : Run Unit String := { world := () }
    let assignment := Assignment.empty.bind "q" (.bool true)
    0 < 2 ∧ 2 ≤ frames.frontier ∧
      ∃ after, block (.not (.var "q")) 2 (frames, run) = .ok () after ∧
        ∃ held, after.1.states 1 = .ok held ∧ held.toList = [.var "q"] ∧
          (∀ clause ∈ held, clause.evalBool assignment = .ok true) ∧
            (Term.not (.var "q")).evalBool assignment = .ok false := by
  intro frames run assignment
  have positive : 0 < 2 := by decide
  have inside : 2 ≤ frames.frontier := by decide
  obtain ⟨after, blocked, excludes⟩ :=
    blocking_complements_states.2 frames run (.not (.var "q")) 2 positive inside
  obtain ⟨held, found, excluded⟩ := excludes 1 (by decide) (by decide)
  have single : held.toList = [.var "q"] := by
    cases blocked
    cases found
    rfl
  have holds : ∀ clause ∈ held, clause.evalBool assignment = .ok true := by
    intro clause member
    rw [← OrderedSet.mem_toList, single] at member
    rw [List.mem_singleton.1 member]
    rfl
  exact ⟨positive, inside, after, blocked, held, found, single, holds, excluded assignment holds⟩

theorem block_stores {frames : FrameSet} (run : Run ω ε) (states : Term) {level : Nat}
    (positive : 0 < level) (inside : level ≤ frames.frontier) :
    ∃ after, block states level (frames, run) = .ok () after ∧
      after.1.frontier = frames.frontier ∧
      after.1.storedAt level = (frames.storedAt level).insert states.negate ∧
      ∀ other, other ≠ level → after.1.storedAt other = frames.storedAt other := by
  obtain ⟨index, rfl⟩ := Nat.exists_eq_add_one.2 positive
  have below : index < frames.frontier := inside
  refine ⟨_, block_apply run states below, frontier_addClause, ?_, fun other apart => ?_⟩
  · rw [storedAt_addClause below, if_pos rfl]
  · rw [storedAt_addClause below, if_neg apart]

theorem block_of_stored {frames : FrameSet} (run : Run ω ε) {states : Term} {level : Nat}
    (positive : 0 < level) (inside : level ≤ frames.frontier)
    (stored : states.negate ∈ frames.storedAt level) :
    ∃ after, block states level (frames, run) = .ok () after ∧ after.1 = frames := by
  obtain ⟨index, rfl⟩ := Nat.exists_eq_add_one.2 positive
  refine ⟨_, block_apply run states inside, ?_⟩
  unfold addClause
  exact if_pos stored

/-- Negating a term twice gives the term back exactly if it does not negate a negation or a literal.
So blocking the negation of a clause makes the clause a member of the level if it is not such a
term, and otherwise makes a member of the term that is left of it. Blocking it once more changes
nothing. States and their double negation are blocked by one clause exactly if the negation of the
states is not such a term, whether the double negation is built with `negate` or not. -/
theorem negation_returns_unless_stacked :
    (∀ term : Term, term.negate.negate = term ↔ term.stacked = false) ∧
    ∀ (frames : FrameSet) (run : Run ω ε) (level : Nat), 0 < level → level ≤ frames.frontier →
      (∀ clause : Term, ∃ after, block clause.negate level (frames, run) = .ok () after ∧
        after.1.storedAt level = (frames.storedAt level).insert clause.negate.negate ∧
        (∀ other, other ≠ level → after.1.storedAt other = frames.storedAt other) ∧
        (clause ∈ after.1.storedAt level ↔
          clause ∈ frames.storedAt level ∨ clause.stacked = false) ∧
        ∃ again, block clause.negate level after = .ok () again ∧ again.1 = after.1) ∧
      ∀ states : Term, ∃ after, block states level (frames, run) = .ok () after ∧
        (∃ both, block states.negate.negate level after = .ok () both ∧
          both.1.storedAt level =
            ((frames.storedAt level).insert states.negate).insert states.negate.negate.negate ∧
          (states.negate.negate.negate = states.negate ↔ states.negate.stacked = false)) ∧
        ∃ both, block (.not (.not states)) level after = .ok () both ∧
          both.1.storedAt level =
            ((frames.storedAt level).insert states.negate).insert (.not states) ∧
          (.not states = states.negate ↔ (Term.not states).stacked = false) := by
  refine ⟨Term.negate_negate_eq_self_iff, fun frames run level positive inside => ⟨?_, ?_⟩⟩
  · intro clause
    obtain ⟨⟨after, left⟩, blocked, same, stored, others⟩ :=
      block_stores run clause.negate positive inside
    have present : clause.negate.negate ∈ after.storedAt level := by
      rw [stored]
      exact OrderedSet.mem_insert.2 (.inr rfl)
    refine ⟨_, blocked, stored, others, ?_, block_of_stored left positive (same ▸ inside) present⟩
    rw [stored, OrderedSet.mem_insert, ← Term.negate_negate_eq_self_iff]
    exact or_congr_right eq_comm
  · intro states
    obtain ⟨⟨after, left⟩, blocked, same, stored, -⟩ := block_stores run states positive inside
    have reached : level ≤ after.frontier := same ▸ inside
    obtain ⟨built, builtBlocked, -, builtStored, -⟩ :=
      block_stores left states.negate.negate positive reached
    obtain ⟨plain, plainBlocked, -, plainStored, -⟩ :=
      block_stores left (.not (.not states)) positive reached
    rw [stored] at builtStored plainStored
    exact ⟨_, blocked, ⟨built, builtBlocked, builtStored, states.negate.negate_negate_eq_self_iff⟩,
      plain, plainBlocked, plainStored, states.not_eq_negate_iff⟩

theorem negated_clause_returns_unless_stacked :
    let frames : FrameSet := { initial := ∅, deltas := [∅] }
    let run : Run Unit String := { world := () }
    0 < 1 ∧ 1 ≤ frames.frontier ∧
      (∃ after, block (Term.negate (.not (.var "q"))) 1 (frames, run) = .ok () after ∧
        Term.not (.var "q") ∈ after.1.storedAt 1) ∧
      ∃ after, block (Term.negate (.not (.not (.var "q")))) 1 (frames, run) = .ok () after ∧
        Term.not (.not (.var "q")) ∉ after.1.storedAt 1 := by
  intro frames run
  have positive : 0 < 1 := by decide
  have inside : 1 ≤ frames.frontier := by decide
  obtain ⟨blocks, -⟩ := negation_returns_unless_stacked.2 frames run 1 positive inside
  obtain ⟨kept, keptBlocked, -, -, member, -⟩ := blocks (.not (.var "q"))
  obtain ⟨lost, lostBlocked, -, -, absent, -⟩ := blocks (.not (.not (.var "q")))
  refine ⟨positive, inside, ⟨kept, keptBlocked, member.2 (.inr rfl)⟩, lost, lostBlocked, ?_⟩
  rw [absent]
  decide

theorem not_every_negated_clause_returns :
    (¬ ∀ term : Term, term.negate.negate = term) ∧
    ¬ ∀ (frames : FrameSet) (run : Run Unit String) (clause : Term) (level : Nat), 0 < level →
      level ≤ frames.frontier → ∃ after, block clause.negate level (frames, run) = .ok () after ∧
        clause ∈ after.1.storedAt level := by
  constructor
  · intro returns
    exact absurd (returns (.not (.not (.var "q")))) (by decide)
  · intro stores
    obtain ⟨after, blocked, stored⟩ := stores { initial := ∅, deltas := [∅] } { world := () }
      (.not (.not (.var "q"))) 1 (by decide) (by decide)
    cases blocked
    exact absurd stored (by decide)

end FrameSet
end DeltaFrames
