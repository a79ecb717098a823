import DeltaFrames.FrameSet.Basic

namespace DeltaFrames.FrameSet

variable {system : TransitionSystem} {frames : FrameSet} {index level : Nat} {clause other : Term}

theorem states_of_le (le : level ≤ frames.frontier) :
    frames.states level = .ok (frames.effective level) := by
  simp [states, checkLevel, le, bind, Except.bind, pure, Except.pure]

theorem of_states {held : Frame} (found : frames.states level = .ok held) :
    level ≤ frames.frontier ∧ held = frames.effective level := by
  by_cases inside : level ≤ frames.frontier
  · rw [states_of_le inside] at found
    cases found
    exact ⟨inside, rfl⟩
  · simp [states, checkLevel, inside, bind, Except.bind] at found

theorem stored_of_le (le : level ≤ frames.frontier) :
    frames.stored level = .ok (frames.storedAt level) := by
  simp [stored, checkLevel, le, bind, Except.bind, pure, Except.pure]

theorem of_stored {here : Frame} (found : frames.stored level = .ok here) :
    level ≤ frames.frontier ∧ here = frames.storedAt level := by
  by_cases inside : level ≤ frames.frontier
  · rw [stored_of_le inside] at found
    cases found
    exact ⟨inside, rfl⟩
  · simp [stored, checkLevel, inside, bind, Except.bind] at found

theorem mem_effective_of_stored (positive : 0 < level) {above : Nat} (le : level ≤ above)
    (stored : clause ∈ frames.storedAt above) : clause ∈ frames.effective level :=
  (mem_effective_iff positive).2 ⟨above, le, stored⟩

theorem effective_antitone (positive : 0 < level) {above : Nat} (le : level ≤ above)
    (member : clause ∈ frames.effective above) : clause ∈ frames.effective level := by
  obtain ⟨place, placeLe, stored⟩ :=
    (mem_effective_iff (Nat.lt_of_lt_of_le positive le)).1 member
  exact mem_effective_of_stored positive (Nat.le_trans le placeLe) stored

theorem mem_effective_ofSystem :
    clause ∈ (ofSystem system).effective 0 ↔ clause = system.unprime system.initial := by
  simp [ofSystem, effective, FrameLevel.of]

theorem storedAt_beyond (beyond : frames.frontier < level) : frames.storedAt level = ∅ := by
  obtain ⟨index, rfl⟩ : ∃ index, level = index + 1 := ⟨level - 1, by omega⟩
  have none : frames.deltas[index]? = none :=
    List.getElem?_eq_none (by unfold frontier at beyond; omega)
  simp only [storedAt, FrameLevel.of, none, Option.getD_none]

theorem le_frontier_of_stored (stored : clause ∈ frames.storedAt level) :
    level ≤ frames.frontier := by
  refine Nat.le_of_not_lt fun beyond => ?_
  rw [storedAt_beyond beyond] at stored
  exact OrderedSet.not_mem_empty clause stored

theorem le_frontier_of_effective (positive : 0 < level) (member : clause ∈ frames.effective level) :
    level ≤ frames.frontier := by
  obtain ⟨above, le, stored⟩ := (mem_effective_iff positive).1 member
  exact Nat.le_trans le (le_frontier_of_stored stored)

theorem effective_succ_of_isEmpty (positive : 0 < level)
    (empty : (frames.storedAt level).isEmpty = true) :
    frames.effective (level + 1) = frames.effective level := by
  obtain ⟨index, rfl⟩ := Nat.exists_eq_add_one.2 positive
  simp only [effective, FrameLevel.of, OrderedSet.union]
  by_cases inside : index < frames.deltas.length
  · simp only [storedAt, FrameLevel.of, List.getElem?_eq_getElem inside, Option.getD_some] at empty
    have none : frames.deltas[index].toList = [] := List.isEmpty_iff.1 empty
    rw [List.drop_eq_getElem_cons inside, List.flatMap_cons, none, List.nil_append]
  · rw [List.drop_eq_nil_of_le (by omega), List.drop_eq_nil_of_le (by omega)]

theorem mem_effective_succ_of_isEmpty (positive : 0 < level)
    (empty : (frames.storedAt level).isEmpty = true) (member : clause ∈ frames.effective level) :
    clause ∈ frames.effective (level + 1) := by
  rwa [effective_succ_of_isEmpty positive empty]

theorem mem_storedAt_openNext (positive : 0 < level) :
    other ∈ (frames.openNext system).storedAt level ↔
      other ∈ frames.storedAt level ∨
        level = frames.frontier + 1 ∧ other = system.unprime system.property := by
  obtain ⟨index, rfl⟩ := Nat.exists_eq_add_one.2 positive
  simp only [storedAt, FrameLevel.of, openNext, recount, count, frontier, Nat.add_right_cancel_iff]
  rcases Nat.lt_trichotomy index frames.deltas.length with below | rfl | beyond
  · simp [List.getElem?_append_left below, Nat.ne_of_lt below]
  · simp
  · rw [List.getElem?_eq_none (by simp; omega), List.getElem?_eq_none (by omega)]
    simp [Nat.ne_of_gt beyond]

theorem storedAt_openNext_frontier :
    (frames.openNext system).storedAt (frames.frontier + 1) =
      (∅ : Frame).insert (system.unprime system.property) := by
  simp [storedAt, FrameLevel.of, openNext, recount, count, frontier]

theorem mem_effective_openNext (positive : 0 < level) :
    other ∈ (frames.openNext system).effective level ↔
      other ∈ frames.effective level ∨
        level ≤ frames.frontier + 1 ∧ other = system.unprime system.property := by
  simp only [mem_effective_iff positive]
  constructor
  · rintro ⟨above, aboveLe, stored⟩
    rcases (mem_storedAt_openNext (by omega)).1 stored with stored | ⟨rfl, rfl⟩
    · exact .inl ⟨above, aboveLe, stored⟩
    · exact .inr ⟨aboveLe, rfl⟩
  · rintro (⟨above, aboveLe, stored⟩ | ⟨le, rfl⟩)
    · exact ⟨above, aboveLe, (mem_storedAt_openNext (by omega)).2 (.inl stored)⟩
    · exact ⟨_, le, (mem_storedAt_openNext (by omega)).2 (.inr ⟨rfl, rfl⟩)⟩

theorem mem_effective_openNext_of_mem (member : other ∈ frames.effective level) :
    other ∈ (frames.openNext system).effective level := by
  rcases Nat.eq_zero_or_pos level with rfl | positive
  · exact member
  · exact (mem_effective_openNext positive).2 (.inl member)

theorem mem_of_effective_openNext (member : other ∈ (frames.openNext system).effective level) :
    other ∈ frames.effective level ∨
      level ≤ frames.frontier + 1 ∧ other = system.unprime system.property := by
  rcases Nat.eq_zero_or_pos level with rfl | positive
  · exact .inl member
  · exact (mem_effective_openNext positive).1 member

@[simp] theorem frontier_addClause : (frames.addClause index clause).frontier = frames.frontier := by
  unfold addClause
  split <;> simp [frontier, recount, count]

theorem initial_addClause : (frames.addClause index clause).initial = frames.initial := by
  unfold addClause
  split <;> rfl

theorem storedAt_addClause (below : index < frames.frontier) :
    (frames.addClause index clause).storedAt level =
      if level = index + 1 then (frames.storedAt level).insert clause
      else frames.storedAt level := by
  unfold addClause
  split
  · next present =>
      split
      · next here =>
          subst here
          exact (OrderedSet.insert_of_mem present).symm
      · rfl
  · cases level with
    | zero => rfl
    | succ place =>
        simp only [storedAt, FrameLevel.of, recount, count, Nat.add_right_cancel_iff]
        by_cases same : place = index
        · subst same
          simp [List.getElem?_eq_getElem (show place < frames.deltas.length from below)]
        · simp [same, Ne.symm same]

theorem mem_storedAt_addClause (below : index < frames.frontier) :
    other ∈ (frames.addClause index clause).storedAt level ↔
      other ∈ frames.storedAt level ∨ level = index + 1 ∧ other = clause := by
  rw [storedAt_addClause below]
  split
  · next here => simp [here]
  · next here => simp [here]

theorem mem_effective_addClause (below : index < frames.frontier) (positive : 0 < level) :
    other ∈ (frames.addClause index clause).effective level ↔
      other ∈ frames.effective level ∨ level ≤ index + 1 ∧ other = clause := by
  simp only [mem_effective_iff positive]
  constructor
  · rintro ⟨above, aboveLe, stored⟩
    rcases (mem_storedAt_addClause below).1 stored with stored | ⟨rfl, rfl⟩
    · exact .inl ⟨above, aboveLe, stored⟩
    · exact .inr ⟨aboveLe, rfl⟩
  · rintro (⟨above, aboveLe, stored⟩ | ⟨le, rfl⟩)
    · exact ⟨above, aboveLe, (mem_storedAt_addClause below).2 (.inl stored)⟩
    · exact ⟨_, le, (mem_storedAt_addClause below).2 (.inr ⟨rfl, rfl⟩)⟩

theorem effective_addClause_zero :
    (frames.addClause index clause).effective 0 = frames.effective 0 := by
  unfold addClause
  split <;> rfl

theorem mem_effective_addClause_of_mem (below : index < frames.frontier)
    (member : other ∈ frames.effective level) :
    other ∈ (frames.addClause index clause).effective level := by
  rcases Nat.eq_zero_or_pos level with rfl | positive
  · rwa [effective_addClause_zero]
  · exact (mem_effective_addClause below positive).2 (.inl member)

theorem mem_of_effective_addClause (below : index < frames.frontier)
    (member : other ∈ (frames.addClause index clause).effective level) :
    other ∈ frames.effective level ∨ level ≤ index + 1 ∧ other = clause := by
  rcases Nat.eq_zero_or_pos level with rfl | positive
  · rw [effective_addClause_zero] at member
    exact .inl member
  · exact (mem_effective_addClause below positive).1 member

theorem storedAt_promote (below : index + 1 < frames.frontier) :
    (frames.promote index clause).storedAt level =
      if level = index + 1 then (frames.storedAt level).erase clause
      else if level = index + 2 then (frames.storedAt level).insert clause
      else frames.storedAt level := by
  cases level with
  | zero => rfl
  | succ place =>
      simp only [storedAt, FrameLevel.of, promote, count, Nat.add_right_cancel_iff]
      by_cases here : place = index
      · subst here
        simp [List.getElem?_eq_getElem (show place < frames.deltas.length by
          unfold frontier at below; omega)]
      · by_cases above : place = index + 1
        · subst above
          simp [List.getElem?_eq_getElem (show index + 1 < frames.deltas.length from below)]
        · simp [here, above, Ne.symm here, Ne.symm above]

theorem mem_storedAt_promote (below : index + 1 < frames.frontier) :
    other ∈ (frames.promote index clause).storedAt level ↔
      (other ∈ frames.storedAt level ∧ ¬ (level = index + 1 ∧ other = clause)) ∨
        level = index + 2 ∧ other = clause := by
  rw [storedAt_promote below]
  split
  · next here => simp [here]
  · next here =>
      split
      · next above => simp [above]
      · next above => simp [here, above]

theorem mem_of_storedAt_promote
    (member : other ∈ (frames.promote index clause).storedAt level) :
    other ∈ frames.storedAt level ∨ other = clause := by
  cases level with
  | zero => exact .inl member
  | succ place =>
      simp only [storedAt, FrameLevel.of, promote, count] at member ⊢
      by_cases here : index = place
      · subst here
        cases located : frames.deltas[index]? with
        | none => simp [located] at member
        | some frame =>
            have kept : other ∈ frame.erase clause := by simpa [located] using member
            exact .inl (OrderedSet.mem_erase.1 kept).1
      · by_cases above : index + 1 = place
        · subst above
          cases located : frames.deltas[index + 1]? with
          | none => simp [located] at member
          | some frame =>
              have taken : other ∈ frame.insert clause := by simpa [located] using member
              exact OrderedSet.mem_insert.1 taken
        · exact .inl (by simpa [here, above] using member)

theorem storedAt_discard :
    (frames.discard index clause).storedAt level =
      if level = index + 1 then (frames.storedAt level).erase clause
      else frames.storedAt level := by
  cases level with
  | zero => rfl
  | succ place =>
      simp only [storedAt, FrameLevel.of, discard, count, Nat.add_right_cancel_iff]
      by_cases here : place = index
      · subst here
        cases located : frames.deltas[place]? <;> simp [located]
        rfl
      · simp [here, Ne.symm here]

theorem mem_storedAt_discard :
    other ∈ (frames.discard index clause).storedAt level ↔
      other ∈ frames.storedAt level ∧ ¬ (level = index + 1 ∧ other = clause) := by
  rw [storedAt_discard]
  split
  · next here => simp [here]
  · next here => simp [here]

theorem toList_storedAt_promote :
    ((frames.promote index clause).storedAt (index + 1)).toList =
      (frames.storedAt (index + 1)).toList.erase clause := by
  simp only [storedAt, FrameLevel.of, promote, count]
  cases located : frames.deltas[index]? <;> simp [located, OrderedSet.toList_erase]

theorem toList_storedAt_discard :
    ((frames.discard index clause).storedAt (index + 1)).toList =
      (frames.storedAt (index + 1)).toList.erase clause := by
  rw [storedAt_discard, if_pos rfl, OrderedSet.toList_erase]

theorem storedAt_promote_below (le : level ≤ index) :
    (frames.promote index clause).storedAt level = frames.storedAt level := by
  cases level with
  | zero => rfl
  | succ place =>
      have here : index ≠ place := by omega
      have above : index + 1 ≠ place := by omega
      simp [storedAt, FrameLevel.of, promote, count, here, above]

theorem storedAt_discard_below (le : level ≤ index) :
    (frames.discard index clause).storedAt level = frames.storedAt level := by
  rw [storedAt_discard, if_neg (by omega)]

theorem mem_effective_promote_of_mem (below : index + 1 < frames.frontier) (positive : 0 < level)
    (member : other ∈ frames.effective level) :
    other ∈ (frames.promote index clause).effective level := by
  obtain ⟨above, le, stored⟩ := (mem_effective_iff positive).1 member
  by_cases leaves : above = index + 1 ∧ other = clause
  · obtain ⟨rfl, rfl⟩ := leaves
    exact mem_effective_of_stored positive (Nat.le_succ_of_le le)
      ((mem_storedAt_promote below).2 (.inr ⟨rfl, rfl⟩))
  · exact mem_effective_of_stored positive le
      ((mem_storedAt_promote below).2 (.inl ⟨stored, leaves⟩))

theorem mem_effective_promote (below : index + 1 < frames.frontier)
    (stored : clause ∈ frames.storedAt (index + 1)) (positive : 0 < level) :
    other ∈ (frames.promote index clause).effective level ↔
      other ∈ frames.effective level ∨ level = index + 2 ∧ other = clause := by
  constructor
  · intro member
    obtain ⟨above, le, otherStored⟩ := (mem_effective_iff positive).1 member
    rcases (mem_storedAt_promote below).1 otherStored with ⟨otherStored, -⟩ | ⟨rfl, rfl⟩
    · exact .inl (mem_effective_of_stored positive le otherStored)
    · rcases Nat.lt_or_eq_of_le le with lower | same
      · exact .inl (mem_effective_of_stored positive (Nat.le_of_lt_succ lower) stored)
      · exact .inr ⟨same, rfl⟩
  · rintro (member | ⟨rfl, rfl⟩)
    · exact mem_effective_promote_of_mem below positive member
    · exact mem_effective_of_stored positive (Nat.le_refl _)
        ((mem_storedAt_promote below).2 (.inr ⟨rfl, rfl⟩))

theorem mem_effective_of_discard (positive : 0 < level)
    (member : other ∈ (frames.discard index clause).effective level) :
    other ∈ frames.effective level := by
  obtain ⟨above, aboveLe, stored⟩ := (mem_effective_iff positive).1 member
  exact mem_effective_of_stored positive aboveLe (mem_storedAt_discard.1 stored).1

theorem mem_effective_discard_or (positive : 0 < level) (member : other ∈ frames.effective level) :
    other ∈ (frames.discard index clause).effective level ∨ level ≤ index + 1 ∧ other = clause := by
  obtain ⟨above, aboveLe, stored⟩ := (mem_effective_iff positive).1 member
  by_cases leaves : above = index + 1 ∧ other = clause
  · obtain ⟨rfl, rfl⟩ := leaves
    exact .inr ⟨aboveLe, rfl⟩
  · exact .inl (mem_effective_of_stored positive aboveLe
      (mem_storedAt_discard.2 ⟨stored, leaves⟩))

theorem effective_discard_above (above : index + 1 < level) :
    (frames.discard index clause).effective level = frames.effective level := by
  obtain ⟨place, rfl⟩ : ∃ place, level = place + 1 := ⟨level - 1, by omega⟩
  simp only [effective, FrameLevel.of, discard, count]
  rw [List.drop_modify_of_lt _ _ _ _ (by omega)]

end DeltaFrames.FrameSet
