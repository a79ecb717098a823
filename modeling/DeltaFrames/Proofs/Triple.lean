import DeltaFrames.StateAction

/-!
# Triples

What an action promises about the state it leaves behind, whether it succeeds or fails. One rule
for each way of putting actions together; the rule for a loop has an invariant that speaks about
the part of the list still ahead.
-/

namespace DeltaFrames.StateAction

variable {ε δ σ τ ρ α β : Type}

def Meets (after : α → σ → Prop) (failed : ε → σ → Prop) : EStateM.Result ε σ α → Prop
  | .ok value state => after value state
  | .error error state => failed error state

theorem Meets.mono {after after' : α → σ → Prop} {failed failed' : ε → σ → Prop}
    {result : EStateM.Result ε σ α} (met : Meets after failed result)
    (success : ∀ value state, after value state → after' value state)
    (failure : ∀ error state, failed error state → failed' error state) :
    Meets after' failed' result := by
  cases result with
  | ok value left => exact success value left met
  | error error left => exact failure error left met

theorem Meets.and {after after' : α → σ → Prop} {failed failed' : ε → σ → Prop}
    {result : EStateM.Result ε σ α} (met : Meets after failed result)
    (other : Meets after' failed' result) :
    Meets (fun value state => after value state ∧ after' value state)
      (fun error state => failed error state ∧ failed' error state) result := by
  cases result with
  | ok value left => exact ⟨met, other⟩
  | error error left => exact ⟨met, other⟩

theorem Meets.finalState {invariant : σ → Prop} {result : EStateM.Result ε σ α}
    (met : Meets (fun _ => invariant) (fun _ => invariant) result) :
    invariant (finalState result) := by
  cases result with
  | ok _ left => exact met
  | error _ left => exact met

def returned : EStateM.Result ε σ α → Option α
  | .ok value _ => some value
  | .error _ _ => none

theorem eq_ok_of_returned {result : EStateM.Result ε σ α} {value : α}
    (isReturned : returned result = some value) : ∃ state, result = .ok value state := by
  cases result with
  | ok _ state => cases isReturned; exact ⟨state, rfl⟩
  | error _ _ => cases isReturned

theorem eq_error_of_returned {result : EStateM.Result ε σ α}
    (noneReturned : returned result = none) :
    ∃ error, result = .error error (finalState result) := by
  cases result with
  | ok _ _ => cases noneReturned
  | error error _ => exact ⟨error, rfl⟩

def Triple (before : σ → Prop) (action : EStateM ε σ α) (after : α → σ → Prop)
    (failed : ε → σ → Prop) : Prop :=
  ∀ state, before state → Meets after failed (action state)

namespace Triple

variable {before : σ → Prop} {action : EStateM ε σ α} {after : α → σ → Prop}
  {failed : ε → σ → Prop}

theorem mono {before' : σ → Prop} {after' : α → σ → Prop} {failed' : ε → σ → Prop}
    (promise : Triple before action after failed) (weaker : ∀ state, before' state → before state)
    (success : ∀ value state, after value state → after' value state)
    (failure : ∀ error state, failed error state → failed' error state) :
    Triple before' action after' failed' :=
  fun state holds => (promise state (weaker state holds)).mono success failure

theorem pure (value : α) : Triple (ε := ε) (after value) (pure value) after failed :=
  fun _ holds => holds

theorem throw (error : ε) : Triple (α := α) (failed error) (throw error) after failed :=
  fun _ holds => holds

theorem bind {next : α → EStateM ε σ β} {final : β → σ → Prop}
    (first : Triple before action after failed)
    (second : ∀ value, Triple (after value) (next value) final failed) :
    Triple before (action >>= next) final failed := by
  intro state holds
  have met := first state holds
  rw [bind_apply]
  cases result : action state with
  | ok value between => exact second value between (by rwa [result] at met)
  | error error left => rwa [result] at met

theorem get {next : σ → EStateM ε σ α}
    (rest : ∀ state, before state → Meets after failed (next state state)) :
    Triple before (get >>= next) after failed :=
  rest

theorem modify {final : Unit → σ → Prop} (change : σ → σ)
    (kept : ∀ state, before state → final () (change state)) :
    Triple before (modify change : EStateM ε σ Unit) final failed :=
  kept

theorem attempt {failed' : δ → σ → Prop} (promise : Triple before action after failed) :
    Triple before (attempt (δ := δ) action)
      (fun outcome state => match outcome with
        | .ok value => after value state
        | .error error => failed error state) failed' := by
  intro state holds
  have met := promise state holds
  unfold StateAction.attempt
  cases result : action state with
  | ok value left => simpa only [Meets, result] using met
  | error error left => simpa only [Meets, result] using met

theorem adaptExcept {failed' : δ → σ → Prop} (embed : ε → δ)
    (promise : Triple before action after fun error => failed' (embed error)) :
    Triple before (EStateM.adaptExcept embed action) after failed' := by
  intro state holds
  have met := promise state holds
  unfold EStateM.adaptExcept
  cases result : action state with
  | ok value left => simpa only [Meets, result] using met
  | error error left => simpa only [Meets, result] using met

theorem onSecond {before : τ × ρ → Prop} {action : EStateM ε ρ α} {after : α → τ × ρ → Prop}
    {failed : ε → τ × ρ → Prop}
    (promise : ∀ kept, Triple (fun second => before (kept, second)) action
      (fun value second => after value (kept, second))
      (fun error second => failed error (kept, second))) :
    Triple before (StateAction.onSecond action) after failed := by
  rintro ⟨kept, second⟩ holds
  have met := promise kept second holds
  unfold StateAction.onSecond
  cases result : action second with
  | ok value left => simpa only [Meets, result] using met
  | error error left => simpa only [Meets, result] using met

theorem forM_of_mem (invariant : List β → σ → Prop) {body : β → EStateM ε σ PUnit} {items : List β}
    (each : ∀ item ∈ items, ∀ rest, Triple (invariant (item :: rest)) (body item)
      (fun _ => invariant rest) failed) :
    Triple (invariant items) (items.forM body) (fun _ => invariant []) failed := by
  induction items with
  | nil => exact fun _ holds => holds
  | cons item rest ih =>
      have ⟨here, others⟩ := List.forall_mem_cons.1 each
      exact bind (here rest) fun _ => ih others

theorem forM (invariant : List β → σ → Prop) {body : β → EStateM ε σ PUnit}
    (each : ∀ item rest, Triple (invariant (item :: rest)) (body item)
      (fun _ => invariant rest) failed) (items : List β) :
    Triple (invariant items) (items.forM body) (fun _ => invariant []) failed :=
  forM_of_mem invariant fun item _ rest => each item rest

theorem and {before' : σ → Prop} {after' : α → σ → Prop} {failed' : ε → σ → Prop}
    (promise : Triple before action after failed) (other : Triple before' action after' failed') :
    Triple (fun state => before state ∧ before' state) action
      (fun value state => after value state ∧ after' value state)
      (fun error state => failed error state ∧ failed' error state) :=
  fun state holds => (promise state holds.1).and (other state holds.2)

end Triple

abbrev Preserves (invariant : σ → Prop) (action : EStateM ε σ α) : Prop :=
  Triple invariant action (fun _ => invariant) fun _ => invariant

theorem Preserves.finalState {invariant : σ → Prop} {action : EStateM ε σ α}
    (preserves : Preserves invariant action) {state : σ} (holds : invariant state) :
    invariant (finalState (action state)) :=
  Meets.finalState (preserves state holds)

end DeltaFrames.StateAction
