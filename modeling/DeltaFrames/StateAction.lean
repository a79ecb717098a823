/-!
# Actions on a state

An action may fail, and leaves a state behind even then. Besides what the state monad offers, work
is often done on one half of a pair: `onSecond` runs an action on the second component,
`modifyFirst` changes the first.
-/

namespace DeltaFrames.StateAction

variable {ε δ σ τ ρ α : Type}

def attempt (action : EStateM ε σ α) : EStateM δ σ (Except ε α) := fun state =>
  match action state with
  | .ok value after => .ok (.ok value) after
  | .error error after => .ok (.error error) after

def onSecond (action : EStateM ε ρ α) : EStateM ε (τ × ρ) α := fun state =>
  match action state.2 with
  | .ok value after => .ok value (state.1, after)
  | .error error after => .error error (state.1, after)

def modifyFirst (change : τ → τ) : EStateM δ (τ × ρ) Unit :=
  modify fun state => (change state.1, state.2)

def modifySecond (change : ρ → ρ) : EStateM δ (τ × ρ) Unit :=
  modify fun state => (state.1, change state.2)

def finalState : EStateM.Result ε σ α → σ
  | .ok _ after => after
  | .error _ after => after

variable {β : Type}

@[simp] theorem bind_apply (action : EStateM ε σ α) (next : α → EStateM ε σ β) (state : σ) :
    (action >>= next) state =
      match action state with
      | .ok value after => next value after
      | .error error after => .error error after := rfl

@[simp] theorem pure_apply (value : α) (state : σ) :
    (pure value : EStateM ε σ α) state = .ok value state := rfl

@[simp] theorem throw_apply (error : ε) (state : σ) :
    (throw error : EStateM ε σ α) state = .error error state := rfl

@[simp] theorem get_apply (state : σ) : (get : EStateM ε σ σ) state = .ok state state := rfl

@[simp] theorem modify_apply (change : σ → σ) (state : σ) :
    (modify change : EStateM ε σ PUnit) state = .ok ⟨⟩ (change state) := rfl

@[simp] theorem modifyFirst_apply (change : τ → τ) (state : τ × ρ) :
    (modifyFirst change : EStateM δ (τ × ρ) Unit) state = .ok () (change state.1, state.2) := rfl

@[simp] theorem modifySecond_apply (change : ρ → ρ) (state : τ × ρ) :
    (modifySecond change : EStateM δ (τ × ρ) Unit) state = .ok () (state.1, change state.2) := rfl

@[simp] theorem finalState_ok (value : α) (state : σ) :
    finalState (.ok value state : EStateM.Result ε σ α) = state := rfl

@[simp] theorem finalState_error (error : ε) (state : σ) :
    finalState (.error error state : EStateM.Result ε σ α) = state := rfl

end DeltaFrames.StateAction
