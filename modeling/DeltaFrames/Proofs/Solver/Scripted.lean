import DeltaFrames.Proofs.Solver.Contract
import DeltaFrames.Solver.Scripted
import DeltaFrames.StateAction

/-!
# The scripted solver keeps its scopes

Whatever the script says, a call that it lets pass changes the scopes as it should, and one that
fails leaves them alone (`keepsScopes`). The declarations are not kept. Pops succeed as long as the
script fails none (`popsSucceed`).
-/

namespace DeltaFrames.Scripted

open StateAction

def view : View (World State) where
  stack world := world.solver.stack
  declared _ _ := none

variable {script : Script} {call : Call} {world after : World State}

theorem stack_register (kind : CallKind) (world : World State) :
    (register script kind world).solver.stack = world.solver.stack := by
  unfold register
  split
  · rw [CancelOrder.carryOut_solver]
  · rfl

theorem stack_perform_ok {answer : call.Answer}
    (response : perform script call world = .ok answer after) :
    after.solver.stack = call.apply world.solver.stack := by
  cases call with
  | push => cases response; rfl
  | pop =>
      simp only [perform, bind_apply, get_apply] at response
      cases popped : world.solver.stack.pop with
      | none => rw [popped] at response; cases response
      | some stack => rw [popped] at response; cases response; simp [Call.apply, popped]
  | declare name sort => cases response; rfl
  | assert term => cases response; rfl
  | check => cases response; rfl
  | reset => cases response; rfl

theorem stack_perform_error {error : String}
    (response : perform script call world = .error error after) :
    after.solver.stack = world.solver.stack := by
  cases call with
  | push => cases response
  | pop =>
      simp only [perform, bind_apply, get_apply] at response
      cases popped : world.solver.stack.pop with
      | none => rw [popped] at response; cases response; rfl
      | some stack => rw [popped] at response; cases response
  | declare name sort => cases response
  | assert term => cases response
  | check => cases response
  | reset => cases response

theorem respond_eq (script : Script) (call : Call) (world : World State) :
    (solver script).respond call world =
      match script.failure call.kind (register script call.kind world).solver.made with
      | some message => .error message (register script call.kind world)
      | none => perform script call (register script call.kind world) := by
  simp only [solver, bind_apply, modify_apply, get_apply]
  cases script.failure call.kind (register script call.kind world).solver.made <;> rfl

theorem keepsScopes (script : Script) : (solver script).KeepsScopes view where
  succeeds := by
    intro call world answer after response
    rw [respond_eq] at response
    cases failing : script.failure call.kind (register script call.kind world).solver.made with
    | some message => rw [failing] at response; cases response
    | none =>
        rw [failing] at response
        exact (stack_perform_ok response).trans (congrArg call.apply (stack_register call.kind world))
  fails := by
    intro call world error after response
    rw [respond_eq] at response
    cases failing : script.failure call.kind (register script call.kind world).solver.made with
    | some message => rw [failing] at response; cases response; exact stack_register call.kind world
    | none =>
        rw [failing] at response
        exact (stack_perform_error response).trans (stack_register call.kind world)

theorem popsSucceed (script : Script) (spared : ∀ failure ∈ script.failures, failure.kind ≠ .pop) :
    (solver script).PopsSucceed view := by
  intro world nonempty
  have unfailed (made : Tally) : script.failure .pop made = none := by
    rw [Script.failure, Option.map_eq_none_iff, List.find?_eq_none]
    intro failure listed failing
    exact spared failure (List.mem_reverse.1 listed) (of_decide_eq_true failing).1
  obtain ⟨scope, outer, opened⟩ := List.exists_cons_of_ne_nil nonempty
  have popped : (register script .pop world).solver.stack.pop =
      some { world.solver.stack with opened := outer } := by
    have isOpened : world.solver.stack.opened = scope :: outer := opened
    rw [stack_register, ScopeStack.pop, isOpened]
  rw [respond_eq]
  simp only [Call.kind, unfailed, perform, bind_apply, get_apply, popped, modifyStack, modify_apply]
  exact ⟨_, rfl⟩

end DeltaFrames.Scripted
