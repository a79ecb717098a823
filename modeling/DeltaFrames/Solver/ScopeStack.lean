import DeltaFrames.Term.Basic

/-!
# Stacks of scopes

The assertions a solver holds, scope by scope. There is always an outermost scope, which cannot be
closed. Popping gives back exactly what was there before the push (`pop_push`), whatever was
asserted in between (`pop_assert`).
-/

namespace DeltaFrames

structure ScopeStack where
  outermost : List Term := []
  /-- The scopes opened above the outermost one, the innermost first. -/
  opened : List (List Term) := []
  deriving DecidableEq, Inhabited

namespace ScopeStack

def push (stack : ScopeStack) : ScopeStack :=
  { stack with opened := [] :: stack.opened }

def pop (stack : ScopeStack) : Option ScopeStack :=
  match stack.opened with
  | [] => none
  | _ :: outer => some { stack with opened := outer }

def assert (stack : ScopeStack) (term : Term) : ScopeStack :=
  match stack.opened with
  | [] => { stack with outermost := stack.outermost ++ [term] }
  | innermost :: outer => { stack with opened := (innermost ++ [term]) :: outer }

def depth (stack : ScopeStack) : Nat := stack.opened.length

def assertions (stack : ScopeStack) : List Term :=
  stack.outermost ++ stack.opened.reverse.flatten

@[simp] theorem pop_push (stack : ScopeStack) : stack.push.pop = some stack := rfl

theorem pop_assert {stack : ScopeStack} (term : Term) (opened : stack.opened ≠ []) :
    (stack.assert term).pop = stack.pop := by
  unfold assert
  cases scopes : stack.opened with
  | nil => exact absurd scopes opened
  | cons innermost outer => simp [pop, scopes]

@[simp] theorem assertions_push (stack : ScopeStack) :
    stack.push.assertions = stack.assertions := by
  simp [assertions, push]

@[simp] theorem assertions_assert (stack : ScopeStack) (term : Term) :
    (stack.assert term).assertions = stack.assertions ++ [term] := by
  unfold assert assertions
  cases scopes : stack.opened <;> simp

end ScopeStack
end DeltaFrames
