import DeltaFrames.Cancellation.Basic

/-!
# What becomes of a token

All that can happen to the tokens of a store is that one more is allocated, that one is cancelled,
and that time passes. A token without a deadline is let pass until it is cancelled, and is reported
with the first reason given from then on (`Store.Holds.applyAll`).
-/

namespace DeltaFrames.Cancellation

inductive Operation where
  | allocate (deadline : Option Nat)
  | cancel (token : Token) (reason : String)
  | wait (nanoseconds : Nat)
  deriving DecidableEq

def Operation.reasonFor (token : Token) : Operation → Option String
  | .cancel other reason => if other = token then some reason else none
  | .allocate _ => none
  | .wait _ => none

def firstReason (token : Token) (operations : List Operation) : Option String :=
  operations.findSome? (Operation.reasonFor token)

namespace Store

def apply (store : Store) : Operation → Store
  | .allocate deadline => (store.allocate deadline).2
  | .cancel token reason => store.cancel token reason
  | .wait nanoseconds => { store with now := store.now + nanoseconds }

def applyAll (store : Store) (operations : List Operation) : Store :=
  operations.foldl apply store

def Holds (store : Store) (token : Token) (reason : Option String) : Prop :=
  store.cells[token.cell]? = some { cancelled := reason.isSome, reason }

variable {store : Store} {token : Token} {reason : Option String}

theorem Holds.apply (holds : store.Holds token reason) (operation : Operation) :
    (store.apply operation).Holds token (reason.or (operation.reasonFor token)) := by
  have bound : token.cell < store.cells.size := (Array.getElem?_eq_some_iff.1 holds).1
  unfold Holds at holds ⊢
  cases operation with
  | allocate deadline =>
      rw [Operation.reasonFor, Option.or_none, ← holds]
      exact (Array.getElem?_push.trans (if_neg (Nat.ne_of_lt bound)))
  | wait nanoseconds => rw [Operation.reasonFor, Option.or_none, ← holds, Store.apply]
  | cancel other given =>
      simp only [Store.apply, Store.cancel, Array.getElem?_modify, Operation.reasonFor]
      by_cases same : other = token
      · subst same
        -- A reason that was given before stays.
        cases reason <;> simp [holds, Cell.cancel]
      · have apart : other.cell ≠ token.cell := by
          rintro equal
          cases other
          cases token
          exact same (congrArg Token.mk equal)
        simp [holds, same, apart]

theorem Holds.applyAll (holds : store.Holds token reason) (operations : List Operation) :
    (store.applyAll operations).Holds token (reason.or (firstReason token operations)) := by
  induction operations generalizing store reason with
  | nil => rwa [firstReason, List.findSome?_nil, Option.or_none]
  | cons operation rest ih =>
      have split : firstReason token (operation :: rest) =
          (operation.reasonFor token).or (firstReason token rest) := by
        rw [firstReason, List.findSome?_cons]
        cases operation.reasonFor token <;> rfl
      rw [split, ← Option.or_assoc]
      exact ih (holds.apply operation)

theorem Holds.check (holds : store.Holds token reason) :
    store.check token = match reason with
      | none => .ok ()
      | some given => .error ⟨given⟩ := by
  have cell : store.cell token = { cancelled := reason.isSome, reason } := by
    rw [Store.cell, Array.getD_eq_getD_getElem?, holds, Option.getD_some]
  rw [Store.check, cell]
  cases reason <;> rfl

theorem check_of_isCancelled (cancelled : store.isCancelled token = true) :
    ∃ told, store.check token = .error ⟨told⟩ ∧
      ∀ given, (store.cell token).cancelled = true → (store.cell token).reason = some given →
        told = given := by
  unfold isCancelled Cell.isCancelled at cancelled
  unfold check Cell.check
  cases explicit : (store.cell token).cancelled with
  | true =>
      refine ⟨_, rfl, fun given _ isGiven => ?_⟩
      rw [isGiven, Option.getD_some]
  | false =>
      rw [explicit, Bool.false_or] at cancelled
      rw [if_neg Bool.false_ne_true, if_pos cancelled]
      exact ⟨_, rfl, fun _ impossible => nomatch impossible⟩

end Store
end DeltaFrames.Cancellation
