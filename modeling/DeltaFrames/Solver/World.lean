import DeltaFrames.Cancellation.Basic

namespace DeltaFrames

structure World (σ : Type) where
  solver : σ
  tokens : Cancellation.Store

namespace World

variable {σ : Type}

def clock (world : World σ) : Nat := world.tokens.now

def cancel (world : World σ) (token : Cancellation.Token) (reason : String) : World σ :=
  { world with tokens := world.tokens.cancel token reason }

def poll (token : Cancellation.Token) (world : World σ) :
    Except Cancellation.Interrupted Unit :=
  world.tokens.check token

end World

structure CancelOrder where
  checks : Nat
  token : Cancellation.Token
  reason : String
  deriving DecidableEq

namespace CancelOrder

def carryOut {σ : Type} (order : Option CancelOrder) (checks : Nat) (world : World σ) : World σ :=
  match order with
  | some due => if due.checks ≤ checks then world.cancel due.token due.reason else world
  | none => world

@[simp] theorem carryOut_solver {σ : Type} (order : Option CancelOrder) (checks : Nat)
    (world : World σ) : (carryOut order checks world).solver = world.solver := by
  unfold carryOut
  split
  · split <;> rfl
  · rfl

end CancelOrder
end DeltaFrames
