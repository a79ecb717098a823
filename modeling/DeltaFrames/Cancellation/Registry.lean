import DeltaFrames.Cancellation.Basic

/-!
# Handing out tokens

A registry numbers the tokens it hands out from zero, clones among them, and answers requests about
them. Cloning a token gives one more number to the same cell.
-/

namespace DeltaFrames.Cancellation

inductive Lifetime where
  | unlimited
  | timeout (seconds : UInt64)
  | deadline (moment : Nat)
  deriving DecidableEq, Repr

inductive Request where
  | create (lifetime : Lifetime)
  | clone (token : Nat)
  | cancel (token : Nat) (reason : String)
  | isCancelled (token : Nat)
  | hasDeadline (token : Nat)
  | check (token : Nat)
  deriving DecidableEq, Repr

inductive Reply where
  | token (number : Nat)
  | done
  | holds (answer : Bool)
  | checked (outcome : Except Interrupted Unit)
  | noSuchToken

structure Registry where
  store : Store := {}
  tokens : Array Token := #[]
  deriving Inhabited

namespace Registry

def handOut (registry : Registry) (token : Token) : Reply × Registry :=
  (.token registry.tokens.size, { registry with tokens := registry.tokens.push token })

def create (registry : Registry) (deadline : Option Nat) : Reply × Registry :=
  let (token, store) := registry.store.allocate deadline
  { registry with store }.handOut token

def deadlineOf (registry : Registry) : Lifetime → Option Nat
  | .unlimited => none
  | .timeout seconds => registry.store.timeoutDeadline seconds
  | .deadline moment => some moment

def withToken (registry : Registry) (number : Nat) (answer : Token → Reply × Registry) :
    Reply × Registry :=
  match registry.tokens[number]? with
  | some token => answer token
  | none => (.noSuchToken, registry)

def perform (registry : Registry) : Request → Reply × Registry
  | .create lifetime => registry.create (registry.deadlineOf lifetime)
  | .clone number => registry.withToken number registry.handOut
  | .cancel number reason => registry.withToken number fun token =>
      (.done, { registry with store := registry.store.cancel token reason })
  | .isCancelled number => registry.withToken number fun token =>
      (.holds (registry.store.isCancelled token), registry)
  | .hasDeadline number => registry.withToken number fun token =>
      (.holds (registry.store.deadline token).isSome, registry)
  | .check number => registry.withToken number fun token =>
      (.checked (registry.store.check token), registry)

end Registry
end DeltaFrames.Cancellation
