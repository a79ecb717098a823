import DeltaFrames.Term.Names

/-!
# Transition systems

A system is given by its initial condition, the property it is to keep and its transition relation.
The relation speaks about two states at once; the variables of the second one have names of their
own, and `prime` and `unprime` move a term from the names of one state to those of the other.
-/

namespace DeltaFrames

structure TransitionSystem where
  initial : Term
  property : Term
  transition : Term
  prime : Term → Term
  unprime : Term → Term
  declarations : Declarations

/-- Names with the names that replace them. The last entry for a name counts. -/
abbrev Renaming := List (String × String)

namespace Renaming

def apply (pairs : Renaming) (name : String) : String :=
  (pairs.reverse.lookup name).getD name

def inverse (pairs : Renaming) : Renaming :=
  pairs.map Prod.swap

end Renaming

/-- The system whose states are told apart by a given renaming, which is taken on trust. -/
def TransitionSystem.ofRenaming (initial property transition : Term) (declarations : Declarations)
    (primes : Renaming) : TransitionSystem where
  initial
  property
  transition
  prime := Term.rename primes.apply
  unprime := Term.rename primes.inverse.apply
  declarations

end DeltaFrames
