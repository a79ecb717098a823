import DeltaFrames.System.Basic

/-!
# Symbolic transition systems

A system over declared state variables, in which the next-state copy of `x` is called `x_next`.
`SymbolicSystem.ofFormulas` accepts a system exactly if its variables are well named and its
formulas mention nothing else; what it has checked is kept in the type.
-/

namespace DeltaFrames

def primedName (name : String) : String := name ++ "_next"

inductive Formula where
  | initialCondition
  | safetyProperty
  | transitionRelation
  deriving DecidableEq, Repr

def Formula.print : Formula → String
  | .initialCondition => "initial condition"
  | .safetyProperty => "safety property"
  | .transitionRelation => "transition relation"

inductive SystemError where
  | duplicateVariable (name : String)
  | primedNameClash (name : String)
  | undeclaredVariable (formula : Formula) (name : String)
  deriving DecidableEq, Repr

def SystemError.message : SystemError → String
  | .duplicateVariable name => "state variable '" ++ name ++ "' is declared twice"
  | .primedNameClash name =>
      "primed name '" ++ primedName name ++ "' of '" ++ name ++
        "' clashes with another state variable"
  | .undeclaredVariable formula name =>
      formula.print ++ " mentions undeclared variable '" ++ name ++ "'"

namespace Declarations

def names (declarations : Declarations) : List String := declarations.map Prod.fst

def primed (declarations : Declarations) : Declarations :=
  declarations.map fun (name, sort) => (primedName name, sort)

end Declarations

structure SymbolicSystem where
  stateVariables : Declarations
  initial : Term
  property : Term
  transition : Term
  names_nodup : stateVariables.names.Nodup
  primedName_not_mem : ∀ name ∈ stateVariables.names, primedName name ∉ stateVariables.names
  initial_closed : ∀ name ∈ initial.freeVars, name ∈ stateVariables.names
  property_closed : ∀ name ∈ property.freeVars, name ∈ stateVariables.names
  transition_closed : ∀ name ∈ transition.freeVars,
    name ∈ stateVariables.names ++ stateVariables.primed.names

namespace SymbolicSystem

def firstRepeated : List String → List String → Option String
  | _, [] => none
  | before, name :: rest =>
      if name ∈ before then some name else firstRepeated (name :: before) rest

def firstClash (names : List String) : Option String :=
  names.find? fun name => primedName name ∈ names

def firstUndeclared (allowed : List String) (term : Term) : Option String :=
  term.freeVars.find? fun name => name ∉ allowed

theorem firstRepeated_eq_none {before names : List String}
    (none : firstRepeated before names = none) :
    names.Nodup ∧ ∀ name ∈ names, name ∉ before := by
  induction names generalizing before with
  | nil => simp
  | cons head tail ih =>
      unfold firstRepeated at none
      split at none
      · cases none
      · next fresh =>
          have ⟨distinct, apart⟩ := ih none
          simp only [List.mem_cons, not_or] at apart
          refine ⟨List.nodup_cons.2 ⟨fun member => (apart head member).1 rfl, distinct⟩, ?_⟩
          intro name member
          rcases List.mem_cons.1 member with rfl | member
          · exact fresh
          · exact (apart name member).2

theorem firstClash_eq_none {names : List String} (none : firstClash names = none) :
    ∀ name ∈ names, primedName name ∉ names := by
  simpa [firstClash] using none

theorem firstUndeclared_eq_none {allowed : List String} {term : Term}
    (none : firstUndeclared allowed term = none) : ∀ name ∈ term.freeVars, name ∈ allowed := by
  simpa [firstUndeclared] using none

def reject (error : String → SystemError) :
    (found : Option String) → Except SystemError (PLift (found = none))
  | some name => .error (error name)
  | none => .ok ⟨rfl⟩

/-- Builds a system. A repeated variable is reported before a clash of names, and a clash before an
undeclared variable, which is sought in the initial condition, the property and the transition
relation in turn. -/
def ofFormulas (stateVariables : Declarations) (initial property transition : Term) :
    Except SystemError SymbolicSystem := do
  let unprimed := stateVariables.names
  let ⟨distinct⟩ ← reject .duplicateVariable (firstRepeated [] unprimed)
  let ⟨apart⟩ ← reject .primedNameClash (firstClash unprimed)
  let ⟨initialClosed⟩ ← reject (.undeclaredVariable .initialCondition)
    (firstUndeclared unprimed initial)
  let ⟨propertyClosed⟩ ← reject (.undeclaredVariable .safetyProperty)
    (firstUndeclared unprimed property)
  let ⟨transitionClosed⟩ ← reject (.undeclaredVariable .transitionRelation)
    (firstUndeclared (unprimed ++ stateVariables.primed.names) transition)
  return {
    stateVariables, initial, property, transition
    names_nodup := (firstRepeated_eq_none distinct).1
    primedName_not_mem := firstClash_eq_none apart
    initial_closed := firstUndeclared_eq_none initialClosed
    property_closed := firstUndeclared_eq_none propertyClosed
    transition_closed := firstUndeclared_eq_none transitionClosed }

def primeName (system : SymbolicSystem) (name : String) : String :=
  if name ∈ system.stateVariables.names then primedName name else name

def unprimeName (system : SymbolicSystem) (name : String) : String :=
  (system.stateVariables.names.find? fun unprimed => primedName unprimed = name).getD name

def toTransitionSystem (system : SymbolicSystem) : TransitionSystem where
  initial := system.initial
  property := system.property
  transition := system.transition
  prime := Term.rename system.primeName
  unprime := Term.rename system.unprimeName
  declarations := system.stateVariables ++ system.stateVariables.primed

end SymbolicSystem
end DeltaFrames
