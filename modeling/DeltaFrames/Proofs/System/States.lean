import DeltaFrames.Proofs.Term.Sorting

/-!
# States of a symbolic system

A valuation of all declared variables tells two states: `present` gives the state variables the
values of their own names, `next` those of their primed names. A term over the state variables
speaks about the first, and about the second once it is primed (`holds_present`, `holds_prime`).
-/

namespace DeltaFrames

structure TransitionSystem.WellSorted (system : TransitionSystem) : Prop where
  transition : system.transition.HasSort system.declarations.signature .bool
  property : (system.unprime system.property).HasSort system.declarations.signature .bool
  prime : ∀ term : Term, term.HasSort system.declarations.signature .bool →
    (system.prime term).HasSort system.declarations.signature .bool

theorem primedName_injective {name other : String} (same : primedName name = primedName other) :
    name = other := by
  have lists := congrArg String.toList same
  simp only [primedName, String.toList_append] at lists
  exact String.toList_injective (List.append_cancel_right lists)

namespace Declarations

theorem signature_append (first second : Declarations) (name : String) :
    (first ++ second).signature name = (second.signature name).or (first.signature name) := by
  simp only [signature, List.reverse_append, List.lookup_append]

theorem signature_eq_none {declarations : Declarations} {name : String}
    (absent : name ∉ declarations.names) : declarations.signature name = none := by
  refine List.lookup_eq_none_iff.2 fun entry member => ?_
  have different : name ≠ entry.1 := fun same =>
    absent (same ▸ List.mem_map_of_mem (List.mem_reverse.1 member))
  simpa using different

theorem mem_names_of_signature {declarations : Declarations} {name : String} {sort : TermSort}
    (known : declarations.signature name = some sort) : name ∈ declarations.names := by
  refine Classical.byContradiction fun absent => ?_
  rw [signature_eq_none absent] at known
  cases known

theorem lookup_primed (declarations : Declarations) (name : String) :
    declarations.primed.lookup (primedName name) = declarations.lookup name := by
  induction declarations with
  | nil => rfl
  | cons entry rest ih =>
      obtain ⟨other, sort⟩ := entry
      have same : (primedName name == primedName other) = (name == other) := by
        rw [Bool.eq_iff_iff, beq_iff_eq, beq_iff_eq]
        exact ⟨primedName_injective, congrArg primedName⟩
      unfold primed at ih ⊢
      simp only [List.map_cons, List.lookup_cons, same, ih]

theorem signature_primed (declarations : Declarations) (name : String) :
    declarations.primed.signature (primedName name) = declarations.signature name := by
  have reversed : declarations.primed.reverse = primed declarations.reverse :=
    List.map_reverse.symm
  simp only [signature, reversed, lookup_primed]

end Declarations

namespace SymbolicSystem

variable (system : SymbolicSystem)

abbrev stateSignature : Signature := system.stateVariables.signature

abbrev signature : Signature := system.toTransitionSystem.declarations.signature

variable {system}

theorem mem_primed_names {name : String} :
    name ∈ system.stateVariables.primed.names ↔
      ∃ unprimed ∈ system.stateVariables.names, primedName unprimed = name := by
  simp [Declarations.names, Declarations.primed]

theorem not_mem_primed_names {name : String} (member : name ∈ system.stateVariables.names) :
    name ∉ system.stateVariables.primed.names := by
  rw [mem_primed_names]
  rintro ⟨unprimed, unprimedMember, rfl⟩
  exact system.primedName_not_mem unprimed unprimedMember member

theorem signature_eq_stateSignature {name : String} (member : name ∈ system.stateVariables.names) :
    system.signature name = system.stateSignature name := by
  have absent := not_mem_primed_names member
  show (system.stateVariables ++ system.stateVariables.primed).signature name = _
  rw [Declarations.signature_append, Declarations.signature_eq_none absent, Option.none_or]

theorem stateSignature_extends : system.stateSignature.Extends system.signature := by
  intro name sort known
  rwa [signature_eq_stateSignature (Declarations.mem_names_of_signature known)]

theorem signature_primedName {name : String} {sort : TermSort}
    (known : system.stateSignature name = some sort) :
    system.signature (primedName name) = some sort := by
  show (system.stateVariables ++ system.stateVariables.primed).signature (primedName name) = _
  rw [Declarations.signature_append, Declarations.signature_primed]
  exact Option.or_eq_some_iff.2 (.inl known)

structure WellSorted (system : SymbolicSystem) : Prop where
  initial : system.initial.HasSort system.stateSignature .bool
  property : system.property.HasSort system.stateSignature .bool
  transition : system.transition.HasSort system.signature .bool

theorem primeName_state {name : String} (member : name ∈ system.stateVariables.names) :
    system.primeName name = primedName name :=
  if_pos member

theorem primeName_of_not_mem {name : String} (fresh : name ∉ system.stateVariables.names) :
    system.primeName name = name :=
  if_neg fresh

theorem unprimeName_unprimed {name : String}
    (apart : name ∉ system.stateVariables.primed.names) : system.unprimeName name = name := by
  have nothing : system.stateVariables.names.find? (primedName · = name) = none := by
    refine List.find?_eq_none.2 fun unprimed member same => apart ?_
    exact mem_primed_names.2 ⟨unprimed, member, of_decide_eq_true same⟩
  rw [unprimeName, nothing, Option.getD_none]

/-- No primed copy of a state variable occurs in the term. Names foreign to the system may. -/
def Unprimed (system : SymbolicSystem) (term : Term) : Prop :=
  ∀ name ∈ term.freeVars, name ∉ system.stateVariables.primed.names

theorem Unprimed.of_closed {term : Term}
    (closed : ∀ name ∈ term.freeVars, name ∈ system.stateVariables.names) :
    system.Unprimed term :=
  fun name free => not_mem_primed_names (closed name free)

theorem Unprimed.unprime_eq {term : Term} (unprimed : system.Unprimed term) :
    system.toTransitionSystem.unprime term = term :=
  Term.rename_eq_self term fun name occurs =>
    unprimeName_unprimed (unprimed name (Term.mem_freeVars.2 occurs))

@[simp] theorem unprime_initial :
    system.toTransitionSystem.unprime system.toTransitionSystem.initial = system.initial :=
  (Unprimed.of_closed system.initial_closed).unprime_eq

@[simp] theorem unprime_property :
    system.toTransitionSystem.unprime system.toTransitionSystem.property = system.property :=
  (Unprimed.of_closed system.property_closed).unprime_eq

theorem WellSorted.unprime_property (sorted : system.WellSorted) :
    (system.toTransitionSystem.unprime system.toTransitionSystem.property).HasSort
      system.stateSignature .bool := by
  rw [SymbolicSystem.unprime_property]
  exact sorted.property

theorem hasSort_prime {term : Term} {sort : TermSort}
    (sorted : term.HasSort system.signature sort) :
    (system.toTransitionSystem.prime term).HasSort system.signature sort := by
  refine sorted.rename fun name sort known => ?_
  by_cases member : name ∈ system.stateVariables.names
  · rw [primeName_state member]
    exact signature_primedName ((signature_eq_stateSignature member).symm.trans known)
  · rwa [primeName_of_not_mem member]

theorem WellSorted.toTransitionSystem (sorted : system.WellSorted) :
    system.toTransitionSystem.WellSorted where
  transition := sorted.transition
  property := sorted.unprime_property.mono stateSignature_extends
  prime := fun _ termSorted => hasSort_prime termSorted

variable {I : Interpretation}

def present (system : SymbolicSystem) (both : Valuation I) : Valuation I :=
  both.restrict system.stateSignature

def next (system : SymbolicSystem) (both : Valuation I) : Valuation I :=
  fun name => (system.stateSignature name).bind fun _ => both (primedName name)

variable {both : Valuation I} {term : Term}

theorem present_fits (fits : both.Fits system.signature) :
    (system.present both).Fits system.stateSignature :=
  fits.restrict stateSignature_extends

theorem next_fits (fits : both.Fits system.signature) :
    (system.next both).Fits system.stateSignature := by
  refine ⟨fun name => ?_, fun name value given => ?_⟩
  · cases known : system.stateSignature name with
    | none => simp [next, known]
    | some sort => simpa [next, known] using
        (fits.sorts (primedName name)).trans (signature_primedName known)
  · obtain ⟨sort, -, given⟩ := Option.bind_eq_some_iff.1 given
    exact fits.inRange _ _ given

theorem holds_present (sorted : term.HasSort system.stateSignature .bool)
    (fits : both.Fits system.signature) :
    term.Holds (system.present both) ↔ term.Holds both :=
  (sorted.holds_extension (present_fits fits)
    (both.extends_restrict system.stateSignature)).symm

theorem holds_prime (sorted : term.HasSort system.stateSignature .bool)
    (fits : both.Fits system.signature) :
    (system.toTransitionSystem.prime term).Holds both ↔ term.Holds (system.next both) := by
  have larger : (system.next both).Extends fun name => both (system.primeName name) := by
    intro name value given
    obtain ⟨sort, known, given⟩ := Option.bind_eq_some_iff.1 given
    have primed := primeName_state (Declarations.mem_names_of_signature known)
    simpa only [primed] using given
  rw [← sorted.holds_extension (next_fits fits) larger]
  show (term.rename system.primeName).meaning both = _ ↔ _
  rw [Term.meaning_rename]
  rfl

def Moves (system : SymbolicSystem) (source target : Valuation I) : Prop :=
  ∃ both : Valuation I, both.Fits system.signature ∧ system.transition.Holds both ∧
    system.present both = source ∧ system.next both = target

inductive ReachableIn (system : SymbolicSystem) : Nat → Valuation I → Prop where
  | initial {state : Valuation I} (fits : state.Fits system.stateSignature)
      (holds : system.initial.Holds state) : ReachableIn system 0 state
  | step {steps : Nat} {source target : Valuation I} (reached : ReachableIn system steps source)
      (moves : system.Moves source target) : ReachableIn system (steps + 1) target

def Reachable (system : SymbolicSystem) (state : Valuation I) : Prop :=
  ∃ steps, system.ReachableIn steps state

theorem ReachableIn.fits {steps : Nat} {state : Valuation I}
    (reached : system.ReachableIn steps state) : state.Fits system.stateSignature := by
  cases reached with
  | initial fits _ => exact fits
  | step _ moves =>
      obtain ⟨both, fits, -, -, rfl⟩ := moves
      exact next_fits fits

theorem entails_iff {premises : List Term} {conclusion : Term}
    (premisesSorted : ∀ premise ∈ premises, premise.HasSort system.stateSignature .bool)
    (conclusionSorted : conclusion.HasSort system.stateSignature .bool) :
    Entails I system.signature premises conclusion ↔
      ∀ state : Valuation I, state.Fits system.stateSignature →
        (∀ premise ∈ premises, premise.Holds state) → conclusion.Holds state := by
  constructor
  · intro entailed state fits holds
    have more : system.stateSignature.Extends system.signature := stateSignature_extends
    obtain ⟨both, bothFits, larger⟩ := fits.extend more
    refine (conclusionSorted.holds_extension fits larger).1 (entailed both bothFits ?_)
    exact fun premise member => (holds premise member).mono larger
  · intro entailed both fits holds
    refine (holds_present conclusionSorted fits).1 (entailed _ (present_fits fits) ?_)
    exact fun premise member =>
      (holds_present (premisesSorted premise member) fits).2 (holds premise member)

theorem entails_prime_iff {premises : List Term} {conclusion : Term}
    (premisesSorted : ∀ premise ∈ premises, premise.HasSort system.stateSignature .bool)
    (conclusionSorted : conclusion.HasSort system.stateSignature .bool) :
    Entails I system.signature (system.transition :: premises)
        (system.toTransitionSystem.prime conclusion) ↔
      ∀ both : Valuation I, both.Fits system.signature → system.transition.Holds both →
        (∀ premise ∈ premises, premise.Holds (system.present both)) →
          conclusion.Holds (system.next both) := by
  constructor
  · intro entailed both fits moves holds
    refine (holds_prime conclusionSorted fits).1 (entailed both fits ?_)
    refine List.forall_mem_cons.2 ⟨moves, fun premise member => ?_⟩
    exact (holds_present (premisesSorted premise member) fits).1 (holds premise member)
  · intro entailed both fits holds
    have ⟨moves, premisesHold⟩ := List.forall_mem_cons.1 holds
    refine (holds_prime conclusionSorted fits).2 (entailed both fits moves ?_)
    exact fun premise member =>
      (holds_present (premisesSorted premise member) fits).2 (premisesHold premise member)

def latch : SymbolicSystem where
  stateVariables := [("p", .bool)]
  initial := .var "p"
  property := .var "p"
  transition := .var "p_next"
  names_nodup := by decide
  primedName_not_mem := by decide
  initial_closed := by decide
  property_closed := by decide
  transition_closed := by decide

theorem latch_wellSorted : latch.WellSorted where
  initial := .var rfl
  property := .var rfl
  transition := .var (by decide)

theorem latch_prime_property : latch.toTransitionSystem.prime latch.property = latch.transition := by
  decide

theorem latch_holds {steps : Nat} {state : Valuation I} (reached : latch.ReachableIn steps state) :
    latch.property.Holds state := by
  cases reached with
  | initial _ holds => exact holds
  | step _ moves =>
      obtain ⟨both, fits, related, -, rfl⟩ := moves
      refine (holds_prime latch_wellSorted.property fits).1 ?_
      rwa [latch_prime_property]

end SymbolicSystem
end DeltaFrames
