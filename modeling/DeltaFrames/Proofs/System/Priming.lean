import DeltaFrames.Proofs.FrameSet.Levels
import DeltaFrames.Proofs.System.States
import DeltaFrames.Proofs.Term.Renaming

/-!
# Priming and unpriming

Every name is a state variable, the primed copy of one or foreign to the system (`nameKind`). That
no name is of two kinds, and no two state variables have the same primed copy, is what the checks
of `SymbolicSystem.ofFormulas` are for: priming and unpriming take each other back
(`priming_round_trips`), and a primed term says of the second of two states what the term itself
says of a single one (`renaming_substitutes`).
-/

namespace DeltaFrames

structure TransitionSystem.LawfulPriming (system : TransitionSystem) : Prop where
  unprime_prime : ∀ term, system.unprime (system.prime term) = system.unprime term
  prime_unprime : ∀ term, system.prime (system.unprime term) = system.prime term
  prime_prime : ∀ term, system.prime (system.prime term) = system.prime term
  unprime_unprime : ∀ term, system.unprime (system.unprime term) = system.unprime term
  prime_negate : ∀ term : Term, system.prime term.negate = (system.prime term).negate
  unprime_negate : ∀ term : Term, system.unprime term.negate = (system.unprime term).negate

namespace SymbolicSystem

variable {system : SymbolicSystem} {name : String}

inductive NameKind (system : SymbolicSystem) : String → Prop where
  | state {name : String} (member : name ∈ system.stateVariables.names) : NameKind system name
  | primed {name : String} (member : name ∈ system.stateVariables.names) :
      NameKind system (primedName name)
  | foreign {name : String} (fresh : name ∉ system.stateVariables.names)
      (apart : name ∉ system.stateVariables.primed.names) : NameKind system name

theorem nameKind (system : SymbolicSystem) (name : String) : system.NameKind name := by
  by_cases member : name ∈ system.stateVariables.names
  · exact .state member
  · by_cases copy : name ∈ system.stateVariables.primed.names
    · obtain ⟨unprimed, unprimedMember, rfl⟩ := mem_primed_names.1 copy
      exact .primed unprimedMember
    · exact .foreign member copy

theorem primeName_primedName (member : name ∈ system.stateVariables.names) :
    system.primeName (primedName name) = primedName name :=
  primeName_of_not_mem (system.primedName_not_mem name member)

theorem unprimeName_state (member : name ∈ system.stateVariables.names) :
    system.unprimeName name = name :=
  unprimeName_unprimed (not_mem_primed_names member)

theorem unprimeName_primedName (member : name ∈ system.stateVariables.names) :
    system.unprimeName (primedName name) = name := by
  unfold unprimeName
  cases found : system.stateVariables.names.find? (primedName · = primedName name) with
  | none => exact absurd (decide_eq_true rfl) (List.find?_eq_none.1 found name member)
  | some unprimed =>
      have same : primedName unprimed = primedName name := by simpa using List.find?_some found
      exact primedName_injective same

theorem unprimeName_primeName (name : String) :
    system.unprimeName (system.primeName name) = system.unprimeName name := by
  cases system.nameKind name with
  | state member =>
      rw [primeName_state member, unprimeName_primedName member, unprimeName_state member]
  | primed member => rw [primeName_primedName member]
  | foreign fresh apart => rw [primeName_of_not_mem fresh]

theorem primeName_unprimeName (name : String) :
    system.primeName (system.unprimeName name) = system.primeName name := by
  cases system.nameKind name with
  | state member => rw [unprimeName_state member]
  | primed member =>
      rw [unprimeName_primedName member, primeName_state member, primeName_primedName member]
  | foreign fresh apart => rw [unprimeName_unprimed apart]

theorem primeName_primeName (name : String) :
    system.primeName (system.primeName name) = system.primeName name := by
  rw [← primeName_unprimeName, unprimeName_primeName, primeName_unprimeName]

theorem unprimeName_unprimeName (name : String) :
    system.unprimeName (system.unprimeName name) = system.unprimeName name := by
  rw [← unprimeName_primeName, primeName_unprimeName, unprimeName_primeName]

theorem lawfulPriming (system : SymbolicSystem) : system.toTransitionSystem.LawfulPriming where
  unprime_prime term := by
    simp only [toTransitionSystem, Term.rename_rename, unprimeName_primeName]
  prime_unprime term := by
    simp only [toTransitionSystem, Term.rename_rename, primeName_unprimeName]
  prime_prime term := by
    simp only [toTransitionSystem, Term.rename_rename, primeName_primeName]
  unprime_unprime term := by
    simp only [toTransitionSystem, Term.rename_rename, unprimeName_unprimeName]
  prime_negate := Term.rename_negate system.primeName
  unprime_negate := Term.rename_negate system.unprimeName

theorem Unprimed.unprime_prime {term : Term} (unprimed : system.Unprimed term) :
    system.toTransitionSystem.unprime (system.toTransitionSystem.prime term) = term := by
  rw [system.lawfulPriming.unprime_prime, unprimed.unprime_eq]

/-- Priming and unpriming take each other back on all terms, whatever names occur in them. A term
without primed names comes back unchanged, so no two such terms are primed alike, and the first
frame and every frame that is opened hold the initial condition and the property as they were
given. -/
theorem priming_round_trips (system : SymbolicSystem) :
    system.toTransitionSystem.LawfulPriming ∧
    (∀ term, system.Unprimed term →
      system.toTransitionSystem.unprime (system.toTransitionSystem.prime term) = term) ∧
    (∀ term other, system.Unprimed term → system.Unprimed other →
      system.toTransitionSystem.prime term = system.toTransitionSystem.prime other →
        term = other) ∧
    system.toTransitionSystem.unprime system.initial = system.initial ∧
    system.toTransitionSystem.unprime system.property = system.property ∧
    (∃ lowest, (FrameSet.ofSystem system.toTransitionSystem).states 0 = .ok lowest ∧
      lowest.toList = [system.initial]) ∧
    ∀ frames : FrameSet, ∃ seeded,
      (frames.openNext system.toTransitionSystem).stored (frames.frontier + 1) = .ok seeded ∧
        seeded.toList = [system.property] := by
  refine ⟨system.lawfulPriming, fun _ => Unprimed.unprime_prime, ?_, unprime_initial,
    unprime_property, ⟨_, rfl, ?_⟩, fun frames => ⟨_, FrameSet.stored_of_le ?_, ?_⟩⟩
  · intro term other unprimed otherUnprimed same
    rw [← unprimed.unprime_prime, same, otherUnprimed.unprime_prime]
  · exact congrArg (fun term => [term]) unprime_initial
  · exact Nat.le_of_eq (FrameSet.frontier_openNext ..).symm
  · rw [FrameSet.storedAt_openNext_frontier, unprime_property]
    rfl

theorem latch_priming_round_trips :
    latch.Unprimed (.binary .eq (.var "p") (.var "p_next_next")) ∧
    latch.toTransitionSystem.unprime (latch.toTransitionSystem.prime
      (.binary .eq (.var "p") (.var "p_next_next"))) =
        .binary .eq (.var "p") (.var "p_next_next") := by
  have unprimed : latch.Unprimed (.binary .eq (.var "p") (.var "p_next_next")) := by
    unfold Unprimed
    decide
  exact ⟨unprimed, (priming_round_trips latch).2.1 _ unprimed⟩

def joint (system : SymbolicSystem) (present next : Assignment) : Assignment := fun name =>
  if name ∈ system.stateVariables.names then present name else next (system.unprimeName name)

theorem joint_primedName {present next : Assignment} (member : name ∈ system.stateVariables.names) :
    system.joint present next (primedName name) = next name := by
  rw [joint, if_neg (system.primedName_not_mem name member), unprimeName_primedName member]

theorem evalBool_joint {term : Term} {present next : Assignment}
    (closed : ∀ name ∈ term.freeVars, name ∈ system.stateVariables.names) :
    term.evalBool (system.joint present next) = term.evalBool present :=
  Term.evalBool_congr fun name free => if_pos (closed name free)

theorem evalBool_prime {term : Term} {present next : Assignment} {truth : Bool}
    (closed : ∀ name ∈ term.freeVars, name ∈ system.stateVariables.names) :
    (system.toTransitionSystem.prime term).evalBool (system.joint present next) = .ok truth ↔
      term.evalBool next = .ok truth := by
  have second : (term.evalBool fun name => system.joint present next (system.primeName name)) =
      term.evalBool next :=
    Term.evalBool_congr fun name free => by
      rw [primeName_state (closed name free), joint_primedName (closed name free)]
  show (term.rename system.primeName).evalBool _ = _ ↔ _
  rw [Term.evalBool_rename, mapError_eq_ok_iff, second]

/-- A renamed term has a value exactly if the term has one where every name has the value of its
new name, and the same one; if there is none, the error is that of the term under the new names. Its
variables are the new names of the term's variables, also where names are swapped or two become one.
Renaming twice is renaming once, by the map that does both. So of two states at once, a term over
the state variables speaks about the first one, and about the second one when it is primed. -/
theorem renaming_substitutes (term : Term) (pairs : Renaming) :
    (∀ assignment value, (term.rename pairs.apply).eval assignment = .ok value ↔
      term.eval (fun name => assignment (pairs.apply name)) = .ok value) ∧
    (∀ assignment error, term.eval (fun name => assignment (pairs.apply name)) = .error error →
      (term.rename pairs.apply).eval assignment = .error (error.rename pairs.apply)) ∧
    (∀ name, name ∈ (term.rename pairs.apply).freeVars ↔
      ∃ old ∈ term.freeVars, pairs.apply old = name) ∧
    (∀ next : Renaming,
      (∀ name, (pairs.andThen next).apply name = next.apply (pairs.apply name)) ∧
      (term.rename pairs.apply).rename next.apply =
        term.rename (pairs.andThen next).apply) ∧
    ∀ system : SymbolicSystem, (∀ name ∈ term.freeVars, name ∈ system.stateVariables.names) →
      ∀ present next : Assignment,
        (term.evalBool (system.joint present next) = .ok true ↔
          term.evalBool present = .ok true) ∧
        ((system.toTransitionSystem.prime term).evalBool (system.joint present next) = .ok true ↔
          term.evalBool next = .ok true) := by
  refine ⟨fun assignment value => ?_, fun assignment error fails => ?_,
    fun name => Term.mem_freeVars_rename, fun next => ⟨pairs.apply_andThen next, ?_⟩,
    fun system closed present next => ⟨by rw [evalBool_joint closed], evalBool_prime closed⟩⟩
  · rw [Term.eval_rename, mapError_eq_ok_iff]
  · rw [Term.eval_rename, fails]
    rfl
  · rw [Term.rename_rename, funext (pairs.apply_andThen next)]

theorem latch_renaming_substitutes :
    (∀ name ∈ (Term.var "p").freeVars, name ∈ latch.stateVariables.names) ∧
    (Term.var "p").evalBool (Assignment.empty.bind "p" (.bool false)) = .ok false ∧
    (latch.toTransitionSystem.prime (.var "p")).evalBool
      (latch.joint (Assignment.empty.bind "p" (.bool false))
        (Assignment.empty.bind "p" (.bool true))) = .ok true := by
  have closed : ∀ name ∈ (Term.var "p").freeVars, name ∈ latch.stateVariables.names := by decide
  have holds : (Term.var "p").evalBool (Assignment.empty.bind "p" (.bool true)) = .ok true := rfl
  exact ⟨closed, rfl,
    ((renaming_substitutes (.var "p") []).2.2.2.2 latch closed _ _).2.2 holds⟩

end SymbolicSystem
end DeltaFrames
