import DeltaFrames.Proofs.System.Priming
import Mathlib.Data.List.Forall2
import Mathlib.Data.List.Nodup

namespace DeltaFrames

namespace Declarations

structure WellNamed (declarations : Declarations) : Prop where
  distinct : declarations.names.Nodup
  apart : ∀ name ∈ declarations.names, primedName name ∉ declarations.names

def Covers (declarations : Declarations) (term : Term) : Prop :=
  ∀ name ∈ term.freeVars, name ∈ declarations.names

def KeepsSorts (declarations : Declarations) (term replaced : Term) : Prop :=
  List.Forall₂ (fun old new => ∃ sort, (old, sort) ∈ declarations ∧ (new, sort) ∈ declarations)
    term.occurrences replaced.occurrences

theorem names_append (first second : Declarations) :
    (first ++ second).names = first.names ++ second.names :=
  List.map_append

theorem names_primed (declarations : Declarations) :
    declarations.primed.names = declarations.names.map primedName := by
  simp [names, primed]

section Replacement

variable {declarations : Declarations} {term : Term} {names : String → String}

theorem Covers.rename (covered : declarations.Covers term)
    (kept : ∀ name sort, (name, sort) ∈ declarations → (names name, sort) ∈ declarations) :
    declarations.Covers (term.rename names) := by
  intro name free
  obtain ⟨old, oldFree, rfl⟩ := Term.mem_freeVars_rename.1 free
  obtain ⟨⟨old, sort⟩, declared, rfl⟩ := List.mem_map.1 (covered old oldFree)
  exact List.mem_map_of_mem (kept old sort declared)

theorem Covers.keepsSorts (covered : declarations.Covers term)
    (kept : ∀ name sort, (name, sort) ∈ declarations → (names name, sort) ∈ declarations) :
    declarations.KeepsSorts term (term.rename names) := by
  rw [KeepsSorts, Term.occurrences_rename, List.forall₂_map_right_iff, List.forall₂_same]
  intro old occurs
  obtain ⟨⟨old, sort⟩, declared, rfl⟩ := List.mem_map.1 (covered old (Term.mem_freeVars.2 occurs))
  exact ⟨sort, declared, kept old sort declared⟩

end Replacement
end Declarations

structure LeastUndeclared (declarations : Declarations) (term : Term) (name : String) : Prop where
  occurs : name ∈ term.freeVars
  undeclared : name ∉ declarations.names
  least : ∀ other ∈ term.freeVars, other < name → other ∈ declarations.names

/-- What is wrong with a system, while nothing is wrong with it that comes before. -/
inductive Flaw (declarations : Declarations) (initial property transition : Term) :
    SystemError → Prop where
  | repeated {before after : List String} {name : String}
      (split : declarations.names = before ++ name :: after) (distinct : before.Nodup)
      (again : name ∈ before) :
      Flaw declarations initial property transition (.duplicateVariable name)
  | clash {name : String} (distinct : declarations.names.Nodup)
      (member : name ∈ declarations.names) (clashes : primedName name ∈ declarations.names) :
      Flaw declarations initial property transition (.primedNameClash name)
  | initial {name : String} (wellNamed : declarations.WellNamed)
      (least : LeastUndeclared declarations initial name) :
      Flaw declarations initial property transition (.undeclaredVariable .initialCondition name)
  | property {name : String} (wellNamed : declarations.WellNamed)
      (initialCovered : declarations.Covers initial)
      (least : LeastUndeclared declarations property name) :
      Flaw declarations initial property transition (.undeclaredVariable .safetyProperty name)
  | transition {name : String} (wellNamed : declarations.WellNamed)
      (initialCovered : declarations.Covers initial)
      (propertyCovered : declarations.Covers property)
      (least : LeastUndeclared (declarations ++ declarations.primed) transition name) :
      Flaw declarations initial property transition (.undeclaredVariable .transitionRelation name)

theorem Flaw.not_admissible {declarations : Declarations} {initial property transition : Term}
    {error : SystemError} (flaw : Flaw declarations initial property transition error) :
    ¬ (declarations.WellNamed ∧ declarations.Covers initial ∧ declarations.Covers property ∧
      (declarations ++ declarations.primed).Covers transition) := by
  rintro ⟨wellNamed, initialCovered, propertyCovered, transitionCovered⟩
  cases flaw with
  | repeated split _ again =>
      have distinct := wellNamed.distinct
      rw [split] at distinct
      exact (List.nodup_append.1 distinct).2.2 _ again _ List.mem_cons_self rfl
  | clash _ member clashes => exact wellNamed.apart _ member clashes
  | initial _ least => exact least.undeclared (initialCovered _ least.occurs)
  | property _ _ least => exact least.undeclared (propertyCovered _ least.occurs)
  | transition _ _ _ least => exact least.undeclared (transitionCovered _ least.occurs)

namespace SymbolicSystem

theorem firstRepeated_eq_some {before names : List String} {name : String}
    (found : firstRepeated before names = some name) :
    ∃ earlier later, names = earlier ++ name :: later ∧ earlier.Nodup ∧
      (∀ other ∈ earlier, other ∉ before) ∧ (name ∈ before ∨ name ∈ earlier) := by
  induction names generalizing before with
  | nil => cases found
  | cons head tail ih =>
      unfold firstRepeated at found
      split at found
      · next again =>
          cases found
          exact ⟨[], tail, rfl, .nil, List.forall_mem_nil _, .inl again⟩
      · next fresh =>
          obtain ⟨earlier, later, rfl, distinct, apart, again⟩ := ih found
          simp only [List.mem_cons, not_or] at apart
          refine ⟨head :: earlier, later, rfl, ?_, ?_, ?_⟩
          · exact List.nodup_cons.2 ⟨fun member => (apart head member).1 rfl, distinct⟩
          · exact List.forall_mem_cons.2 ⟨fresh, fun other member => (apart other member).2⟩
          · rcases again with again | again
            · rcases List.mem_cons.1 again with rfl | again
              · exact .inr List.mem_cons_self
              · exact .inl again
            · exact .inr (List.mem_cons_of_mem head again)

theorem firstClash_eq_some {names : List String} {name : String}
    (found : firstClash names = some name) : name ∈ names ∧ primedName name ∈ names :=
  ⟨List.mem_of_find?_eq_some found, by simpa using List.find?_some found⟩

theorem firstUndeclared_eq_some {declarations : Declarations} {term : Term} {name : String}
    (found : firstUndeclared declarations.names term = some name) :
    LeastUndeclared declarations term name := by
  obtain ⟨undeclared, before, after, split, passed⟩ := List.find?_eq_some_iff_append.1 found
  have sorted := term.freeVars_sorted
  rw [split] at sorted
  obtain ⟨-, fromName, -⟩ := List.pairwise_append.1 sorted
  refine ⟨List.mem_of_find?_eq_some found, of_decide_eq_true undeclared, fun other free less => ?_⟩
  rw [split] at free
  rcases List.mem_append.1 free with earlier | later
  · simpa using passed other earlier
  · rcases List.mem_cons.1 later with rfl | later
    · exact absurd less (String.lt_irrefl _)
    · exact absurd less (String.lt_asymm ((List.pairwise_cons.1 fromName).1 other later))

def Concludes {α : Type} (accepted : α → Prop) (flaw : SystemError → Prop) :
    Except SystemError α → Prop
  | .ok value => accepted value
  | .error error => flaw error

theorem concludes_reject {α : Type} {accepted : α → Prop} {flaw : SystemError → Prop}
    {error : String → SystemError} {found : Option String}
    {next : PLift (found = none) → Except SystemError α}
    (reports : ∀ name, found = some name → flaw (error name))
    (passes : ∀ nothing : found = none, Concludes accepted flaw (next ⟨nothing⟩)) :
    Concludes accepted flaw (reject error found >>= next) := by
  cases found with
  | none => exact passes rfl
  | some name => exact reports name rfl

variable {declarations : Declarations} {initial property transition : Term}

theorem ofFormulas_concludes (declarations : Declarations) (initial property transition : Term) :
    Concludes (fun system => system.stateVariables = declarations ∧ system.initial = initial ∧
        system.property = property ∧ system.transition = transition)
      (Flaw declarations initial property transition)
      (ofFormulas declarations initial property transition) := by
  refine concludes_reject (fun name found => ?_) fun repeated => ?_
  · obtain ⟨before, after, split, distinct, -, again⟩ := firstRepeated_eq_some found
    exact .repeated split distinct (again.resolve_left List.not_mem_nil)
  have distinct := (firstRepeated_eq_none repeated).1
  refine concludes_reject (fun name found => ?_) fun clash => ?_
  · have ⟨member, clashes⟩ := firstClash_eq_some found
    exact .clash distinct member clashes
  have wellNamed : declarations.WellNamed := ⟨distinct, firstClash_eq_none clash⟩
  refine concludes_reject (fun name found => ?_) fun initialClosed => ?_
  · exact .initial wellNamed (firstUndeclared_eq_some found)
  have initialCovered : declarations.Covers initial := firstUndeclared_eq_none initialClosed
  refine concludes_reject (fun name found => ?_) fun propertyClosed => ?_
  · exact .property wellNamed initialCovered (firstUndeclared_eq_some found)
  have propertyCovered : declarations.Covers property := firstUndeclared_eq_none propertyClosed
  refine concludes_reject (fun name found => ?_) fun _ => ⟨rfl, rfl, rfl, rfl⟩
  rw [← Declarations.names_append] at found
  exact .transition wellNamed initialCovered propertyCovered (firstUndeclared_eq_some found)

theorem of_ofFormulas_ok {system : SymbolicSystem}
    (accepted : ofFormulas declarations initial property transition = .ok system) :
    system.stateVariables = declarations ∧ system.initial = initial ∧
      system.property = property ∧ system.transition = transition := by
  have concludes := ofFormulas_concludes declarations initial property transition
  rwa [accepted] at concludes

theorem flaw_of_ofFormulas {error : SystemError}
    (rejected : ofFormulas declarations initial property transition = .error error) :
    Flaw declarations initial property transition error := by
  have concludes := ofFormulas_concludes declarations initial property transition
  rwa [rejected] at concludes

theorem ofFormulas_accepts_iff :
    (∃ system, ofFormulas declarations initial property transition = .ok system) ↔
      declarations.WellNamed ∧ declarations.Covers initial ∧ declarations.Covers property ∧
        (declarations ++ declarations.primed).Covers transition := by
  constructor
  · rintro ⟨system, accepted⟩
    obtain ⟨rfl, rfl, rfl, rfl⟩ := of_ofFormulas_ok accepted
    refine ⟨⟨system.names_nodup, system.primedName_not_mem⟩, system.initial_closed,
      system.property_closed, fun name free => ?_⟩
    rw [Declarations.names_append]
    exact system.transition_closed name free
  · intro admissible
    cases outcome : ofFormulas declarations initial property transition with
    | ok system => exact ⟨system, rfl⟩
    | error error => exact absurd admissible (flaw_of_ofFormulas outcome).not_admissible

section Accepted

variable {system : SymbolicSystem} {name : String} {sort : TermSort}

theorem declarations_nodup (system : SymbolicSystem) :
    system.toTransitionSystem.declarations.names.Nodup := by
  have copies : system.stateVariables.primed.names.Nodup := by
    rw [Declarations.names_primed]
    exact system.names_nodup.map fun _ _ => primedName_injective
  show (system.stateVariables ++ system.stateVariables.primed).names.Nodup
  rw [Declarations.names_append]
  refine List.nodup_append.2 ⟨system.names_nodup, copies, ?_⟩
  rintro name member _ copy rfl
  exact not_mem_primed_names member copy

theorem mem_declarations :
    (name, sort) ∈ system.toTransitionSystem.declarations ↔
      (name, sort) ∈ system.stateVariables ∨
        ∃ unprimed, (unprimed, sort) ∈ system.stateVariables ∧ primedName unprimed = name := by
  simp [toTransitionSystem, Declarations.primed]

theorem primeName_declared (declared : (name, sort) ∈ system.toTransitionSystem.declarations) :
    (system.primeName name, sort) ∈ system.toTransitionSystem.declarations := by
  rcases mem_declarations.1 declared with member | ⟨unprimed, member, rfl⟩
  · rw [primeName_state (List.mem_map_of_mem member)]
    exact mem_declarations.2 (.inr ⟨name, member, rfl⟩)
  · rwa [primeName_primedName (List.mem_map_of_mem member)]

theorem unprimeName_declared (declared : (name, sort) ∈ system.toTransitionSystem.declarations) :
    (system.unprimeName name, sort) ∈ system.toTransitionSystem.declarations := by
  rcases mem_declarations.1 declared with member | ⟨unprimed, member, rfl⟩
  · rwa [unprimeName_state (List.mem_map_of_mem member)]
  · rw [unprimeName_primedName (List.mem_map_of_mem member)]
    exact mem_declarations.2 (.inl member)

end Accepted

/-- Acceptance is exact: it asks that no name is repeated or is the primed form of another one, that
the initial condition and the property mention state variables only, and that the transition
relation mentions nothing but these and their primed copies. What is reported is wrong with the
system, and nothing is that comes before; of the undeclared variables of a formula it is the least.
An accepted system has the formulas it was given and declares its variables and then their primed
copies, each name once. Where all variables of a term are declared, so are those of the primed and
the unprimed term, with the sorts of the variables they replace. -/
theorem acceptance_is_exact (declarations : Declarations) (initial property transition : Term) :
    ((∃ system, ofFormulas declarations initial property transition = .ok system) ↔
      declarations.WellNamed ∧ declarations.Covers initial ∧ declarations.Covers property ∧
        (declarations ++ declarations.primed).Covers transition) ∧
    (∀ error, ofFormulas declarations initial property transition = .error error →
      Flaw declarations initial property transition error) ∧
    ∀ system, ofFormulas declarations initial property transition = .ok system →
      system.toTransitionSystem.initial = initial ∧
      system.toTransitionSystem.property = property ∧
      system.toTransitionSystem.transition = transition ∧
      system.toTransitionSystem.declarations =
        declarations ++ declarations.map (fun (name, sort) => (primedName name, sort)) ∧
      system.toTransitionSystem.declarations.names.Nodup ∧
      ∀ term, system.toTransitionSystem.declarations.Covers term →
        (system.toTransitionSystem.declarations.Covers (system.toTransitionSystem.prime term) ∧
          system.toTransitionSystem.declarations.KeepsSorts term
            (system.toTransitionSystem.prime term)) ∧
        (system.toTransitionSystem.declarations.Covers (system.toTransitionSystem.unprime term) ∧
          system.toTransitionSystem.declarations.KeepsSorts term
            (system.toTransitionSystem.unprime term)) := by
  refine ⟨ofFormulas_accepts_iff, fun error => flaw_of_ofFormulas, fun system accepted => ?_⟩
  obtain ⟨rfl, rfl, rfl, rfl⟩ := of_ofFormulas_ok accepted
  refine ⟨rfl, rfl, rfl, rfl, system.declarations_nodup, fun term covered => ⟨?_, ?_⟩⟩
  · exact ⟨covered.rename fun _ _ => primeName_declared,
      covered.keepsSorts fun _ _ => primeName_declared⟩
  · exact ⟨covered.rename fun _ _ => unprimeName_declared,
      covered.keepsSorts fun _ _ => unprimeName_declared⟩

theorem nameless_acceptance_is_exact :
    (∃ system, ofFormulas [("", .int), ("x", .bool)] (.var "x") (.bool true)
        (.binary .eq (.var "_next") (.var "")) = .ok system ∧
      system.toTransitionSystem.declarations =
        [("", .int), ("x", .bool), ("_next", .int), ("x_next", .bool)] ∧
      system.toTransitionSystem.declarations.KeepsSorts (.var "")
        (system.toTransitionSystem.prime (.var ""))) ∧
    ofFormulas [("x", .int), ("x_next", .int), ("x", .bool)] (.var "y") (.bool true) (.bool true) =
      .error (.duplicateVariable "x") ∧
    Flaw [("x", .int), ("x_next", .int), ("x", .bool)] (.var "y") (.bool true) (.bool true)
      (.duplicateVariable "x") := by
  refine ⟨?_, rfl, (acceptance_is_exact _ _ _ _).2.1 _ rfl⟩
  have ⟨accepts, _, describes⟩ := acceptance_is_exact [("", .int), ("x", .bool)] (.var "x")
    (.bool true) (.binary .eq (.var "_next") (.var ""))
  obtain ⟨system, accepted⟩ := accepts.2 (by
    refine ⟨⟨by decide, by decide⟩, ?_, ?_, ?_⟩ <;> unfold Declarations.Covers <;> decide)
  obtain ⟨-, -, -, listed, -, replaced⟩ := describes system accepted
  have covered : system.toTransitionSystem.declarations.Covers (.var "") := by
    rw [listed]
    unfold Declarations.Covers
    decide
  exact ⟨system, accepted, listed, (replaced _ covered).1.2⟩

end SymbolicSystem
end DeltaFrames
