import DeltaFrames.Proofs.Solver.Enumerating
import DeltaFrames.Proofs.Term.Evaluation

/-!
# What the enumerating solver decides

The search for a satisfying assignment binds one variable after the other and breaks off as soon as
it knows the answer. Written out, it goes through a list of assignments in a fixed order and stops
at the first one that is not found to be false (`decision`).
-/

namespace DeltaFrames.Enumerating

def stops (passed : Bool) : Except EvalError Bool → Bool
  | .ok answer => answer != passed
  | .error _ => true

/-- The first of the outcomes that is an error or the other answer. If there is none, all have been
passed. -/
def settle (passed : Bool) (outcomes : List (Except EvalError Bool)) : Except EvalError Bool :=
  (outcomes.find? (stops passed)).getD (.ok passed)

section Settle

variable {passed : Bool} {outcome : Except EvalError Bool}
  {outcomes : List (Except EvalError Bool)} {α : Type}

theorem eq_ok_of_not_stops (onward : stops passed outcome = false) : outcome = .ok passed := by
  cases outcome with
  | error error => cases onward
  | ok answer =>
      have same : answer = passed := by simpa [stops] using onward
      rw [same]

theorem settle_cons : settle passed (outcome :: outcomes) =
    if stops passed outcome then outcome else settle passed outcomes := by
  unfold settle
  rw [List.find?_cons]
  cases stops passed outcome <;> rfl

theorem settle_append (others : List (Except EvalError Bool)) :
    settle passed (outcomes ++ others) =
      if stops passed (settle passed outcomes) then settle passed outcomes
      else settle passed others := by
  induction outcomes with
  | nil => simp [settle, stops]
  | cons outcome rest ih =>
      rw [List.cons_append, settle_cons, settle_cons]
      by_cases here : stops passed outcome = true
      · rw [if_pos here, if_pos here, if_pos here]
      · rw [if_neg here, if_neg here, ih]

theorem settle_flatMap (values : List α) (branch : α → List (Except EvalError Bool)) :
    settle passed (values.flatMap branch) =
      settle passed (values.map fun value => settle passed (branch value)) := by
  induction values with
  | nil => rfl
  | cons value rest ih => rw [List.flatMap_cons, settle_append, List.map_cons, settle_cons, ih]

theorem anyM_eq_settle (values : List α) (decide_ : α → Except EvalError Bool) :
    values.anyM decide_ = settle false (values.map decide_) := by
  induction values with
  | nil => rfl
  | cons value rest ih =>
      rw [List.map_cons, settle_cons, ← ih]
      simp only [List.anyM, bind, Except.bind]
      cases decide_ value with
      | error error => rfl
      | ok answer => cases answer <;> rfl

theorem settle_eq_passed (passes : settle passed outcomes = .ok passed) :
    ∀ outcome ∈ outcomes, outcome = .ok passed := by
  induction outcomes with
  | nil => exact nofun
  | cons outcome rest ih =>
      rw [settle_cons] at passes
      have here : outcome = .ok passed := by
        by_cases stopping : stops passed outcome = true
        · rwa [if_pos stopping] at passes
        · exact eq_ok_of_not_stops (by simpa using stopping)
      have onward : stops passed outcome = false := by simp [here, stops]
      rw [onward, if_neg Bool.false_ne_true] at passes
      exact List.forall_mem_cons.2 ⟨here, ih passes⟩

theorem settle_mem (counts : settle passed outcomes ≠ .ok passed) :
    settle passed outcomes ∈ outcomes := by
  unfold settle at counts ⊢
  cases found : outcomes.find? (stops passed) with
  | none => rw [found] at counts; exact absurd rfl counts
  | some outcome => exact List.mem_of_find?_eq_some found

theorem settle_bound (bound : ∀ outcome ∈ outcomes, Bound outcome) :
    Bound (settle passed outcomes) := by
  by_cases passes : settle passed outcomes = .ok passed
  · rw [passes]
    exact .ok passed
  · exact bound _ (settle_mem passes)

end Settle

/-! ## The assignments -/

def firstUndeclared (declared : Declarations) (terms : List Term) : Option String :=
  (terms.flatMap Term.freeVars).find? fun name => (declared.lookup name).isNone

def freeVariables (declared : Declarations) (terms : List Term) : Declarations :=
  (OrderedSet.ofList (terms.flatMap Term.freeVars)).toList.filterMap fun name =>
    (declared.lookup name).map (name, ·)

def trials : Declarations → Assignment → List Assignment
  | [], assignment => [assignment]
  | (name, sort) :: rest, assignment =>
      sort.domain.flatMap fun value => trials rest (assignment.bind name value)

def judgement (terms : List Term) (assignment : Assignment) : Except EvalError Bool :=
  settle true (terms.map (Term.evalBool assignment))

/-- Whether an assignment makes all terms true. The first one that does, or under which there is no
telling, decides. Nothing is tried if a variable is not declared. -/
def decision (declared : Declarations) (terms : List Term) : Except EvalError Bool :=
  match firstUndeclared declared terms with
  | some name => .error (.unbound name)
  | none => settle false ((trials (freeVariables declared terms) .empty).map (judgement terms))

section Decision

variable {declared : Declarations} {terms : List Term}

theorem allTrue_eq_judgement (assignment : Assignment) (terms : List Term) :
    allTrue assignment terms = judgement terms assignment := by
  unfold judgement
  induction terms with
  | nil => rfl
  | cons term rest ih =>
      rw [List.map_cons, settle_cons, ← ih]
      simp only [allTrue, bind, Except.bind]
      cases term.evalBool assignment with
      | error error => rfl
      | ok answer => cases answer <;> rfl

theorem search_eq_settle (terms : List Term) (among : Declarations) (assignment : Assignment) :
    search terms among assignment =
      settle false ((trials among assignment).map (judgement terms)) := by
  induction among generalizing assignment with
  | nil =>
      rw [search, trials, allTrue_eq_judgement, List.map_singleton, settle_cons]
      split
      · rfl
      · next onward => exact eq_ok_of_not_stops (by simpa using onward)
  | cons entry rest ih =>
      rw [search, trials, List.map_flatMap, settle_flatMap, anyM_eq_settle]
      simp only [ih]

theorem find?_foldl_insert {α : Type} [DecidableEq α] (test : α → Bool) (elements : List α)
    (set : OrderedSet α) :
    (elements.foldl OrderedSet.insert set).toList.find? test =
      (set.toList ++ elements).find? test := by
  induction elements generalizing set with
  | nil => rw [List.append_nil]; rfl
  | cons element rest ih =>
      rw [List.foldl_cons, ih, OrderedSet.toList_insert]
      by_cases present : element ∈ set
      · -- An element that is there already is not found if it was not found before.
        rw [if_pos present, List.find?_append, List.find?_append, List.find?_cons]
        cases found : set.toList.find? test with
        | some first => rfl
        | none =>
            have fails : test element = false := by
              simpa using List.find?_eq_none.1 found element present
            rw [fails]
      · rw [if_neg present, List.append_assoc, List.singleton_append]

theorem mapM_declaredSort (names : List String) :
    (names.mapM fun name => do return (name, ← declaredSort declared name) :
        Except EvalError Declarations) =
      match names.find? fun name => (declared.lookup name).isNone with
      | some name => .error (.unbound name)
      | none => .ok (names.filterMap fun name => (declared.lookup name).map (name, ·)) := by
  induction names with
  | nil => rfl
  | cons name rest ih =>
      rw [List.mapM_cons, ih, List.find?_cons]
      cases known : declared.lookup name with
      | none => simp [declaredSort, known, bind, Except.bind]
      | some sort =>
          simp only [declaredSort, known, Option.isNone_some]
          cases rest.find? fun name => (declared.lookup name).isNone with
          | some _ => rfl
          | none => simp [known, bind, Except.bind, pure, Except.pure]

theorem satisfiable_eq_decision (declared : Declarations) (terms : List Term) :
    satisfiable declared terms = decision declared terms := by
  have listed : unknowns declared terms = _ := mapM_declaredSort _
  rw [OrderedSet.ofList, find?_foldl_insert, OrderedSet.toList_empty, List.nil_append] at listed
  simp only [satisfiable, decision, listed, bind, Except.bind]
  unfold firstUndeclared
  cases (terms.flatMap Term.freeVars).find? fun name => (declared.lookup name).isNone with
  | some name => rfl
  | none => exact search_eq_settle terms _ .empty

theorem lookup_of_firstUndeclared (none_ : firstUndeclared declared terms = none) {term : Term}
    (member : term ∈ terms) {name : String} (free : name ∈ term.freeVars) :
    ∃ sort, declared.lookup name = some sort := by
  have found := List.find?_eq_none.1 none_ name (List.mem_flatMap.2 ⟨term, member, free⟩)
  exact Option.isSome_iff_exists.1 (by simpa using found)

theorem mem_freeVariables {name : String} {sort : TermSort} :
    (name, sort) ∈ freeVariables declared terms ↔
      (∃ term ∈ terms, name ∈ term.freeVars) ∧ declared.lookup name = some sort := by
  simp only [freeVariables, List.mem_filterMap, OrderedSet.mem_toList, OrderedSet.mem_ofList,
    List.mem_flatMap, Option.map_eq_some_iff, Prod.mk.injEq]
  constructor
  · rintro ⟨other, occurs, known, located, rfl, rfl⟩
    exact ⟨occurs, located⟩
  · rintro ⟨occurs, located⟩
    exact ⟨name, occurs, sort, located, rfl, rfl⟩

theorem trials_tries {entries : Declarations} {start assignment : Assignment}
    (known : ∀ entry ∈ entries, declared.lookup entry.1 = some entry.2)
    (tries : Tries declared start) (member : assignment ∈ trials entries start) :
    Tries declared assignment := by
  induction entries generalizing start with
  | nil =>
      obtain rfl := List.mem_singleton.1 member
      exact tries
  | cons entry rest ih =>
      obtain ⟨here, others⟩ := List.forall_mem_cons.1 known
      obtain ⟨value, chosen, later⟩ := List.mem_flatMap.1 member
      exact ih others (tries.bind here chosen) later

theorem trials_binds {entries : Declarations} {start assignment : Assignment}
    (member : assignment ∈ trials entries start) {name : String}
    (bound : (∃ value, start name = some value) ∨ ∃ sort, (name, sort) ∈ entries) :
    ∃ value, assignment name = some value := by
  induction entries generalizing start with
  | nil =>
      obtain rfl := List.mem_singleton.1 member
      exact bound.resolve_right fun ⟨_, impossible⟩ => absurd impossible List.not_mem_nil
  | cons entry rest ih =>
      obtain ⟨value, -, later⟩ := List.mem_flatMap.1 member
      refine ih later ?_
      by_cases same : name = entry.1
      · exact .inl ⟨value, if_pos same⟩
      · rcases bound with ⟨given, isGiven⟩ | ⟨sort, listed⟩
        · exact .inl ⟨given, (if_neg same).trans isGiven⟩
        · rcases List.mem_cons.1 listed with rfl | listed
          · exact absurd rfl same
          · exact .inr ⟨sort, listed⟩

theorem exists_trial {entries : Declarations} {chosen start : Assignment}
    (chooses : ∀ entry ∈ entries, ∃ value ∈ entry.2.domain, chosen entry.1 = some value) :
    ∃ assignment ∈ trials entries start, ∀ name,
      (start name = chosen name ∨ ∃ sort, (name, sort) ∈ entries) →
        assignment name = chosen name := by
  induction entries generalizing start with
  | nil =>
      refine ⟨start, List.mem_singleton_self start, fun name agrees => ?_⟩
      exact agrees.resolve_right fun ⟨_, impossible⟩ => absurd impossible List.not_mem_nil
  | cons entry rest ih =>
      obtain ⟨⟨value, member, isChosen⟩, others⟩ := List.forall_mem_cons.1 chooses
      obtain ⟨assignment, tried, agrees⟩ := @ih (start.bind entry.1 value) others
      refine ⟨assignment, List.mem_flatMap.2 ⟨value, member, tried⟩, fun name given => ?_⟩
      apply agrees
      by_cases same : name = entry.1
      · exact .inl ((if_pos same).trans (same ▸ isChosen.symm))
      · rcases given with already | ⟨sort, listed⟩
        · exact .inl ((if_neg same).trans already)
        · rcases List.mem_cons.1 listed with rfl | listed
          · exact absurd rfl same
          · exact .inr ⟨sort, listed⟩

theorem decision_bound (none_ : firstUndeclared declared terms = none) :
    Bound (decision declared terms) := by
  simp only [decision, none_]
  refine settle_bound (List.forall_mem_map.2 fun assignment tried => ?_)
  refine settle_bound (List.forall_mem_map.2 fun term member => ?_)
  refine Term.evalBool_bound fun name free => ?_
  obtain ⟨sort, known⟩ := lookup_of_firstUndeclared none_ member free
  exact trials_binds tried (.inr ⟨sort, mem_freeVariables.2 ⟨⟨term, member, free⟩, known⟩⟩)

def SatisfiedBy (declared : Declarations) (terms : List Term) (assignment : Assignment) : Prop :=
  (∀ term ∈ terms, ∀ name ∈ term.freeVars, ∃ sort, declared.lookup name = some sort ∧
    ∃ value ∈ sort.domain, assignment name = some value) ∧
  ∀ term ∈ terms, term.evalBool assignment = .ok true

theorem judgement_eq_true {assignment : Assignment} :
    judgement terms assignment = .ok true ↔
      ∀ term ∈ terms, term.evalBool assignment = .ok true := by
  rw [← allTrue_eq_judgement]
  refine ⟨allTrue_eq_true, fun holds => ?_⟩
  induction terms with
  | nil => rfl
  | cons term rest ih =>
      obtain ⟨here, others⟩ := List.forall_mem_cons.1 holds
      simp only [allTrue, here, bind, Except.bind, if_true]
      exact ih others

theorem satisfiedBy_of_decision (found : decision declared terms = .ok true) :
    ∃ assignment, SatisfiedBy declared terms assignment := by
  unfold decision at found
  cases none_ : firstUndeclared declared terms with
  | some name => rw [none_] at found; cases found
  | none =>
      simp only [none_] at found
      have counts : Except.ok true ∈
          (trials (freeVariables declared terms) .empty).map (judgement terms) :=
        found ▸ settle_mem (by rw [found]; nofun)
      obtain ⟨assignment, tried, holds⟩ := List.mem_map.1 counts
      refine ⟨assignment, fun term member name free => ?_, judgement_eq_true.1 holds⟩
      obtain ⟨sort, known⟩ := lookup_of_firstUndeclared none_ member free
      have entry : (name, sort) ∈ freeVariables declared terms :=
        mem_freeVariables.2 ⟨⟨term, member, free⟩, known⟩
      obtain ⟨value, given⟩ := trials_binds tried (.inr ⟨sort, entry⟩)
      have nothing : Tries declared .empty := nofun
      have tries : Tries declared assignment :=
        trials_tries (fun entry listed => (mem_freeVariables.1 listed).2) nothing tried
      obtain ⟨sort', known', inDomain⟩ := tries name value given
      exact ⟨sort', known', value, inDomain, given⟩

theorem not_satisfiedBy_of_decision (none_ : decision declared terms = .ok false)
    (assignment : Assignment) : ¬ SatisfiedBy declared terms assignment := by
  rintro ⟨chooses, holds⟩
  unfold decision at none_
  cases undeclared : firstUndeclared declared terms with
  | some name => rw [undeclared] at none_; cases none_
  | none =>
      simp only [undeclared] at none_
      have chosen : ∀ entry ∈ freeVariables declared terms,
          ∃ value ∈ entry.2.domain, assignment entry.1 = some value := by
        rintro ⟨name, sort⟩ listed
        obtain ⟨⟨term, member, free⟩, known⟩ := mem_freeVariables.1 listed
        obtain ⟨sort', known', value, inDomain, given⟩ := chooses term member name free
        obtain rfl : sort = sort' := Option.some.inj (known.symm.trans known')
        exact ⟨value, inDomain, given⟩
      obtain ⟨trial, tried, agrees⟩ := @exists_trial _ _ .empty chosen
      have fails := settle_eq_passed none_ _ (List.mem_map.2 ⟨trial, tried, rfl⟩)
      have succeeds : judgement terms trial = .ok true := by
        refine judgement_eq_true.2 fun term member => ?_
        rw [← holds term member]
        refine Term.evalBool_congr fun name free => agrees name (.inr ?_)
        obtain ⟨sort, known⟩ := lookup_of_firstUndeclared undeclared member free
        exact ⟨sort, mem_freeVariables.2 ⟨⟨term, member, free⟩, known⟩⟩
      rw [succeeds] at fails
      cases fails

theorem decision_eq_ok
    (sorted : ∀ term ∈ terms, term.HasSort (fun name => declared.lookup name) .bool) :
    ∃ answer, decision declared terms = .ok answer ∧
      (answer = true ↔ ∃ assignment, SatisfiedBy declared terms assignment) := by
  obtain ⟨answer, found⟩ := satisfiable_eq_ok sorted
  rw [satisfiable_eq_decision] at found
  refine ⟨answer, found, ?_⟩
  cases answer with
  | true => exact ⟨fun _ => satisfiedBy_of_decision found, fun _ => rfl⟩
  | false =>
      refine ⟨nofun, ?_⟩
      rintro ⟨assignment, satisfied⟩
      exact absurd satisfied (not_satisfiedBy_of_decision found assignment)

end Decision

/-! ## Checks -/

theorem check_eq_decision (cancellation : Option CancelOrder) (world : World State) :
    ∃ after : World State, after.solver.stack = world.solver.stack ∧
      after.solver.declared = world.solver.declared ∧
      (solver { cancellation }).respond .check world =
        match decision world.solver.declared world.solver.stack.assertions with
        | .ok true => .ok .sat after
        | .ok false => .ok .unsat after
        | .error error => .error (.evaluation error) after := by
  obtain ⟨after, ⟨stack, declared⟩, result⟩ := check_eq { cancellation } world
  refine ⟨after, stack, declared, result.trans ?_⟩
  rw [← satisfiable_eq_decision]
  simp only [State.verdict, Bool.false_eq_true, if_false]
  cases satisfiable world.solver.declared world.solver.stack.assertions with
  | error error => rfl
  | ok answer => cases answer <;> rfl

/-- A solver that is not told to leave queries undecided answers a check by the decision, and
changes neither declarations nor assertions. Once all variables are declared, no assignment can fail
for want of one. Where all assertions are well-sorted it answers that they are satisfiable exactly
if values from the domains satisfy them, and gives the same answer wherever the same terms are
asserted, in whatever order and scopes. -/
theorem check_decides (cancellation : Option CancelOrder) (world : World State) :
    (∃ after : World State, after.solver.stack = world.solver.stack ∧
      after.solver.declared = world.solver.declared ∧
      (solver { cancellation }).respond .check world =
        match decision world.solver.declared world.solver.stack.assertions with
        | .ok true => .ok .sat after
        | .ok false => .ok .unsat after
        | .error error => .error (.evaluation error) after) ∧
    (firstUndeclared world.solver.declared world.solver.stack.assertions = none →
      ∀ name, decision world.solver.declared world.solver.stack.assertions ≠
        .error (.unbound name)) ∧
    ((∀ term ∈ world.solver.stack.assertions,
        term.HasSort (fun name => world.solver.declared.lookup name) .bool) →
      ∃ unsat, (unsat = false ↔ ∃ assignment,
          SatisfiedBy world.solver.declared world.solver.stack.assertions assignment) ∧
        ∀ other : World State,
          (∀ name, other.solver.declared.lookup name = world.solver.declared.lookup name) →
          (∀ term, term ∈ other.solver.stack.assertions ↔
            term ∈ world.solver.stack.assertions) →
          ∃ after, (solver { cancellation }).respond .check other =
            .ok (Verdict.decided unsat) after) := by
  refine ⟨check_eq_decision cancellation world, decision_bound, fun sorted => ?_⟩
  obtain ⟨answer, -, decides⟩ := decision_eq_ok sorted
  refine ⟨!answer, by rw [← decides]; cases answer <;> simp, fun other lookups members => ?_⟩
  have sameLookup : (fun name => other.solver.declared.lookup name) =
      fun name => world.solver.declared.lookup name := funext lookups
  have otherSorted : ∀ term ∈ other.solver.stack.assertions,
      term.HasSort (fun name => other.solver.declared.lookup name) .bool := by
    rw [sameLookup]
    exact fun term member => sorted term ((members term).1 member)
  obtain ⟨otherAnswer, found, otherDecides⟩ := decision_eq_ok otherSorted
  have same : otherAnswer = answer := by
    apply Bool.eq_iff_iff.2
    rw [decides, otherDecides]
    simp only [SatisfiedBy, lookups, members]
  obtain ⟨after, -, -, result⟩ := check_eq_decision cancellation other
  refine ⟨after, result.trans ?_⟩
  rw [found, same]
  cases answer <;> rfl

def gathered : World State where
  solver := {
    declared := [("q", .bool), ("p", .bool)]
    stack := { opened := [[.var "p", .not (.var "q")]] } }
  tokens := {}

def spread : World State where
  solver := {
    declared := [("p", .bool), ("q", .bool)]
    stack := { outermost := [.not (.var "q")], opened := [[.var "p"]] } }
  tokens := {}

theorem spread_check_decides :
    ∃ after, (solver {}).respond .check spread = .ok .sat after := by
  have assertions : gathered.solver.stack.assertions = [.var "p", .not (.var "q")] := rfl
  have sorted : ∀ term ∈ gathered.solver.stack.assertions,
      term.HasSort (fun name => gathered.solver.declared.lookup name) .bool := by
    rw [assertions]
    exact List.forall_mem_cons.2 ⟨.var rfl, List.forall_mem_singleton.2 (.not (.var rfl))⟩
  have satisfied : SatisfiedBy gathered.solver.declared gathered.solver.stack.assertions
      fun name => some (.bool (name == "p")) := by
    rw [assertions]
    refine ⟨?_, ?_⟩
    · refine List.forall_mem_cons.2 ⟨?_, List.forall_mem_singleton.2 ?_⟩
      · exact List.forall_mem_singleton.2 ⟨.bool, rfl, .bool true, by decide, rfl⟩
      · exact List.forall_mem_singleton.2 ⟨.bool, rfl, .bool false, by decide, rfl⟩
    · exact List.forall_mem_cons.2 ⟨rfl, List.forall_mem_singleton.2 rfl⟩
  obtain ⟨unsat, decides, others⟩ := (check_decides none gathered).2.2 sorted
  obtain rfl : unsat = false := decides.2 ⟨_, satisfied⟩
  refine others spread (fun name => ?_) fun term => ?_
  · by_cases p : name = "p"
    · subst p
      rfl
    · have other : (name == "p") = false := beq_eq_false_iff_ne.2 p
      simp only [spread, gathered, List.lookup_cons, other]
  · have spreadAssertions : spread.solver.stack.assertions = [.not (.var "q"), .var "p"] := rfl
    rw [assertions, spreadAssertions]
    simp [or_comm]

end DeltaFrames.Enumerating
