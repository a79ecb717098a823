import DeltaFrames.Proofs.Solver.Contract
import DeltaFrames.Solver.Enumerating
import DeltaFrames.StateAction

/-!
# The enumerating solver is exact

With integers from -8 to 16 as the numbers over which variables range, and with the arithmetic of
evaluation, the solver that tries every assignment gives no wrong verdict (`solver_exact`). It may
fail on a query that has no value, and be told to leave queries undecided. Unless it is told so, it
decides every query of Boolean terms over declared variables (`solver_decisive`).
-/

namespace DeltaFrames.Enumerating

open StateAction

def range : WordRange where
  Contains number := -8 ≤ number.toInt ∧ number.toInt ≤ 16
  inhabited := ⟨0, by decide⟩

theorem mem_domain_int {number : Int64} :
    Value.int number ∈ TermSort.int.domain ↔ range.Contains number := by
  have exactSolver (offset : Nat) (small : offset < 25) :
      (Int64.ofInt (offset - 8)).toInt = offset - 8 :=
    Int64.toInt_ofInt_of_le (by simp; omega) (by simp; omega)
  simp only [TermSort.domain, List.mem_map, List.mem_range, Value.int.injEq, range]
  constructor
  · rintro ⟨offset, small, rfl⟩
    rw [exactSolver offset small]
    omega
  · rintro ⟨low, high⟩
    obtain ⟨offset, isOffset⟩ := Int.eq_ofNat_of_zero_le (show 0 ≤ number.toInt + 8 by omega)
    refine ⟨offset, by omega, ?_⟩
    rw [← Int64.toInt_inj, exactSolver offset (by omega)]
    omega

theorem mem_domain {sort : TermSort} {value : Value} :
    value ∈ sort.domain ↔
      (value.referent range).sort = sort ∧ (value.referent range).InRange := by
  cases value with
  | bool truth =>
      cases sort <;> cases truth <;> simp [TermSort.domain, Value.referent, Referent.sort,
        Referent.InRange]
  | int number =>
      cases sort with
      | bool => simp [TermSort.domain, Value.referent, Referent.sort]
      | int =>
          rw [mem_domain_int]
          simp [Value.referent, Referent.sort, Referent.InRange]

/-! ## The search -/

theorem anyM_eq_false {α : Type} {decide_ : α → Except EvalError Bool} {values : List α}
    (none : values.anyM decide_ = .ok false) : ∀ value ∈ values, decide_ value = .ok false := by
  induction values with
  | nil => exact nofun
  | cons value rest ih =>
      simp only [List.anyM, bind, Except.bind] at none
      cases result : decide_ value with
      | error error => rw [result] at none; cases none
      | ok truth =>
          rw [result] at none
          cases truth with
          | true => cases none
          | false => exact List.forall_mem_cons.2 ⟨result, ih none⟩

theorem anyM_eq_true {α : Type} {decide_ : α → Except EvalError Bool} {values : List α}
    (some_ : values.anyM decide_ = .ok true) : ∃ value ∈ values, decide_ value = .ok true := by
  induction values with
  | nil => cases some_
  | cons value rest ih =>
      simp only [List.anyM, bind, Except.bind] at some_
      cases result : decide_ value with
      | error error => rw [result] at some_; cases some_
      | ok truth =>
          rw [result] at some_
          cases truth with
          | true => exact ⟨value, List.mem_cons_self, result⟩
          | false =>
              obtain ⟨other, member, found⟩ := ih some_
              exact ⟨other, List.mem_cons_of_mem _ member, found⟩

theorem allTrue_eq_true {assignment : Assignment} {terms : List Term}
    (holds : allTrue assignment terms = .ok true) :
    ∀ term ∈ terms, term.evalBool assignment = .ok true := by
  induction terms with
  | nil => exact nofun
  | cons term rest ih =>
      simp only [allTrue, bind, Except.bind] at holds
      cases result : term.evalBool assignment with
      | error error => rw [result] at holds; cases holds
      | ok truth =>
          rw [result] at holds
          cases truth with
          | true => exact List.forall_mem_cons.2 ⟨result, ih holds⟩
          | false => cases holds

theorem allTrue_eq_false {assignment : Assignment} {terms : List Term}
    (fails : allTrue assignment terms = .ok false) :
    ∃ term ∈ terms, term.evalBool assignment = .ok false := by
  induction terms with
  | nil => cases fails
  | cons term rest ih =>
      simp only [allTrue, bind, Except.bind] at fails
      cases result : term.evalBool assignment with
      | error error => rw [result] at fails; cases fails
      | ok truth =>
          rw [result] at fails
          cases truth with
          | true =>
              obtain ⟨other, member, fails⟩ := ih fails
              exact ⟨other, List.mem_cons_of_mem _ member, fails⟩
          | false => exact ⟨term, List.mem_cons_self, result⟩

theorem extends_bind {assignment : Assignment} {name : String} {value : Value}
    {valuation : Valuation (.words range)}
    (larger : (assignment.valuation range).Extends valuation)
    (given : valuation name = some (value.referent range)) :
    ((assignment.bind name value).valuation range).Extends valuation := by
  intro other result known
  by_cases same : other = name
  · subst same
    simp only [Assignment.valuation, Assignment.bind, if_true, Option.map_some] at known
    exact given.trans known
  · simp only [Assignment.valuation, Assignment.bind, if_neg same] at known
    exact larger other result known

theorem search_eq_false {terms : List Term} {unknowns : Declarations} {assignment : Assignment}
    (none : search terms unknowns assignment = .ok false) {valuation : Valuation (.words range)}
    (larger : (assignment.valuation range).Extends valuation)
    (tried : ∀ entry ∈ unknowns, ∃ value ∈ entry.2.domain,
      valuation entry.1 = some (value.referent range)) :
    ∃ term ∈ terms, ¬ term.Holds valuation := by
  -- Of the branches of the search, the one that follows the valuation has failed as well.
  induction unknowns generalizing assignment with
  | nil =>
      obtain ⟨term, member, fails⟩ := allTrue_eq_false none
      refine ⟨term, member, fun holds => ?_⟩
      have meaning : term.meaning (assignment.valuation range) = some (.truth false) := by
        rw [Term.meaning_words]
        unfold Term.evalBool at fails
        cases result : term.eval assignment with
        | error error => rw [result] at fails; cases fails
        | ok value =>
            rw [result] at fails
            cases value with
            | int _ => cases fails
            | bool truth => cases fails; rfl
      have mean := Term.meaning_mono larger term meaning
      rw [Term.Holds, mean] at holds
      cases holds
  | cons entry rest ih =>
      obtain ⟨⟨value, member, given⟩, others⟩ := List.forall_mem_cons.1 tried
      exact ih (anyM_eq_false none value member) (extends_bind larger given) others

def Tries (declared : Declarations) (assignment : Assignment) : Prop :=
  ∀ name value, assignment name = some value →
    ∃ sort, declared.lookup name = some sort ∧ value ∈ sort.domain

theorem Tries.bind {declared : Declarations} {assignment : Assignment} {name : String}
    {sort : TermSort} {value : Value} (tries : Tries declared assignment)
    (known : declared.lookup name = some sort) (member : value ∈ sort.domain) :
    Tries declared (assignment.bind name value) := by
  intro other result given
  unfold Assignment.bind at given
  split at given
  · next same => cases given; exact ⟨sort, same ▸ known, member⟩
  · exact tries other result given

theorem search_eq_true {declared : Declarations} {terms : List Term} {unknowns : Declarations}
    {assignment : Assignment} (found : search terms unknowns assignment = .ok true)
    (known : ∀ entry ∈ unknowns, declared.lookup entry.1 = some entry.2)
    (tries : Tries declared assignment) :
    ∃ final, Tries declared final ∧ ∀ term ∈ terms, term.Holds (final.valuation range) := by
  induction unknowns generalizing assignment with
  | nil =>
      exact ⟨assignment, tries, fun term member =>
        Term.holds_words_iff.2 (allTrue_eq_true found term member)⟩
  | cons entry rest ih =>
      obtain ⟨value, member, found⟩ := anyM_eq_true found
      have ⟨here, others⟩ := List.forall_mem_cons.1 known
      exact ih found others (tries.bind here member)

theorem mapM_member {α β : Type} {decide_ : α → Except EvalError β} {items : List α}
    {results : List β} (listed : items.mapM decide_ = .ok results) :
    ∀ result ∈ results, ∃ item ∈ items, decide_ item = .ok result := by
  induction items generalizing results with
  | nil => cases listed; exact nofun
  | cons item rest ih =>
      rw [List.mapM_cons] at listed
      cases first : decide_ item with
      | error error => rw [first] at listed; cases listed
      | ok result =>
          cases others : rest.mapM decide_ with
          | error error => rw [first, others] at listed; cases listed
          | ok results' =>
              rw [first, others] at listed
              cases listed
              refine List.forall_mem_cons.2 ⟨⟨item, List.mem_cons_self, first⟩, ?_⟩
              intro other member
              obtain ⟨source, sourceMember, answer⟩ := ih others other member
              exact ⟨source, List.mem_cons_of_mem _ sourceMember, answer⟩

theorem unknowns_known {declared : Declarations} {terms : List Term} {entries : Declarations}
    (listed : unknowns declared terms = .ok entries) :
    ∀ entry ∈ entries, declared.lookup entry.1 = some entry.2 := by
  intro entry member
  obtain ⟨name, -, found⟩ := mapM_member listed entry member
  unfold declaredSort at found
  cases known : declared.lookup name with
  | none => rw [known] at found; cases found
  | some sort => rw [known] at found; cases found; exact known

theorem anyM_eq_ok {α : Type} {decide_ : α → Except EvalError Bool} {values : List α}
    (decided : ∀ value ∈ values, ∃ answer, decide_ value = .ok answer) :
    ∃ answer, values.anyM decide_ = .ok answer := by
  induction values with
  | nil => exact ⟨false, rfl⟩
  | cons value rest ih =>
      obtain ⟨⟨answer, here⟩, others⟩ := List.forall_mem_cons.1 decided
      simp only [List.anyM, bind, Except.bind, here]
      cases answer with
      | true => exact ⟨true, rfl⟩
      | false => exact ih others

theorem mapM_eq_ok {α β : Type} {decide_ : α → Except EvalError β} {items : List α}
    (decided : ∀ item ∈ items, ∃ result, decide_ item = .ok result) :
    ∃ results, items.mapM decide_ = .ok results ∧
      ∀ item ∈ items, ∃ result ∈ results, decide_ item = .ok result := by
  induction items with
  | nil => exact ⟨[], rfl, nofun⟩
  | cons item rest ih =>
      obtain ⟨⟨result, here⟩, others⟩ := List.forall_mem_cons.1 decided
      obtain ⟨results, listed, found⟩ := ih others
      refine ⟨result :: results, by rw [List.mapM_cons, here, listed]; rfl, ?_⟩
      refine List.forall_mem_cons.2 ⟨⟨result, List.mem_cons_self, here⟩, fun other member => ?_⟩
      obtain ⟨answer, answerMember, answers⟩ := found other member
      exact ⟨answer, List.mem_cons_of_mem _ answerMember, answers⟩

theorem allTrue_eq_ok {assignment : Assignment} {terms : List Term}
    (decided : ∀ term ∈ terms, ∃ answer, term.evalBool assignment = .ok answer) :
    ∃ answer, allTrue assignment terms = .ok answer := by
  induction terms with
  | nil => exact ⟨true, rfl⟩
  | cons term rest ih =>
      obtain ⟨⟨answer, here⟩, others⟩ := List.forall_mem_cons.1 decided
      simp only [allTrue, bind, Except.bind, here]
      cases answer with
      | true => exact ih others
      | false => exact ⟨false, rfl⟩

theorem Tries.fits {declared : Declarations} {assignment : Assignment}
    (tries : Tries declared assignment) :
    (assignment.valuation range).Fits fun name =>
      (assignment.valuation range name).map Referent.sort where
  sorts _ := rfl
  inRange name value given := by
    obtain ⟨tried, chosen, rfl⟩ := Option.map_eq_some_iff.1 given
    obtain ⟨sort, -, member⟩ := tries name tried chosen
    exact (mem_domain.1 member).2

theorem Tries.evalBool {declared : Declarations} {assignment : Assignment} {term : Term}
    (tries : Tries declared assignment)
    (sorted : term.HasSort (fun name => declared.lookup name) .bool)
    (bound : ∀ name ∈ term.occurrences, ∃ value, assignment name = some value) :
    ∃ answer, term.evalBool assignment = .ok answer := by
  have usedSorted : term.HasSort (fun name => (assignment.valuation range name).map Referent.sort)
      .bool := by
    refine sorted.of_occurrences fun name occurs sort known => ?_
    obtain ⟨value, given⟩ := bound name occurs
    obtain ⟨sort', known', member⟩ := tries name value given
    obtain rfl : sort = sort' := Option.some.inj (known.symm.trans known')
    simp only [Assignment.valuation, given, Option.map_some, (mem_domain.1 member).1]
  obtain ⟨truth, meaning⟩ := usedSorted.truth tries.fits
  rw [Term.meaning_words] at meaning
  unfold Term.evalBool
  cases result : term.eval assignment with
  | error error => rw [result] at meaning; cases meaning
  | ok value =>
      rw [result] at meaning
      cases value with
      | int _ => cases meaning
      | bool answer => exact ⟨answer, rfl⟩

theorem search_eq_ok {declared : Declarations} {terms : List Term} {unknowns : Declarations}
    {assignment : Assignment} (known : ∀ entry ∈ unknowns, declared.lookup entry.1 = some entry.2)
    (tries : Tries declared assignment)
    (sorted : ∀ term ∈ terms, term.HasSort (fun name => declared.lookup name) .bool)
    (bound : ∀ term ∈ terms, ∀ name ∈ term.occurrences,
      (∃ value, assignment name = some value) ∨ ∃ entry ∈ unknowns, entry.1 = name) :
    ∃ answer, search terms unknowns assignment = .ok answer := by
  -- Trying values binds one unknown after the other, and unbinds none.
  induction unknowns generalizing assignment with
  | nil =>
      refine allTrue_eq_ok fun term member => tries.evalBool (sorted term member) fun name occurs => ?_
      exact (bound term member name occurs).resolve_right nofun
  | cons entry rest ih =>
      have ⟨here, others⟩ := List.forall_mem_cons.1 known
      refine anyM_eq_ok fun value member => ih others (tries.bind here member) ?_
      intro term termMember name occurs
      by_cases same : name = entry.1
      · exact .inl ⟨value, if_pos same⟩
      · rcases bound term termMember name occurs with ⟨other, given⟩ | ⟨later, laterMember, isName⟩
        · exact .inl ⟨other, (if_neg same).trans given⟩
        · rcases List.mem_cons.1 laterMember with rfl | laterMember
          · exact absurd isName.symm same
          · exact .inr ⟨later, laterMember, isName⟩

variable {declared : Declarations} {terms : List Term}

theorem satisfiable_eq_false (none : satisfiable declared terms = .ok false) :
    ¬ Satisfiable (.words range) (fun name => declared.lookup name) terms := by
  unfold satisfiable at none
  cases listed : unknowns declared terms with
  | error error => rw [listed] at none; cases none
  | ok entries =>
      rw [listed] at none
      rintro ⟨valuation, fits, holds⟩
      have tried : ∀ entry ∈ entries, ∃ value ∈ entry.2.domain,
          valuation entry.1 = some (value.referent range) := by
        intro entry member
        obtain ⟨value, given, sorted⟩ := fits.defined (unknowns_known listed entry member)
        have inRange := fits.inRange _ value given
        cases value with
        | number number => exact ⟨.int number, mem_domain.2 ⟨sorted, inRange⟩, given⟩
        | truth truth => exact ⟨.bool truth, mem_domain.2 ⟨sorted, inRange⟩, given⟩
      obtain ⟨term, member, fails⟩ := search_eq_false none nofun tried
      exact fails (holds term member)

theorem satisfiable_eq_true (found : satisfiable declared terms = .ok true) :
    Satisfiable (.words range) (fun name => declared.lookup name) terms := by
  unfold satisfiable at found
  cases listed : unknowns declared terms with
  | error error => rw [listed] at found; cases found
  | ok entries =>
      rw [listed] at found
      obtain ⟨final, tries, holds⟩ := search_eq_true found (unknowns_known listed) nofun
      let used : Signature := fun name => (final.valuation range name).map Referent.sort
      have fits : (final.valuation range).Fits used := tries.fits
      have larger : used.Extends fun name => declared.lookup name := by
        intro name sort known
        obtain ⟨value, given, rfl⟩ := Option.map_eq_some_iff.1 known
        obtain ⟨tried, chosen, rfl⟩ := Option.map_eq_some_iff.1 given
        obtain ⟨sort, known, member⟩ := tries name tried chosen
        rw [(mem_domain.1 member).1]
        exact known
      exact Satisfiable.extend larger ⟨_, fits, holds⟩

theorem satisfiable_eq_ok
    (sorted : ∀ term ∈ terms, term.HasSort (fun name => declared.lookup name) .bool) :
    ∃ answer, satisfiable declared terms = .ok answer := by
  have declares : ∀ name ∈ (OrderedSet.ofList (terms.flatMap Term.freeVars)).toList,
      ∃ entry, (do return (name, ← declaredSort declared name)) = Except.ok entry := by
    intro name member
    rw [OrderedSet.mem_toList, OrderedSet.mem_ofList] at member
    obtain ⟨term, termMember, free⟩ := List.mem_flatMap.1 member
    obtain ⟨sort, known⟩ := (sorted term termMember).known (Term.mem_freeVars.1 free)
    exact ⟨(name, sort), by simp only [declaredSort, known]; rfl⟩
  obtain ⟨entries, listed, found⟩ := mapM_eq_ok declares
  have isListed : unknowns declared terms = .ok entries := listed
  unfold satisfiable
  rw [isListed]
  refine search_eq_ok (unknowns_known isListed) nofun sorted ?_
  intro term member name occurs
  have free : name ∈ (OrderedSet.ofList (terms.flatMap Term.freeVars)).toList := by
    rw [OrderedSet.mem_toList, OrderedSet.mem_ofList]
    exact List.mem_flatMap.2 ⟨term, member, Term.mem_freeVars.2 occurs⟩
  obtain ⟨entry, entryMember, isEntry⟩ := found name free
  refine .inr ⟨entry, entryMember, ?_⟩
  cases known : declaredSort declared name with
  | error error => rw [known] at isEntry; cases isEntry
  | ok sort => rw [known] at isEntry; cases isEntry; rfl

/-! ## The solver -/

def view : View (World State) where
  stack world := world.solver.stack
  declared world name := (world.solver.declared.lookup name).map (⟨·, 0⟩)

theorem signature_view (world : World State) :
    view.signature world = fun name => world.solver.declared.lookup name := by
  funext name
  simp only [View.signature, view, Option.map_map]
  exact Option.map_id_apply

variable (settings : Settings)

theorem check_eq (world : World State) :
    ∃ after : World State,
      (after.solver.stack = world.solver.stack ∧ after.solver.declared = world.solver.declared) ∧
      check settings world = match world.solver.verdict settings with
        | .ok verdict => .ok verdict after
        | .error error => .error error after := by
  refine ⟨CancelOrder.carryOut settings.cancellation (world.solver.checks + 1)
    { world with solver := { world.solver with checks := world.solver.checks + 1 } },
    by rw [CancelOrder.carryOut_solver]; exact ⟨rfl, rfl⟩, ?_⟩
  simp only [check, modifyState, bind_apply, modify_apply, get_apply]
  rw [CancelOrder.carryOut_solver]
  have same : State.verdict { world.solver with checks := world.solver.checks + 1 } settings =
      world.solver.verdict settings := rfl
  rw [same]
  cases world.solver.verdict settings <;> rfl

theorem tokens_respond (undecided : Bool) (call : Call) (world : World State) :
    (finalState ((solver { undecided }).respond call world)).tokens = world.tokens := by
  cases call with
  | push => rfl
  | pop =>
      simp only [solver, bind_apply, get_apply]
      cases world.solver.stack.pop <;> rfl
  | declare name sort => rfl
  | assert term => rfl
  | check =>
      simp only [solver, check, modifyState, bind_apply, modify_apply, get_apply,
        CancelOrder.carryOut]
      generalize State.verdict _ _ = outcome
      cases outcome <;> rfl
  | reset => rfl

theorem check_ok {world after : World State} {verdict : Verdict}
    (response : (solver settings).respond .check world = .ok verdict after) :
    world.solver.verdict settings = .ok verdict ∧
      after.solver.stack = world.solver.stack ∧
      after.solver.declared = world.solver.declared := by
  obtain ⟨checked, kept, result⟩ := check_eq settings world
  replace response : check settings world = .ok verdict after := response
  rw [result] at response
  cases outcome : world.solver.verdict settings with
  | ok _ => rw [outcome] at response; cases response; exact ⟨rfl, kept⟩
  | error _ => rw [outcome] at response; cases response

theorem keepsScopes : (solver settings).KeepsScopes view where
  succeeds := by
    intro call world answer after response
    cases call with
    | push => cases response; rfl
    | pop =>
        simp only [solver, bind_apply, get_apply] at response
        cases popped : world.solver.stack.pop with
        | none => rw [popped] at response; cases response
        | some stack => rw [popped] at response; cases response; simp [view, Call.apply, popped]
    | declare name sort => cases response; rfl
    | assert term => cases response; rfl
    | check => exact (check_ok settings response).2.1
    | reset => cases response; rfl
  fails := by
    intro call world error after response
    cases call with
    | push => cases response
    | pop =>
        simp only [solver, bind_apply, get_apply] at response
        cases popped : world.solver.stack.pop with
        | none => rw [popped] at response; cases response; rfl
        | some stack => rw [popped] at response; cases response
    | declare name sort => cases response
    | assert term => cases response
    | check =>
        obtain ⟨checked, kept, result⟩ := check_eq settings world
        replace response : check settings world = .error error after := response
        rw [result] at response
        cases outcome : world.solver.verdict settings with
        | ok _ => rw [outcome] at response; cases response
        | error _ => rw [outcome] at response; cases response; exact kept.1
    | reset => cases response

theorem keepsDeclarations : (solver settings).KeepsDeclarations view where
  declares := by
    intro name sort world answer after response
    cases response
    refine ⟨⟨0, Nat.zero_le _, by simp [view]⟩, fun other declared different known => ?_⟩
    have apart : (other == name) = false := beq_eq_false_iff_ne.2 different
    simpa [view, List.lookup_cons, apart] using known
  keeps := by
    intro call world answer after response notDeclare notReset name declared known _
    cases call with
    | push => cases response; exact known
    | pop =>
        simp only [solver, bind_apply, get_apply] at response
        cases popped : world.solver.stack.pop with
        | none => rw [popped] at response; cases response
        | some stack => rw [popped] at response; cases response; exact known
    | declare name sort => exact absurd rfl (notDeclare name sort)
    | assert term => cases response; exact known
    | check =>
        have same := (check_ok settings response).2.2
        simpa only [view, same] using known
    | reset => exact absurd rfl notReset

theorem popsSucceed : (solver settings).PopsSucceed view := by
  intro world opened
  obtain ⟨innermost, outer, isOpened⟩ := List.exists_cons_of_ne_nil opened
  have popped : world.solver.stack.pop = some { world.solver.stack with opened := outer } := by
    have scopes : world.solver.stack.opened = innermost :: outer := isOpened
    simp only [ScopeStack.pop, scopes]
  simp only [solver, bind_apply, get_apply, popped]
  exact ⟨_, rfl⟩

theorem verdict_eq_ok {state : State} {verdict : Verdict}
    (decided : state.verdict settings = .ok verdict) :
    (verdict = .sat → satisfiable state.declared state.stack.assertions = .ok true) ∧
      (verdict = .unsat → satisfiable state.declared state.stack.assertions = .ok false) := by
  unfold State.verdict at decided
  split at decided
  · cases decided
    exact ⟨nofun, nofun⟩
  · split at decided
    · next found => cases decided; exact ⟨fun _ => found, nofun⟩
    · next none => cases decided; exact ⟨nofun, fun _ => none⟩
    · cases decided

theorem solver_exact : (solver settings).Exact (.words range) view where
  scopes := keepsScopes settings
  declarations := keepsDeclarations settings
  pops := popsSucceed settings
  unsat := by
    intro world after response
    rw [signature_view]
    exact satisfiable_eq_false ((verdict_eq_ok settings (check_ok settings response).1).2 rfl)
  sat := by
    intro world after response
    rw [signature_view]
    exact satisfiable_eq_true ((verdict_eq_ok settings (check_ok settings response).1).1 rfl)

theorem solver_decisive (cancellation : Option CancelOrder) :
    (solver { cancellation }).Decisive (.words range) view where
  toExact := solver_exact _
  accepts := by
    intro call world noCheck noPop
    cases call with
    | push => exact ⟨(), _, rfl⟩
    | pop => exact absurd rfl noPop
    | declare name sort => exact ⟨(), _, rfl⟩
    | assert term => exact ⟨(), _, rfl⟩
    | check => exact absurd rfl noCheck
    | reset => exact ⟨(), _, rfl⟩
  decides := by
    intro world sorted
    rw [signature_view] at sorted
    obtain ⟨answer, found⟩ := satisfiable_eq_ok sorted
    obtain ⟨after, -, result⟩ := check_eq { cancellation } world
    refine ⟨!answer, after, result.trans ?_⟩
    have verdict : world.solver.verdict { cancellation } = .ok (.decided !answer) := by
      have found' : satisfiable world.solver.declared world.solver.stack.assertions = .ok answer :=
        found
      simp only [State.verdict, found', Bool.false_eq_true, if_false]
      cases answer <;> rfl
    rw [verdict]

end DeltaFrames.Enumerating
