import DeltaFrames.Proofs.Session.Rules
import DeltaFrames.Proofs.Solver.Contract

/-!
# Scopes of a session

A session works in scopes above those it found. While it succeeds it is `Ready`: the scopes above
the base are known and the variables are declared. When something fails it still `Stands` on the
base it found, so that dropping it takes all of its scopes away (`drop_stack`). A query is put to
the solver under exactly the assertions of the open scopes and the queried term
(`isUnsatWith_ready`), and work done within a session leaves no scope behind (`within_triple`).
-/

namespace DeltaFrames

namespace ScopeStack

def extend (base : ScopeStack) (scopes : List (List Term)) : ScopeStack :=
  { base with opened := scopes ++ base.opened }

theorem assertions_extend (base : ScopeStack) (scopes : List (List Term)) :
    (base.extend scopes).assertions = base.assertions ++ scopes.reverse.flatten := by
  simp [assertions, extend, List.append_assoc]

theorem depth_extend (base : ScopeStack) (scopes : List (List Term)) :
    (base.extend scopes).depth = scopes.length + base.depth := by
  simp [depth, extend]

end ScopeStack

def Call.isPlain : Call → Bool
  | .declare .. | .assert _ | .check => true
  | .push | .pop | .reset => false

theorem Call.apply_extend {made : Call} (plain : made.isPlain = true) (base : ScopeStack)
    (innermost : List Term) (outer : List (List Term)) :
    ∃ changed, made.apply (base.extend (innermost :: outer)) = base.extend (changed :: outer) := by
  cases made with
  | declare name sort => exact ⟨innermost, rfl⟩
  | assert term => exact ⟨innermost ++ [term], rfl⟩
  | check => exact ⟨innermost, rfl⟩
  | push => cases plain
  | pop => cases plain
  | reset => cases plain

namespace Session

open StateAction

variable {ω ε : Type}

def Stands (view : View ω) (base : ScopeStack) (scopes : List (List Term))
    (session : Session ω ε) : Prop :=
  session.openScopes = scopes.length ∧ view.stack session.run.world = base.extend scopes

def Shows (view : View ω) (base : ScopeStack) (declarations : Declarations)
    (scopes : List (List Term)) (world : ω) : Prop :=
  view.stack world = base.extend scopes ∧ view.Declares declarations (base.depth + 1) world

def Ready (view : View ω) (base : ScopeStack) (declarations : Declarations)
    (scopes : List (List Term)) (session : Session ω ε) : Prop :=
  session.openScopes = scopes.length ∧ Shows view base declarations scopes session.run.world

variable {solver : Solver ω ε} {view : View ω} {base : ScopeStack} {declarations : Declarations}
  {scopes scopes' : List (List Term)}

theorem Ready.stands {session : Session ω ε}
    (ready : session.Ready view base declarations scopes) : session.Stands view base scopes :=
  ⟨ready.1, ready.2.1⟩

theorem call_ok {made : Call} {session after : Session ω ε} {answer : made.Answer}
    (result : call solver made session = .ok answer after) :
    after.openScopes = session.openScopes ∧
      solver.respond made session.run.world = .ok answer after.run.world := by
  unfold call Solver.call at result
  cases response : solver.respond made session.run.world with
  | ok answer world => rw [response] at result; cases result; exact ⟨rfl, rfl⟩
  | error error world => rw [response] at result; cases result

theorem call_error {made : Call} {session after : Session ω ε} {failure : SessionError ε}
    (result : call solver made session = .error failure after) :
    after.openScopes = session.openScopes ∧
      ∃ error, failure = .backend error ∧
        solver.respond made session.run.world = .error error after.run.world := by
  unfold call Solver.call at result
  cases response : solver.respond made session.run.world with
  | ok answer world => rw [response] at result; cases result
  | error error world => rw [response] at result; cases result; exact ⟨rfl, error, rfl, rfl⟩

theorem shows_of_response (disciplined : solver.Disciplined view) {made : Call} {world after : ω}
    {answer : made.Answer} (response : solver.respond made world = .ok answer after)
    (shown : Shows view base declarations scopes world)
    (effect : made.apply (base.extend scopes) = base.extend scopes') (above : scopes' ≠ [])
    (noDeclaration : ∀ name sort, made ≠ .declare name sort) (noReset : made ≠ .reset) :
    Shows view base declarations scopes' after := by
  have stack : view.stack after = base.extend scopes' := by
    rw [disciplined.scopes.succeeds response, shown.1, effect]
  refine ⟨stack, fun name sort known => ?_⟩
  obtain ⟨anchor, low, located⟩ := shown.2 name sort known
  refine ⟨anchor, low, disciplined.declarations.keeps response noDeclaration noReset name _
    located ?_⟩
  -- The base scope, in which the declarations were made, is still open.
  have positive := List.length_pos_iff.2 above
  rw [stack, ScopeStack.depth_extend]
  exact Nat.le_trans low (by omega)

theorem call_triple (disciplined : solver.Disciplined view) (made : Call) {count : Nat}
    (effect : made.apply (base.extend scopes) = base.extend scopes') (above : scopes' ≠ [])
    (noDeclaration : ∀ name sort, made ≠ .declare name sort) (noReset : made ≠ .reset) :
    Triple (fun session : Session ω ε =>
        session.openScopes = count ∧ Shows view base declarations scopes session.run.world)
      (call solver made)
      (fun _ session =>
        session.openScopes = count ∧ Shows view base declarations scopes' session.run.world)
      (fun _ session =>
        session.openScopes = count ∧ view.stack session.run.world = base.extend scopes) := by
  rintro session ⟨counted, shown⟩
  cases result : call solver made session with
  | ok answer after =>
      obtain ⟨same, response⟩ := call_ok result
      exact ⟨same.trans counted,
        shows_of_response disciplined response shown effect above noDeclaration noReset⟩
  | error failure after =>
      obtain ⟨same, error, -, response⟩ := call_error result
      exact ⟨same.trans counted, (disciplined.scopes.fails response).trans shown.1⟩

theorem assertAll_ready (disciplined : solver.Disciplined view) (terms scope : List Term) :
    Triple (Ready view base declarations (scope :: scopes)) (assertAll solver terms)
      (fun _ => Ready view base declarations ((scope ++ terms) :: scopes))
      (fun _ session => ∃ scopes', session.Stands view base scopes') := by
  let invariant (rest : List Term) (session : Session ω ε) : Prop :=
    ∃ done, done ++ rest = scope ++ terms ∧ session.Ready view base declarations (done :: scopes)
  have loop : Triple (invariant terms) (assertAll solver terms) (fun _ => invariant [])
      (fun _ session => ∃ scopes', session.Stands view base scopes') := by
    refine Triple.forM invariant (fun term rest => ?_) terms
    rintro session ⟨done, split, ready⟩
    have effect : (Call.assert term).apply (base.extend (done :: scopes)) =
      base.extend ((done ++ [term]) :: scopes) := rfl
    have step := call_triple disciplined (.assert term) effect (List.cons_ne_nil _ _)
      (fun _ _ => nofun) nofun session ready
    cases result : call solver (.assert term) session with
    | ok answer after =>
        rw [result] at step
        exact ⟨done ++ [term], by simpa using split, step⟩
    | error failure after =>
        rw [result] at step
        exact ⟨done :: scopes, step⟩
  refine loop.mono (fun session ready => ⟨scope, rfl, ready⟩) ?_ fun _ _ stands => stands
  rintro _ session ⟨done, split, ready⟩
  rw [List.append_nil] at split
  rwa [← split]

theorem pushAll_ready (disciplined : solver.Disciplined view) (terms : List Term) :
    Triple (Ready view base declarations scopes) (pushAll solver terms)
      (fun _ => Ready view base declarations (terms :: scopes))
      (fun _ session => ∃ scopes', session.Stands view base scopes') := by
  have effect : Call.push.apply (base.extend scopes) = base.extend ([] :: scopes) := rfl
  refine Triple.bind (Triple.mono (call_triple disciplined .push effect (List.cons_ne_nil _ _)
    (fun _ _ => nofun) nofun) (fun _ ready => ready) (fun _ _ shown => shown)
    fun _ _ stands => ⟨scopes, stands⟩) fun _ => Triple.get ?_
  rintro session ⟨counted, shown⟩
  refine assertAll_ready disciplined terms [] { session with openScopes := session.openScopes + 1 } ?_
  exact ⟨by simp [counted], shown⟩

/-! ## Closing scopes -/

theorem call_pop (keeps : solver.KeepsScopes view) (pops : solver.PopsSucceed view)
    {scope : List Term} (session : Session ω ε)
    (stack : view.stack session.run.world = base.extend (scope :: scopes)) :
    ∃ after, call solver .pop session = .ok () after ∧
      after.openScopes = session.openScopes ∧ view.stack after.run.world = base.extend scopes ∧
      solver.respond .pop session.run.world = .ok () after.run.world := by
  obtain ⟨world, succeeds⟩ := pops session.run.world (by rw [stack]; exact nofun)
  cases result : call solver .pop session with
  | ok answer after =>
      obtain ⟨same, response⟩ := call_ok result
      refine ⟨after, rfl, same, ?_, response⟩
      rw [keeps.succeeds response, stack]
      rfl
  | error failure after =>
      obtain ⟨-, error, -, fails⟩ := call_error result
      rw [succeeds] at fails
      cases fails

theorem pop_eq (session : Session ω ε) {outer : Nat} (counted : session.openScopes = outer + 2) :
    pop solver session = call solver .pop { session with openScopes := outer + 1 } := by
  unfold pop
  simp only [bind_apply, get_apply, counted, setScopes, modify_apply]

theorem pop_refused (solver : Solver ω ε) {session : Session ω ε}
    (counted : session.openScopes = 1) : pop solver session = .error .emptyScope session := by
  simp only [pop, bind_apply, get_apply, counted, throw_apply]

theorem pop_stands (keeps : solver.KeepsScopes view) (pops : solver.PopsSucceed view)
    {scope : List Term} {session : Session ω ε} (above : scopes ≠ [])
    (stands : session.Stands view base (scope :: scopes)) :
    ∃ after, pop solver session = .ok () after ∧ after.Stands view base scopes := by
  obtain ⟨second, outer, rfl⟩ := List.exists_cons_of_ne_nil above
  obtain ⟨after, popped, same, stack, -⟩ :=
    call_pop keeps pops { session with openScopes := outer.length + 1 } stands.2
  exact ⟨after, (pop_eq session stands.1).trans popped, same, stack⟩

theorem pop_ready (disciplined : solver.Disciplined view) {scope : List Term}
    {session : Session ω ε} (above : scopes ≠ [])
    (ready : session.Ready view base declarations (scope :: scopes)) :
    ∃ after, pop solver session = .ok () after ∧ after.Ready view base declarations scopes := by
  obtain ⟨second, outer, rfl⟩ := List.exists_cons_of_ne_nil above
  obtain ⟨after, popped, same, -, response⟩ :=
    call_pop disciplined.scopes disciplined.pops { session with openScopes := outer.length + 1 }
      ready.2.1
  have effect : Call.pop.apply (base.extend (scope :: second :: outer)) =
    base.extend (second :: outer) := rfl
  exact ⟨after, (pop_eq session ready.1).trans popped, same,
    shows_of_response disciplined response ready.2 effect above (fun _ _ => nofun) nofun⟩

theorem releaseScopes_stands (keeps : solver.KeepsScopes view) (pops : solver.PopsSucceed view)
    {failed : SessionError ε → Session ω ε → Prop} (scopes : List (List Term)) :
    Triple (Stands view base scopes) (releaseScopes solver scopes.length)
      (fun _ => Stands view base []) failed := by
  induction scopes with
  | nil => exact fun _ stands => stands
  | cons scope outer ih =>
      rintro session ⟨-, stack⟩
      obtain ⟨after, popped, same, popStack, -⟩ :=
        call_pop keeps pops { session with openScopes := outer.length } stack
      simp only [List.length_cons, releaseScopes, bind_apply, setScopes, modify_apply, popped]
      exact ih after ⟨same, popStack⟩

theorem release_stands (keeps : solver.KeepsScopes view) (pops : solver.PopsSucceed view)
    {session : Session ω ε}
    (stands : session.Stands view base scopes) :
    ∃ after, release solver session = .ok () after ∧ after.Stands view base [] := by
  have released : Meets (fun _ => Stands view base []) (fun _ _ => False)
      (releaseScopes solver scopes.length session) :=
    releaseScopes_stands keeps pops scopes session stands
  have same : release solver session = releaseScopes solver scopes.length session := by
    rw [← stands.1]; rfl
  rw [same]
  cases result : releaseScopes solver scopes.length session with
  | ok answer after => rw [result] at released; exact ⟨after, rfl, released⟩
  | error failure after => rw [result] at released; exact released.elim

theorem drop_stack (keeps : solver.KeepsScopes view) (pops : solver.PopsSucceed view)
    {session : Session ω ε}
    (stands : session.Stands view base scopes) :
    view.stack (session.drop solver).world = base := by
  obtain ⟨after, released, left⟩ := release_stands keeps pops stands
  unfold drop
  rw [released]
  exact left.2

theorem close_stack (keeps : solver.KeepsScopes view) (pops : solver.PopsSucceed view)
    {session : Session ω ε}
    (stands : session.Stands view base scopes) :
    ∃ run, session.close solver = .ok () run ∧ view.stack run.world = base := by
  obtain ⟨after, released, left⟩ := release_stands keeps pops stands
  unfold close
  rw [released]
  exact ⟨_, rfl, drop_stack keeps pops left⟩

theorem isUnsat_ready (disciplined : solver.Disciplined view) (above : scopes ≠ []) :
    Triple (Ready view base declarations scopes) (isUnsat solver)
      (fun unsat session => session.Ready view base declarations scopes ∧
        solver.Answers view declarations (base.extend scopes).assertions (.decided unsat))
      (fun _ => Stands view base scopes) := by
  rintro session ⟨counted, shown⟩
  unfold isUnsat check
  rw [bind_apply]
  cases result : call solver .check session with
  | error failure after =>
      obtain ⟨same, error, -, response⟩ := call_error result
      exact ⟨same.trans counted, (disciplined.scopes.fails response).trans shown.1⟩
  | ok verdict after =>
      obtain ⟨same, response⟩ := call_ok result
      have ready : after.Ready view base declarations scopes :=
        ⟨same.trans counted,
          shows_of_response disciplined response shown rfl above (fun _ _ => nofun) nofun⟩
      have asked (unsat : Bool) (isVerdict : verdict = .decided unsat) :
          solver.Answers view declarations (base.extend scopes).assertions (.decided unsat) :=
        ⟨session.run.world, after.run.world, shown.2.extends, by rw [shown.1], isVerdict ▸ response⟩
      cases verdict with
      | sat => exact ⟨ready, asked false rfl⟩
      | unsat => exact ⟨ready, asked true rfl⟩
      | unknown reason => exact ready.stands

theorem isUnsatWith_ready (disciplined : solver.Disciplined view) (above : scopes ≠ [])
    (term : Term) :
    Triple (Ready view base declarations scopes) (isUnsatWith solver term)
      (fun unsat session => session.Ready view base declarations scopes ∧
        solver.Answers view declarations ((base.extend scopes).assertions ++ [term])
          (.decided unsat))
      (fun _ session => ∃ scopes', session.Stands view base scopes') := by
  have asserted : (base.extend ([term] :: scopes)).assertions =
      (base.extend scopes).assertions ++ [term] := by
    simp [ScopeStack.assertions_extend]
  refine Triple.bind (pushAll_ready disciplined [term]) fun _ =>
    Triple.bind (Triple.attempt (isUnsat_ready disciplined (List.cons_ne_nil _ _))) fun outcome => ?_
  cases outcome with
  | ok unsat =>
      rintro session ⟨ready, asked⟩
      obtain ⟨after, popped, left⟩ := pop_ready disciplined above ready
      simp only [bind_apply, attempt, popped]
      exact ⟨left, asserted ▸ asked⟩
  | error failure =>
      intro session stands
      obtain ⟨after, popped, left⟩ := pop_stands disciplined.scopes disciplined.pops above stands
      simp only [bind_apply, attempt, popped]
      exact ⟨scopes, left⟩

/-! ## Whole sessions -/

theorem declares_append {world : ω} {depth : Nat} {name : String} {sort : TermSort}
    (first : ∃ anchor ≤ depth, view.declared world name = some ⟨sort, anchor⟩)
    (others : ∀ other sort, other ≠ name → declarations.signature other = some sort →
      ∃ anchor ≤ depth, view.declared world other = some ⟨sort, anchor⟩) :
    view.Declares (declarations ++ [(name, sort)]) depth world := by
  intro other sort' known
  simp only [Declarations.signature, List.reverse_append, List.reverse_cons, List.reverse_nil,
    List.nil_append, List.singleton_append, List.lookup_cons] at known
  by_cases same : other = name
  · subst same
    simp only [beq_self_eq_true] at known
    cases known
    exact first
  · have different : (other == name) = false := by simpa using same
    rw [different] at known
    exact others other sort' same known

theorem declareAll_ready (disciplined : solver.Disciplined view) (declarations : Declarations) :
    Triple (Ready view base [] [[]]) (declareAll solver declarations)
      (fun _ => Ready view base declarations [[]]) (fun _ => Stands view base [[]]) := by
  let invariant (rest : Declarations) (session : Session ω ε) : Prop :=
    ∃ done, done ++ rest = declarations ∧ session.Ready view base done [[]]
  have loop : Triple (invariant declarations) (declareAll solver declarations)
      (fun _ => invariant []) (fun _ => Stands view base [[]]) := by
    refine Triple.forM invariant ?_ declarations
    rintro ⟨name, sort⟩ rest session ⟨done, split, counted, stack, declared⟩
    show Meets (fun _ => invariant rest) (fun _ => Stands view base [[]])
      (call solver (.declare name sort) session)
    cases result : call solver (.declare name sort) session with
    | error failure after =>
        obtain ⟨same, error, -, response⟩ := call_error result
        exact ⟨same.trans counted, (disciplined.scopes.fails response).trans stack⟩
    | ok answer after =>
        obtain ⟨same, response⟩ := call_ok result
        obtain ⟨fresh, kept⟩ := disciplined.declarations.declares response
        have depth : (view.stack session.run.world).depth = base.depth + 1 := by
          rw [stack, ScopeStack.depth_extend, List.length_singleton, Nat.add_comm]
        rw [depth] at fresh
        refine ⟨done ++ [(name, sort)], by simpa using split, same.trans counted,
          (disciplined.scopes.succeeds response).trans stack, declares_append fresh ?_⟩
        intro other sort' different known
        obtain ⟨anchor, low, located⟩ := declared other sort' known
        exact ⟨anchor, low, kept other _ different located⟩
  refine loop.mono (fun session ready => ⟨[], rfl, ready⟩) ?_ fun _ _ stands => stands
  rintro _ session ⟨done, split, ready⟩
  rw [List.append_nil] at split
  rwa [← split]

theorem start_ready (disciplined : solver.Disciplined view) (declarations : Declarations)
    {run : Run ω ε} (stack : view.stack run.world = base) :
    Starts (Ready view base declarations [[]]) (fun after => view.stack after.world = base)
      (start solver declarations run) := by
  refine start_rule ?_ (declareAll_ready disciplined declarations)
    fun _ stands => drop_stack disciplined.scopes disciplined.pops stands
  unfold Solver.call
  cases response : solver.respond .push run.world with
  | error _ world => exact (disciplined.scopes.fails response).trans stack
  | ok _ world =>
      have pushed : view.stack world = base.extend [[]] := by
        rw [disciplined.scopes.succeeds response, stack]
        rfl
      exact ⟨rfl, pushed, nofun⟩

theorem within_triple {τ δ α : Type} (disciplined : solver.Disciplined view)
    {embed : SessionError ε → δ} {body : EStateM δ (τ × Session ω ε) α} (before : τ → Prop)
    (after : α → τ → Prop) (failed : δ → τ → Prop)
    (work : Triple (fun state => before state.1 ∧ state.2.Ready view base declarations [[]]) body
      (fun value state => after value state.1 ∧ ∃ scopes, state.2.Stands view base scopes)
      (fun error state => failed error state.1 ∧ ∃ scopes, state.2.Stands view base scopes))
    (refused : ∀ error kept, before kept → failed (embed error) kept) :
    Triple (fun state => before state.1 ∧ view.stack state.2.world = base)
      (within solver embed declarations body)
      (fun value state => after value state.1 ∧ view.stack state.2.world = base)
      (fun error state => failed error state.1 ∧ view.stack state.2.world = base) := by
  refine within_rule ?_ ?_ work ?_ ?_
  · rintro kept run session ⟨holds, stack⟩ opening
    exact ⟨holds, (start_ready disciplined declarations stack).of_ok opening⟩
  · rintro kept run error left ⟨holds, stack⟩ opening
    exact ⟨refused error kept holds, (start_ready disciplined declarations stack).of_error opening⟩
  · rintro value kept session ⟨succeeds, scopes, stands⟩
    obtain ⟨closed, closing, left⟩ := close_stack disciplined.scopes disciplined.pops stands
    rw [closing]
    exact ⟨succeeds, left⟩
  · rintro error kept session ⟨fails, scopes, stands⟩
    exact ⟨fails, drop_stack disciplined.scopes disciplined.pops stands⟩

theorem isUnsatAlone_triple {τ : Type} (disciplined : solver.Disciplined view) (term : Term)
    (before : τ → Prop) :
    Triple (fun state => before state.1 ∧ view.stack state.2.world = base)
      (isUnsatAlone solver declarations term)
      (fun unsat state => (before state.1 ∧
        solver.Answers view declarations (base.assertions ++ [term]) (.decided unsat)) ∧
        view.stack state.2.world = base)
      (fun _ state => before state.1 ∧ view.stack state.2.world = base) := by
  have asserted : (base.extend [[]]).assertions = base.assertions := by
    simp [ScopeStack.assertions_extend]
  refine within_triple disciplined before (fun unsat kept => before kept ∧
      solver.Answers view declarations (base.assertions ++ [term]) (.decided unsat))
    (fun _ => before) (Triple.onSecond fun kept => ?_) fun _ _ holds => holds
  rintro session ⟨holds, ready⟩
  have asked := isUnsatWith_ready disciplined (List.cons_ne_nil _ _) term session ready
  cases result : isUnsatWith solver term session with
  | ok unsat after =>
      rw [result] at asked
      exact ⟨⟨holds, asserted ▸ asked.2⟩, [[]], asked.1.stands⟩
  | error failure after =>
      rw [result] at asked
      exact ⟨holds, asked⟩

end Session
end DeltaFrames
