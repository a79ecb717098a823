import DeltaFrames.Proofs.Session.Scopes

/-!
# Sessions that come to a decision

With a decisive solver nothing goes wrong in a session: scopes can be opened, terms asserted and
variables declared, and a query is decided if it is about Boolean terms over the variables of the
session (`isUnsatWith_decided`).
-/

namespace DeltaFrames.Session

open StateAction

variable {ω ε : Type} {I : Interpretation} {solver : Solver ω ε} {view : View ω}
  {base : ScopeStack} {declarations : Declarations} {scopes : List (List Term)}

abbrev Accepted {σ α : Type} (action : EStateM (SessionError ε) σ α) : Prop :=
  Triple (fun _ => True) action (fun _ _ => True) fun _ _ => False

section Accepted

variable (decisive : solver.Decisive I view)

include decisive

theorem call_accepted (made : Call) (noCheck : made ≠ .check) (noPop : made ≠ .pop) :
    Accepted (call solver made : EStateM _ (Session ω ε) _) := by
  intro session _
  obtain ⟨answer, after, response⟩ := decisive.accepts made session.run.world noCheck noPop
  unfold call Solver.call
  rw [response]
  trivial

theorem pushAll_accepted (terms : List Term) :
    Accepted (pushAll solver terms : EStateM _ (Session ω ε) _) := by
  refine (call_accepted decisive .push nofun nofun).bind fun _ => Triple.get fun session _ => ?_
  exact Triple.forM (fun _ _ => True)
    (fun term _ => call_accepted decisive (.assert term) nofun nofun) terms
    { session with openScopes := session.openScopes + 1 } trivial

theorem start_accepted (declarations : Declarations) (run : Run ω ε) :
    Starts (fun _ => True) (fun _ => False) (start solver declarations run) := by
  refine start_rule ?_ (Triple.forM (fun _ _ => True) (fun entry _ =>
    call_accepted decisive (.declare entry.1 entry.2) nofun nofun) declarations) fun _ broken => broken
  obtain ⟨answer, after, response⟩ := decisive.accepts .push run.world nofun nofun
  unfold Solver.call
  rw [response]
  trivial

theorem pushAll_decided (terms : List Term) :
    Triple (Ready view base declarations scopes) (pushAll solver terms)
      (fun _ => Ready view base declarations (terms :: scopes)) (fun _ _ => False) :=
  ((pushAll_ready decisive.toDisciplined terms).and (pushAll_accepted decisive terms)).mono
    (fun _ ready => ⟨ready, trivial⟩) (fun _ _ ready => ready.1) fun _ _ impossible => impossible.2

theorem isUnsat_decided (above : scopes ≠ [])
    (sorted : ∀ term ∈ (base.extend scopes).assertions,
      term.HasSort declarations.signature .bool) :
    Triple (Ready view base declarations scopes) (isUnsat solver)
      (fun _ => Ready view base declarations scopes) (fun _ _ => False) := by
  intro session ready
  have met := isUnsat_ready decisive.toDisciplined above session ready
  have known : ∀ term ∈ (view.stack session.run.world).assertions,
      term.HasSort (view.signature session.run.world) .bool := by
    rw [ready.2.1]
    exact fun term member => (sorted term member).mono ready.2.2.extends
  obtain ⟨unsat, after, response⟩ := decisive.decides session.run.world known
  have decided : isUnsat solver session =
      .ok unsat { session with run := session.run.log ⟨.check, .ok (.decided unsat)⟩ after } := by
    simp only [isUnsat, check, call, Solver.call, bind_apply, response]
    cases unsat <;> rfl
  rw [decided] at met ⊢
  exact met.1

theorem isUnsatWith_decided (above : scopes ≠ []) (term : Term)
    (sorted : ∀ other ∈ (base.extend scopes).assertions ++ [term],
      other.HasSort declarations.signature .bool) :
    Triple (Ready view base declarations scopes) (isUnsatWith solver term)
      (fun _ => Ready view base declarations scopes) (fun _ _ => False) := by
  have asserted : (base.extend ([term] :: scopes)).assertions =
      (base.extend scopes).assertions ++ [term] := by
    simp [ScopeStack.assertions_extend]
  refine (pushAll_decided decisive [term]).bind fun _ => (Triple.attempt (isUnsat_decided decisive
    (List.cons_ne_nil _ _) (asserted ▸ sorted))).bind fun answer => ?_
  cases answer with
  | error failure => exact fun _ impossible => impossible.elim
  | ok unsat =>
      intro session ready
      obtain ⟨after, popped, left⟩ := pop_ready decisive.toDisciplined above ready
      simp only [bind_apply, attempt, popped]
      exact left

theorem isUnsatAlone_decided {τ : Type} (term : Term) (kept : τ)
    (sorted : ∀ other ∈ base.assertions ++ [term], other.HasSort declarations.signature .bool) :
    Triple (fun state : τ × Run ω ε => state.1 = kept ∧ view.stack state.2.world = base)
      (isUnsatAlone solver declarations term)
      (fun _ state => state.1 = kept ∧ view.stack state.2.world = base)
      (fun _ state => state.1 = kept ∧ False) := by
  have asserted : (base.extend [[]]).assertions = base.assertions := by
    simp [ScopeStack.assertions_extend]
  have closes (session : Session ω ε) (ready : session.Ready view base declarations [[]]) :
      Meets (fun _ run => view.stack run.world = base) (fun _ _ => False)
        (session.close solver) := by
    obtain ⟨run, closed, stack⟩ := close_stack decisive.scopes decisive.pops ready.stands
    rw [closed]
    exact stack
  exact isUnsatAlone_rule
    (fun _ session stack opening =>
      (start_ready decisive.toDisciplined declarations stack).of_ok opening)
    (fun run _ _ _ opening => (start_accepted decisive declarations run).of_error opening)
    (isUnsatWith_decided decisive (List.cons_ne_nil _ _) term (asserted ▸ sorted))
    (fun _ => closes) fun _ _ impossible => impossible

end Accepted

end DeltaFrames.Session
