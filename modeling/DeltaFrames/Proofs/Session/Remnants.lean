import DeltaFrames.Proofs.Session.Scopes
import DeltaFrames.Proofs.Solver.Scripted

namespace DeltaFrames.Session

open StateAction

variable {ω ε : Type} {solver : Solver ω ε} {view : View ω} {term : Term}

def Refuses (solver : Solver ω ε) (term : Term) (world : ω) (error : ε) (left : ω) : Prop :=
  ∃ opened, solver.respond .push world = .ok () opened ∧
    solver.respond (.assert term) opened = .error error left

def SameScopes (view : View ω) (session after : Session ω ε) : Prop :=
  after.openScopes = session.openScopes ∧
    view.stack after.run.world = view.stack session.run.world

theorem push_apply (session : Session ω ε) :
    push solver term session =
      match call solver .push session with
      | .ok _ opened =>
          call solver (.assert term) { opened with openScopes := opened.openScopes + 1 }
      | .error error after => .error error after := by
  simp only [push, pushAll, assertAll, List.forM, bind_apply, get_apply, setScopes, modify_apply]
  cases call solver .push session with
  | error _ _ => rfl
  | ok _ opened =>
      cases result : call solver (.assert term)
        { opened with openScopes := opened.openScopes + 1 } <;> simp [result]

theorem isUnsatWith_of_push_error {session after : Session ω ε} {failure : SessionError ε}
    (pushing : push solver term session = .error failure after) :
    isUnsatWith solver term session = .error failure after := by
  simp only [isUnsatWith, bind_apply, pushing]

section Query

variable (keeps : solver.KeepsScopes view)

include keeps

theorem push_cases (term : Term) (session : Session ω ε) :
    (∃ after, push solver term session = .ok () after ∧
      after.openScopes = session.openScopes + 1 ∧
      view.stack after.run.world = (view.stack session.run.world).extend [[term]] ∧
      ∀ error left, ¬ Refuses solver term session.run.world error left) ∨
    (∃ error after, push solver term session = .error (.backend error) after ∧
      SameScopes view session after ∧
      ∀ error left, ¬ Refuses solver term session.run.world error left) ∨
    ∃ error after, push solver term session = .error (.backend error) after ∧
      after.openScopes = session.openScopes + 1 ∧
      view.stack after.run.world = (view.stack session.run.world).push ∧
      Refuses solver term session.run.world error after.run.world := by
  rw [push_apply]
  cases pushing : call solver .push session with
  | error failure after =>
      obtain ⟨same, error, rfl, response⟩ := call_error pushing
      refine .inr (.inl ⟨error, after, rfl, ⟨same, keeps.fails response⟩, ?_⟩)
      rintro _ _ ⟨opened, responds, -⟩
      rw [response] at responds
      cases responds
  | ok _ opened =>
      obtain ⟨same, response⟩ := call_ok pushing
      have stack : view.stack opened.run.world = (view.stack session.run.world).push :=
        keeps.succeeds response
      simp only
      cases asserting : call solver (.assert term)
        { opened with openScopes := opened.openScopes + 1 } with
      | error failure after =>
          obtain ⟨counted, error, rfl, refusal⟩ := call_error asserting
          exact .inr (.inr ⟨error, after, rfl, by rw [counted, same],
            (keeps.fails refusal).trans stack, opened.run.world, response, refusal⟩)
      | ok _ after =>
          obtain ⟨counted, acceptance⟩ := call_ok asserting
          refine .inl ⟨after, rfl, by rw [counted, same], ?_, ?_⟩
          · rw [keeps.succeeds acceptance, stack]
            rfl
          · rintro _ _ ⟨world, responds, refusal⟩
            rw [response] at responds
            cases responds
            rw [acceptance] at refusal
            cases refusal

theorem isUnsat_sameScopes (session : Session ω ε) :
    SameScopes view session (finalState (isUnsat solver session)) := by
  unfold isUnsat check
  rw [bind_apply]
  cases checking : call solver .check session with
  | error failure after =>
      obtain ⟨same, error, -, response⟩ := call_error checking
      exact ⟨same, keeps.fails response⟩
  | ok verdict after =>
      obtain ⟨same, response⟩ := call_ok checking
      have kept : SameScopes view session after := ⟨same, keeps.succeeds response⟩
      cases verdict with
      | sat => exact kept
      | unsat => exact kept
      | unknown reason => exact kept

theorem pop_takes_scope (pops : solver.PopsSucceed view) {session : Session ω ε} {outer : Nat}
    {base : ScopeStack} {scope : List Term} (counted : session.openScopes = outer + 2)
    (stack : view.stack session.run.world = base.extend [scope]) :
    ∃ after, pop solver session = .ok () after ∧ after.openScopes = outer + 1 ∧
      view.stack after.run.world = base := by
  obtain ⟨after, popped, same, left, -⟩ :=
    call_pop keeps pops { session with openScopes := outer + 1 } stack
  exact ⟨after, (pop_eq session counted).trans popped, same, left⟩

theorem isUnsatWith_of_push (pops : solver.PopsSucceed view) {session pushed : Session ω ε}
    (opened : 0 < session.openScopes) (pushing : push solver term session = .ok () pushed)
    (counted : pushed.openScopes = session.openScopes + 1)
    (stack : view.stack pushed.run.world = (view.stack session.run.world).extend [[term]]) :
    SameScopes view session (finalState (isUnsatWith solver term session)) := by
  obtain ⟨outer, isOpened⟩ := Nat.exists_eq_succ_of_ne_zero (Nat.ne_of_gt opened)
  have asked := isUnsat_sameScopes keeps pushed
  obtain ⟨left, popping, same, restored⟩ := pop_takes_scope keeps pops
    (asked.1.trans (counted.trans (congrArg Nat.succ isOpened))) (asked.2.trans stack)
  have kept : SameScopes view session left := ⟨same.trans isOpened.symm, restored⟩
  simp only [isUnsatWith, bind_apply, pushing, attempt]
  cases asking : isUnsat solver pushed with
  | ok unsat after =>
      rw [asking, finalState_ok] at popping
      simp only [popping]
      exact kept
  | error failure after =>
      rw [asking, finalState_error] at popping
      simp only [popping]
      exact kept

end Query

/-- Pops succeed, and any other call may fail without effect. A query that is asked with a term
leaves the depth of the session and the scopes of the solver as they were, whether the term is found
to contradict them or not, the check is undecided or a call fails, unless the call that fails is the
one that asserts the term. Then the session is one scope deeper, and the solver has an empty scope
more. -/
theorem isUnsatWith_leaves_refused_scope (keeps : solver.KeepsScopes view)
    (pops : solver.PopsSucceed view) (term : Term) (session : Session ω ε)
    (opened : 0 < session.openScopes) :
    ((∀ error left, ¬ Refuses solver term session.run.world error left) →
      (finalState (isUnsatWith solver term session)).depth = session.depth ∧
      view.stack (finalState (isUnsatWith solver term session)).run.world =
        view.stack session.run.world) ∧
    ∀ error left, Refuses solver term session.run.world error left →
      ∃ after, isUnsatWith solver term session = .error (.backend error) after ∧
        after.depth = session.depth + 1 ∧ after.run.world = left ∧
        view.stack left = (view.stack session.run.world).push := by
  rcases push_cases keeps term session with ⟨pushed, pushing, counted, stack, accepted⟩ |
    ⟨error, after, pushing, same, accepted⟩ | ⟨error, after, pushing, counted, stack, refused⟩
  · refine ⟨fun _ => ?_, fun error left refused => absurd refused (accepted error left)⟩
    obtain ⟨same, restored⟩ := isUnsatWith_of_push keeps pops opened pushing counted stack
    exact ⟨congrArg (· - 1) same, restored⟩
  · refine ⟨fun _ => ?_, fun error left refused => absurd refused (accepted error left)⟩
    rw [isUnsatWith_of_push_error pushing]
    exact ⟨congrArg (· - 1) same.1, same.2⟩
  · refine ⟨fun accepted => absurd refused (accepted error _), ?_⟩
    rintro other left ⟨world, responds, refusal⟩
    obtain ⟨between, response, refuses⟩ := refused
    rw [response] at responds
    cases responds
    rw [refuses] at refusal
    cases refusal
    refine ⟨after, isUnsatWith_of_push_error pushing, ?_, rfl, stack⟩
    rw [depth, depth, counted]
    omega

def refusingSolver : Solver (World Scripted.State) String :=
  Scripted.solver { failures := [⟨.assert, 1, "boom"⟩] }

def refusingOpened : Session (World Scripted.State) String where
  openScopes := 1
  run := {
    world := { solver := { made := { push := 1 }, stack := { opened := [[]] } }, tokens := {} } }

theorem refused_scope_is_left :
    ∃ after, isUnsatWith refusingSolver (.var "x") refusingOpened =
        .error (.backend "boom") after ∧
      after.depth = 1 ∧ after.run.world.solver.stack = { opened := [[], []] } := by
  have pops : refusingSolver.PopsSucceed Scripted.view := Scripted.popsSucceed _ (by decide)
  have refused : Refuses refusingSolver (.var "x") refusingOpened.run.world "boom"
      { solver := { made := { push := 2, assert := 1 }, stack := { opened := [[], []] } }
        tokens := {} } := ⟨_, rfl, rfl⟩
  obtain ⟨after, result, deeper, world, -⟩ := (isUnsatWith_leaves_refused_scope
    (Scripted.keepsScopes _) pops (.var "x") refusingOpened Nat.one_pos).2 _ _ refused
  exact ⟨after, result, deeper, by rw [world]⟩

theorem not_every_query_restores_scopes :
    ¬ ∀ solver : Solver (World Scripted.State) String,
      solver.KeepsScopes Scripted.view → solver.PopsSucceed Scripted.view →
        ∀ (term : Term) (session : Session (World Scripted.State) String), 0 < session.openScopes →
          (finalState (isUnsatWith solver term session)).depth = session.depth ∧
          Scripted.view.stack (finalState (isUnsatWith solver term session)).run.world =
            Scripted.view.stack session.run.world := by
  intro restores
  have same := (restores refusingSolver (Scripted.keepsScopes _)
    (Scripted.popsSucceed _ (by decide)) (.var "x") refusingOpened Nat.one_pos).1
  have deeper : (finalState (isUnsatWith refusingSolver (.var "x") refusingOpened)).depth = 1 := rfl
  rw [deeper] at same
  cases same

end DeltaFrames.Session
