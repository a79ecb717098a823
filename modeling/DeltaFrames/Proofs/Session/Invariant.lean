import DeltaFrames.Proofs.Session.Scopes

/-!
# Invariants of sessions

An invariant of sessions says what holds of a run between sessions and what holds within one, no
matter which calls fail. It is enough to look at single calls (`Working`) and at the ending of a
session (`Invariant`); whatever else is done in sessions then keeps it as well. What every call
keeps is such an invariant (`invariant_of_calls`), and so is that a session works above the scopes
it found (`balanced_invariant`).
-/

namespace DeltaFrames.Session

open StateAction

variable {ω ε : Type}

structure Working (solver : Solver ω ε) (busy : Session ω ε → Prop) : Prop where
  declares : ∀ name sort, Preserves busy (call solver (.declare name sort))
  opens : Triple busy (call solver .push)
    (fun _ session => busy { session with openScopes := session.openScopes + 1 }) fun _ => busy
  asserts : ∀ term, Preserves busy (call solver (.assert term))
  checks : Preserves busy (call solver .check)
  pops : Preserves busy (pop solver)

structure Invariant (solver : Solver ω ε) (idle : Run ω ε → Prop) (busy : Session ω ε → Prop) :
    Prop extends Working solver busy where
  begins : ∀ run, idle run → Meets (fun _ after => busy { openScopes := 1, run := after })
    (fun _ => idle) (solver.call .push run)
  closes : ∀ session, busy session → Meets (fun _ => idle) (fun _ => idle) (session.close solver)
  drops : ∀ session, busy session → idle (session.drop solver)

variable {solver : Solver ω ε} {idle : Run ω ε → Prop} {busy : Session ω ε → Prop}

namespace Working

variable (working : Working solver busy)

include working

theorem declareAll (declarations : Declarations) : Preserves busy (declareAll solver declarations) :=
  Triple.forM (fun _ => busy) (fun entry _ => working.declares entry.1 entry.2) declarations

theorem pushAll (terms : List Term) : Preserves busy (pushAll solver terms) := by
  refine working.opens.bind fun _ => Triple.get fun session holds => ?_
  exact Triple.forM (fun _ => busy) (fun term _ => working.asserts term) terms
    { session with openScopes := session.openScopes + 1 } holds

theorem isUnsat : Preserves busy (isUnsat solver) := by
  refine working.checks.bind fun verdict => ?_
  cases verdict with
  | sat => exact fun _ holds => holds
  | unsat => exact fun _ holds => holds
  | unknown reason => exact fun _ holds => holds

theorem isUnsatWith (term : Term) : Preserves busy (isUnsatWith solver term) := by
  have attempted {α : Type} {action : EStateM (SessionError ε) (Session ω ε) α}
      (preserves : Preserves busy action) :
      Preserves busy (attempt action : EStateM (SessionError ε) _ _) :=
    (Triple.attempt preserves).mono (fun _ holds => holds)
      (fun outcome _ holds => by cases outcome <;> exact holds) fun _ _ holds => holds
  refine (working.pushAll [term]).bind fun _ => (attempted working.isUnsat).bind fun answer =>
    (attempted working.pops).bind fun closed => ?_
  cases answer with
  | error error => exact fun _ holds => holds
  | ok unsat =>
      cases closed with
      | error error => exact fun _ holds => holds
      | ok _ => exact fun _ holds => holds

end Working

namespace Invariant

variable (invariant : Invariant solver idle busy)

include invariant

theorem starts (declarations : Declarations) {run : Run ω ε} (holds : idle run) :
    Starts busy idle (start solver declarations run) :=
  start_rule (invariant.begins run holds) (invariant.declareAll declarations) invariant.drops

theorem isUnsatAlone {τ : Type} (declarations : Declarations) (term : Term) (kept : τ) :
    Preserves (fun state : τ × Run ω ε => state.1 = kept ∧ idle state.2)
      (isUnsatAlone solver declarations term) :=
  isUnsatAlone_rule (fun _ _ holds opening => (invariant.starts declarations holds).of_ok opening)
    (fun _ _ _ holds opening => (invariant.starts declarations holds).of_error opening)
    (invariant.isUnsatWith term) (fun _ => invariant.closes) fun _ => invariant.drops

end Invariant

section Calls

variable {kept : Run ω ε → Prop}

theorem call_preserves {made : Call} (called : Preserves kept (solver.call made)) :
    Preserves (fun session : Session ω ε => kept session.run) (call solver made) :=
  fun session holds =>
    (call_rule (called session.run holds)).mono (fun _ _ left => left.2) fun _ _ left => left.2

section Pops

variable (popped : Preserves kept (solver.call .pop))

include popped

theorem pop_preserves : Preserves (fun session : Session ω ε => kept session.run) (pop solver) := by
  refine Triple.get fun session holds => ?_
  cases session.openScopes with
  | zero => exact holds
  | succ below =>
      cases below with
      | zero => exact holds
      | succ outer => exact call_preserves popped { session with openScopes := outer + 1 } holds

theorem release_preserves :
    Preserves (fun session : Session ω ε => kept session.run) (release solver) := by
  have released (scopes : Nat) :
      Preserves (fun session : Session ω ε => kept session.run) (releaseScopes solver scopes) := by
    induction scopes with
    | zero => exact fun _ holds => holds
    | succ outer ih =>
        have counted : Preserves (fun session : Session ω ε => kept session.run)
            (setScopes outer : EStateM (SessionError ε) _ _) := fun _ holds => holds
        exact counted.bind fun _ => (call_preserves popped).bind fun _ => ih
  exact Triple.get fun session holds => released session.openScopes session holds

variable (warned : ∀ run error, kept run → kept (run.emit (.releaseFailed error)))

include warned

theorem drop_preserves {session : Session ω ε} (holds : kept session.run) :
    kept (session.drop solver) := by
  have released := release_preserves popped session holds
  unfold drop
  cases result : release solver session with
  | ok _ after => rwa [result] at released
  | error error after => rw [result] at released; exact warned after.run error released

theorem close_preserves {session : Session ω ε} (holds : kept session.run) :
    Meets (fun _ => kept) (fun _ => kept) (session.close solver) := by
  have released := release_preserves popped session holds
  unfold close
  cases result : release solver session with
  | ok _ after => rw [result] at released; exact drop_preserves popped warned released
  | error _ after => rw [result] at released; exact drop_preserves popped warned released

end Pops

theorem invariant_of_calls (called : ∀ made, Preserves kept (solver.call made))
    (warned : ∀ run error, kept run → kept (run.emit (.releaseFailed error))) :
    Invariant solver kept fun session : Session ω ε => kept session.run where
  begins run holds := (called .push run holds).mono (fun _ _ left => left) fun _ _ left => left
  declares name sort := call_preserves (called (.declare name sort))
  opens := call_preserves (called .push)
  asserts term := call_preserves (called (.assert term))
  checks := call_preserves (called .check)
  pops := pop_preserves (called .pop)
  closes _ holds := close_preserves (called .pop) warned holds
  drops _ holds := drop_preserves (called .pop) warned holds

theorem invariant_of_log (logged : ∀ run made world, kept run → kept (run.log made world))
    (warned : ∀ run error, kept run → kept (run.emit (.releaseFailed error))) :
    Invariant solver kept fun session : Session ω ε => kept session.run := by
  refine invariant_of_calls (fun made run holds => ?_) warned
  unfold Solver.call
  cases solver.respond made run.world with
  | ok answer world => exact logged run ⟨made, .ok answer⟩ world holds
  | error error world => exact logged run ⟨made, .error error⟩ world holds

end Calls

section Balanced

variable {view : View ω} {base : ScopeStack}

def Balanced (view : View ω) (base : ScopeStack) (session : Session ω ε) : Prop :=
  ∃ innermost outer, session.Stands view base (innermost :: outer)

theorem call_balanced (keeps : solver.KeepsScopes view) {made : Call}
    (plain : made.isPlain = true) :
    Preserves (Balanced view base) (call solver made) := by
  rintro session ⟨innermost, outer, counted, stack⟩
  cases result : call solver made session with
  | ok answer after =>
      obtain ⟨same, response⟩ := call_ok result
      obtain ⟨changed, changes⟩ := Call.apply_extend plain base innermost outer
      refine ⟨changed, outer, same.trans counted, ?_⟩
      rw [keeps.succeeds response, stack, changes]
  | error failure after =>
      obtain ⟨same, error, -, response⟩ := call_error result
      exact ⟨innermost, outer, same.trans counted, (keeps.fails response).trans stack⟩

theorem open_balanced (keeps : solver.KeepsScopes view) :
    Triple (Balanced view base) (call solver .push)
      (fun _ session => Balanced view base { session with openScopes := session.openScopes + 1 })
      fun _ => Balanced view base := by
  rintro session ⟨innermost, outer, counted, stack⟩
  cases result : call solver .push session with
  | ok answer after =>
      obtain ⟨same, response⟩ := call_ok result
      refine ⟨[], innermost :: outer, ?_, ?_⟩
      · rw [List.length_cons, ← counted, ← same]
      · rw [keeps.succeeds response, stack]
        rfl
  | error failure after =>
      obtain ⟨same, error, -, response⟩ := call_error result
      exact ⟨innermost, outer, same.trans counted, (keeps.fails response).trans stack⟩

theorem pop_balanced (keeps : solver.KeepsScopes view) (pops : solver.PopsSucceed view) :
    Preserves (Balanced view base) (pop solver : EStateM _ (Session ω ε) _) := by
  rintro session ⟨innermost, outer, stands⟩
  cases outer with
  | nil =>
      -- The base scope is refused, and nothing has happened.
      rw [pop_refused solver stands.1]
      exact ⟨innermost, [], stands⟩
  | cons second outer =>
      obtain ⟨after, popped, left⟩ := pop_stands keeps pops (List.cons_ne_nil second outer) stands
      rw [popped]
      exact ⟨second, outer, left⟩

theorem balanced_invariant (keeps : solver.KeepsScopes view) (pops : solver.PopsSucceed view) :
    Invariant solver (fun run => view.stack run.world = base) (Balanced view base) where
  begins run stack := by
    unfold Solver.call
    cases response : solver.respond .push run.world with
    | error _ world => exact (keeps.fails response).trans stack
    | ok _ world =>
        have pushed : view.stack world = base.extend [[]] := by
          rw [keeps.succeeds response, stack]
          rfl
        exact ⟨[], [], rfl, pushed⟩
  declares _ _ := call_balanced keeps rfl
  opens := open_balanced keeps
  asserts _ := call_balanced keeps rfl
  checks := call_balanced keeps rfl
  pops := pop_balanced keeps pops
  closes session := by
    rintro ⟨innermost, outer, stands⟩
    obtain ⟨run, closed, stack⟩ := close_stack keeps pops stands
    rw [closed]
    exact stack
  drops session := by
    rintro ⟨innermost, outer, stands⟩
    exact drop_stack keeps pops stands

end Balanced

end DeltaFrames.Session
