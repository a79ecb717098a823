import DeltaFrames.Proofs.Session.Rules

/-!
# Why sessions fail

A fault is an entry of the journal for a call that failed or a query that was left undecided. A
session that fails has met a fault, and nothing that is done in it takes an entry back.
-/

namespace DeltaFrames

variable {ω ε : Type}

def Call.isUndecided : (made : Call) → made.Answer → Bool
  | .check, .unknown _ => true
  | _, _ => false

def Exchange.isFault (exchange : Exchange ε) : Bool :=
  match exchange.answer with
  | .ok answer => exchange.call.isUndecided answer
  | .error _ => true

def Entry.isFault : Entry ε → Bool
  | .exchange made => made.isFault
  | .event _ => false

namespace Run

def faults (run : Run ω ε) : Nat :=
  run.journal.countP Entry.isFault

@[simp] theorem faults_emit (run : Run ω ε) (event : Event ε) :
    (run.emit event).faults = run.faults :=
  Array.countP_push_of_neg Bool.false_ne_true

theorem le_faults_emit {run : Run ω ε} {least : Nat} (few : least ≤ run.faults) (event : Event ε) :
    least ≤ (run.emit event).faults := by
  rwa [faults_emit]

theorem faults_log (run : Run ω ε) (exchange : Exchange ε) (world : ω) :
    (run.log exchange world).faults = run.faults + if exchange.isFault then 1 else 0 :=
  Array.countP_push

end Run

open StateAction

theorem Solver.call_faults (solver : Solver ω ε) (made : Call) (run : Run ω ε) :
    Meets (fun answer after =>
        after.faults = run.faults + if made.isUndecided answer then 1 else 0)
      (fun _ after => after.faults = run.faults + 1) (solver.call made run) := by
  unfold call
  cases solver.respond made run.world with
  | ok answer world => exact run.faults_log ⟨made, .ok answer⟩ world
  | error error world => exact run.faults_log ⟨made, .error error⟩ world

namespace Session

variable {solver : Solver ω ε}

def Counts (scopes least : Nat) (session : Session ω ε) : Prop :=
  session.openScopes = scopes ∧ least ≤ session.run.faults

variable {scopes least : Nat}

theorem Counts.mono {session : Session ω ε} {fewer : Nat} (counts : Counts scopes least session)
    (le : fewer ≤ least) : Counts scopes fewer session :=
  ⟨counts.1, Nat.le_trans le counts.2⟩

theorem call_faults (made : Call) :
    Triple (Counts scopes least) (call solver made : EStateM _ (Session ω ε) _)
      (fun answer => Counts scopes (least + if made.isUndecided answer then 1 else 0))
      (fun _ => Counts scopes (least + 1)) := by
  rintro session ⟨counted, few⟩
  have called := solver.call_faults made session.run
  unfold call
  cases result : solver.call made session.run with
  | ok answer after => rw [result] at called; exact ⟨counted, called ▸ Nat.add_le_add_right few _⟩
  | error _ after => rw [result] at called; exact ⟨counted, called ▸ Nat.add_le_add_right few _⟩

theorem anyCall_faults (made : Call) :
    Triple (Counts scopes least) (call solver made : EStateM _ (Session ω ε) _)
      (fun _ => Counts scopes least) (fun _ => Counts scopes (least + 1)) :=
  (call_faults made).mono (fun _ counts => counts)
    (fun _ _ counts => counts.mono (Nat.le_add_right ..)) fun _ _ counts => counts

theorem assertAll_faults (terms : List Term) :
    Triple (Counts scopes least) (assertAll solver terms : EStateM _ (Session ω ε) _)
      (fun _ => Counts scopes least) (fun _ => Counts scopes (least + 1)) :=
  Triple.forM (fun _ => Counts scopes least) (fun _ _ => anyCall_faults _) terms

theorem declareAll_faults (declarations : Declarations) :
    Triple (Counts scopes least) (declareAll solver declarations : EStateM _ (Session ω ε) _)
      (fun _ => Counts scopes least) (fun _ => Counts scopes (least + 1)) :=
  Triple.forM (fun _ => Counts scopes least) (fun _ _ => anyCall_faults _) declarations

theorem pushAll_faults (terms : List Term) :
    Triple (Counts scopes least) (pushAll solver terms : EStateM _ (Session ω ε) _)
      (fun _ => Counts (scopes + 1) least) (fun _ session => least < session.run.faults) := by
  refine ((anyCall_faults .push).mono (fun _ counts => counts) (fun _ _ counts => counts)
    fun _ _ counts => counts.2).bind fun _ => Triple.get ?_
  rintro session ⟨counted, few⟩
  refine (assertAll_faults terms).mono (fun _ counts => counts) (fun _ _ counts => counts)
    (fun _ _ counts => counts.2) { session with openScopes := session.openScopes + 1 } ?_
  exact ⟨by rw [counted], few⟩

theorem pop_faults :
    Triple (Counts (scopes + 2) least) (pop solver : EStateM _ (Session ω ε) _)
      (fun _ => Counts (scopes + 1) least) (fun _ => Counts (scopes + 1) (least + 1)) := by
  rintro session ⟨counted, few⟩
  have popped : pop solver session =
      call solver .pop { session with openScopes := scopes + 1 } := by
    unfold pop
    simp only [bind_apply, get_apply, counted, setScopes, modify_apply]
  rw [popped]
  exact anyCall_faults .pop { session with openScopes := scopes + 1 } ⟨rfl, few⟩

theorem isUnsat_faults :
    Triple (Counts scopes least) (isUnsat solver : EStateM _ (Session ω ε) _)
      (fun _ => Counts scopes least) (fun _ => Counts scopes (least + 1)) := by
  refine (call_faults .check).bind fun verdict => ?_
  cases verdict with
  | sat => exact fun _ counts => counts
  | unsat => exact fun _ counts => counts
  | unknown reason => exact fun _ counts => counts

theorem isUnsatWith_faults (term : Term) :
    Triple (Counts (scopes + 1) least) (isUnsatWith solver term : EStateM _ (Session ω ε) _)
      (fun _ => Counts (scopes + 1) least) (fun _ session => least < session.run.faults) := by
  refine (pushAll_faults [term]).bind fun _ => (Triple.attempt isUnsat_faults).bind fun answer => ?_
  cases answer with
  | ok unsat =>
      refine (Triple.attempt pop_faults).bind fun closed => ?_
      cases closed with
      | ok _ => exact fun _ counts => counts
      | error error => exact fun _ counts => counts.2
  | error error =>
      refine (Triple.attempt pop_faults).bind fun closed => ?_
      cases closed with
      | ok _ => exact fun _ counts => counts.2
      | error _ => exact fun _ counts => Nat.le_of_succ_le counts.2

theorem releaseScopes_faults (scopes : Nat) :
    Triple (fun session : Session ω ε => least ≤ session.run.faults) (releaseScopes solver scopes)
      (fun _ session => least ≤ session.run.faults)
      (fun _ session => least < session.run.faults) := by
  induction scopes with
  | zero => exact fun _ few => few
  | succ outer ih =>
      intro session few
      have popped : Meets (fun _ => Counts outer least) (fun _ => Counts outer (least + 1))
          (call solver .pop { session with openScopes := outer }) :=
        anyCall_faults .pop { session with openScopes := outer } ⟨rfl, few⟩
      simp only [releaseScopes, bind_apply, setScopes, modify_apply]
      cases result : call solver .pop { session with openScopes := outer } with
      | ok _ after => rw [result] at popped; exact ih after popped.2
      | error _ after => rw [result] at popped; exact popped.2

theorem release_faults (solver : Solver ω ε) :
    Triple (fun session : Session ω ε => least ≤ session.run.faults) (release solver)
      (fun _ session => least ≤ session.run.faults)
      (fun _ session => least < session.run.faults) :=
  Triple.get fun session few => releaseScopes_faults session.openScopes session few

theorem drop_faults {session : Session ω ε} (few : least ≤ session.run.faults) :
    least ≤ (session.drop solver).faults := by
  have released := release_faults solver session few
  unfold drop
  cases result : release solver session with
  | ok _ after => rw [result] at released; exact released
  | error _ after =>
      rw [result] at released
      rw [Run.faults_emit]
      exact Nat.le_of_lt released

theorem close_faults {session : Session ω ε} (few : least ≤ session.run.faults) :
    Meets (fun _ run => least ≤ run.faults) (fun _ run => least < run.faults)
      (session.close solver) := by
  have released := release_faults solver session few
  unfold close
  cases result : release solver session with
  | ok _ after => rw [result] at released; exact drop_faults released
  | error _ after => rw [result] at released; exact drop_faults released

theorem start_faults (solver : Solver ω ε) (declarations : Declarations) {run : Run ω ε}
    (few : least ≤ run.faults) :
    Starts (Counts 1 least) (fun after => least < after.faults)
      (start solver declarations run) := by
  refine start_rule ?_ (declareAll_faults declarations) fun session counts => drop_faults counts.2
  have called := solver.call_faults .push run
  cases result : solver.call .push run with
  | ok _ after =>
      rw [result] at called
      exact ⟨rfl, Nat.le_trans few (Nat.le_of_eq called.symm)⟩
  | error _ after =>
      rw [result] at called
      exact Nat.lt_of_lt_of_eq (Nat.lt_succ_of_le few) called.symm

theorem isUnsatAlone_faults {τ : Type} (declarations : Declarations) (term : Term) (kept : τ) :
    Triple (fun state : τ × Run ω ε => state.1 = kept ∧ least ≤ state.2.faults)
      (isUnsatAlone solver declarations term)
      (fun _ state => state.1 = kept ∧ least ≤ state.2.faults)
      (fun _ state => state.1 = kept ∧ least < state.2.faults) :=
  isUnsatAlone_rule
    (fun _ _ few opening => (start_faults solver declarations few).of_ok opening)
    (fun _ _ _ few opening => (start_faults solver declarations few).of_error opening)
    (isUnsatWith_faults term) (fun _ _ counts => close_faults counts.2)
    fun _ _ more => drop_faults more

end Session
end DeltaFrames
