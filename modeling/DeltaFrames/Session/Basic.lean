import DeltaFrames.StateAction
import DeltaFrames.Journal

/-!
# Sessions

A session is a stretch of work with a solver in scopes of its own. Opening it opens a base scope
for the declarations; everything opened above that is counted, and ending the session pops what is
still open. A session may be closed, which reports the first pop that fails, or dropped, which
reports nothing but leaves a warning in the journal. Closing a session drops it as well, so that
scopes left behind by a failing pop are tried once more.
-/

namespace DeltaFrames

structure Session (ω ε : Type) where
  /-- The scopes open on behalf of the session, the base scope included. -/
  openScopes : Nat
  run : Run ω ε

namespace Session

open StateAction

variable {ω ε : Type}

def depth (session : Session ω ε) : Nat := session.openScopes - 1

def emit (session : Session ω ε) (event : Event ε) : Session ω ε :=
  { session with run := session.run.emit event }

def setScopes (openScopes : Nat) : EStateM (SessionError ε) (Session ω ε) Unit :=
  modify fun session => { session with openScopes }

variable (solver : Solver ω ε)

def call (made : Call) : EStateM (SessionError ε) (Session ω ε) made.Answer := fun session =>
  match solver.call made session.run with
  | .ok answer run => .ok answer { session with run }
  | .error error run => .error (.backend error) { session with run }

def assertAll (terms : List Term) : EStateM (SessionError ε) (Session ω ε) Unit :=
  terms.forM fun term => call solver (.assert term)

def pushAll (terms : List Term) : EStateM (SessionError ε) (Session ω ε) Unit := do
  call solver .push
  setScopes ((← get).openScopes + 1)
  assertAll solver terms

def push (term : Term) : EStateM (SessionError ε) (Session ω ε) Unit :=
  pushAll solver [term]

/-- Closes the innermost scope, but never the base scope. A scope no longer counts as soon as its
pop is tried. -/
def pop : EStateM (SessionError ε) (Session ω ε) Unit := do
  match (← get).openScopes with
  | 0 | 1 => throw .emptyScope
  | outer + 1 =>
      setScopes outer
      call solver .pop

def check : EStateM (SessionError ε) (Session ω ε) Verdict :=
  call solver .check

def isUnsat : EStateM (SessionError ε) (Session ω ε) Bool := do
  match ← check solver with
  | .unsat => return true
  | .sat => return false
  | .unknown reason => throw (.unknown reason)

/-- Whether the term contradicts the assertions. The term has a scope of its own, which is closed
whatever the query gave; of two failures the query's is reported. -/
def isUnsatWith (term : Term) : EStateM (SessionError ε) (Session ω ε) Bool := do
  push solver term
  let answer ← attempt (isUnsat solver)
  let closed ← attempt (pop solver)
  match answer, closed with
  | .error error, _ => throw error
  | .ok _, .error error => throw error
  | .ok value, .ok _ => return value

def releaseScopes : Nat → EStateM (SessionError ε) (Session ω ε) Unit
  | 0 => pure ()
  | outer + 1 => do
      setScopes outer
      call solver .pop
      releaseScopes outer

def release : EStateM (SessionError ε) (Session ω ε) Unit := do
  releaseScopes solver (← get).openScopes

def drop (session : Session ω ε) : Run ω ε :=
  match release solver session with
  | .ok _ after => after.run
  | .error error after => after.run.emit (.releaseFailed error)

def close (session : Session ω ε) : EStateM.Result (SessionError ε) (Run ω ε) Unit :=
  match release solver session with
  | .ok _ after => .ok () (after.drop solver)
  | .error error after => .error error (after.drop solver)

def declareAll (declarations : Declarations) : EStateM (SessionError ε) (Session ω ε) Unit :=
  declarations.forM fun (name, sort) => call solver (.declare name sort)

/-- Opens a session. One that cannot declare its variables is dropped at once. -/
def start (declarations : Declarations) (run : Run ω ε) :
    Except (SessionError ε × Run ω ε) (Session ω ε) :=
  match solver.call .push run with
  | .error error after => .error (.backend error, after)
  | .ok _ after =>
      match declareAll solver declarations { openScopes := 1, run := after } with
      | .ok _ session => .ok session
      | .error error session => .error (error, session.drop solver)

/-- Runs `body` in a session that ends with it: closed if `body` succeeds, dropped if it fails. -/
def within {τ δ α : Type} (embed : SessionError ε → δ) (declarations : Declarations)
    (body : EStateM δ (τ × Session ω ε) α) : EStateM δ (τ × Run ω ε) α := fun (kept, run) =>
  match start solver declarations run with
  | .error (error, after) => .error (embed error) (kept, after)
  | .ok session =>
      match body (kept, session) with
      | .error error (kept, session) => .error error (kept, session.drop solver)
      | .ok value (kept, session) =>
          match session.close solver with
          | .ok _ after => .ok value (kept, after)
          | .error error after => .error (embed error) (kept, after)

def isUnsatAlone {τ : Type} (declarations : Declarations) (term : Term) :
    EStateM (SessionError ε) (τ × Run ω ε) Bool :=
  within solver id declarations (onSecond (isUnsatWith solver term))

end Session
end DeltaFrames
