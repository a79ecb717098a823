import DeltaFrames.Proofs.Triple
import DeltaFrames.Session.Basic

namespace DeltaFrames.Session

open StateAction

variable {ω ε τ δ α : Type} {solver : Solver ω ε} {declarations : Declarations}

theorem call_rule {made : Call} {session : Session ω ε} {after : made.Answer → Run ω ε → Prop}
    {failed : Run ω ε → Prop}
    (met : Meets after (fun _ => failed) (solver.call made session.run)) :
    Meets (fun answer left => left.openScopes = session.openScopes ∧ after answer left.run)
      (fun _ left => left.openScopes = session.openScopes ∧ failed left.run)
      (call solver made session) := by
  unfold call
  cases result : solver.call made session.run with
  | ok answer run => rw [result] at met; exact ⟨rfl, met⟩
  | error error run => rw [result] at met; exact ⟨rfl, met⟩

def Starts (ready : Session ω ε → Prop) (refused : Run ω ε → Prop) :
    Except (SessionError ε × Run ω ε) (Session ω ε) → Prop
  | .ok session => ready session
  | .error failure => refused failure.2

theorem Starts.mono {ready ready' : Session ω ε → Prop} {refused : Run ω ε → Prop}
    {result : Except (SessionError ε × Run ω ε) (Session ω ε)}
    (starts : Starts ready refused result) (weaker : ∀ session, ready session → ready' session) :
    Starts ready' refused result := by
  cases result with
  | ok session => exact weaker session starts
  | error failure => exact starts

theorem Starts.of_ok {ready : Session ω ε → Prop} {refused : Run ω ε → Prop}
    {result : Except (SessionError ε × Run ω ε) (Session ω ε)}
    (starts : Starts ready refused result) {session : Session ω ε}
    (opened : result = .ok session) : ready session := by
  rwa [opened] at starts

theorem Starts.of_error {ready : Session ω ε → Prop} {refused : Run ω ε → Prop}
    {result : Except (SessionError ε × Run ω ε) (Session ω ε)}
    (starts : Starts ready refused result) {error : SessionError ε} {left : Run ω ε}
    (failed : result = .error (error, left)) : refused left := by
  rwa [failed] at starts

theorem start_rule {run : Run ω ε} {opened ready broken : Session ω ε → Prop}
    {refused : Run ω ε → Prop}
    (pushed : Meets (fun _ after => opened { openScopes := 1, run := after })
      (fun _ after => refused after) (solver.call .push run))
    (declared : Triple opened (declareAll solver declarations) (fun _ => ready) fun _ => broken)
    (dropped : ∀ session, broken session → refused (session.drop solver)) :
    Starts ready refused (start solver declarations run) := by
  cases answer : solver.call .push run with
  | error _ after =>
      rw [answer] at pushed
      simp only [start, answer]
      exact pushed
  | ok _ after =>
      rw [answer] at pushed
      have met := declared { openScopes := 1, run := after } pushed
      cases result : declareAll solver declarations { openScopes := 1, run := after } with
      | ok _ session =>
          rw [result] at met
          simp only [start, answer, result]
          exact met
      | error _ session =>
          rw [result] at met
          simp only [start, answer, result]
          exact dropped session met

theorem within_rule {embed : SessionError ε → δ} {body : EStateM δ (τ × Session ω ε) α}
    {before : τ × Run ω ε → Prop} {ready : τ × Session ω ε → Prop}
    {worked : α → τ × Session ω ε → Prop} {broken : δ → τ × Session ω ε → Prop}
    {after : α → τ × Run ω ε → Prop} {failed : δ → τ × Run ω ε → Prop}
    (opens : ∀ kept run session, before (kept, run) →
      start solver declarations run = .ok session → ready (kept, session))
    (refuses : ∀ kept run error left, before (kept, run) →
      start solver declarations run = .error (error, left) → failed (embed error) (kept, left))
    (work : Triple ready body worked broken)
    (closed : ∀ value kept session, worked value (kept, session) →
      Meets (fun _ left => after value (kept, left))
        (fun error left => failed (embed error) (kept, left)) (session.close solver))
    (dropped : ∀ error kept session, broken error (kept, session) →
      failed error (kept, session.drop solver)) :
    Triple before (within solver embed declarations body) after failed := by
  rintro ⟨kept, run⟩ holds
  cases opening : start solver declarations run with
  | error failure =>
      simp only [within, opening]
      exact refuses kept run failure.1 failure.2 holds opening
  | ok session =>
      have met := work (kept, session) (opens kept run session holds opening)
      cases result : body (kept, session) with
      | error error state =>
          rw [result] at met
          simp only [within, opening, result]
          exact dropped error state.1 state.2 met
      | ok value state =>
          rw [result] at met
          have ended := closed value state.1 state.2 met
          cases closing : state.2.close solver with
          | ok _ left =>
              rw [closing] at ended
              simp only [within, opening, result, closing]
              exact ended
          | error error left =>
              rw [closing] at ended
              simp only [within, opening, result, closing]
              exact ended

theorem isUnsatAlone_rule {term : Term} {kept : τ} {before : Run ω ε → Prop}
    {opened : Session ω ε → Prop} {answered : Bool → Session ω ε → Prop}
    {broken : SessionError ε → Session ω ε → Prop} {after : Bool → Run ω ε → Prop}
    {failed : SessionError ε → Run ω ε → Prop}
    (opens : ∀ run session, before run → start solver declarations run = .ok session →
      opened session)
    (refuses : ∀ run error left, before run →
      start solver declarations run = .error (error, left) → failed error left)
    (asks : Triple opened (isUnsatWith solver term) answered broken)
    (closes : ∀ unsat session, answered unsat session →
      Meets (fun _ run => after unsat run) failed (session.close solver))
    (drops : ∀ error session, broken error session → failed error (session.drop solver)) :
    Triple (fun state : τ × Run ω ε => state.1 = kept ∧ before state.2)
      (isUnsatAlone solver declarations term)
      (fun unsat state => state.1 = kept ∧ after unsat state.2)
      (fun error state => state.1 = kept ∧ failed error state.2) := by
  have work : Triple (fun state : τ × Session ω ε => state.1 = kept ∧ opened state.2)
      (onSecond (isUnsatWith solver term))
      (fun unsat state => state.1 = kept ∧ answered unsat state.2)
      (fun error state => state.1 = kept ∧ broken error state.2) := by
    refine Triple.onSecond fun other => ?_
    rintro session ⟨same, isOpened⟩
    exact (asks session isOpened).mono (fun _ _ holds => ⟨same, holds⟩)
      fun _ _ holds => ⟨same, holds⟩
  refine within_rule ?_ ?_ work ?_ ?_
  · exact fun _ run session ⟨same, holds⟩ opening => ⟨same, opens run session holds opening⟩
  · exact fun _ run error left ⟨same, holds⟩ opening => ⟨same, refuses run error left holds opening⟩
  · rintro unsat _ session ⟨same, holds⟩
    exact (closes unsat session holds).mono (fun _ _ left => ⟨same, left⟩)
      fun _ _ left => ⟨same, left⟩
  · exact fun error _ session ⟨same, holds⟩ => ⟨same, drops error session holds⟩

end DeltaFrames.Session
