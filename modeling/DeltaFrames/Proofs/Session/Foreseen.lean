import DeltaFrames.Proofs.Session.Record

/-!
# Responses that are known beforehand

If it is known how a solver will respond to the calls of a query, so is the outcome of the query.
No call of it fails, the answer is the one foreseen, and the world is the one that the calls lead to
(`isUnsatAlone_foreseen`). A session `Awaits` the responses that are still to come.
-/

namespace DeltaFrames

open StateAction

variable {ω ε : Type}

inductive Solver.Responds (solver : Solver ω ε) : ω → List (Entry ε) → ω → Prop where
  | nothing {world : ω} : Responds solver world [] world
  | next {made : Call} {answer : made.Answer} {world between last : ω} {rest : List (Entry ε)}
      (response : solver.respond made world = .ok answer between)
      (others : Responds solver between rest last) :
      Responds solver world (.done made answer :: rest) last

namespace Session

variable {solver : Solver ω ε} {declarations : Declarations} {scopes : Nat}
  {future : List (Entry ε)} {last : ω}

def Awaits (solver : Solver ω ε) (scopes : Nat) (future : List (Entry ε)) (last : ω)
    (session : Session ω ε) : Prop :=
  session.openScopes = scopes ∧ solver.Responds session.run.world future last

abbrev Surely {σ α : Type} (before : σ → Prop) (action : EStateM (SessionError ε) σ α) (value : α)
    (after : σ → Prop) : Prop :=
  Triple before action (fun given state => given = value ∧ after state) fun _ _ => False

theorem Surely.exists_eq_ok {σ α : Type} {before after : σ → Prop} {value : α}
    {action : EStateM (SessionError ε) σ α} (surely : Surely before action value after) {state : σ}
    (holds : before state) : ∃ left, action state = .ok value left ∧ after left := by
  have met := surely state holds
  cases result : action state with
  | error _ _ => rw [result] at met; exact met.elim
  | ok given left =>
      rw [result] at met
      obtain ⟨rfl, afterwards⟩ := met
      exact ⟨left, rfl, afterwards⟩

theorem call_foreseen (made : Call) (answer : made.Answer) :
    Surely (Awaits solver scopes (.done made answer :: future) last) (call solver made) answer
      (Awaits solver scopes future last) := by
  rintro session ⟨counted, responds⟩
  cases responds with
  | next response others =>
      unfold call Solver.call
      rw [response]
      exact ⟨rfl, counted, others⟩

theorem forM_foreseen {β : Type} {body : β → EStateM (SessionError ε) (Session ω ε) Unit}
    {entry : β → Entry ε}
    (each : ∀ item future, Surely (Awaits solver scopes (entry item :: future) last) (body item) ()
      (Awaits solver scopes future last)) (items : List β) :
    Surely (Awaits solver scopes (items.map entry ++ future) last) (items.forM body) ()
      (Awaits solver scopes future last) := by
  have loop := Triple.forM (fun rest => Awaits solver scopes (rest.map entry ++ future) last)
    (fun item rest => (each item (rest.map entry ++ future)).mono (fun _ awaits => awaits)
      (fun _ _ left => left.2) fun _ _ impossible => impossible) items
  exact loop.mono (fun _ awaits => awaits) (fun _ _ left => ⟨rfl, left⟩) fun _ _ none => none

theorem pop_foreseen :
    Surely (Awaits solver (scopes + 2) (.done .pop () :: future) last) (pop solver) ()
      (Awaits solver (scopes + 1) future last) := by
  rintro session ⟨counted, responds⟩
  rw [pop_eq session counted]
  exact call_foreseen .pop () { session with openScopes := scopes + 1 } ⟨rfl, responds⟩

theorem pushAll_foreseen (terms : List Term) :
    Surely (Awaits solver scopes (.done .push () :: (asserted terms ++ future)) last)
      (pushAll solver terms) () (Awaits solver (scopes + 1) future last) := by
  refine (call_foreseen .push ()).bind fun _ => Triple.get ?_
  rintro session ⟨-, rfl, responds⟩
  exact forM_foreseen (fun term _ => call_foreseen (.assert term) ()) terms
    { session with openScopes := session.openScopes + 1 } ⟨rfl, responds⟩

theorem isUnsat_foreseen (unsat : Bool) :
    Surely (Awaits solver scopes (.done .check (.decided unsat) :: future) last) (isUnsat solver)
      unsat (Awaits solver scopes future last) := by
  refine (call_foreseen .check (.decided unsat)).bind fun verdict => ?_
  rintro session ⟨rfl, awaits⟩
  cases unsat with
  | true => exact ⟨rfl, awaits⟩
  | false => exact ⟨rfl, awaits⟩

theorem isUnsatWith_foreseen (goal : Term) (unsat : Bool) :
    Surely (Awaits solver (scopes + 1) (asked goal (.decided unsat) ++ (closed 1 ++ future)) last)
      (isUnsatWith solver goal) unsat (Awaits solver (scopes + 1) future last) := by
  refine (pushAll_foreseen [goal]).bind fun _ => ?_
  rintro session ⟨-, awaits⟩
  obtain ⟨between, answered, left⟩ := (isUnsat_foreseen unsat).exists_eq_ok awaits
  obtain ⟨after, popped, awaiting⟩ := pop_foreseen.exists_eq_ok left
  simp only [bind_apply, attempt, answered, popped]
  exact ⟨rfl, awaiting⟩

theorem start_foreseen (declarations : Declarations) {run : Run ω ε}
    (responds : solver.Responds run.world (opening declarations ++ future) last) :
    Starts (Awaits solver 1 future last) (fun _ => False) (start solver declarations run) := by
  have declared : Surely (Awaits solver 1
      (declarations.map (fun entry => .done (.declare entry.1 entry.2) ()) ++ future) last)
      (declareAll solver declarations) () (Awaits solver 1 future last) :=
    forM_foreseen (fun entry _ => call_foreseen (.declare entry.1 entry.2) ()) declarations
  refine start_rule ?_ (declared.mono (fun _ awaits => awaits) (fun _ _ left => left.2)
    fun _ _ impossible => impossible) fun _ impossible => impossible
  cases responds with
  | next response others =>
      unfold Solver.call
      rw [response]
      exact ⟨rfl, others⟩

theorem releaseScopes_foreseen (scopes : Nat) :
    Surely (Awaits solver scopes (closed scopes ++ future) last) (releaseScopes solver scopes) ()
      (Awaits solver 0 future last) := by
  induction scopes with
  | zero => exact fun session awaits => ⟨rfl, awaits⟩
  | succ outer ih =>
      rintro session ⟨-, responds⟩
      refine Triple.bind (call_foreseen .pop ()) (fun _ => ?_)
        { session with openScopes := outer } ⟨rfl, responds⟩
      exact fun between left => ih between left.2

theorem close_foreseen {session : Session ω ε}
    (awaits : session.Awaits solver scopes (closed scopes ++ future) last) :
    Meets (fun _ run => solver.Responds run.world future last) (fun _ _ => False)
      (session.close solver) := by
  obtain ⟨after, released, counted, responds⟩ :=
    (releaseScopes_foreseen scopes).exists_eq_ok awaits
  have ended : release solver session = .ok () after := by
    simp only [release, bind_apply, get_apply, awaits.1, released]
  have nothing : release solver after = .ok () after := by
    simp only [release, bind_apply, get_apply, counted, releaseScopes, pure_apply]
  simp only [close, ended, Meets, drop, nothing]
  exact responds

theorem isUnsatAlone_foreseen {τ : Type} (kept : τ) (goal : Term) (unsat : Bool) :
    Triple (fun state : τ × Run ω ε => state.1 = kept ∧ solver.Responds state.2.world
        (opening declarations ++ (asked goal (.decided unsat) ++ closed 2)) last)
      (isUnsatAlone solver declarations goal)
      (fun answer state => state.1 = kept ∧ answer = unsat ∧ state.2.world = last)
      (fun _ state => state.1 = kept ∧ False) := by
  have asks : Surely (Awaits solver 1 (asked goal (.decided unsat) ++ closed 2) last)
      (isUnsatWith solver goal) unsat (Awaits solver 1 (closed 1) last) :=
    isUnsatWith_foreseen goal unsat
  have closes (answer : Bool) (session : Session ω ε)
      (answered : answer = unsat ∧ session.Awaits solver 1 (closed 1) last) :
      Meets (fun _ run => answer = unsat ∧ run.world = last) (fun _ _ => False)
        (session.close solver) := by
    refine (close_foreseen answered.2).mono ?_ fun _ _ impossible => impossible
    intro _ run (responds : solver.Responds run.world [] last)
    cases responds
    exact ⟨answered.1, rfl⟩
  exact isUnsatAlone_rule (fun _ _ responds opens => (start_foreseen _ responds).of_ok opens)
    (fun _ _ _ responds refuses => (start_foreseen _ responds).of_error refuses)
    asks closes fun _ _ impossible => impossible

end Session
end DeltaFrames
