import DeltaFrames.Proofs.Session.Invariant

/-!
# What a session writes down

The journal tells exactly which calls a session made and how they were answered. A session that
fails has stumbled at one call: an error, a query left undecided, or a query that was decided but
whose scopes could not be closed (`Stumble`). After that it only releases its scopes (`Broke`), and
the error it ends with is that of the call it stumbled at, whatever goes wrong later
(`Broke.failure`).
-/

namespace DeltaFrames

variable {ω ε : Type}

def Run.entries (run : Run ω ε) : List (Entry ε) := run.journal.toList

@[simp] theorem Run.entries_emit (run : Run ω ε) (event : Event ε) :
    (run.emit event).entries = run.entries ++ [.event event] := by
  simp [entries, emit]

@[simp] theorem Run.entries_log (run : Run ω ε) (exchange : Exchange ε) (world : ω) :
    (run.log exchange world).entries = run.entries ++ [.exchange exchange] := by
  simp [entries, log]

/-! ## Entries -/

def Call.failure : (made : Call) → made.Answer → Option (SessionError ε)
  | .check, .unknown reason => some (.unknown reason)
  | _, _ => none

namespace Entry

def failure : Entry ε → Option (SessionError ε)
  | .exchange made =>
      match made.answer with
      | .ok answer => made.call.failure answer
      | .error error => some (.backend error)
  | .event _ => none

def done (made : Call) (answer : made.Answer) : Entry ε := .exchange ⟨made, .ok answer⟩

def refused (made : Call) (error : ε) : Entry ε := .exchange ⟨made, .error error⟩

inductive Prepares : Entry ε → Prop where
  | done (made : Call) (answer : made.Answer) (noQuery : made ≠ .check) :
      Prepares (.done made answer)

inductive Releases : Entry ε → Prop where
  | popped (answer : Except ε Unit) : Releases (.exchange ⟨.pop, answer⟩)
  | warned (error : SessionError ε) : Releases (.event (.releaseFailed error))

theorem Prepares.failure_eq_none {entry : Entry ε} (prepares : entry.Prepares) :
    entry.failure = none := by
  cases prepares with
  | done made answer noQuery =>
      cases made with
      | check => exact absurd rfl noQuery
      | push => rfl
      | pop => rfl
      | declare _ _ => rfl
      | assert _ => rfl
      | reset => rfl

end Entry

def asserted (terms : List Term) : List (Entry ε) :=
  terms.map fun term => .done (.assert term) ()

def closed (scopes : Nat) : List (Entry ε) := List.replicate scopes (.done .pop ())

def asked (goal : Term) (verdict : Verdict) : List (Entry ε) :=
  [.done .push (), .done (.assert goal) (), .done .check verdict]

def opening (declarations : Declarations) : List (Entry ε) :=
  .done .push () :: declarations.map fun entry => .done (.declare entry.1 entry.2) ()

theorem closed_prepares (scopes : Nat) :
    ∀ entry ∈ (closed scopes : List (Entry ε)), entry.Prepares := by
  intro entry member
  rw [List.eq_of_mem_replicate member]
  exact .done _ _ nofun

theorem asserted_prepares (terms : List Term) :
    ∀ entry ∈ (asserted terms : List (Entry ε)), entry.Prepares :=
  List.forall_mem_map.2 fun _ _ => .done _ _ nofun

theorem opening_prepares (declarations : Declarations) :
    ∀ entry ∈ (opening declarations : List (Entry ε)), entry.Prepares :=
  List.forall_mem_cons.2 ⟨.done _ _ nofun, List.forall_mem_map.2 fun _ _ => .done _ _ nofun⟩

/-- The entries up to the one that is the reason for the failure. A query comes with the number of
pops that are still part of it; where one of them fails the query has come to nothing. -/
inductive Stumble (queries : Term → Nat → Prop) : SessionError ε → List (Entry ε) → Prop where
  | refused (made : Call) (error : ε) : Stumble queries (.backend error) [.refused made error]
  | undecided (reason : String) :
      Stumble queries (.unknown reason) [.done .check (.unknown reason)]
  | unreleased {goal : Term} {pops closings : Nat} (query : queries goal pops)
      (few : closings < pops) (unsat : Bool) (error : ε) :
      Stumble queries (.backend error)
        (asked goal (.decided unsat) ++ closed closings ++ [.refused .pop error])

theorem failure_closed (scopes : Nat) :
    (closed scopes : List (Entry ε)).findSome? Entry.failure = none :=
  List.findSome?_eq_none_iff.2 fun entry member =>
    (closed_prepares scopes entry member).failure_eq_none

theorem failure_asked (goal : Term) (unsat : Bool) :
    (asked goal (.decided unsat) : List (Entry ε)).findSome? Entry.failure = none := by
  cases unsat <;> rfl

theorem Stumble.failure {queries : Term → Nat → Prop} {failure : SessionError ε}
    {entries : List (Entry ε)} (stumble : Stumble queries failure entries) :
    entries.findSome? Entry.failure = some failure := by
  cases stumble with
  | refused made error => rfl
  | undecided reason => rfl
  | unreleased _ _ unsat error =>
      rw [List.findSome?_append, List.findSome?_append, failure_asked, failure_closed]
      rfl

/-! ## Sessions that fail -/

def Released (before : List (Entry ε)) (run : Run ω ε) : Prop :=
  ∃ released, run.entries = before ++ released ∧ ∀ entry ∈ released, entry.Releases

theorem Released.of_entries {before : List (Entry ε)} {run : Run ω ε}
    (written : run.entries = before) : Released before run :=
  ⟨[], by rw [written, List.append_nil], nofun⟩

theorem Released.onward {before : List (Entry ε)} {run next : Run ω ε} {entry : Entry ε}
    (released : Released before run) (written : next.entries = run.entries ++ [entry])
    (releases : entry.Releases) : Released before next := by
  obtain ⟨more, earlier, earlierReleases⟩ := released
  refine ⟨more ++ [entry], by rw [written, earlier, List.append_assoc], ?_⟩
  exact List.forall_mem_append.2 ⟨earlierReleases, List.forall_mem_singleton.2 releases⟩

def Broke (queries : Term → Nat → Prop) (past : List (Entry ε)) (failure : SessionError ε)
    (run : Run ω ε) : Prop :=
  ∃ prepared broken, Released (past ++ prepared ++ broken) run ∧
    (∀ entry ∈ prepared, entry.Prepares) ∧ Stumble queries failure broken

section Broke

variable {queries : Term → Nat → Prop} {past : List (Entry ε)} {failure : SessionError ε}
  {run : Run ω ε}

theorem Broke.of_stumble {broken : List (Entry ε)} (released : Released (past ++ broken) run)
    (stumble : Stumble queries failure broken) : Broke queries past failure run :=
  ⟨[], broken, by rwa [List.append_nil], nofun, stumble⟩

theorem Broke.after {prepared : List (Entry ε)} (prepares : ∀ entry ∈ prepared, entry.Prepares)
    (broke : Broke queries (past ++ prepared) failure run) : Broke queries past failure run := by
  obtain ⟨more, broken, released, morePrepares, stumble⟩ := broke
  refine ⟨prepared ++ more, broken, ?_, List.forall_mem_append.2 ⟨prepares, morePrepares⟩, stumble⟩
  rwa [← List.append_assoc past]

end Broke

namespace Session

open StateAction

variable {solver : Solver ω ε} {queries : Term → Nat → Prop} {scopes : Nat} {past : List (Entry ε)}

def At (scopes : Nat) (past : List (Entry ε)) (session : Session ω ε) : Prop :=
  session.openScopes = scopes ∧ session.run.entries = past

theorem call_at (made : Call) :
    Triple (At scopes past) (call solver made : EStateM _ (Session ω ε) _)
      (fun answer => At scopes (past ++ [.done made answer]))
      (fun failure session => ∃ error, failure = .backend error ∧
        At scopes (past ++ [.refused made error]) session) := by
  rintro session ⟨rfl, rfl⟩
  unfold call Solver.call
  cases solver.respond made session.run.world with
  | ok answer world => exact ⟨rfl, Run.entries_log ..⟩
  | error error world => exact ⟨error, rfl, rfl, Run.entries_log ..⟩

theorem plainCall_at (made : Call) :
    Triple (At scopes past) (call solver made : EStateM _ (Session ω ε) _)
      (fun answer => At scopes (past ++ [.done made answer]))
      (fun failure session => Broke queries past failure session.run) := by
  refine (call_at made).mono (fun _ written => written) (fun _ _ written => written) ?_
  rintro _ session ⟨error, rfl, written⟩
  exact .of_stumble (.of_entries written.2) (.refused made error)

theorem forM_at {β : Type} {body : β → EStateM (SessionError ε) (Session ω ε) PUnit}
    {entry : β → Entry ε} (prepares : ∀ item, (entry item).Prepares)
    (each : ∀ item past, Triple (At scopes past) (body item)
      (fun _ => At scopes (past ++ [entry item]))
      (fun failure session => Broke queries past failure session.run)) (items : List β) :
    Triple (At scopes past) (items.forM body) (fun _ => At scopes (past ++ items.map entry))
      (fun failure session => Broke queries past failure session.run) := by
  induction items generalizing past with
  | nil => exact fun session written => by rw [List.map_nil, List.append_nil]; exact written
  | cons item rest ih =>
      refine (each item past).bind fun _ => ih.mono (fun _ written => written) ?_ ?_
      · intro _ session written
        rwa [List.append_assoc, List.singleton_append] at written
      · exact fun _ _ broke => broke.after (List.forall_mem_singleton.2 (prepares item))

theorem pushAll_at (terms : List Term) :
    Triple (At scopes past) (pushAll solver terms : EStateM _ (Session ω ε) _)
      (fun _ => At (scopes + 1) (past ++ .done .push () :: asserted terms))
      (fun failure session => Broke queries past failure session.run) := by
  refine (plainCall_at .push).bind fun _ => Triple.get ?_
  rintro session ⟨rfl, written⟩
  have added : Triple (At (session.openScopes + 1) (past ++ [.done .push ()]))
      (assertAll solver terms)
      (fun _ => At (session.openScopes + 1) (past ++ [.done .push ()] ++ asserted terms))
      (fun failure after => Broke queries (past ++ [.done .push ()]) failure after.run) :=
    forM_at (fun term => .done (.assert term) () nofun) (fun term _ => plainCall_at (.assert term))
      terms
  refine (added { session with openScopes := session.openScopes + 1 } ⟨rfl, written⟩).mono ?_ ?_
  · rintro _ after later
    rwa [List.append_assoc, List.singleton_append] at later
  · exact fun _ _ broke => broke.after (List.forall_mem_singleton.2 (.done .push () nofun))

theorem pop_at (solver : Solver ω ε) :
    Triple (At (scopes + 2) past) (pop solver : EStateM _ (Session ω ε) _)
      (fun _ => At (scopes + 1) (past ++ [.done .pop ()]))
      (fun failure session => ∃ error, failure = .backend error ∧
        At (scopes + 1) (past ++ [.refused .pop error]) session) := by
  rintro session ⟨counted, written⟩
  rw [pop_eq session counted]
  exact call_at .pop { session with openScopes := scopes + 1 } ⟨rfl, written⟩

theorem releaseScopes_at (solver : Solver ω ε) (scopes : Nat) :
    Triple (At scopes past) (releaseScopes solver scopes : EStateM _ (Session ω ε) _)
      (fun _ => At 0 (past ++ closed scopes))
      (fun failure session => ∃ closings < scopes, ∃ error, failure = .backend error ∧
        session.run.entries = past ++ closed closings ++ [.refused .pop error]) := by
  induction scopes generalizing past with
  | zero => exact fun session written => ⟨written.1, written.2.trans (List.append_nil _).symm⟩
  | succ outer ih =>
      intro session written
      refine Triple.bind ((call_at .pop).mono (fun _ written => written)
        (fun _ _ written => written) ?_) (fun _ => ih.mono (fun _ written => written) ?_ ?_)
        { session with openScopes := outer } ⟨rfl, written.2⟩
      · rintro _ session ⟨error, rfl, written⟩
        refine ⟨0, Nat.succ_pos _, error, rfl, ?_⟩
        rw [written.2, closed, List.replicate_zero, List.append_nil]
      · rintro _ session written
        rwa [List.append_assoc] at written
      · rintro _ session ⟨closings, few, error, rfl, written⟩
        refine ⟨closings + 1, Nat.succ_lt_succ few, error, rfl, ?_⟩
        rw [written, closed, closed, List.replicate_succ]
        simp

theorem pop_released {before : List (Entry ε)} :
    Preserves (Released before) (solver.call .pop : EStateM ε (Run ω ε) _) := by
  intro run released
  unfold Solver.call
  cases solver.respond .pop run.world with
  | ok answer world => exact released.onward (Run.entries_log ..) (.popped _)
  | error error world => exact released.onward (Run.entries_log ..) (.popped _)

theorem drop_released {before : List (Entry ε)} {session : Session ω ε}
    (released : Released before session.run) : Released before (session.drop solver) :=
  drop_preserves pop_released (fun _ error released =>
    released.onward (Run.entries_emit ..) (.warned error)) released

theorem drop_broke {failure : SessionError ε} {session : Session ω ε}
    (broke : Broke queries past failure session.run) :
    Broke queries past failure (session.drop solver) := by
  obtain ⟨prepared, broken, released, known⟩ := broke
  exact ⟨prepared, broken, drop_released released, known⟩

theorem close_at {session : Session ω ε} (written : session.At scopes past) :
    Meets (fun _ run => run.entries = past ++ closed scopes)
      (fun failure run => ∃ closings < scopes, ∃ error, failure = .backend error ∧
        Released (past ++ closed closings ++ [.refused .pop error]) run) (session.close solver) := by
  obtain ⟨rfl, rfl⟩ := written
  have released := releaseScopes_at solver session.openScopes session ⟨rfl, rfl⟩
  have same : release solver session = releaseScopes solver session.openScopes session := rfl
  unfold close
  rw [same]
  cases result : releaseScopes solver session.openScopes session with
  | ok _ after =>
      rw [result] at released
      have nothing : release solver after = .ok () after := by
        simp only [release, bind_apply, get_apply, released.1, releaseScopes, pure_apply]
      simp only [Meets, drop, nothing]
      exact released.2
  | error failure after =>
      rw [result] at released
      obtain ⟨closings, few, error, rfl, written⟩ := released
      exact ⟨closings, few, error, rfl, drop_released (.of_entries written)⟩

theorem isUnsat_at (queries : Term → Nat → Prop) :
    Triple (At scopes past) (isUnsat solver : EStateM _ (Session ω ε) _)
      (fun unsat => At scopes (past ++ [.done .check (.decided unsat)]))
      (fun failure session => ∃ broken, Stumble queries failure broken ∧
        At scopes (past ++ broken) session) := by
  refine Triple.bind ((call_at .check).mono (fun _ written => written) (fun _ _ written => written)
    ?_) fun verdict => ?_
  · rintro _ session ⟨error, rfl, written⟩
    exact ⟨_, .refused .check error, written⟩
  · cases verdict with
    | sat => exact fun _ written => written
    | unsat => exact fun _ written => written
    | unknown reason => exact fun _ written => ⟨_, .undecided reason, written⟩

theorem isUnsatWith_at {goal : Term} {pops : Nat} (query : queries goal pops) (positive : 0 < pops) :
    Triple (At (scopes + 1) past) (isUnsatWith solver goal : EStateM _ (Session ω ε) _)
      (fun unsat => At (scopes + 1) (past ++ (asked goal (.decided unsat) ++ closed 1)))
      (fun failure session => Broke queries past failure session.run) := by
  let shown : List (Entry ε) := .done .push () :: asserted [goal]
  have prepares : ∀ entry ∈ shown, entry.Prepares :=
    List.forall_mem_cons.2 ⟨.done .push () nofun, asserted_prepares [goal]⟩
  refine (pushAll_at [goal]).bind fun _ => (Triple.attempt (isUnsat_at queries)).bind fun answer => ?_
  cases answer with
  | ok unsat =>
      refine (Triple.attempt (pop_at solver)).bind fun popped => ?_
      cases popped with
      | ok _ =>
          intro session written
          show At (scopes + 1) _ session
          simpa [At, asked, asserted, closed] using written
      | error _ =>
          -- The query was decided, but its scope is still open.
          rintro session ⟨error, rfl, -, written⟩
          refine .of_stumble (.of_entries ?_) (.unreleased query positive unsat error)
          rw [written]
          simp [asked, asserted, closed]
  | error failure =>
      rintro session ⟨broken, stumble, written⟩
      have popped := pop_at solver session written
      have broke {run : Run ω ε} (released : Released (past ++ shown ++ broken) run) :
          Broke queries past failure run := (Broke.of_stumble released stumble).after prepares
      simp only [bind_apply, attempt]
      cases result : pop solver session with
      | ok _ after =>
          rw [result] at popped
          exact broke ⟨_, popped.2, List.forall_mem_singleton.2 (.popped (.ok ()))⟩
      | error _ after =>
          rw [result] at popped
          obtain ⟨error, -, -, written⟩ := popped
          exact broke ⟨_, written, List.forall_mem_singleton.2 (.popped (.error error))⟩

/-! ## Whole sessions -/

theorem declareAll_at (solver : Solver ω ε) (queries : Term → Nat → Prop)
    (declarations : Declarations) :
    Triple (At scopes past) (declareAll solver declarations : EStateM _ (Session ω ε) _)
      (fun _ => At scopes
        (past ++ declarations.map fun entry => .done (.declare entry.1 entry.2) ()))
      (fun failure session => Broke queries past failure session.run) :=
  forM_at (fun entry => .done (.declare entry.1 entry.2) () nofun)
    (fun entry _ => plainCall_at (.declare entry.1 entry.2)) declarations

theorem start_at (queries : Term → Nat → Prop) (declarations : Declarations) {run : Run ω ε}
    (written : run.entries = past) :
    (∀ session, start solver declarations run = .ok session →
      session.At 1 (past ++ opening declarations)) ∧
    ∀ failure left, start solver declarations run = .error (failure, left) →
      Broke queries past failure left := by
  have pushed : Meets (fun _ after => after.entries = past ++ [.done .push ()])
      (fun error after => after.entries = past ++ [.refused .push error])
      (solver.call .push run) := by
    subst written
    unfold Solver.call
    cases solver.respond .push run.world <;> exact Run.entries_log ..
  cases result : solver.call .push run with
  | error error after =>
      rw [result] at pushed
      have refused : start solver declarations run = .error (.backend error, after) := by
        simp only [start, result]
      rw [refused]
      constructor
      · intro _ impossible
        cases impossible
      · intro _ _ same
        cases same
        exact .of_stumble (.of_entries pushed) (.refused .push error)
  | ok _ after =>
      rw [result] at pushed
      have declared := declareAll_at solver queries declarations
        { openScopes := 1, run := after } ⟨rfl, pushed⟩
      cases outcome : declareAll solver declarations { openScopes := 1, run := after } with
      | ok _ session =>
          rw [outcome] at declared
          have opened : start solver declarations run = .ok session := by
            simp only [start, result, outcome]
          rw [opened]
          constructor
          · intro _ same
            cases same
            rwa [List.append_assoc, List.singleton_append] at declared
          · intro _ _ impossible
            cases impossible
      | error error session =>
          rw [outcome] at declared
          have refused : start solver declarations run = .error (error, session.drop solver) := by
            simp only [start, result, outcome]
          rw [refused]
          have prepares : (Entry.done .push () : Entry ε).Prepares :=
            opening_prepares [] _ List.mem_cons_self
          constructor
          · intro _ impossible
            cases impossible
          · intro _ _ same
            cases same
            exact (drop_broke declared).after (List.forall_mem_singleton.2 prepares)

theorem isUnsatAlone_at {τ : Type} (declarations : Declarations) {goal : Term} (kept : τ)
    (query : queries goal 2) :
    Triple (fun state : τ × Run ω ε => state.1 = kept ∧ state.2.entries = past)
      (isUnsatAlone solver declarations goal)
      (fun unsat state => state.1 = kept ∧ state.2.entries =
        past ++ (opening declarations ++ (asked goal (.decided unsat) ++ closed 2)))
      (fun failure state => state.1 = kept ∧ Broke queries past failure state.2) := by
  have closes (unsat : Bool) (session : Session ω ε) (written : session.At 1
      (past ++ opening declarations ++ (asked goal (.decided unsat) ++ closed 1))) :
      Meets (fun _ run => run.entries =
          past ++ (opening declarations ++ (asked goal (.decided unsat) ++ closed 2)))
        (Broke queries past) (session.close solver) := by
    refine (close_at written).mono ?_ ?_
    · intro _ run left
      rw [left]
      simp [closed]
    · rintro _ run ⟨closings, few, error, rfl, released⟩
      obtain rfl : closings = 0 := by omega
      -- The base scope of a query on its own has to be closed as well before it counts.
      refine Broke.after (opening_prepares declarations) (.of_stumble ?_
        (.unreleased query Nat.one_lt_two unsat error))
      simpa [closed] using released
  exact isUnsatAlone_rule
    (fun _ session written => (start_at queries declarations written).1 session)
    (fun _ failure left written => (start_at queries declarations written).2 failure left)
    ((isUnsatWith_at query Nat.two_pos).mono (fun _ written => written) (fun _ _ written => written)
      fun _ _ broke => broke.after (opening_prepares declarations)) closes
    fun failure session (broke : Broke queries past failure session.run) => drop_broke broke

end Session
end DeltaFrames
