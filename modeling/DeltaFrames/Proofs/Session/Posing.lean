import DeltaFrames.Proofs.Session.Trace

/-!
# What is asserted when a check is made

The calls that succeeded tell which scopes a solver has that keeps them (`Tracked`). So it can be
told from the journal what is asserted when a check is made. What a session enters before it makes
a check is known beforehand, whether or not the calls that follow the check succeed (`AsksOnly`).
-/

namespace DeltaFrames

open StateAction

variable {ω ε : Type}

namespace Entry

def apply : Entry ε → ScopeStack → ScopeStack
  | .exchange ⟨call, .ok _⟩, stack => call.apply stack
  | .exchange ⟨_, .error _⟩, stack => stack
  | .event _, stack => stack

def declaration? : Entry ε → Option (String × TermSort)
  | .exchange ⟨.declare name sort, .ok _⟩ => some (name, sort)
  | _ => none

end Entry

def scopesAfter (stack : ScopeStack) (entries : List (Entry ε)) : ScopeStack :=
  entries.foldl (fun stack entry => entry.apply stack) stack

def declarationsOf (entries : List (Entry ε)) : Declarations :=
  entries.filterMap Entry.declaration?

theorem scopesAfter_append (stack : ScopeStack) (first second : List (Entry ε)) :
    scopesAfter stack (first ++ second) = scopesAfter (scopesAfter stack first) second :=
  List.foldl_append

theorem declarationsOf_append (first second : List (Entry ε)) :
    declarationsOf (first ++ second) = declarationsOf first ++ declarationsOf second :=
  List.filterMap_append

def Opens (scopes : List (List Term)) (entries : List (Entry ε)) : Prop :=
  ∀ stack, scopesAfter stack entries = stack.extend scopes

section Opens

variable {inner outer : List (List Term)} {first second : List (Entry ε)}

theorem Opens.append (opens : Opens outer first) (more : Opens inner second) :
    Opens (inner ++ outer) (first ++ second) := by
  intro stack
  rw [scopesAfter_append, opens, more]
  simp only [ScopeStack.extend, List.append_assoc]

theorem Opens.quietly {scopes : List (List Term)} (opens : Opens scopes first)
    (quiet : Opens [] second) : Opens scopes (first ++ second) :=
  opens.append quiet

theorem opens_nil : Opens [] ([] : List (Entry ε)) := fun _ => rfl

theorem opens_event (event : Event ε) : Opens [] [Entry.event event] := fun _ => rfl

theorem opens_opening (declarations : Declarations) :
    Opens [[]] (opening declarations : List (Entry ε)) := by
  intro stack
  have declared (stack : ScopeStack) : scopesAfter stack
      (declarations.map fun entry => (.done (.declare entry.1 entry.2) () : Entry ε)) = stack := by
    induction declarations with
    | nil => rfl
    | cons entry rest ih => exact ih
  exact declared stack.push

theorem opens_premises (terms : List Term) :
    Opens [terms] (.done .push () :: asserted terms : List (Entry ε)) := by
  intro stack
  have added (scope : List Term) : scopesAfter (stack.extend [scope])
      (asserted terms : List (Entry ε)) = stack.extend [scope ++ terms] := by
    induction terms generalizing scope with
    | nil => rw [List.append_nil]; rfl
    | cons term rest ih =>
        have more := ih (scope ++ [term])
        rwa [List.append_assoc, List.singleton_append] at more
  exact added []

theorem opens_query (goal : Term) (verdict : Verdict) :
    Opens [] (asked goal verdict ++ closed 1 : List (Entry ε)) := fun _ => rfl

theorem opens_queryAlone (declarations : Declarations) (goal : Term) (verdict : Verdict) :
    Opens [] (opening declarations ++ (asked goal verdict ++ closed 2) : List (Entry ε)) := by
  intro stack
  rw [scopesAfter_append, opens_opening]
  rfl

theorem Opens.closed {scopes : List (List Term)} (opens : Opens scopes first) :
    Opens [] (first ++ DeltaFrames.closed scopes.length) := by
  intro stack
  have popped : scopesAfter (stack.extend scopes)
      (DeltaFrames.closed scopes.length : List (Entry ε)) = stack := by
    clear opens
    induction scopes with
    | nil => rfl
    | cons scope outer ih => exact ih
  rw [scopesAfter_append, opens, popped]
  rfl

theorem declarationsOf_opening (declarations : Declarations) :
    declarationsOf (opening declarations : List (Entry ε)) = declarations := by
  have declared : declarationsOf
      (declarations.map fun entry => (.done (.declare entry.1 entry.2) () : Entry ε)) =
        declarations := by
    induction declarations with
    | nil => rfl
    | cons entry rest ih => exact congrArg (entry :: ·) ih
  exact declared

theorem declarationsOf_premises (terms : List Term) :
    declarationsOf (.done .push () :: asserted terms : List (Entry ε)) = [] := by
  have added : declarationsOf (asserted terms : List (Entry ε)) = [] := by
    induction terms with
    | nil => rfl
    | cons term rest ih => exact ih
  exact added

end Opens

def Tracked (solver : Solver ω ε) (view : View ω) (start run : Run ω ε) : Prop :=
  ∃ told, run.entries = start.entries ++ told ∧
    run.world = solver.after start.world (callsOf told) ∧
    ∀ before, before <+: told →
      view.stack (solver.after start.world (callsOf before)) =
        scopesAfter (view.stack start.world) before

section Tracked

variable {solver : Solver ω ε} {view : View ω} {start run : Run ω ε}

theorem tracked_self (solver : Solver ω ε) (view : View ω) (run : Run ω ε) :
    Tracked solver view run run := by
  refine ⟨[], (List.append_nil _).symm, rfl, fun before early => ?_⟩
  rw [List.prefix_nil.1 early]
  rfl

theorem Tracked.concat (tracked : Tracked solver view start run) {next : Run ω ε}
    {entry : Entry ε} (written : next.entries = run.entries ++ [entry])
    (world : next.world = solver.after run.world (callsOf [entry]))
    (stack : view.stack next.world = entry.apply (view.stack run.world)) :
    Tracked solver view start next := by
  obtain ⟨told, earlier, isWorld, tracks⟩ := tracked
  have nextWorld : next.world = solver.after start.world (callsOf (told ++ [entry])) := by
    rw [callsOf_append, Solver.after_append, ← isWorld, world]
  refine ⟨told ++ [entry], by rw [written, earlier, List.append_assoc], nextWorld, ?_⟩
  intro before early
  rcases List.prefix_concat_iff.1 early with rfl | sooner
  · rw [← nextWorld, stack, isWorld, tracks told (List.prefix_refl told), scopesAfter_append]
    rfl
  · exact tracks before sooner

theorem Tracked.emit (tracked : Tracked solver view start run) (event : Event ε) :
    Tracked solver view start (run.emit event) :=
  tracked.concat (Run.entries_emit run event) rfl rfl

theorem Session.tracked_invariant (keeps : solver.KeepsScopes view) (start : Run ω ε) :
    Session.Invariant solver (Tracked solver view start)
      fun session => Tracked solver view start session.run := by
  refine Session.invariant_of_calls (fun made run tracked => ?_) fun _ _ tracked => tracked.emit _
  unfold Solver.call
  cases response : solver.respond made run.world with
  | ok answer after =>
      exact tracked.concat (Run.entries_log ..) (congrArg finalState response).symm
        (keeps.succeeds response)
  | error error after =>
      exact tracked.concat (Run.entries_log ..) (congrArg finalState response).symm
        (keeps.fails response)

end Tracked

/-! ## Checks -/

def AsksOnly (due : List (Entry ε) → Entry ε → Prop) (told : List (Entry ε)) : Prop :=
  ∀ before entry rest, told = before ++ entry :: rest → entry.isCheck = true → due before entry

section AsksOnly

variable {due due' : List (Entry ε) → Entry ε → Prop} {told more : List (Entry ε)}

theorem asksOnly_of_unchecked (unchecked : ∀ entry ∈ told, entry.isCheck = false) :
    AsksOnly due told := by
  rintro before entry rest rfl check
  rw [unchecked entry (List.mem_append_right _ List.mem_cons_self)] at check
  cases check

theorem asksOnly_singleton {entry : Entry ε} (asks : due [] entry) : AsksOnly due [entry] := by
  intro before other rest same _
  cases before with
  | nil =>
      obtain ⟨rfl, -⟩ := List.cons.inj same
      exact asks
  | cons _ inner =>
      exact absurd (List.cons.inj same).2.symm (List.append_ne_nil_of_right_ne_nil _ nofun)

theorem AsksOnly.append (asks : AsksOnly due told)
    (others : AsksOnly (fun before => due (told ++ before)) more) :
    AsksOnly due (told ++ more) := by
  intro before entry rest same check
  rcases List.append_eq_append_iff.1 same with ⟨skipped, rfl, later⟩ | ⟨inner, earlier, later⟩
  · exact others skipped entry rest later check
  · cases inner with
    | nil =>
        rw [List.append_nil] at earlier
        have first : due (told ++ []) entry := others [] entry rest later.symm check
        rwa [List.append_nil, earlier] at first
    | cons other inner =>
        obtain ⟨rfl, -⟩ := List.cons.inj later
        exact asks before entry inner earlier check

theorem AsksOnly.mono (asks : AsksOnly due told)
    (weaker : ∀ before entry, due before entry → due' before entry) : AsksOnly due' told :=
  fun before entry rest same check => weaker before entry (asks before entry rest same check)

theorem AsksOnly.within (asks : AsksOnly due told) :
    AsksOnly (fun before entry => due before entry ∧ before ++ [entry] <+: told) told := by
  rintro before entry rest rfl check
  exact ⟨asks before entry rest rfl check, rest, List.append_assoc before [entry] rest⟩

end AsksOnly

def Asking (due : List (Entry ε) → Entry ε → Prop) (past : List (Entry ε)) (run : Run ω ε) : Prop :=
  ∃ told, run.entries = past ++ told ∧ AsksOnly due told

theorem Asking.asksOnly {due : List (Entry ε) → Entry ε → Prop} {past told : List (Entry ε)}
    {run : Run ω ε} (asking : Asking due past run) (written : run.entries = past ++ told) :
    AsksOnly due told := by
  obtain ⟨others, othersWritten, asks⟩ := asking
  obtain rfl : others = told := List.append_cancel_left (othersWritten.symm.trans written)
  exact asks

def Justified (reason : List (Entry ε) → Entry ε → Prop) (past : List (Entry ε)) (run : Run ω ε) :
    Prop :=
  Asking (fun before => reason (past ++ before)) past run

def Quiet (past : List (Entry ε)) (run : Run ω ε) : Prop :=
  ∃ told, run.entries = past ++ told ∧ Opens [] told

section Justified

variable {due reason weaker : List (Entry ε) → Entry ε → Prop} {past : List (Entry ε)}
  {between run : Run ω ε}

theorem asking_refl (due : List (Entry ε) → Entry ε → Prop) (run : Run ω ε) :
    Asking due run.entries run :=
  ⟨[], (List.append_nil _).symm, asksOnly_of_unchecked nofun⟩

theorem Justified.trans (earlier : Justified reason past between)
    (later : Justified reason between.entries run) : Justified reason past run := by
  obtain ⟨first, written, asks⟩ := earlier
  obtain ⟨second, onward, others⟩ := later
  refine ⟨first ++ second, by rw [onward, written, List.append_assoc], asks.append ?_⟩
  refine others.mono fun before check holds => ?_
  rwa [written, List.append_assoc] at holds

theorem Justified.mono (justified : Justified reason past run)
    (weakens : ∀ journal check, reason journal check → weaker journal check) :
    Justified weaker past run := by
  obtain ⟨told, written, asks⟩ := justified
  exact ⟨told, written, asks.mono fun _ _ holds => weakens _ _ holds⟩

theorem quiet_refl (run : Run ω ε) : Quiet run.entries run :=
  ⟨[], (List.append_nil _).symm, opens_nil⟩

theorem Quiet.trans (earlier : Quiet past between) (later : Quiet between.entries run) :
    Quiet past run := by
  obtain ⟨first, written, quiet⟩ := earlier
  obtain ⟨second, onward, others⟩ := later
  exact ⟨first ++ second, by rw [onward, written, List.append_assoc], quiet.quietly others⟩

theorem Quiet.emit (quiet : Quiet past run) (event : Event ε) : Quiet past (run.emit event) :=
  quiet.trans ⟨[.event event], Run.entries_emit run event, opens_event event⟩

end Justified

namespace Session

variable {solver : Solver ω ε} {due : List (Entry ε) → Entry ε → Prop} {past told : List (Entry ε)}

theorem asking_onward {run next : Run ω ε} (asking : Asking due past run) {entry : Entry ε}
    (written : next.entries = run.entries ++ [entry]) (noCheck : entry.isCheck = false) :
    Asking due past next := by
  obtain ⟨told, earlier, asks⟩ := asking
  refine ⟨told ++ [entry], by rw [written, earlier, List.append_assoc], ?_⟩
  exact asks.append (asksOnly_of_unchecked (List.forall_mem_singleton.2 noCheck))

theorem asking_emit {run : Run ω ε} (asking : Asking due past run) (event : Event ε) :
    Asking due past (run.emit event) :=
  asking_onward asking (Run.entries_emit run event) rfl

theorem call_asking {made : Call} (noCheck : made ≠ .check) :
    Preserves (Asking due past) (solver.call made : EStateM ε (Run ω ε) _) := by
  intro run asking
  have unchecked (answer : Except ε made.Answer) :
      Entry.isCheck (.exchange ⟨made, answer⟩) = false := by
    cases made with
    | check => exact absurd rfl noCheck
    | _ => rfl
  unfold Solver.call
  cases solver.respond made run.world with
  | ok answer world => exact asking_onward asking (Run.entries_log ..) (unchecked (.ok answer))
  | error error world => exact asking_onward asking (Run.entries_log ..) (unchecked (.error error))

theorem check_asking {run : Run ω ε} (written : run.entries = past ++ told)
    (asks : AsksOnly due told) (poses : ∀ entry, due told entry) :
    Meets (fun _ => Asking due past) (fun _ => Asking due past) (solver.call .check run) := by
  have asked (entry : Entry ε) : AsksOnly due (told ++ [entry]) := by
    apply asks.append
    apply asksOnly_singleton
    rw [List.append_nil]
    exact poses entry
  unfold Solver.call
  cases solver.respond .check run.world with
  | ok verdict world =>
      exact ⟨_, by rw [Run.entries_log, written, List.append_assoc], asked _⟩
  | error error world =>
      exact ⟨_, by rw [Run.entries_log, written, List.append_assoc], asked _⟩

/-! ## Sessions -/

section Sessions

variable {goal : Term} {scopes : Nat}

theorem pushAll_asking (terms : List Term) :
    Preserves (fun session : Session ω ε => Asking due past session.run)
      (pushAll solver terms) := by
  have opening : Preserves (fun session : Session ω ε => Asking due past session.run)
      (call solver .push) := call_preserves (call_asking nofun)
  have asserting (term : Term) :
      Preserves (fun session : Session ω ε => Asking due past session.run)
        (call solver (.assert term)) := call_preserves (call_asking nofun)
  refine opening.bind fun _ => Triple.get fun session asking => ?_
  exact Triple.forM (fun _ (session : Session ω ε) => Asking due past session.run)
    (fun term _ => asserting term) terms { session with openScopes := session.openScopes + 1 } asking

theorem drop_asking {session : Session ω ε} (asking : Asking due past session.run) :
    Asking due past (session.drop solver) :=
  drop_preserves (call_asking nofun) (fun _ _ asking => asking_emit asking _) asking

theorem close_asking {session : Session ω ε} (asking : Asking due past session.run) :
    Meets (fun _ => Asking due past) (fun _ => Asking due past) (session.close solver) :=
  close_preserves (call_asking nofun) (fun _ _ asking => asking_emit asking _) asking

theorem start_asking (declarations : Declarations) {run : Run ω ε} (asking : Asking due past run) :
    Starts (fun session => Asking due past session.run) (Asking due past)
      (start solver declarations run) := by
  have opening : Preserves (Asking due past) (solver.call .push : EStateM ε (Run ω ε) _) :=
    call_asking nofun
  have declaring (entry : String × TermSort) :
      Preserves (fun session : Session ω ε => Asking due past session.run)
        (call solver (.declare entry.1 entry.2)) := call_preserves (call_asking nofun)
  have declared : Preserves (fun session : Session ω ε => Asking due past session.run)
      (declareAll solver declarations) :=
    Triple.forM (fun _ (session : Session ω ε) => Asking due past session.run)
      (fun entry _ => declaring entry) declarations
  exact start_rule ((opening run asking).mono (fun _ _ left => left) fun _ _ left => left) declared
    fun _ broken => drop_asking broken

theorem isUnsatWith_asking (asks : AsksOnly due told)
    (poses : ∀ entry, due (told ++ .done .push () :: asserted [goal]) entry) :
    Triple (At scopes (past ++ told)) (isUnsatWith solver goal : EStateM _ (Session ω ε) _)
      (fun _ session => Asking due past session.run)
      (fun _ session => Asking due past session.run) := by
  let shown : List (Entry ε) := .done .push () :: asserted [goal]
  have unchecked : ∀ entry ∈ shown, entry.isCheck = false :=
    List.forall_mem_cons.2 ⟨rfl, unchecked_of_prepares (asserted_prepares [goal])⟩
  have pushes : Triple (At scopes (past ++ told)) (pushAll solver [goal])
      (fun _ => At (scopes + 1) (past ++ told ++ shown))
      (fun _ session => Asking due past session.run) := by
    intro session written
    have reached : Meets _
        (fun failure left => Broke (fun _ _ => True) (past ++ told) failure left.run)
        (pushAll solver [goal] session) := pushAll_at [goal] session written
    have asking : Meets (fun _ left => Asking due past left.run)
        (fun _ left => Asking due past left.run) (pushAll solver [goal] session) :=
      pushAll_asking [goal] session ⟨told, written.2, asks⟩
    exact (reached.and asking).mono (fun _ _ both => both.1) fun _ _ both => both.2
  have checks : Triple (At (scopes + 1) (past ++ told ++ shown)) (isUnsat solver)
      (fun _ session => Asking due past session.run)
      (fun _ session => Asking due past session.run) := by
    have checked : Triple (At (scopes + 1) (past ++ told ++ shown)) (call solver .check)
        (fun _ session => Asking due past session.run)
        (fun _ session => Asking due past session.run) := by
      rintro session ⟨-, written⟩
      rw [List.append_assoc] at written
      refine (call_rule (check_asking written ?_ poses)).mono (fun _ _ left => left.2)
        fun _ _ left => left.2
      exact asks.append (asksOnly_of_unchecked unchecked)
    refine checked.bind fun verdict => ?_
    cases verdict with
    | sat => exact fun _ asking => asking
    | unsat => exact fun _ asking => asking
    | unknown reason => exact fun _ asking => asking
  have pops : Preserves (fun session : Session ω ε => Asking due past session.run) (pop solver) :=
    pop_preserves (call_asking nofun)
  refine pushes.bind fun _ => (Triple.attempt checks).bind fun answer => ?_
  have asking : Preserves (fun session : Session ω ε => Asking due past session.run)
      (attempt (pop solver) : EStateM (SessionError ε) _ _) :=
    (Triple.attempt pops).mono (fun _ asking => asking)
      (fun outcome _ asking => by cases outcome <;> exact asking) fun _ _ asking => asking
  cases answer with
  | error failure => exact asking.bind fun _ _ left => left
  | ok unsat =>
      refine asking.bind fun popped => ?_
      cases popped with
      | error failure => exact fun _ left => left
      | ok _ => exact fun _ left => left

theorem isUnsatWith_posed (asks : AsksOnly due told)
    (poses : ∀ entry, due (told ++ .done .push () :: asserted [goal]) entry) :
    Triple (At (scopes + 1) (past ++ told)) (isUnsatWith solver goal : EStateM _ (Session ω ε) _)
      (fun unsat session =>
        At (scopes + 1) (past ++ (told ++ (asked goal (.decided unsat) ++ closed 1))) session ∧
        AsksOnly due (told ++ (asked goal (.decided unsat) ++ closed 1)))
      (fun _ session => Asking due past session.run) := by
  intro session written
  have reached : Meets _
      (fun failure left => Broke (fun _ _ => True) (past ++ told) failure left.run)
      (isUnsatWith solver goal session) := isUnsatWith_at trivial Nat.one_pos session written
  refine (reached.and (isUnsatWith_asking asks poses session written)).mono ?_
    fun _ _ both => both.2
  rintro unsat left ⟨⟨counted, entries⟩, asking⟩
  rw [List.append_assoc] at entries
  exact ⟨⟨counted, entries⟩, asking.asksOnly entries⟩

theorem start_posed (declarations : Declarations) {run : Run ω ε} (asks : AsksOnly due told)
    (written : run.entries = past ++ told) :
    Starts (At 1 (past ++ (told ++ opening declarations))) (Asking due past)
      (start solver declarations run) := by
  cases result : start solver declarations run with
  | error failure => exact (start_asking declarations ⟨told, written, asks⟩).of_error result
  | ok session =>
      rw [← List.append_assoc]
      exact (start_at (fun _ _ => True) declarations written).1 session result

theorem isUnsatAlone_posed {τ : Type} (declarations : Declarations) (kept : τ)
    (asks : AsksOnly due told)
    (poses : ∀ entry,
      due (told ++ opening declarations ++ .done .push () :: asserted [goal]) entry) :
    Triple (fun state : τ × Run ω ε => state.1 = kept ∧ state.2.entries = past ++ told)
      (isUnsatAlone solver declarations goal)
      (fun unsat state => state.1 = kept ∧
        state.2.entries = past ++
          (told ++ (opening declarations ++ (asked goal (.decided unsat) ++ closed 2))) ∧
        AsksOnly due (told ++ (opening declarations ++ (asked goal (.decided unsat) ++ closed 2))))
      (fun _ state => state.1 = kept ∧ Asking due past state.2) := by
  have prepared : AsksOnly due (told ++ opening declarations) :=
    asks.append (asksOnly_of_unchecked (unchecked_of_prepares (opening_prepares declarations)))
  have asking : Triple (fun state : τ × Run ω ε => state.1 = kept ∧ state.2.entries = past ++ told)
      (isUnsatAlone solver declarations goal)
      (fun _ state => state.1 = kept ∧ Asking due past state.2)
      (fun _ state => state.1 = kept ∧ Asking due past state.2) :=
    isUnsatAlone_rule
      (fun _ _ written opened => (start_posed declarations asks written).of_ok opened)
      (fun _ _ _ written refused => (start_posed declarations asks written).of_error refused)
      (isUnsatWith_asking prepared poses) (fun _ _ asking => close_asking asking)
      fun _ _ asking => drop_asking asking
  intro state written
  have reached : Meets _
      (fun failure (left : τ × Run ω ε) =>
        left.1 = kept ∧ Broke (fun _ _ => True) (past ++ told) failure left.2)
      (isUnsatAlone solver declarations goal state) :=
    isUnsatAlone_at declarations kept trivial state written
  refine (reached.and (asking state written)).mono ?_ fun _ _ both => both.2
  rintro unsat left ⟨⟨same, entries⟩, -, asking⟩
  rw [List.append_assoc] at entries
  exact ⟨same, entries, asking.asksOnly entries⟩

end Sessions

end Session
end DeltaFrames
