import DeltaFrames.Proofs.Session.Trace
import DeltaFrames.Proofs.Solver.Scripted
import DeltaFrames.Session.Command

/-!
# Scopes that a session leaves behind

A scope counts from its push until its pop is tried, whether or not the pop succeeds. So above the
scopes that a session found there are those that count and those whose pop has failed, after every
single call (`Booked`).
-/

namespace DeltaFrames

open StateAction

variable {ω ε : Type}

namespace Entry

def opensScope : Entry ε → Bool
  | .exchange ⟨.push, .ok _⟩ => true
  | _ => false

def isPop : Entry ε → Bool
  | .exchange ⟨.pop, _⟩ => true
  | _ => false

def isFailedPop : Entry ε → Bool
  | .exchange ⟨.pop, .error _⟩ => true
  | _ => false

theorem isFailedPop_eq_false {entry : Entry ε} (noPop : entry.isPop = false) :
    entry.isFailedPop = false := by
  unfold isFailedPop
  split
  · cases noPop
  · rfl

end Entry

def failedPops (entries : List (Entry ε)) : Nat := entries.countP Entry.isFailedPop

/-- After these entries so many scopes count. The scopes that were found are as they were, and the
solver has as many above them as count or have failed to be closed. -/
structure Booked (solver : Solver ω ε) (view : View ω) (start : ω) (entries : List (Entry ε))
    (counted : Nat) : Prop where
  counts : entries.countP Entry.isPop + counted = entries.countP Entry.opensScope
  stack : ∃ scopes, view.stack (solver.after start (callsOf entries)) =
    (view.stack start).extend scopes ∧ scopes.length = counted + failedPops entries

/-- The run has come from the start by what was told, with so many scopes counted in the end. The
books were in order all the time, and no scope was popped unless one counted. -/
structure Accounts (solver : Solver ω ε) (view : View ω) (start : Run ω ε) (counted : Nat)
    (told : List (Entry ε)) (run : Run ω ε) : Prop where
  entries : run.entries = start.entries ++ told
  world : run.world = solver.after start.world (callsOf told)
  booked : Booked solver view start.world told counted
  always : ∀ before, before <+: told → ∃ still, Booked solver view start.world before still
  owned : ∀ before entry, before ++ [entry] <+: told → entry.isPop = true →
    ∃ outer, Booked solver view start.world before (outer + 1)

section Books

variable {solver : Solver ω ε} {view : View ω} {start run : Run ω ε} {counted : Nat}
  {told : List (Entry ε)}

theorem accounts_refl (solver : Solver ω ε) (view : View ω) (start : Run ω ε) :
    Accounts solver view start 0 [] start := by
  have nothing : Booked solver view start.world ([] : List (Entry ε)) 0 := ⟨rfl, [], rfl, rfl⟩
  refine ⟨(List.append_nil _).symm, rfl, nothing, fun before early => ?_,
    fun before entry early => ?_⟩
  · rw [List.prefix_nil.1 early]
    exact ⟨0, nothing⟩
  · exact absurd (List.prefix_nil.1 early) (List.append_ne_nil_of_right_ne_nil _ nofun)

theorem Accounts.stack (accounts : Accounts solver view start counted told run) :
    ∃ scopes, view.stack run.world = (view.stack start.world).extend scopes ∧
      scopes.length = counted + failedPops told := by
  rw [accounts.world]
  exact accounts.booked.stack

theorem Accounts.concat {run' : Run ω ε} {entry : Entry ε} {counted' : Nat}
    (accounts : Accounts solver view start counted told run)
    (written : run'.entries = run.entries ++ [entry])
    (world : run'.world = solver.after start.world (callsOf (told ++ [entry])))
    (booked : Booked solver view start.world (told ++ [entry]) counted')
    (own : entry.isPop = true → 0 < counted) :
    Accounts solver view start counted' (told ++ [entry]) run' where
  entries := by rw [written, accounts.entries, List.append_assoc]
  world := world
  booked := booked
  always before early := by
    rcases List.prefix_concat_iff.1 early with rfl | earlier
    · exact ⟨counted', booked⟩
    · exact accounts.always before earlier
  owned before last early isPop := by
    rcases List.prefix_concat_iff.1 early with same | earlier
    · obtain ⟨rfl, last⟩ := List.append_inj' same rfl
      obtain ⟨rfl, -⟩ := List.cons.inj last
      obtain ⟨outer, rfl⟩ := Nat.exists_eq_succ_of_ne_zero (Nat.ne_of_gt (own isPop))
      exact ⟨outer, accounts.booked⟩
    · exact accounts.owned before last earlier isPop

theorem Accounts.emit (accounts : Accounts solver view start counted told run) (event : Event ε) :
    Accounts solver view start counted (told ++ [.event event]) (run.emit event) := by
  have silent : callsOf (told ++ [.event event]) = callsOf told := by
    rw [callsOf_append]
    exact List.append_nil _
  refine accounts.concat (Run.entries_emit run event) (accounts.world.trans (by rw [silent])) ?_ nofun
  refine ⟨?_, ?_⟩
  · rw [List.countP_append, List.countP_append]
    exact accounts.booked.counts
  · rw [silent, failedPops, List.countP_append]
    exact accounts.booked.stack

/-! ## Single calls -/

theorem Accounts.log {made : Call} {answer : Except ε made.Answer} {after : ω} {counted' : Nat}
    {scopes : List (List Term)} (accounts : Accounts solver view start counted told run)
    (response : finalState (solver.respond made run.world) = after)
    (stack : view.stack after = (view.stack start.world).extend scopes)
    (counts : (told ++ [Entry.exchange ⟨made, answer⟩]).countP Entry.isPop + counted' =
      (told ++ [Entry.exchange ⟨made, answer⟩]).countP Entry.opensScope)
    (length : scopes.length = counted' + failedPops (told ++ [.exchange ⟨made, answer⟩]))
    (own : Entry.isPop (.exchange ⟨made, answer⟩) = true → 0 < counted) :
    Accounts solver view start counted' (told ++ [.exchange ⟨made, answer⟩])
      (run.log ⟨made, answer⟩ after) := by
  have world : after = solver.after start.world
      (callsOf (told ++ [.exchange ⟨made, answer⟩])) := by
    rw [callsOf_append, Solver.after_append, ← accounts.world]
    exact response.symm
  exact accounts.concat (Run.entries_log ..) world ⟨counts, scopes, world ▸ stack, length⟩ own

theorem Accounts.still {made : Call} {answer : Except ε made.Answer} {after : ω}
    {scopes : List (List Term)} (accounts : Accounts solver view start counted told run)
    (response : finalState (solver.respond made run.world) = after)
    (stack : view.stack after = (view.stack start.world).extend scopes)
    (length : scopes.length = counted + failedPops told)
    (noPush : Entry.opensScope (.exchange ⟨made, answer⟩) = false)
    (noPop : Entry.isPop (.exchange ⟨made, answer⟩) = false) :
    Accounts solver view start counted (told ++ [.exchange ⟨made, answer⟩])
      (run.log ⟨made, answer⟩ after) := by
  refine accounts.log response stack ?_ ?_ ?_
  · simpa [List.countP_append, noPush, noPop] using accounts.booked.counts
  · simpa [failedPops, List.countP_append, Entry.isFailedPop_eq_false noPop] using length
  · rw [noPop]
    exact nofun

variable (keeps : solver.KeepsScopes view) (accounts : Accounts solver view start counted told run)

include keeps accounts

theorem Accounts.refused {made : Call} {error : ε} {after : ω} (noPop : made ≠ .pop)
    (response : solver.respond made run.world = .error error after) :
    Accounts solver view start counted (told ++ [.exchange ⟨made, .error error⟩])
      (run.log ⟨made, .error error⟩ after) := by
  obtain ⟨scopes, stack, length⟩ := accounts.stack
  refine accounts.still (congrArg finalState response) ((keeps.fails response).trans stack) length
    ?_ ?_
  · cases made <;> rfl
  · cases made with
    | pop => exact absurd rfl noPop
    | _ => rfl

theorem Accounts.push :
    Meets (fun _ after => ∃ told, Accounts solver view start (counted + 1) told after)
      (fun _ after => ∃ told, Accounts solver view start counted told after)
      (solver.call .push run) := by
  unfold Solver.call
  cases response : solver.respond .push run.world with
  | error error after => exact ⟨_, accounts.refused keeps nofun response⟩
  | ok answer after =>
      obtain ⟨scopes, stack, length⟩ := accounts.stack
      have counts := accounts.booked.counts
      have pushed : view.stack after = (view.stack start.world).extend ([] :: scopes) := by
        rw [keeps.succeeds response, stack]
        rfl
      refine ⟨_, accounts.log (congrArg finalState response) pushed ?_ ?_ nofun⟩
      · simp [List.countP_append, Entry.isPop, Entry.opensScope]
        omega
      · simp [failedPops, List.countP_append, Entry.isFailedPop] at length ⊢
        omega

theorem Accounts.plainCall {made : Call} (plain : made.isPlain = true)
    (positive : 0 < counted) :
    Meets (fun _ after => ∃ told, Accounts solver view start counted told after)
      (fun _ after => ∃ told, Accounts solver view start counted told after)
      (solver.call made run) := by
  unfold Solver.call
  cases response : solver.respond made run.world with
  | error error after =>
      have noPop : made ≠ .pop := by
        rintro rfl
        cases plain
      exact ⟨_, accounts.refused keeps noPop response⟩
  | ok answer after =>
      obtain ⟨scopes, stack, length⟩ := accounts.stack
      obtain ⟨innermost, outer, rfl⟩ : ∃ innermost outer, scopes = innermost :: outer :=
        List.exists_cons_of_length_pos (by omega)
      obtain ⟨changed, effect⟩ := Call.apply_extend plain (view.stack start.world) innermost outer
      have changes : view.stack after = (view.stack start.world).extend (changed :: outer) := by
        rw [keeps.succeeds response, stack, effect]
      refine ⟨_, accounts.still (congrArg finalState response) changes length ?_ ?_⟩
      · cases made with
        | push => cases plain
        | _ => rfl
      · cases made with
        | pop => cases plain
        | _ => rfl

omit accounts in
theorem Accounts.pop (accounts : Accounts solver view start (counted + 1) told run) :
    Meets (fun _ after => ∃ told, Accounts solver view start counted told after)
      (fun _ after => ∃ told, Accounts solver view start counted told after ∧ 0 < failedPops told)
      (solver.call .pop run) := by
  obtain ⟨scopes, stack, length⟩ := accounts.stack
  have counts := accounts.booked.counts
  unfold Solver.call
  cases response : solver.respond .pop run.world with
  | error error after =>
      -- The scope is still there. It counts as a failed pop from now on.
      refine ⟨_, accounts.log (congrArg finalState response) ((keeps.fails response).trans stack)
        ?_ ?_ fun _ => Nat.succ_pos counted, ?_⟩
      · simp [List.countP_append, Entry.isPop, Entry.opensScope] at counts ⊢
        omega
      · simp [failedPops, List.countP_append, Entry.isFailedPop] at length ⊢
        omega
      · simp [failedPops, List.countP_append, Entry.isFailedPop]
  | ok answer after =>
      obtain ⟨innermost, outer, rfl⟩ : ∃ innermost outer, scopes = innermost :: outer :=
        List.exists_cons_of_length_pos (by omega)
      have popped : view.stack after = (view.stack start.world).extend outer := by
        rw [keeps.succeeds response, stack]
        rfl
      refine ⟨_, accounts.log (congrArg finalState response) popped ?_ ?_
        fun _ => Nat.succ_pos counted⟩
      · simp [List.countP_append, Entry.isPop, Entry.opensScope] at counts ⊢
        omega
      · simp [failedPops, List.countP_append, Entry.isFailedPop] at length ⊢
        omega

end Books

/-! ## Sessions -/

namespace Session

variable {solver : Solver ω ε} {view : View ω} {start : Run ω ε}

def Accounted (solver : Solver ω ε) (view : View ω) (start : Run ω ε) (session : Session ω ε) :
    Prop :=
  0 < session.openScopes ∧ ∃ told, Accounts solver view start session.openScopes told session.run

section Working

variable (keeps : solver.KeepsScopes view)

include keeps

theorem plainCall_counted {made : Call} (plain : made.isPlain = true)
    (scopes : Nat) :
    Preserves (fun session : Session ω ε =>
      session.openScopes = scopes ∧ Accounted solver view start session) (call solver made) := by
  rintro session ⟨rfl, positive, told, accounts⟩
  refine (call_rule (accounts.plainCall keeps plain positive)).mono ?_ ?_
  · rintro _ left ⟨same, kept⟩
    exact ⟨same, same ▸ positive, same ▸ kept⟩
  · rintro _ left ⟨same, kept⟩
    exact ⟨same, same ▸ positive, same ▸ kept⟩

theorem plainCall_accounts {made : Call} (plain : made.isPlain = true) :
    Preserves (Accounted solver view start) (call solver made) :=
  fun session accounted => (plainCall_counted keeps plain session.openScopes session
    ⟨rfl, accounted⟩).mono (fun _ _ left => left.2) fun _ _ left => left.2

theorem tryPop_accounts {session : Session ω ε} {outer : Nat} {told : List (Entry ε)}
    (accounts : Accounts solver view start (outer + 1) told session.run) :
    Meets
      (fun _ left => left.openScopes = outer ∧ ∃ told, Accounts solver view start outer told left.run)
      (fun _ left => left.openScopes = outer ∧
        ∃ told, Accounts solver view start outer told left.run ∧ 0 < failedPops told)
      (call solver .pop { session with openScopes := outer }) :=
  @call_rule ω ε solver .pop { session with openScopes := outer } _ _ (accounts.pop keeps)

theorem pop_accounts : Preserves (Accounted solver view start) (pop solver) := by
  rintro session ⟨positive, told, accounts⟩
  match counted : session.openScopes with
  | 0 => exact absurd counted (Nat.ne_of_gt positive)
  | 1 =>
      rw [pop_refused solver counted]
      exact ⟨positive, told, accounts⟩
  | outer + 2 =>
      rw [counted] at accounts
      rw [pop_eq session counted]
      refine (tryPop_accounts keeps accounts).mono ?_ ?_
      · rintro _ left ⟨same, kept⟩
        exact ⟨same ▸ Nat.succ_pos outer, same ▸ kept⟩
      · rintro _ left ⟨same, told, kept, -⟩
        exact ⟨same ▸ Nat.succ_pos outer, told, same ▸ kept⟩

theorem working_accounts : Working solver (Accounted solver view start) where
  declares _ _ := plainCall_accounts keeps rfl
  opens := by
    rintro session ⟨positive, told, accounts⟩
    refine (call_rule (accounts.push keeps)).mono ?_ ?_
    · rintro _ left ⟨same, kept⟩
      exact ⟨Nat.succ_pos _, same ▸ kept⟩
    · rintro _ left ⟨same, kept⟩
      exact ⟨same ▸ positive, same ▸ kept⟩
  asserts _ := plainCall_accounts keeps rfl
  checks := plainCall_accounts keeps rfl
  pops := pop_accounts keeps

end Working

theorem Working.perform {busy : Session ω ε → Prop} (working : Working solver busy)
    (command : Command) : Preserves busy (perform solver command) := by
  have replied {α : Type} {action : EStateM (SessionError ε) (Session ω ε) α}
      (reply : α → Reply) (preserves : Preserves busy action) :
      Preserves busy (do return reply (← action)) :=
    preserves.bind fun _ _ holds => holds
  cases command with
  | push term => exact replied (fun _ => .done) (working.pushAll [term])
  | pushAll terms => exact replied (fun _ => .done) (working.pushAll terms)
  | pop => exact replied (fun _ => .done) working.pops
  | check => exact replied .verdict working.checks
  | isUnsat => exact replied .holds working.isUnsat
  | isUnsatWith term => exact replied .holds (working.isUnsatWith term)

def performAll (solver : Solver ω ε) (commands : List Command) (session : Session ω ε) :
    Session ω ε :=
  commands.foldl (fun session command => finalState (perform solver command session)) session

theorem Working.performAll {busy : Session ω ε → Prop} (working : Working solver busy)
    (commands : List Command) {session : Session ω ε} (holds : busy session) :
    busy (performAll solver commands session) := by
  induction commands generalizing session with
  | nil => exact holds
  | cons command rest ih => exact ih ((working.perform command).finalState holds)

/-! ## Ends -/

def leftover (solver : Solver ω ε) (session : Session ω ε) : Nat :=
  (finalState (release solver session)).openScopes

/-- How a session that is given these commands may end, and the scopes it still counts then. One
that is closed is dropped as well, whether closing it fails or not. -/
inductive Ending (solver : Solver ω ε) (declarations : Declarations) (start : Run ω ε)
    (commands : List Command) : Nat → Run ω ε → Prop where
  | refused {error : SessionError ε} {left : Run ω ε}
      (opening : Session.start solver declarations start = .error (error, left)) :
      Ending solver declarations start commands 0 left
  | dropped {session : Session ω ε}
      (opening : Session.start solver declarations start = .ok session) :
      Ending solver declarations start commands
        (leftover solver (performAll solver commands session))
        ((performAll solver commands session).drop solver)
  | closed {session : Session ω ε}
      (opening : Session.start solver declarations start = .ok session) :
      Ending solver declarations start commands
        (leftover solver (finalState (release solver (performAll solver commands session))))
        (finalState ((performAll solver commands session).close solver))

section Ends

variable (keeps : solver.KeepsScopes view)

include keeps

theorem releaseScopes_accounts (scopes : Nat) :
    Triple (fun session : Session ω ε =>
        session.openScopes = scopes ∧ ∃ told, Accounts solver view start scopes told session.run)
      (releaseScopes solver scopes)
      (fun _ session =>
        session.openScopes = 0 ∧ ∃ told, Accounts solver view start 0 told session.run)
      (fun _ session => ∃ told, Accounts solver view start session.openScopes told session.run ∧
        0 < failedPops told) := by
  induction scopes with
  | zero => exact fun _ accounted => accounted
  | succ outer ih =>
      rintro session ⟨-, told, accounts⟩
      have tried := tryPop_accounts keeps accounts
      simp only [releaseScopes, bind_apply, setScopes, modify_apply]
      cases result : call solver .pop { session with openScopes := outer } with
      | ok _ left =>
          rw [result] at tried
          exact ih left tried
      | error _ left =>
          rw [result] at tried
          obtain ⟨same, told, kept, failed⟩ := tried
          exact ⟨told, same ▸ kept, failed⟩

theorem release_accounts {session : Session ω ε} {told : List (Entry ε)}
    (accounts : Accounts solver view start session.openScopes told session.run) :
    Meets (fun _ left => left.openScopes = 0 ∧ ∃ told, Accounts solver view start 0 told left.run)
      (fun _ left => ∃ told, Accounts solver view start left.openScopes told left.run ∧
        0 < failedPops told)
      (release solver session) :=
  releaseScopes_accounts keeps session.openScopes session ⟨rfl, told, accounts⟩

theorem drop_accounts {session : Session ω ε} {told : List (Entry ε)}
    (accounts : Accounts solver view start session.openScopes told session.run) :
    ∃ told, Accounts solver view start (leftover solver session) told (session.drop solver) ∧
      (failedPops told = 0 → leftover solver session = 0) := by
  have released := release_accounts keeps accounts
  unfold leftover drop
  cases result : release solver session with
  | ok _ left =>
      rw [result] at released
      obtain ⟨none, told, kept⟩ := released
      exact ⟨told, none ▸ kept, fun _ => none⟩
  | error error left =>
      rw [result] at released
      obtain ⟨told, kept, failed⟩ := released
      refine ⟨_, kept.emit (.releaseFailed error), fun unfailed => ?_⟩
      rw [failedPops, List.countP_append] at unfailed
      exact absurd (Nat.eq_zero_of_add_eq_zero_right unfailed) (Nat.ne_of_gt failed)

theorem close_accounts {session : Session ω ε} {told : List (Entry ε)}
    (accounts : Accounts solver view start session.openScopes told session.run) :
    ∃ told, Accounts solver view start (leftover solver (finalState (release solver session))) told
        (finalState (session.close solver)) ∧
      (failedPops told = 0 → leftover solver (finalState (release solver session)) = 0) := by
  have released := release_accounts keeps accounts
  unfold close
  cases result : release solver session with
  | ok _ left =>
      rw [result] at released
      obtain ⟨none, told, kept⟩ := released
      exact drop_accounts keeps (none.symm ▸ kept)
  | error error left =>
      rw [result] at released
      obtain ⟨told, kept, -⟩ := released
      exact drop_accounts keeps kept

omit keeps in
theorem leftover_eq_zero {session : Session ω ε} (one : session.openScopes = 1) :
    leftover solver session = 0 := by
  unfold leftover release
  simp only [bind_apply, get_apply, one, releaseScopes, setScopes, modify_apply]
  cases result : call solver .pop { session with openScopes := 0 } with
  | ok _ left => exact (call_ok result).1
  | error _ left => exact (call_error result).1

theorem start_accounts (declarations : Declarations) (run : Run ω ε) :
    Starts (Accounted solver view run) (fun left => ∃ told, Accounts solver view run 0 told left)
      (Session.start solver declarations run) := by
  have opened : Meets
      (fun _ after => Session.openScopes { openScopes := 1, run := after : Session ω ε } = 1 ∧
        Accounted solver view run { openScopes := 1, run := after })
      (fun _ after => ∃ told, Accounts solver view run 0 told after) (solver.call .push run) :=
    ((accounts_refl solver view run).push keeps).mono
      (fun _ _ kept => ⟨rfl, Nat.one_pos, kept⟩) fun _ _ kept => kept
  have declares (name : String) (sort : TermSort) : Preserves (fun session : Session ω ε =>
      session.openScopes = 1 ∧ Accounted solver view run session)
      (call solver (.declare name sort)) := plainCall_counted keeps rfl 1
  have declared : Preserves (fun session : Session ω ε =>
      session.openScopes = 1 ∧ Accounted solver view run session)
      (declareAll solver declarations) :=
    Triple.forM (fun _ (session : Session ω ε) =>
        session.openScopes = 1 ∧ Accounted solver view run session)
      (fun entry _ => declares entry.1 entry.2) declarations
  refine (start_rule opened declared fun session broken => ?_).mono fun _ accounted => accounted.2
  obtain ⟨one, -, told, accounts⟩ := broken
  obtain ⟨all, kept, -⟩ := drop_accounts keeps accounts
  rw [leftover_eq_zero one] at kept
  exact ⟨all, kept⟩

theorem ending_accounts {declarations : Declarations} {run left : Run ω ε}
    {commands : List Command} {counted : Nat}
    (ending : Ending solver declarations run commands counted left) :
    ∃ told, Accounts solver view run counted told left ∧ (failedPops told = 0 → counted = 0) := by
  have starts := start_accounts keeps declarations run
  cases ending with
  | refused opening =>
      obtain ⟨told, accounts⟩ := starts.of_error opening
      exact ⟨told, accounts, fun _ => rfl⟩
  | dropped opening =>
      obtain ⟨-, told, accounts⟩ :=
        (working_accounts keeps).performAll commands (starts.of_ok opening)
      exact drop_accounts keeps accounts
  | closed opening =>
      obtain ⟨-, told, accounts⟩ :=
        (working_accounts keeps).performAll commands (starts.of_ok opening)
      exact close_accounts keeps accounts

end Ends

/-- The solver has to keep its scopes; any of its calls may fail, if it then changes no scope.
Whatever is done in a session, the scopes that were there before are as they were, and above them
are exactly those that the session counts and one for every pop that failed. After every single call
it is the same, and a pop is only made while a scope of the session counts. However the session
ends, all it leaves behind is a scope for every pop that failed, and those that still counted when
its release stopped at one. So if no pop failed, nothing is left, whatever else failed. -/
theorem session_scopes_are_accounted_for (keeps : solver.KeepsScopes view)
    (declarations : Declarations) (run : Run ω ε) (commands : List Command) :
    (∀ session, Session.start solver declarations run = .ok session →
      ∃ told, Accounts solver view run (performAll solver commands session).openScopes told
          (performAll solver commands session).run ∧
        ∃ scopes, view.stack (performAll solver commands session).run.world =
            (view.stack run.world).extend scopes ∧
          scopes.length = (performAll solver commands session).openScopes + failedPops told) ∧
    ∀ counted left, Ending solver declarations run commands counted left →
      ∃ told, Accounts solver view run counted told left ∧
        (∃ scopes, view.stack left.world = (view.stack run.world).extend scopes ∧
          scopes.length = counted + failedPops told) ∧
        (failedPops told = 0 → view.stack left.world = view.stack run.world) := by
  constructor
  · intro session opening
    obtain ⟨-, told, accounts⟩ := (working_accounts keeps).performAll commands
      ((start_accounts keeps declarations run).of_ok opening)
    exact ⟨told, accounts, accounts.stack⟩
  · intro counted left ending
    obtain ⟨told, accounts, unfailed⟩ := ending_accounts keeps ending
    refine ⟨told, accounts, accounts.stack, fun none => ?_⟩
    obtain ⟨scopes, stack, length⟩ := accounts.stack
    rw [unfailed none, none] at length
    rw [stack, List.eq_nil_of_length_eq_zero length]
    rfl

def slippingSolver : Solver (World Scripted.State) String :=
  Scripted.solver {
    verdicts := [.unsat, .unknown "gave up"]
    failures := [⟨.pop, 1, "stuck"⟩] }

def slippingStart : Run (World Scripted.State) String where
  world := { solver := { stack := { opened := [[.var "q"]] } }, tokens := {} }

def slippingOpened : Session (World Scripted.State) String where
  openScopes := 1
  run := {
    world := {
      solver := { made := { push := 1, declare := 1 }, stack := { opened := [[], [.var "q"]] } }
      tokens := {} }
    journal := #[.exchange ⟨.push, .ok ()⟩, .exchange ⟨.declare "p" .bool, .ok ()⟩] }

def slippingCommands : List Command :=
  [.push (.var "p"), .isUnsatWith (.not (.var "p")), .isUnsat]

def slippingLeft : Run (World Scripted.State) String :=
  finalState ((performAll slippingSolver slippingCommands slippingOpened).close slippingSolver)

theorem slipping_session_scopes_are_accounted_for :
    ∃ told, Accounts slippingSolver Scripted.view slippingStart 0 told slippingLeft ∧
      slippingLeft.world.solver.stack = { opened := [[], [.var "q"]] } ∧ failedPops told = 1 := by
  have opening : Session.start slippingSolver [("p", .bool)] slippingStart = .ok slippingOpened := rfl
  have none : leftover slippingSolver (finalState (release slippingSolver
      (performAll slippingSolver slippingCommands slippingOpened))) = 0 := by decide +kernel
  have left : slippingLeft.world.solver.stack = { opened := [[], [.var "q"]] } := by decide +kernel
  have ending : Ending slippingSolver [("p", .bool)] slippingStart slippingCommands 0 slippingLeft :=
    none ▸ .closed opening
  obtain ⟨told, accounts, ⟨scopes, stack, length⟩, -⟩ :=
    (session_scopes_are_accounted_for (Scripted.keepsScopes _) [("p", .bool)] slippingStart
      slippingCommands).2 0 slippingLeft ending
  have lost : scopes ++ [[.var "q"]] = [[]] ++ [[.var "q"]] :=
    congrArg ScopeStack.opened (stack.symm.trans left)
  rw [List.append_cancel_right lost] at length
  exact ⟨told, accounts, left, by simpa using length.symm⟩

end Session
end DeltaFrames
