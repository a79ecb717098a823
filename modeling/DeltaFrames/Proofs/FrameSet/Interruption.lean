import Mathlib
import DeltaFrames.Proofs.FrameSet.Chronicle
import DeltaFrames.Proofs.FrameSet.Resumption
import DeltaFrames.Proofs.Session.Trace

/-!
# Interrupted propagations

The work is polled after every query, so while a propagation goes on it has made no check since it
was last allowed to (`Watched`). It is halted by an error, or by the poll after a query which was
answered, and then what the answer calls for has been done (`Halted`). In either case there was one
more check at most.
-/

namespace DeltaFrames

open StateAction

namespace FrameSet

variable {ω ε : Type} {bench : Workbench ω ε} {poll : ω → Except Cancellation.Interrupted Unit}

/-- After some of these entries the work was polled and allowed to go on, and no check was made
since. -/
def Polled (solver : Solver ω ε) (poll : ω → Except Cancellation.Interrupted Unit)
    (start : Run ω ε) (entries : List (Entry ε)) : Prop :=
  ∃ polled quiet, entries = start.entries ++ polled ++ quiet ∧
    poll (solver.after start.world (callsOf polled)) = .ok () ∧
    ∀ entry ∈ quiet, entry.isCheck = false

section Polled

variable {solver : Solver ω ε} {start run : Run ω ε} {entries : List (Entry ε)}

theorem Polled.onward (polled : Polled solver poll start entries) {more : List (Entry ε)}
    (unchecked : ∀ entry ∈ more, entry.isCheck = false) :
    Polled solver poll start (entries ++ more) := by
  obtain ⟨polled, quiet, rfl, said, silent⟩ := polled
  exact ⟨polled, quiet ++ more, List.append_assoc .., said,
    List.forall_mem_append.2 ⟨silent, unchecked⟩⟩

theorem polled_now (follows : start.Follows solver run) (said : poll run.world = .ok ()) :
    Polled solver poll start run.entries := by
  obtain ⟨told, written, world⟩ := follows
  exact ⟨told, [], by rw [written, List.append_nil], world ▸ said, nofun⟩

end Polled

def Watched (bench : Workbench ω ε) (poll : ω → Except Cancellation.Interrupted Unit)
    (begun : FrameSet × Run ω ε) (frames : FrameSet) (entries : List (Entry ε)) : Prop :=
  Tells bench.system begun.1.ledger begun.2.entries frames entries ∧
    Polled bench.solver poll begun.2 entries

inductive Halted (bench : Workbench ω ε) (poll : ω → Except Cancellation.Interrupted Unit)
    (begun : FrameSet × Run ω ε) : FrameSetError ε → FrameSet → Run ω ε → Prop where
  | interrupted {kept frames : FrameSet} {past : List (Entry ε)} {answered run : Run ω ε}
      {interruption : Cancellation.Interrupted} (aim : Aim) (unsat : Bool)
      (watched : Watched bench poll begun kept past)
      (stored : aim.clause ∈ kept.storedAt (aim.index + 1))
      (follows : begun.2.Follows bench.solver answered)
      (written : answered.entries = past ++ queried bench.system aim unsat)
      (said : poll answered.world = .error interruption)
      (applied : frames = if unsat then aim.act kept else kept)
      (released : Released (answered.entries ++ if unsat then [.event aim.event] else []) run) :
      Halted bench poll begun (.interrupted interruption) frames run
  | broke {frames : FrameSet} {past : List (Entry ε)} {run : Run ω ε} {failure : SessionError ε}
      (watched : Watched bench poll begun frames past)
      (broke : Broke (Queried bench.system) past failure run) :
      Halted bench poll begun (.solver failure) frames run

def watching (bench : Workbench ω ε) (poll : ω → Except Cancellation.Interrupted Unit)
    (begun : FrameSet × Run ω ε) : Regime ω ε where
  idle frames run := begun.2.Follows bench.solver run ∧ Watched bench poll begun frames run.entries
  opened frames session := session.openScopes = 1 ∧
    begun.2.Follows bench.solver session.run ∧ Watched bench poll begun frames session.run.entries
  busy frames session := session.openScopes = 2 ∧
    begun.2.Follows bench.solver session.run ∧ Watched bench poll begun frames session.run.entries
  failed := Halted bench poll begun
  broken error frames session := Halted bench poll begun error frames session.run

section Watched

variable {begun : FrameSet × Run ω ε} {frames : FrameSet} {entries : List (Entry ε)}
  (watched : Watched bench poll begun frames entries)

include watched

theorem Watched.prepare {prepared : List (Entry ε)}
    (prepares : ∀ entry ∈ prepared, entry.Prepares) :
    Watched bench poll begun frames (entries ++ prepared) :=
  ⟨watched.1.prepare prepares, watched.2.onward fun entry member =>
    (prepares entry member).isCheck_eq_false⟩

theorem Watched.note {event : Event ε}
    (episode : Episode bench.system frames.ledger [.event event] frames.ledger) :
    Watched bench poll begun frames (entries ++ [.event event]) :=
  ⟨watched.1.onward episode, watched.2.onward (List.forall_mem_singleton.2 rfl)⟩

theorem Watched.judged (aim : Aim) (stored : aim.clause ∈ frames.storedAt (aim.index + 1))
    {run : Run ω ε} (follows : begun.2.Follows bench.solver run) {unsat : Bool}
    (written : run.entries = entries ++ queried bench.system aim unsat) :
    if unsat then
      (watching bench poll begun).Resumes poll (aim.act frames) (run.emit aim.event)
    else (watching bench poll begun).Resumes poll frames run := by
  have tells := watched.1.judged aim stored written
  cases unsat with
  | false =>
      rw [if_neg Bool.false_ne_true] at tells ⊢
      refine heeds_of (fun said => ⟨follows, tells, polled_now follows said⟩) fun _ said => ?_
      exact .interrupted aim false watched stored follows written said rfl
        (.of_entries (List.append_nil _).symm)
  | true =>
      rw [if_pos rfl] at tells ⊢
      refine heeds_of (fun said => ⟨follows.emit _, tells, ?_⟩) fun _ said => ?_
      · rw [Run.entries_emit]
        exact (polled_now follows said).onward (List.forall_mem_singleton.2 rfl)
      · exact .interrupted aim true watched stored follows written said rfl
          (.of_entries (Run.entries_emit ..))

end Watched

section Watching

variable {begun : FrameSet × Run ω ε}

theorem Halted.drop {error : FrameSetError ε} {frames : FrameSet} {session : Session ω ε}
    (halted : Halted bench poll begun error frames session.run) :
    Halted bench poll begun error frames (session.drop bench.solver) := by
  cases halted with
  | interrupted aim unsat watched stored follows written said applied released =>
      exact .interrupted aim unsat watched stored follows written said applied
        (Session.drop_released released)
  | broke watched broke => exact .broke watched (Session.drop_broke broke)

theorem resumesBusy_of_resumes {frames : FrameSet} {session : Session ω ε}
    (counted : session.openScopes = 2)
    (resumes : (watching bench poll begun).Resumes poll frames session.run) :
    (watching bench poll begun).ResumesBusy poll frames session :=
  Heeds.imp resumes (⟨counted, ·⟩) fun _ halted => halted

variable {index : Nat}

theorem watching_pushing : (watching bench poll begun).HeededPushing bench poll index where
  opens := by
    rintro frames run session ⟨follows, watched⟩ opening
    have invariant := Session.follows_invariant bench.solver begun.2
    have ⟨counted, written⟩ := (Session.start_at (Queried bench.system) _ rfl).1 _ opening
    exact ⟨counted, (invariant.starts _ follows).of_ok opening,
      written ▸ watched.prepare (opening_prepares _)⟩
  refuses := by
    rintro frames run error left ⟨-, watched⟩ opening
    exact .broke watched ((Session.start_at (Queried bench.system) _ rfl).2 _ _ opening)
  premises frames := by
    rintro session ⟨counted, follows, watched⟩
    have invariant := Session.follows_invariant bench.solver begun.2
    refine ((Session.pushAll_at _ session ⟨counted, rfl⟩).and
      (invariant.pushAll _ session follows)).mono ?_ fun _ _ left => .broke watched left.1
    rintro _ after ⟨⟨isCounted, written⟩, stillFollows⟩
    refine ⟨isCounted, stillFollows, written ▸ watched.prepare ?_⟩
    exact List.forall_mem_cons.2 ⟨.done .push () nofun, asserted_prepares _⟩
  moves frames clause stored := by
    rintro session ⟨counted, follows, watched⟩
    have invariant := Session.follows_invariant bench.solver begun.2
    have query : Queried bench.system (bench.system.prime clause.negate) 1 :=
      ⟨.move index clause, rfl, rfl⟩
    refine ((Session.isUnsatWith_at query Nat.one_pos session ⟨counted, rfl⟩).and
      (invariant.isUnsatWith _ session follows)).mono ?_ fun _ _ left => .broke watched left.1
    rintro unsat after ⟨⟨isCounted, written⟩, stillFollows⟩
    have judged := watched.judged (.move index clause) stored stillFollows written
    cases unsat with
    | false => exact resumesBusy_of_resumes isCounted judged
    | true => exact resumesBusy_of_resumes isCounted judged
  closes := by
    rintro frames session ⟨counted, follows, watched⟩
    have invariant := Session.follows_invariant bench.solver begun.2
    refine ((Session.close_at ⟨counted, rfl⟩).and (invariant.closes session follows)).mono ?_ ?_
    · rintro _ run ⟨written, stillFollows⟩
      exact ⟨stillFollows, written ▸ watched.prepare (closed_prepares 2)⟩
    · rintro _ run ⟨⟨closings, -, error, rfl, released⟩, -⟩
      exact .broke watched (Broke.after (closed_prepares closings)
        (.of_stumble released (.refused .pop error)))
  drops := Halted.drop

theorem watching_pruning : (watching bench poll begun).HeededPruning bench poll index where
  subsumes frames stronger _ clause stored := by
    rintro ⟨_, run⟩ ⟨rfl, follows, watched⟩
    have invariant := Session.follows_invariant bench.solver begun.2
    have query : Queried bench.system (.not (stronger.implies clause)) 2 :=
      ⟨.drop index stronger clause, rfl, rfl⟩
    refine ((Session.isUnsatAlone_at _ _ query (_, run) ⟨rfl, rfl⟩).and
      (invariant.isUnsatAlone _ _ _ (_, run) ⟨rfl, follows⟩)).mono ?_
      fun _ _ left => ⟨left.1.1, .broke watched left.1.2⟩
    rintro unsat after ⟨⟨same, written⟩, -, stillFollows⟩
    rw [← List.append_assoc] at written
    have judged := (watched.prepare (opening_prepares _)).judged (.drop index stronger clause)
      stored stillFollows written
    cases unsat with
    | false => exact ⟨same, judged⟩
    | true => exact ⟨same, judged⟩

theorem propagate_watched (begins : poll begun.2.world = .ok ()) :
    Meets (fun _ after => Watched bench poll begun after.1.untimed after.2.entries)
      (fun error after => Halted bench poll begun error after.1.untimed after.2)
      (propagate bench poll begun) := by
  have noted {frames : FrameSet} {run : Run ω ε} {event : Event ε}
      (idle : (watching bench poll begun).idle frames run)
      (episode : Episode bench.system frames.ledger [.event event] frames.ledger) :
      (watching bench poll begun).idle frames (run.emit event) := by
    refine ⟨idle.1.emit event, ?_⟩
    rw [Run.entries_emit]
    exact idle.2.note episode
  have follows := Run.follows_self bench.solver begun.2
  have idle : (watching bench poll begun).idle begun.1.untimed begun.2 :=
    ⟨follows, ⟨[], (List.append_nil _).symm, .nothing⟩, polled_now follows begins⟩
  have met : Meets (fun _ after => (watching bench poll begun).idle after.1.untimed after.2)
      (fun error after => Halted bench poll begun error after.1.untimed after.2)
      (propagate bench poll begun) :=
    Regime.propagate_heeded (fun idle => idle) (fun level idle => noted idle (.reported level))
      (fun _ _ => ⟨watching_pushing, fun _ => watching_pruning⟩)
      (fun _ => noted idle (.announced _))
      fun _ said => nomatch begins.symm.trans said
  exact met.mono (fun _ _ left => left.2) fun _ _ halted => halted

end Watching

/-! ## After a cancellation -/

def CancelledFrom (solver : Solver ω ε) (poll : ω → Except Cancellation.Interrupted Unit)
    (start : Run ω ε) (interruption : Cancellation.Interrupted) (told : List (Entry ε))
    (made : Entry ε) : Prop :=
  ∀ later, poll (solver.after start.world (callsOf (told ++ made :: later))) = .error interruption

section Cancelled

variable {solver : Solver ω ε} {start : Run ω ε} {told rest more entries : List (Entry ε)}
  {made : Entry ε} {interruption : Cancellation.Interrupted}
  (cancelled : CancelledFrom solver poll start interruption told made)

include cancelled

theorem Polled.behind (polled : Polled solver poll start entries)
    (written : entries ++ more = start.entries ++ told ++ made :: rest) :
    ∃ past quiet skipped, entries = past ++ quiet ∧ (∀ entry ∈ quiet, entry.isCheck = false) ∧
      start.entries ++ told = past ++ skipped ∧ quiet ++ more = skipped ++ made :: rest := by
  obtain ⟨polled, quiet, rfl, said, silent⟩ := polled
  have same : polled ++ (quiet ++ more) = told ++ made :: rest := by
    simpa only [List.append_assoc, List.append_cancel_left_eq] using written
  -- A poll that came after the cancellation would not have let the work go on.
  obtain ⟨skipped, rfl, split⟩ := exists_of_append_eq_append_cons same fun inner within => by
    have refused := cancelled inner
    rw [← within, said] at refused
    cases refused
  exact ⟨start.entries ++ polled, quiet, skipped, rfl, silent, (List.append_assoc ..).symm, split⟩

theorem Polled.countP_le (polled : Polled solver poll start entries)
    (written : entries ++ more = start.entries ++ told ++ made :: rest) :
    (made :: rest).countP Entry.isCheck ≤ more.countP Entry.isCheck := by
  obtain ⟨-, quiet, skipped, -, silent, -, split⟩ := polled.behind cancelled written
  have counted := congrArg (List.countP Entry.isCheck) split
  rw [List.countP_append, List.countP_append, countP_isCheck_eq_zero silent] at counted
  omega

theorem Polled.asked_later (polled : Polled solver poll start entries)
    (written : entries ++ more = start.entries ++ told ++ made :: rest)
    (check : made.isCheck = true) :
    ∃ skipped, start.entries ++ told = entries ++ skipped ∧ more = skipped ++ made :: rest := by
  obtain ⟨past, quiet, skipped, rfl, silent, before, split⟩ := polled.behind cancelled written
  obtain ⟨skipped, rfl, later⟩ := check_behind check silent split
  exact ⟨skipped, by rw [before, List.append_assoc], later⟩

end Cancelled

section Cancelled

variable {begun : FrameSet × Run ω ε} {error : FrameSetError ε} {frames : FrameSet}
  {run : Run ω ε} {told rest : List (Entry ε)} {interruption : Cancellation.Interrupted}

theorem Watched.countP_le {entries : List (Entry ε)} {made : Entry ε}
    (watched : Watched bench poll begun frames entries)
    (cancelled : CancelledFrom bench.solver poll begun.2 interruption told made)
    (written : entries = begun.2.entries ++ told ++ made :: rest) :
    (made :: rest).countP Entry.isCheck ≤ 0 :=
  watched.2.countP_le cancelled ((List.append_nil _).trans written)

def concluded (aim : Aim) (unsat : Bool) (released : List (Entry ε)) : List (Entry ε) :=
  closed aim.pops ++ (if unsat then [.event aim.event] else []) ++ released

theorem concluded_unchecked (aim : Aim) (unsat : Bool) {released : List (Entry ε)}
    (releases : ∀ entry ∈ released, entry.Releases) :
    ∀ entry ∈ concluded aim unsat released, entry.isCheck = false := by
  have noted : ∀ entry ∈ (if unsat then [.event aim.event] else [] : List (Entry ε)),
      entry.isCheck = false := by
    cases unsat with
    | false => exact nofun
    | true => exact List.forall_mem_singleton.2 rfl
  exact List.forall_mem_append.2
    ⟨List.forall_mem_append.2 ⟨closed_unchecked aim.pops, noted⟩, unchecked_of_releases releases⟩

theorem Halted.countP_le {made : Entry ε} (halted : Halted bench poll begun error frames run)
    (cancelled : CancelledFrom bench.solver poll begun.2 interruption told made)
    (written : run.entries = begun.2.entries ++ told ++ made :: rest) :
    (made :: rest).countP Entry.isCheck ≤ 1 := by
  cases halted with
  | @interrupted _ _ past _ _ _ aim unsat watched _ _ answered _ _ released =>
      obtain ⟨more, ended, releases⟩ := released
      have same : past ++ (asked (aim.goal bench.system) (.decided unsat) ++
          concluded aim unsat more) = begun.2.entries ++ told ++ made :: rest := by
        rw [← written, ended, answered]
        simp only [queried, concluded, List.append_assoc]
      -- The only check left is that of the query after which the work was halted.
      refine Nat.le_trans (watched.2.countP_le cancelled same) ?_
      rw [List.countP_append, countP_isCheck_eq_zero (concluded_unchecked aim unsat releases)]
      exact Nat.le_refl 1
  | @broke _ past _ _ watched broke =>
      obtain ⟨prepared, broken, ⟨more, ended, releases⟩, prepares, stumble⟩ := broke
      have same : past ++ (prepared ++ (broken ++ more)) =
          begun.2.entries ++ told ++ made :: rest := by
        rw [← written, ended, List.append_assoc, List.append_assoc]
      refine Nat.le_trans (watched.2.countP_le cancelled same) ?_
      rw [List.countP_append, List.countP_append,
        countP_isCheck_eq_zero (unchecked_of_prepares prepares),
        countP_isCheck_eq_zero (unchecked_of_releases releases), Nat.zero_add]
      exact stumble.countP_isCheck_le

/-- The check that comes between the entries belongs to a query of the propagation, which is its
last. Either the scopes of the query can be closed, and then the propagation does what the verdict
calls for and is interrupted, or closing them fails, and that is the error. -/
def LastQuery (bench : Workbench ω ε) (begun : FrameSet × Run ω ε)
    (interruption : Cancellation.Interrupted) (told rest : List (Entry ε)) (unsat : Bool)
    (error : FrameSetError ε) (frames : FrameSet) : Prop :=
  ∃ (aim : Aim) (earlier : List (Entry ε)) (kept : FrameSet),
    told = earlier ++ [.done .push (), .done (.assert (aim.goal bench.system)) ()] ∧
    Chronicle bench.system begun.1.ledger earlier kept ∧
    (closed aim.pops <+: rest →
      aim.clause ∈ kept.storedAt (aim.index + 1) ∧ error = .interrupted interruption ∧
      frames.ledger = (if unsat then aim.act kept else kept) ∧
      ∃ released, rest = concluded aim unsat released ∧ ∀ entry ∈ released, entry.Releases) ∧
    (¬ closed aim.pops <+: rest → ∃ failure,
      .refused .pop failure ∈ rest ∧ error = .solver (.backend failure))

theorem Halted.of_decided {unsat : Bool} (halted : Halted bench poll begun error frames run)
    (cancelled : CancelledFrom bench.solver poll begun.2 interruption told
      (.done .check (.decided unsat)))
    (written : run.entries = begun.2.entries ++ told ++ .done .check (.decided unsat) :: rest) :
    LastQuery bench begun interruption told rest unsat error frames := by
  cases halted with
  | @interrupted kept _ _ answered _ _ aim decided watched stored follows isAnswered said applied
      released =>
      obtain ⟨more, ended, releases⟩ := released
      obtain ⟨earlier, rfl, chronicle⟩ := watched.1
      have same : begun.2.entries ++ earlier ++ (asked (aim.goal bench.system) (.decided decided) ++
          concluded aim decided more) =
          begun.2.entries ++ told ++ .done .check (.decided unsat) :: rest := by
        rw [← written, ended, isAnswered]
        simp only [queried, concluded, List.append_assoc]
      obtain ⟨skipped, before, behind⟩ := watched.2.asked_later cancelled same rfl
      obtain ⟨rfl, isMade, rfl⟩ :=
        asked_check rfl (concluded_unchecked aim decided releases) behind
      obtain rfl : unsat = decided := by
        cases unsat <;> cases decided <;> first | rfl | cases isMade
      have asks : told =
          earlier ++ [.done .push (), .done (.assert (aim.goal bench.system)) ()] := by
        rwa [List.append_assoc, List.append_cancel_left_eq] at before
      have now : answered.world = bench.solver.after begun.2.world
          (callsOf (told ++ .done .check (.decided unsat) :: closed aim.pops)) :=
        follows.world_eq (by rw [isAnswered, asks]; simp [queried, asked])
      rw [now, cancelled] at said
      cases said
      refine ⟨aim, earlier, kept.ledger, asks, chronicle,
        fun _ => ⟨stored, rfl, ?_, more, rfl, releases⟩, fun unclosed => ?_⟩
      · subst applied
        cases unsat with
        | false => rfl
        | true => exact aim.ledger_act kept
      · exact absurd ⟨_, (List.append_assoc ..).symm⟩ unclosed
  | @broke _ past _ _ watched broke =>
      obtain ⟨prepared, broken, ⟨more, ended, releases⟩, prepares, stumble⟩ := broke
      obtain ⟨earlier, rfl, chronicle⟩ := watched.1
      have same : begun.2.entries ++ earlier ++ (prepared ++ (broken ++ more)) =
          begun.2.entries ++ told ++ .done .check (.decided unsat) :: rest := by
        rw [← written, ended]
        simp only [List.append_assoc]
      obtain ⟨skipped, before, behind⟩ := watched.2.asked_later cancelled same rfl
      obtain ⟨inner, rfl, split⟩ := check_behind rfl (unchecked_of_prepares prepares) behind
      obtain ⟨_, _, closings, failure, ⟨aim, rfl, rfl⟩, few, rfl, rfl, rfl⟩ :=
        stumble.of_decided (unchecked_of_releases releases) split
      refine ⟨aim, earlier ++ prepared, frames.ledger, ?_, chronicle.prepare prepares, ?_, ?_⟩
      · simpa only [List.append_assoc, List.append_cancel_left_eq] using before
      · exact fun closes => absurd closes (not_closed_isPrefix few)
      · exact fun _ => ⟨failure, List.mem_append_right _ List.mem_cons_self, rfl⟩

end Cancelled

theorem propagate_refused {begun : FrameSet × Run ω ε} {interruption : Cancellation.Interrupted}
    (said : poll begun.2.world = .error interruption) :
    propagate bench poll begun = .error (.interrupted interruption) begun := by
  unfold propagate
  rw [bind_apply, checkpoint_error said]

theorem propagate_cancelled {begun : FrameSet × Run ω ε} {told rest : List (Entry ε)}
    {made : Entry ε} {interruption : Cancellation.Interrupted}
    (begins : poll begun.2.world = .ok ())
    (cancelled : CancelledFrom bench.solver poll begun.2 interruption told made)
    (written : (finalState (propagate bench poll begun)).2.entries =
      begun.2.entries ++ told ++ made :: rest) :
    rest.countP Entry.isCheck ≤ 1 ∧
    ∀ unsat, made = .done .check (.decided unsat) →
      rest.countP Entry.isCheck = 0 ∧
      ∃ error after, propagate bench poll begun = .error error after ∧
        LastQuery bench begun interruption told rest unsat error after.1 := by
  have met : Meets (fun _ after => Watched bench poll begun after.1.untimed after.2.entries)
      (fun error after => Halted bench poll begun error after.1.untimed after.2)
      (propagate bench poll begun) := propagate_watched begins
  cases result : propagate bench poll begun with
  | ok reached after =>
      rw [result] at met written
      have none := met.countP_le cancelled written
      rw [List.countP_cons] at none
      refine ⟨by omega, ?_⟩
      rintro unsat rfl
      exact absurd none (Nat.not_succ_le_zero _)
  | error error after =>
      rw [result] at met written
      have few := met.countP_le cancelled written
      rw [List.countP_cons] at few
      refine ⟨by omega, ?_⟩
      rintro unsat rfl
      exact ⟨Nat.le_zero.1 (Nat.le_of_succ_le_succ few), error, after, rfl,
        met.of_decided cancelled written⟩

/-- A propagation whose token is cancelled to begin with is interrupted at once, with the token's
reason: nothing is written down and nothing changes. If all that the solver does to tokens is to
perform operations, and one of its calls cancels the token, which has no deadline, then the
propagation makes one more check at most. If this call is a check that is decided, it makes none.
It does what the verdict calls for, and is interrupted with the first reason that was given, unless
it fails to close the scopes of the query (`LastQuery`). -/
theorem cancellation_is_honoured {σ ε : Type} (bench : Workbench (World σ) ε)
    (token : Cancellation.Token) (state : FrameSet × Run (World σ) ε) :
    (state.2.world.tokens.isCancelled token = true → ∃ reason,
      state.2.world.tokens.check token = .error ⟨reason⟩ ∧
      (∀ given, (state.2.world.tokens.cell token).cancelled = true →
        (state.2.world.tokens.cell token).reason = some given → reason = given) ∧
      propagate bench (World.poll token) state = .error (.interrupted ⟨reason⟩) state) ∧
    ∀ operations, bench.solver.Performs operations → state.2.world.tokens.Holds token none →
      ∀ told made rest reason,
        (finalState (propagate bench (World.poll token) state)).2.entries =
          state.2.entries ++ told ++ .exchange made :: rest →
        World.poll token (bench.solver.after state.2.world (callsOf told)) = .ok () →
        Cancellation.firstReason token
          (operations made.call (bench.solver.after state.2.world (callsOf told))) = some reason →
        rest.countP Entry.isCheck ≤ 1 ∧
        ∀ unsat, Entry.exchange made = .done .check (.decided unsat) →
          rest.countP Entry.isCheck = 0 ∧
          ∃ error after, propagate bench (World.poll token) state = .error error after ∧
            LastQuery bench state ⟨reason⟩ told rest unsat error after.1 := by
  constructor
  · intro cancelled
    obtain ⟨reason, said, isGiven⟩ := Cancellation.Store.check_of_isCancelled cancelled
    exact ⟨reason, said, isGiven, propagate_refused said⟩
  · intro operations performs fresh told made rest reason written allowed cancels
    -- The token stays cancelled, whatever else the solver does.
    refine propagate_cancelled fresh.check (fun later => ?_) written
    rw [callsOf_append, Solver.after_append]
    exact performs.check (performs.fresh fresh allowed) cancels (callsOf later)

end FrameSet

/-! ## Solvers that carry out an order to cancel -/

namespace CancelOrder

def operations (order : Option CancelOrder) (checks : Nat) : List Cancellation.Operation :=
  match order with
  | some due => if due.checks ≤ checks then [.cancel due.token due.reason] else []
  | none => []

theorem carryOut_tokens {σ : Type} (order : Option CancelOrder) (checks : Nat) (world : World σ) :
    (carryOut order checks world).tokens = world.tokens.applyAll (operations order checks) := by
  cases order with
  | none => rfl
  | some due =>
      simp only [carryOut, operations]
      split <;> rfl

end CancelOrder

namespace Enumerating

def operations (settings : Settings) : Call → World State → List Cancellation.Operation
  | .check, world => CancelOrder.operations settings.cancellation (world.solver.checks + 1)
  | _, _ => []

theorem solver_performs (settings : Settings) :
    (solver settings).Performs (operations settings) := by
  intro call world
  cases call with
  | push => rfl
  | pop =>
      simp only [solver, bind_apply, get_apply]
      cases world.solver.stack.pop <;> rfl
  | declare name sort => rfl
  | assert term => rfl
  | check =>
      have ordered := CancelOrder.carryOut_tokens settings.cancellation (world.solver.checks + 1)
        { world with solver := { world.solver with checks := world.solver.checks + 1 } }
      refine Eq.trans ?_ ordered
      simp only [solver, check, bind_apply, modifyState, modify_apply, get_apply]
      generalize CancelOrder.carryOut settings.cancellation _ _ = left
      cases left.solver.verdict settings <;> rfl
  | reset => rfl

end Enumerating

namespace FrameSet

def cancellingTold : List (Entry Enumerating.Error) :=
  .event (.propagatingClauses 2) ::
    (opening cancellingBench.system.declarations ++
      .done .push () :: asserted [cancellingBench.system.transition, .var "p"] ++
      [.done .push (),
        .done (.assert ((Aim.move 0 (.var "p")).goal cancellingBench.system)) ()])

theorem latch_cancellation_is_honoured :
    (∃ rest after,
      (finalState (propagate cancellingBench (World.poll ⟨0⟩) cancellingOpened)).2.entries =
        cancellingOpened.2.entries ++ cancellingTold ++ .done .check .unsat :: rest ∧
      rest.countP Entry.isCheck = 0 ∧
      propagate cancellingBench (World.poll ⟨0⟩) cancellingOpened =
        .error (.interrupted ⟨"stop"⟩) after) ∧
    ∃ reason, propagate cancellingBench (World.poll ⟨0⟩) cancellingBroken =
      .error (.interrupted ⟨reason⟩) cancellingBroken := by
  let rest : List (Entry Enumerating.Error) :=
    concluded (.move 0 (.var "p")) true [.done .pop (), .done .pop ()]
  have written :
      (finalState (propagate cancellingBench (World.poll ⟨0⟩) cancellingOpened)).2.entries =
        cancellingOpened.2.entries ++ cancellingTold ++ .done .check .unsat :: rest := by cbv
  have allowed : World.poll ⟨0⟩ (cancellingBench.solver.after cancellingOpened.2.world
      (callsOf cancellingTold)) = .ok () := by cbv
  have cancels : Cancellation.firstReason ⟨0⟩ (Enumerating.operations
      { cancellation := some { checks := 1, token := ⟨0⟩, reason := "stop" } } .check
      (cancellingBench.solver.after cancellingOpened.2.world (callsOf cancellingTold))) =
      some "stop" := by cbv
  have known := (cancellation_is_honoured cancellingBench ⟨0⟩ cancellingOpened).2 _
    (Enumerating.solver_performs _) rfl cancellingTold ⟨.check, .ok .unsat⟩ rest "stop" written
    allowed cancels
  obtain ⟨unchecked, error, after, ended, aim, _, _, -, -, closes, breaks⟩ := known.2 true rfl
  obtain ⟨reason, -, -, refused⟩ :=
    (cancellation_is_honoured cancellingBench ⟨0⟩ cancellingBroken).1 (by decide +kernel)
  refine ⟨⟨rest, after, written, unchecked, ?_⟩, reason, refused⟩
  by_cases allClosed : closed aim.pops <+: rest
  · rw [ended, (closes allClosed).2.1]
  · obtain ⟨failure, member, -⟩ := breaks allClosed
    simp [rest, concluded, closed, Aim.pops, Entry.done, Entry.refused] at member

end FrameSet
end DeltaFrames
