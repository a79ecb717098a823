import DeltaFrames.Proofs.FrameSet.Faults
import DeltaFrames.Proofs.FrameSet.Strength
import DeltaFrames.Proofs.Session.Record
import DeltaFrames.Solver.Scripted

/-!
# The journal explains the frames

Until something fails, the journal of a propagation is a chronicle of the frames (`Chronicle`): the
only entries at which they change are those of a query that was refuted and whose scopes have all
been closed, and they change by moving or dropping the clause that was asked about.
-/

namespace DeltaFrames.FrameSet

open StateAction

variable {ω ε : Type}

inductive Aim where
  | move (index : Nat) (clause : Term)
  | drop (index : Nat) (stronger clause : Term)

namespace Aim

def index : Aim → Nat
  | .move index _ => index
  | .drop index _ _ => index

def clause : Aim → Term
  | .move _ clause => clause
  | .drop _ _ clause => clause

def goal (system : TransitionSystem) : Aim → Term
  | .move _ clause => system.prime clause.negate
  | .drop _ stronger clause => .not (stronger.implies clause)

/-- The pops that are part of the query. One that is asked on its own has a base scope to close. -/
def pops : Aim → Nat
  | .move _ _ => 1
  | .drop _ _ _ => 2

def act : Aim → FrameSet → FrameSet
  | .move index clause, frames => frames.promote index clause
  | .drop index _ clause, frames => frames.discard index clause

def event : Aim → Event ε
  | .move index clause => .clausePropagated (index + 1) clause
  | .drop index stronger clause => .clauseSubsumed (index + 1) clause stronger

theorem ledger_act (aim : Aim) (frames : FrameSet) :
    (aim.act frames).ledger = aim.act frames.ledger := by
  cases aim <;> rfl

end Aim

def Queried (system : TransitionSystem) (goal : Term) (pops : Nat) : Prop :=
  ∃ aim : Aim, goal = aim.goal system ∧ pops = aim.pops

def queried (system : TransitionSystem) (aim : Aim) (unsat : Bool) : List (Entry ε) :=
  asked (aim.goal system) (.decided unsat) ++ closed aim.pops

/-- Entries that belong together, and what becomes of the frames meanwhile. -/
inductive Episode (system : TransitionSystem) : FrameSet → List (Entry ε) → FrameSet → Prop where
  | prepared {frames : FrameSet} {entry : Entry ε} (prepares : entry.Prepares) :
      Episode system frames [entry] frames
  | announced {frames : FrameSet} (frontier : Nat) :
      Episode system frames [.event (.propagatingClauses frontier)] frames
  | reported {frames : FrameSet} (level : Nat) :
      Episode system frames [.event (.fixpointReached level)] frames
  | satisfied {frames : FrameSet} (aim : Aim) (stored : aim.clause ∈ frames.storedAt (aim.index + 1)) :
      Episode system frames (queried system aim false) frames
  | refuted {frames : FrameSet} (aim : Aim) (stored : aim.clause ∈ frames.storedAt (aim.index + 1)) :
      Episode system frames (queried system aim true ++ [.event aim.event]) (aim.act frames)

inductive Chronicle (system : TransitionSystem) (start : FrameSet) :
    List (Entry ε) → FrameSet → Prop where
  | nothing : Chronicle system start [] start
  | onward {told entries : List (Entry ε)} {between after : FrameSet}
      (earlier : Chronicle system start told between)
      (episode : Episode system between entries after) :
      Chronicle system start (told ++ entries) after

section Chronicle

variable {system : TransitionSystem} {start after : FrameSet} {told : List (Entry ε)}

theorem Episode.failure_eq_none {before : FrameSet} {entries : List (Entry ε)}
    (episode : Episode system before entries after) : entries.findSome? Entry.failure = none := by
  have decided (aim : Aim) (unsat : Bool) :
      (queried system aim unsat : List (Entry ε)).findSome? Entry.failure = none := by
    rw [queried, List.findSome?_append, failure_asked, failure_closed]
    rfl
  cases episode with
  | prepared prepares =>
      rw [List.findSome?_cons, prepares.failure_eq_none]
      rfl
  | announced _ => rfl
  | reported _ => rfl
  | satisfied aim _ => exact decided aim false
  | refuted aim _ =>
      rw [List.findSome?_append, decided aim true]
      rfl

theorem Chronicle.failure_eq_none (chronicle : Chronicle system start told after) :
    told.findSome? Entry.failure = none := by
  induction chronicle with
  | nothing => rfl
  | onward _ episode ih =>
      rw [List.findSome?_append, ih, episode.failure_eq_none]
      rfl

theorem Chronicle.prepare {prepared : List (Entry ε)} (chronicle : Chronicle system start told after)
    (prepares : ∀ entry ∈ prepared, entry.Prepares) :
    Chronicle system start (told ++ prepared) after := by
  induction prepared generalizing told with
  | nil => rwa [List.append_nil]
  | cons entry rest ih =>
      have ⟨here, others⟩ := List.forall_mem_cons.1 prepares
      have more := ih (chronicle.onward (.prepared here)) others
      rwa [List.append_assoc, List.singleton_append] at more

end Chronicle

/-! ## The chronicle of a propagation -/

def Tells (system : TransitionSystem) (start : FrameSet) (past : List (Entry ε)) (frames : FrameSet)
    (entries : List (Entry ε)) : Prop :=
  ∃ told, entries = past ++ told ∧ Chronicle system start told frames.ledger

def Breaks (system : TransitionSystem) (start : FrameSet) (past : List (Entry ε))
    (error : FrameSetError ε) (frames : FrameSet) (run : Run ω ε) : Prop :=
  ∃ failure told, error = .solver failure ∧ Chronicle system start told frames.ledger ∧
    Broke (Queried system) (past ++ told) failure run

section Tells

variable {system : TransitionSystem} {start frames : FrameSet} {past entries : List (Entry ε)}
  (tells : Tells system start past frames entries)

include tells

theorem Tells.prepare {prepared : List (Entry ε)} (prepares : ∀ entry ∈ prepared, entry.Prepares) :
    Tells system start past frames (entries ++ prepared) := by
  obtain ⟨told, written, chronicle⟩ := tells
  exact ⟨told ++ prepared, by rw [written, List.append_assoc], chronicle.prepare prepares⟩

theorem Tells.onward {after : FrameSet} {more : List (Entry ε)}
    (episode : Episode system frames.ledger more after.ledger) :
    Tells system start past after (entries ++ more) := by
  obtain ⟨told, written, chronicle⟩ := tells
  exact ⟨told ++ more, by rw [written, List.append_assoc], chronicle.onward episode⟩

theorem Tells.judged (aim : Aim) (stored : aim.clause ∈ frames.storedAt (aim.index + 1))
    {unsat : Bool} {run : Run ω ε} (written : run.entries = entries ++ queried system aim unsat) :
    if unsat then Tells system start past (aim.act frames) (run.emit aim.event).entries
    else Tells system start past frames run.entries := by
  cases unsat with
  | false =>
      rw [if_neg Bool.false_ne_true, written]
      exact tells.onward (.satisfied aim stored)
  | true =>
      rw [if_pos rfl, Run.entries_emit, written, List.append_assoc]
      refine tells.onward ?_
      rw [aim.ledger_act]
      exact .refuted aim stored

theorem Tells.breaks {failure : SessionError ε} {run : Run ω ε}
    (broke : Broke (Queried system) entries failure run) :
    Breaks system start past (.solver failure) frames run := by
  obtain ⟨told, written, chronicle⟩ := tells
  rw [written] at broke
  exact ⟨failure, told, rfl, chronicle, broke⟩

end Tells

variable {bench : Workbench ω ε} {poll : ω → Except Cancellation.Interrupted Unit} {index : Nat}
  {start : FrameSet} {past : List (Entry ε)}

def recording (ω : Type) (system : TransitionSystem) (start : FrameSet) (past : List (Entry ε)) :
    Regime ω ε where
  idle frames run := Tells system start past frames run.entries
  opened frames session :=
    session.openScopes = 1 ∧ Tells system start past frames session.run.entries
  busy frames session :=
    session.openScopes = 2 ∧ Tells system start past frames session.run.entries
  failed error frames run := error.IsInterruption ∨ Breaks system start past error frames run
  broken error frames session :=
    error.IsInterruption ∨ Breaks system start past error frames session.run

theorem recording_upheld :
    (recording ω bench.system start past).Upheld bench poll index where
  opens tells opening := by
    obtain ⟨counted, written⟩ := (Session.start_at (Queried bench.system) _ rfl).1 _ opening
    exact ⟨counted, written ▸ tells.prepare (opening_prepares _)⟩
  refuses tells opening :=
    .inr (tells.breaks ((Session.start_at (Queried bench.system) _ rfl).2 _ _ opening))
  premises frames := by
    rintro session ⟨counted, tells⟩
    refine (Session.pushAll_at _ session ⟨counted, rfl⟩).mono ?_
      fun _ _ broke => .inr (tells.breaks broke)
    rintro _ after ⟨isCounted, written⟩
    refine ⟨isCounted, written ▸ tells.prepare ?_⟩
    exact List.forall_mem_cons.2 ⟨.done .push () nofun, asserted_prepares _⟩
  moves frames clause stored := by
    rintro session ⟨counted, tells⟩
    have query : Queried bench.system (bench.system.prime clause.negate) 1 :=
      ⟨.move index clause, rfl, rfl⟩
    refine (Session.isUnsatWith_at query Nat.one_pos session ⟨counted, rfl⟩).mono ?_
      fun _ _ broke => .inr (tells.breaks broke)
    rintro unsat after ⟨isCounted, written⟩
    have judged := tells.judged (.move index clause) stored written
    cases unsat with
    | false => exact ⟨isCounted, judged⟩
    | true => exact ⟨isCounted, judged⟩
  closes := by
    rintro frames session ⟨counted, tells⟩
    refine (Session.close_at ⟨counted, rfl⟩).mono ?_ ?_
    · intro _ run written
      have told := tells.prepare (closed_prepares 2)
      rw [← written] at told
      exact told
    · rintro _ run ⟨closings, -, error, rfl, released⟩
      exact .inr (tells.breaks (Broke.after (closed_prepares closings)
        (.of_stumble released (.refused .pop error))))
  drops broken := broken.imp_right fun ⟨failure, told, same, chronicle, broke⟩ =>
    ⟨failure, told, same, chronicle, Session.drop_broke broke⟩
  subsumes frames stronger _ clause stored := by
    rintro ⟨_, run⟩ ⟨rfl, tells⟩
    have query : Queried bench.system (.not (stronger.implies clause)) 2 :=
      ⟨.drop index stronger clause, rfl, rfl⟩
    refine (Session.isUnsatAlone_at _ _ query (_, run) ⟨rfl, rfl⟩).mono ?_
      fun _ _ broke => ⟨broke.1, .inr (tells.breaks broke.2)⟩
    rintro unsat after ⟨same, written⟩
    rw [← List.append_assoc] at written
    have judged := (tells.prepare (opening_prepares _)).judged (.drop index stronger clause) stored
      written
    cases unsat with
    | false => exact ⟨same, judged⟩
    | true => exact ⟨same, judged⟩
  interrupts _ _ := .inl trivial
  interruptsBusy _ _ := .inl trivial

theorem propagate_tells :
    (recording ω bench.system start past).Keeps (propagate bench poll) := by
  have noted {frames : FrameSet} {run : Run ω ε} {event : Event ε}
      (tells : Tells bench.system start past frames run.entries)
      (episode : Episode bench.system frames.ledger [.event event] frames.ledger) :
      Tells bench.system start past frames (run.emit event).entries := by
    rw [Run.entries_emit]
    exact tells.onward episode
  exact Regime.propagate_upheld (fun _ => recording_upheld) (fun tells => tells)
    (fun frontier tells => noted tells (.announced frontier))
    fun level tells => noted tells (.reported level)

theorem propagate_chronicle {state after : FrameSet × Run ω ε} {reached : Bool}
    (returned : propagate bench poll state = .ok reached after) :
    ∃ told, after.2.entries = state.2.entries ++ told ∧
      Chronicle bench.system state.1.ledger told after.1.ledger := by
  have met : Meets
      (fun _ after => Tells bench.system state.1.ledger state.2.entries after.1.untimed
        after.2.entries)
      (fun error after => error.IsInterruption ∨
        Breaks bench.system state.1.ledger state.2.entries error after.1.untimed after.2)
      (propagate bench poll state) :=
    propagate_tells state ⟨[], (List.append_nil _).symm, .nothing⟩
  rw [returned] at met
  exact met

/-- A propagation that nobody cancels succeeds exactly if none of its calls failed and none of its
queries was left undecided. Otherwise it reports the first of these failures, whatever else goes
wrong. Up to there its journal tells what happened to the frames: a query that was satisfied changed
nothing, and one that was refuted moved or dropped its own clause, if its scopes could be closed.
Nothing happens to the frames after the first failure, and all that is done is to pop scopes. -/
theorem first_failure_decides (bench : Workbench ω ε)
    (poll : ω → Except Cancellation.Interrupted Unit) (state : FrameSet × Run ω ε)
    (patient : Patient bench.solver poll state.2.world) :
    ∃ entries, (finalState (propagate bench poll state)).2.entries = state.2.entries ++ entries ∧
      ((∃ reached after, propagate bench poll state = .ok reached after) ↔
        ∀ entry ∈ entries, entry.failure = none) ∧
      (∀ reached after, propagate bench poll state = .ok reached after →
        Chronicle bench.system state.1.ledger entries after.1.ledger) ∧
      ∀ error after, propagate bench poll state = .error error after →
        ∃ failure told broken released, entries = told ++ broken ++ released ∧
          entries.findSome? Entry.failure = some failure ∧ error = .solver failure ∧
          (∀ [ToString ε], error.message = "Solver error: " ++ failure.message) ∧
          Chronicle bench.system state.1.ledger told after.1.ledger ∧
          Stumble (Queried bench.system) failure broken ∧ ∀ entry ∈ released, entry.Releases := by
  have met : Meets
      (fun _ after => Tells bench.system state.1.ledger state.2.entries after.1.untimed
        after.2.entries)
      (fun error after => error.IsInterruption ∨
        Breaks bench.system state.1.ledger state.2.entries error after.1.untimed after.2)
      (propagate bench poll state) :=
    propagate_tells state ⟨[], (List.append_nil _).symm, .nothing⟩
  cases result : propagate bench poll state with
  | ok reached after =>
      obtain ⟨told, written, chronicle⟩ := propagate_chronicle result
      refine ⟨told, written, ⟨fun _ => ?_, fun _ => ⟨reached, after, rfl⟩⟩, ?_, nofun⟩
      · exact List.findSome?_eq_none_iff.1 chronicle.failure_eq_none
      · intro _ _ same
        cases same
        exact chronicle
  | error error after =>
      rw [result] at met
      obtain ⟨failure, told, rfl, chronicle, prepared, broken, ⟨released, written, releases⟩,
        prepares, stumble⟩ := met.resolve_left (patient.uninterrupted result)
      have first : (told ++ prepared ++ broken ++ released).findSome? Entry.failure =
          some failure := by
        rw [List.findSome?_append, List.findSome?_append,
          (chronicle.prepare prepares).failure_eq_none, stumble.failure]
        rfl
      refine ⟨told ++ prepared ++ broken ++ released, ?_, ⟨?_, ?_⟩, nofun, ?_⟩
      · rw [finalState_error, written]
        simp
      · rintro ⟨_, _, same⟩
        cases same
      · intro faultless
        rw [List.findSome?_eq_none_iff.2 faultless] at first
        cases first
      · intro _ _ same
        cases same
        exact ⟨failure, told ++ prepared, broken, released, rfl, first, rfl, rfl,
          chronicle.prepare prepares, stumble, releases⟩

def stuckBench : Workbench (World Scripted.State) String where
  system := latchBench.system
  options := {}
  solver := Scripted.solver {
    afterwards := .unsat
    failures := [⟨.pop, 1, "stuck"⟩, ⟨.pop, 2, "still stuck"⟩] }
  clock := World.clock

def stuckOpened : FrameSet × Run (World Scripted.State) String :=
  (latchOpened.1.openNext latchBench.system, { world := { solver := {}, tokens := {} } })

theorem stuck_first_failure_decides :
    ∃ failure after, propagate stuckBench (fun _ => .ok ()) stuckOpened =
        .error (.solver failure) after ∧
      after.2.entries.findSome? Entry.failure = some failure := by
  obtain ⟨error, failed⟩ : ∃ error, propagate stuckBench (fun _ => .ok ()) stuckOpened =
      .error error (finalState (propagate stuckBench (fun _ => .ok ()) stuckOpened)) :=
    eq_error_of_returned (by decide +kernel)
  obtain ⟨entries, written, -, -, fails⟩ :=
    first_failure_decides stuckBench (fun _ => .ok ()) stuckOpened fun _ _ => rfl
  obtain ⟨failure, -, -, -, -, first, rfl, -⟩ := fails error _ failed
  exact ⟨failure, _, failed, written ▸ first⟩

end DeltaFrames.FrameSet
