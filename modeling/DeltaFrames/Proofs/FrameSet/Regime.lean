import DeltaFrames.Proofs.FrameSet.Course
import DeltaFrames.Proofs.FrameSet.Levels
import DeltaFrames.Proofs.Session.Invariant

/-!
# Regimes

A regime says what holds while clauses are propagated: between sessions, within the session in
which clauses are pushed, and once something has failed. It is heeded at a level if the steps of
the work at this level keep it up, given what the poll says after each query (`Regime.Heeded`), and
then so does all the work there. What is heeded at every level that is visited holds after a
propagation (`propagate_heeded`).

A regime knows of the frames all but what is timed. It is told that the clause of each query is
still stored where it was found, and that one which may replace it still holds above. Regimes that
do not depend on the poll (`Regime.Upheld`), that are about the sessions alone (`ofSessions`), about
the journal (`ofJournal`) or about the frames alone (`ofFrames`), are heeded under simpler
conditions.
-/

namespace DeltaFrames.FrameSet

open StateAction

/-- The frames without timings, and without the number of clauses, which is only brought up to date
when a propagation ends. -/
def untimed (frames : FrameSet) : FrameSet :=
  { frames.ledger with
    statistics := { frames.ledger.statistics with
      levelsPropagated := frames.statistics.levelsPropagated } }

structure Regime (ω ε : Type) where
  idle : FrameSet → Run ω ε → Prop
  /-- What holds when a session has just been opened to push clauses. -/
  opened : FrameSet → Session ω ε → Prop
  busy : FrameSet → Session ω ε → Prop
  failed : FrameSetError ε → FrameSet → Run ω ε → Prop
  /-- What holds when something has failed within a session, which is about to be dropped. -/
  broken : FrameSetError ε → FrameSet → Session ω ε → Prop

namespace Regime

variable {ω ε : Type}

def ResumesBusy (regime : Regime ω ε) (poll : ω → Except Cancellation.Interrupted Unit)
    (frames : FrameSet) (session : Session ω ε) : Prop :=
  Heeds (poll session.run.world) (regime.busy frames session) (regime.broken · frames session)

def Resumes (regime : Regime ω ε) (poll : ω → Except Cancellation.Interrupted Unit)
    (frames : FrameSet) (run : Run ω ε) : Prop :=
  Heeds (poll run.world) (regime.idle frames run) (regime.failed · frames run)

structure Hosting (regime : Regime ω ε) (bench : Workbench ω ε) (index : Nat) : Prop where
  opens : ∀ {frames run session}, regime.idle frames run →
    Session.start bench.solver bench.system.declarations run = .ok session →
      regime.opened frames session
  refuses : ∀ {frames run error left}, regime.idle frames run →
    Session.start bench.solver bench.system.declarations run = .error (error, left) →
      regime.failed (.solver error) frames left
  premises : ∀ frames, Triple (regime.opened frames)
    (Session.pushAll bench.solver
      (bench.system.transition :: (frames.effective (index + 1)).toList))
    (fun _ => regime.busy frames) (fun error => regime.broken (.solver error) frames)
  closes : ∀ {frames session}, regime.busy frames session →
    Meets (fun _ run => regime.idle frames run)
      (fun error run => regime.failed (.solver error) frames run) (session.close bench.solver)
  drops : ∀ {error frames session}, regime.broken error frames session →
    regime.failed error frames (session.drop bench.solver)

structure HeededPushing (regime : Regime ω ε) (bench : Workbench ω ε)
    (poll : ω → Except Cancellation.Interrupted Unit) (index : Nat) : Prop
    extends regime.Hosting bench index where
  moves : ∀ frames, ∀ clause ∈ frames.storedAt (index + 1), Triple (regime.busy frames)
    (Session.isUnsatWith bench.solver (bench.system.prime clause.negate))
    (fun unsat session =>
      if unsat then
        regime.ResumesBusy poll (frames.promote index clause)
          (session.emit (.clausePropagated (index + 1) clause))
      else regime.ResumesBusy poll frames session)
    (fun error => regime.broken (.solver error) frames)

structure HeededPruning (regime : Regime ω ε) (bench : Workbench ω ε)
    (poll : ω → Except Cancellation.Interrupted Unit) (index : Nat) : Prop where
  subsumes : ∀ frames, ∀ stronger ∈ frames.effective (index + 2),
    ∀ clause ∈ frames.storedAt (index + 1),
    Triple (fun state : FrameSet × Run ω ε => state.1 = frames ∧ regime.idle frames.untimed state.2)
      (Session.isUnsatAlone bench.solver bench.system.declarations
        (.not (stronger.implies clause)))
      (fun unsat state => state.1 = frames ∧
        if unsat then
          regime.Resumes poll (frames.untimed.discard index clause)
            (state.2.emit (.clauseSubsumed (index + 1) clause stronger))
        else regime.Resumes poll frames.untimed state.2)
      (fun error state => state.1 = frames ∧
        regime.failed (.solver error) frames.untimed state.2)

structure Heeded (regime : Regime ω ε) (bench : Workbench ω ε)
    (poll : ω → Except Cancellation.Interrupted Unit) (index : Nat) : Prop where
  pushing : regime.HeededPushing bench poll index
  pruning : bench.options.subsumption = true → regime.HeededPruning bench poll index

variable {regime : Regime ω ε} {bench : Workbench ω ε}
  {poll : ω → Except Cancellation.Interrupted Unit} {index : Nat}

def Keeps {α : Type} (regime : Regime ω ε) (action : Work ε (Run ω ε) α) : Prop :=
  Triple (fun state : FrameSet × Run ω ε => regime.idle state.1.untimed state.2) action
    (fun _ state => regime.idle state.1.untimed state.2)
    (fun error state => regime.failed error state.1.untimed state.2)

def Ahead (index : Nat) (clauses : List Term) (frames : FrameSet) : Prop :=
  clauses.Nodup ∧ ∀ clause ∈ clauses, clause ∈ frames.storedAt (index + 1)

theorem Ahead.acted (act : FrameSet → Term → FrameSet) {frames : FrameSet} {clause : Term}
    {rest : List Term}
    (takes : ((act frames clause).storedAt (index + 1)).toList =
      (frames.storedAt (index + 1)).toList.erase clause)
    (ahead : Ahead index (clause :: rest) frames) : Ahead index rest (act frames clause) := by
  have ⟨fresh, distinct⟩ := List.nodup_cons.1 ahead.1
  refine ⟨distinct, fun other member => ?_⟩
  have different : other ≠ clause := by
    rintro rfl
    exact fresh member
  rw [← OrderedSet.mem_toList, takes, List.mem_erase_of_ne different]
  exact ahead.2 other (List.mem_cons_of_mem _ member)

theorem Ahead.tail {frames : FrameSet} {clause : Term} {rest : List Term}
    (ahead : Ahead index (clause :: rest) frames) : Ahead index rest frames :=
  ⟨ahead.1.of_cons, (List.forall_mem_cons.1 ahead.2).2⟩

theorem ahead_stored (frames : FrameSet) :
    Ahead index (frames.storedAt (index + 1)).toList frames :=
  ⟨(frames.storedAt (index + 1)).nodup, fun _ member => member⟩

section Pushing

variable (pushing : regime.HeededPushing bench poll index)

include pushing

theorem HeededPushing.pushClause (clause : Term) (rest : List Term) :
    Triple (fun state : FrameSet × Session ω ε =>
        Ahead index (clause :: rest) state.1 ∧ regime.busy state.1.untimed state.2)
      (FrameSet.pushClause bench poll index clause)
      (fun _ state => Ahead index rest state.1 ∧ regime.busy state.1.untimed state.2)
      (fun error state => regime.broken error state.1.untimed state.2) := by
  have asked : Triple (fun state : FrameSet × Session ω ε =>
        Ahead index (clause :: rest) state.1 ∧ regime.busy state.1.untimed state.2)
      (onSecond (.adaptExcept .solver
        (Session.isUnsatWith bench.solver (bench.system.prime clause.negate))) : Work ε _ Bool)
      (fun unsat state => Ahead index (clause :: rest) state.1 ∧
        if unsat then
          regime.ResumesBusy poll (state.1.untimed.promote index clause)
            (state.2.emit (.clausePropagated (index + 1) clause))
        else regime.ResumesBusy poll state.1.untimed state.2)
      (fun error state => regime.broken error state.1.untimed state.2) := by
    refine Triple.onSecond fun frames => Triple.adaptExcept _ ?_
    rintro session ⟨ahead, busy⟩
    have stored : clause ∈ frames.untimed.storedAt (index + 1) :=
      ahead.2 clause List.mem_cons_self
    exact (pushing.moves frames.untimed clause stored session busy).mono
      (fun _ _ answered => ⟨ahead, answered⟩) fun _ _ broken => broken
  have polled {frames : FrameSet} {session : Session ω ε} (ahead : Ahead index rest frames)
      (resumes : regime.ResumesBusy poll frames.untimed session) :
      Meets (fun _ state => Ahead index rest state.1 ∧ regime.busy state.1.untimed state.2)
        (fun error state => regime.broken error state.1.untimed state.2)
        (checkpoint (fun session : Session ω ε => poll session.run.world) (frames, session)) :=
    Heeds.checkpoint resumes (fun busy => ⟨ahead, busy⟩) fun _ broken => broken
  refine (timed_triple asked (fun _ _ _ answered => answered) fun _ _ _ broken => broken).bind
    fun unsat => polled_triple
      (fun session : Session ω ε => session.emit (.clausePropagated (index + 1) clause))
      (·.promote index clause) (fun session => poll session.run.world) unsat ?_ ?_
  · rintro rfl frames session ⟨ahead, answered⟩
    exact polled (ahead.acted (promote · index) toList_storedAt_promote) answered
  · rintro rfl state ⟨ahead, answered⟩
    exact polled ahead.tail answered

theorem HeededPushing.pushClauses : regime.Keeps (FrameSet.pushClauses bench poll index) := by
  refine Triple.get ?_
  rintro ⟨frames, run⟩ idle
  have pushed : Triple (fun state : FrameSet × Session ω ε =>
        state.1 = frames ∧ regime.opened frames.untimed state.2)
      (onSecond (.adaptExcept .solver (Session.pushAll bench.solver
        (bench.system.transition :: (frames.effective (index + 1)).toList))) : Work ε _ Unit)
      (fun _ state => Ahead index (frames.storedAt (index + 1)).toList state.1 ∧
        regime.busy state.1.untimed state.2)
      (fun error state => regime.broken error state.1.untimed state.2) := by
    refine Triple.onSecond fun kept => Triple.adaptExcept _ ?_
    rintro session ⟨rfl, opened⟩
    exact (pushing.premises kept.untimed session opened).mono
      (fun _ _ busy => ⟨ahead_stored kept, busy⟩) fun _ _ broken => broken
  have swept := Triple.forM (fun rest (state : FrameSet × Session ω ε) =>
      Ahead index rest state.1 ∧ regime.busy state.1.untimed state.2)
    (fun clause rest => pushing.pushClause clause rest) (frames.storedAt (index + 1)).toList
  refine (?_ : Triple (fun state : FrameSet × Run ω ε =>
    state.1 = frames ∧ regime.idle frames.untimed state.2) _ _ _) (frames, run) ⟨rfl, idle⟩
  refine Session.within_rule ?_ ?_ (pushed.bind fun _ => swept) ?_ ?_
  · rintro _ run session ⟨rfl, idle⟩ opening
    exact ⟨rfl, pushing.opens idle opening⟩
  · rintro _ run error left ⟨rfl, idle⟩ opening
    exact pushing.refuses idle opening
  · exact fun _ _ _ ⟨_, busy⟩ => pushing.closes busy
  · exact fun _ _ _ broken => pushing.drops broken

end Pushing

section Pruning

variable (pruning : regime.HeededPruning bench poll index)

include pruning

theorem HeededPruning.trySubsume {above : Frame} {stronger : Term} (held : stronger ∈ above)
    (clause : Term) (rest : List Term) :
    Triple (fun state : FrameSet × Run ω ε => state.1.effective (index + 2) = above ∧
        Ahead index (clause :: rest) state.1 ∧ regime.idle state.1.untimed state.2)
      (FrameSet.trySubsume bench poll index stronger clause)
      (fun _ state => state.1.effective (index + 2) = above ∧
        Ahead index rest state.1 ∧ regime.idle state.1.untimed state.2)
      (fun error state => regime.failed error state.1.untimed state.2) := by
  have asked : Triple (fun state : FrameSet × Run ω ε => state.1.effective (index + 2) = above ∧
        Ahead index (clause :: rest) state.1 ∧ regime.idle state.1.untimed state.2)
      (EStateM.adaptExcept .solver (Session.isUnsatAlone bench.solver bench.system.declarations
        (.not (stronger.implies clause))) : Work ε _ Bool)
      (fun unsat state => state.1.effective (index + 2) = above ∧
        Ahead index (clause :: rest) state.1 ∧
        if unsat then
          regime.Resumes poll (state.1.untimed.discard index clause)
            (state.2.emit (.clauseSubsumed (index + 1) clause stronger))
        else regime.Resumes poll state.1.untimed state.2)
      (fun error state => regime.failed error state.1.untimed state.2) := by
    refine Triple.adaptExcept _ ?_
    rintro state ⟨rfl, ahead, idle⟩
    refine (pruning.subsumes state.1 stronger held clause (ahead.2 clause List.mem_cons_self) state
      ⟨rfl, idle⟩).mono ?_ ?_
    · rintro unsat after ⟨same, answered⟩
      rw [same]
      exact ⟨rfl, ahead, answered⟩
    · rintro error after ⟨same, failed⟩
      rwa [same]
  have polled {frames : FrameSet} {run : Run ω ε} (same : frames.effective (index + 2) = above)
      (ahead : Ahead index rest frames) (resumes : regime.Resumes poll frames.untimed run) :
      Meets (fun _ state => state.1.effective (index + 2) = above ∧ Ahead index rest state.1 ∧
          regime.idle state.1.untimed state.2)
        (fun error state => regime.failed error state.1.untimed state.2)
        (checkpoint (fun run : Run ω ε => poll run.world) (frames, run)) :=
    Heeds.checkpoint resumes (fun idle => ⟨same, ahead, idle⟩) fun _ failed => failed
  refine asked.bind fun unsat => polled_triple
    (fun run : Run ω ε => run.emit (.clauseSubsumed (index + 1) clause stronger))
    (·.discard index clause) (fun run => poll run.world) unsat ?_ ?_
  · rintro rfl frames run ⟨same, ahead, answered⟩
    refine polled ?_ (ahead.acted (discard · index) toList_storedAt_discard) answered
    rwa [effective_discard_above (Nat.lt_succ_self _)]
  · rintro rfl state ⟨same, ahead, answered⟩
    exact polled same ahead.tail answered

theorem HeededPruning.removeSubsumed : regime.Keeps (FrameSet.removeSubsumed bench poll index) := by
  refine Triple.get fun state idle => ?_
  -- The clauses above the level stay as they are while the level is thinned out.
  have pruned (stronger : Term) (others : List Term) :
      Triple (fun later : FrameSet × Run ω ε =>
          (∀ other ∈ stronger :: others, other ∈ state.1.effective (index + 2)) ∧
          later.1.effective (index + 2) = state.1.effective (index + 2) ∧
          regime.idle later.1.untimed later.2)
        (subsumeBy bench poll index stronger)
        (fun _ later => (∀ other ∈ others, other ∈ state.1.effective (index + 2)) ∧
          later.1.effective (index + 2) = state.1.effective (index + 2) ∧
          regime.idle later.1.untimed later.2)
        (fun error later => regime.failed error later.1.untimed later.2) := by
    refine Triple.get fun later holds => ?_
    obtain ⟨held, same, idle⟩ := holds
    have ⟨here, rest⟩ := List.forall_mem_cons.1 held
    exact (Triple.forM (fun left (now : FrameSet × Run ω ε) =>
        now.1.effective (index + 2) = state.1.effective (index + 2) ∧
        Ahead index left now.1 ∧ regime.idle now.1.untimed now.2)
      (fun clause left => pruning.trySubsume here clause left)
      (later.1.storedAt (index + 1)).toList later ⟨same, ahead_stored later.1, idle⟩).mono
      (fun _ _ holds => ⟨rest, holds.1, holds.2.2⟩) fun _ _ failed => failed
  exact (Triple.forM (fun rest (later : FrameSet × Run ω ε) =>
      (∀ other ∈ rest, other ∈ state.1.effective (index + 2)) ∧
      later.1.effective (index + 2) = state.1.effective (index + 2) ∧
      regime.idle later.1.untimed later.2)
    pruned (state.1.effective (index + 2)).toList state
    ⟨fun _ member => OrderedSet.mem_toList.1 member, rfl, idle⟩).mono
    (fun _ _ holds => holds.2.2) fun _ _ failed => failed

end Pruning

/-! ## Whole propagations -/

section Propagation

variable
  (counted : ∀ {frames run}, regime.idle frames run → regime.idle frames.countLevel run)
  (reported : ∀ {frames run} level, regime.idle frames run →
    regime.idle frames (run.emit (.fixpointReached level)))

include counted reported

theorem visitLevel_heeded (heeded : regime.Heeded bench poll index) :
    regime.Keeps (visitLevel bench poll index) :=
  visitLevel_rule (fun state => regime.idle state.1.untimed state.2) (fun _ _ idle => counted idle)
    heeded.pushing.pushClauses (fun _ _ idle => idle)
    (fun subsuming => (heeded.pruning subsuming).removeSubsumed) (fun _ _ _ idle => idle)
    (fun _ _ _ _ failed => failed) (fun _ _ idle _ => reported _ idle) fun _ _ idle _ => idle

theorem visitLevels_heeded {levels : List Nat}
    (heeded : ∀ index ∈ levels, regime.Heeded bench poll index) :
    regime.Keeps (visitLevels bench poll levels) := by
  induction levels with
  | nil => exact fun _ idle => idle
  | cons index rest ih =>
      have ⟨here, others⟩ := List.forall_mem_cons.1 heeded
      refine (visitLevel_heeded counted reported here).bind fun empty => ?_
      cases empty with
      | true => exact fun _ idle => idle
      | false => exact ih others

theorem propagate_heeded {state : FrameSet × Run ω ε}
    (heeded : ∀ index, index + 1 < state.1.frontier → regime.Heeded bench poll index)
    (begins : poll state.2.world = .ok () →
      regime.idle state.1.untimed (state.2.emit (.propagatingClauses state.1.frontier)))
    (refused : ∀ interruption, poll state.2.world = .error interruption →
      regime.failed (.interrupted interruption) state.1.untimed state.2) :
    Meets (fun _ after => regime.idle after.1.untimed after.2)
      (fun error after => regime.failed error after.1.untimed after.2)
      (propagate bench poll state) := by
  unfold propagate
  rw [bind_apply]
  cases said : poll state.2.world with
  | error interruption => rw [checkpoint_error said]; exact refused interruption said
  | ok _ =>
      rw [checkpoint_ok said]
      have visited : regime.Keeps (visitLevels bench poll (List.range (state.1.frontier - 1))) := by
        refine visitLevels_heeded counted reported fun index member => heeded index ?_
        have inside := List.mem_range.1 member
        omega
      have recorded : regime.Keeps (timed (fun run => bench.clock run.world)
          (fun elapsed => recount ∘ recordPropagation elapsed)
          (visitLevels bench poll (List.range (state.1.frontier - 1)))) :=
        timed_triple visited (fun _ _ _ idle => idle) fun _ _ _ failed => failed
      exact recorded (state.1, state.2.emit (.propagatingClauses state.1.frontier)) (begins said)

end Propagation

/-! ## Regimes that do not depend on the poll -/

structure Pushing (regime : Regime ω ε) (bench : Workbench ω ε)
    (poll : ω → Except Cancellation.Interrupted Unit) (index : Nat) : Prop
    extends regime.Hosting bench index where
  moves : ∀ frames, ∀ clause ∈ frames.storedAt (index + 1), Triple (regime.busy frames)
    (Session.isUnsatWith bench.solver (bench.system.prime clause.negate))
    (fun unsat session =>
      if unsat then
        regime.busy (frames.promote index clause)
          (session.emit (.clausePropagated (index + 1) clause))
      else regime.busy frames session)
    (fun error => regime.broken (.solver error) frames)
  interruptsBusy : ∀ {frames session interruption}, regime.busy frames session →
    poll session.run.world = .error interruption →
      regime.broken (.interrupted interruption) frames session

structure Pruning (regime : Regime ω ε) (bench : Workbench ω ε)
    (poll : ω → Except Cancellation.Interrupted Unit) (index : Nat) : Prop where
  subsumes : ∀ frames, ∀ stronger ∈ frames.effective (index + 2),
    ∀ clause ∈ frames.storedAt (index + 1),
    Triple (fun state : FrameSet × Run ω ε => state.1 = frames ∧ regime.idle frames.untimed state.2)
      (Session.isUnsatAlone bench.solver bench.system.declarations
        (.not (stronger.implies clause)))
      (fun unsat state => state.1 = frames ∧
        if unsat then
          regime.idle (frames.untimed.discard index clause)
            (state.2.emit (.clauseSubsumed (index + 1) clause stronger))
        else regime.idle frames.untimed state.2)
      (fun error state => state.1 = frames ∧
        regime.failed (.solver error) frames.untimed state.2)
  interrupts : ∀ {frames run interruption}, regime.idle frames run →
    poll run.world = .error interruption → regime.failed (.interrupted interruption) frames run

structure Upheld (regime : Regime ω ε) (bench : Workbench ω ε)
    (poll : ω → Except Cancellation.Interrupted Unit) (index : Nat) : Prop
    extends regime.Pushing bench poll index, regime.Pruning bench poll index

section Upheld

variable (pushing : regime.Pushing bench poll index) (pruning : regime.Pruning bench poll index)

include pushing in
theorem Pushing.heeded : regime.HeededPushing bench poll index where
  toHosting := pushing.toHosting
  moves frames clause stored := by
    have polled {frames : FrameSet} {session : Session ω ε} (busy : regime.busy frames session) :
        regime.ResumesBusy poll frames session :=
      heeds_of (fun _ => busy) fun _ said => pushing.interruptsBusy busy said
    refine (pushing.moves frames clause stored).mono (fun _ busy => busy)
      (fun unsat session answered => ?_) fun _ _ broken => broken
    cases unsat with
    | true => exact polled answered
    | false => exact polled answered

include pushing in
theorem Pushing.pushClauses : regime.Keeps (FrameSet.pushClauses bench poll index) :=
  pushing.heeded.pushClauses

include pruning

theorem Pruning.heeded : regime.HeededPruning bench poll index where
  subsumes frames stronger held clause stored := by
    have polled {frames : FrameSet} {run : Run ω ε} (idle : regime.idle frames run) :
        regime.Resumes poll frames run :=
      heeds_of (fun _ => idle) fun _ said => pruning.interrupts idle said
    refine (pruning.subsumes frames stronger held clause stored).mono (fun _ idle => idle)
      (fun unsat state answered => ⟨answered.1, ?_⟩) fun _ _ failed => failed
    cases unsat with
    | true => exact polled answered.2
    | false => exact polled answered.2

theorem Pruning.removeSubsumed : regime.Keeps (FrameSet.removeSubsumed bench poll index) :=
  pruning.heeded.removeSubsumed

end Upheld

theorem propagate_upheld (upheld : ∀ index, regime.Upheld bench poll index)
    (counted : ∀ {frames run}, regime.idle frames run → regime.idle frames.countLevel run)
    (announced : ∀ {frames run} frontier, regime.idle frames run →
      regime.idle frames (run.emit (.propagatingClauses frontier)))
    (reported : ∀ {frames run} level, regime.idle frames run →
      regime.idle frames (run.emit (.fixpointReached level))) :
    regime.Keeps (propagate bench poll) := fun state idle =>
  propagate_heeded counted reported
    (fun index _ => ⟨(upheld index).toPushing.heeded, fun _ => (upheld index).toPruning.heeded⟩)
    (fun _ => announced state.1.frontier idle) fun _ said => (upheld 0).interrupts idle said

/-! ## Regimes about sessions -/

section Sessions

variable {idle : Run ω ε → Prop} {busy : Session ω ε → Prop} {blamed : FrameSetError ε → Prop}

def ofSessions (idle : Run ω ε → Prop) (busy : Session ω ε → Prop)
    (blamed : FrameSetError ε → Prop) : Regime ω ε where
  idle _ := idle
  opened _ := busy
  busy _ := busy
  failed error _ run := blamed error ∧ idle run
  broken error _ session := blamed error ∧ busy session

variable (invariant : Session.Invariant bench.solver idle busy)
  (emitted : ∀ run event, idle run → idle (run.emit event))
  (emittedBusy : ∀ session event, busy session → busy (session.emit event))
  (blames : ∀ error, blamed (.solver error))
  (interrupts : ∀ run interruption, idle run → poll run.world = .error interruption →
    blamed (.interrupted interruption))
  (interruptsBusy : ∀ session interruption, busy session →
    poll session.run.world = .error interruption → blamed (.interrupted interruption))

include invariant emitted emittedBusy blames interrupts interruptsBusy

theorem ofSessions_upheld : (ofSessions idle busy blamed).Upheld bench poll index where
  opens holds opening := (invariant.starts _ holds).of_ok opening
  refuses holds opening := ⟨blames _, (invariant.starts _ holds).of_error opening⟩
  premises _ := (invariant.pushAll _).mono (fun _ holds => holds) (fun _ _ left => left)
    fun _ _ left => ⟨blames _, left⟩
  moves _ clause _ := by
    refine (invariant.isUnsatWith _).mono (fun _ holds => holds) (fun unsat session left => ?_)
      fun _ _ left => ⟨blames _, left⟩
    cases unsat with
    | true => exact emittedBusy session _ left
    | false => exact left
  closes holds := (invariant.closes _ holds).mono (fun _ _ left => left)
    fun _ _ left => ⟨blames _, left⟩
  drops broken := ⟨broken.1, invariant.drops _ broken.2⟩
  subsumes frames _ _ clause _ := by
    refine (invariant.isUnsatAlone _ _ frames).mono (fun _ holds => holds)
      (fun unsat state left => ⟨left.1, ?_⟩) fun _ _ left => ⟨left.1, blames _, left.2⟩
    cases unsat with
    | true => exact emitted state.2 _ left.2
    | false => exact left.2
  interrupts holds polled := ⟨interrupts _ _ holds polled, holds⟩
  interruptsBusy holds polled := ⟨interruptsBusy _ _ holds polled, holds⟩

theorem propagate_sessions :
    Triple (fun state : FrameSet × Run ω ε => idle state.2) (propagate bench poll)
      (fun _ state => idle state.2) (fun error state => blamed error ∧ idle state.2) :=
  propagate_upheld
    (fun _ => ofSessions_upheld invariant emitted emittedBusy blames interrupts interruptsBusy)
    (fun holds => holds) (fun _ holds => emitted _ _ holds) fun _ holds => emitted _ _ holds

omit blames interrupts interruptsBusy in
theorem propagate_preserves :
    Preserves (fun state : FrameSet × Run ω ε => idle state.2) (propagate bench poll) := by
  have kept : Triple (fun state : FrameSet × Run ω ε => idle state.2) (propagate bench poll)
      (fun _ state => idle state.2) (fun _ state => True ∧ idle state.2) :=
    propagate_sessions invariant emitted emittedBusy (fun _ => trivial) (fun _ _ _ _ => trivial)
      fun _ _ _ _ => trivial
  exact kept.mono (fun _ holds => holds) (fun _ _ holds => holds) fun _ _ left => left.2

end Sessions

/-! ## Regimes about the journal -/

section Journal

variable {kept : FrameSet → Run ω ε → Prop}

def ofJournal (kept : FrameSet → Run ω ε → Prop) : Regime ω ε where
  idle frames run := kept frames run
  opened frames session := kept frames session.run
  busy frames session := kept frames session.run
  failed _ frames run := kept frames run
  broken _ frames session := kept frames session.run

variable
  (logged : ∀ {frames run} made world, kept frames run → kept frames (run.log made world))
  (warned : ∀ {frames run} error, kept frames run → kept frames (run.emit (.releaseFailed error)))

include logged warned

theorem journal_invariant (solver : Solver ω ε) (frames : FrameSet) :
    Session.Invariant solver (kept frames) fun session => kept frames session.run :=
  Session.invariant_of_log (fun _ => logged) fun _ => warned

theorem ofJournal_pushing
    (promoted : ∀ {frames run}, ∀ clause ∈ frames.storedAt (index + 1), kept frames run →
      kept (frames.promote index clause) (run.emit (.clausePropagated (index + 1) clause))) :
    (ofJournal kept).Pushing bench poll index where
  opens {frames _ _} holds opening :=
    ((journal_invariant logged warned bench.solver frames).starts _ holds).of_ok opening
  refuses {frames _ _ _} holds opening :=
    ((journal_invariant logged warned bench.solver frames).starts _ holds).of_error opening
  premises frames := (journal_invariant logged warned bench.solver frames).pushAll _
  moves frames clause stored := by
    refine ((journal_invariant logged warned bench.solver frames).isUnsatWith _).mono
      (fun _ holds => holds) (fun unsat session holds => ?_) fun _ _ holds => holds
    cases unsat with
    | true => exact promoted clause stored holds
    | false => exact holds
  closes {frames session} holds :=
    (journal_invariant logged warned bench.solver frames).closes session holds
  drops {_ frames session} holds :=
    (journal_invariant logged warned bench.solver frames).drops session holds
  interruptsBusy holds _ := holds

theorem ofJournal_pruning
    (discarded : ∀ {frames run} stronger, ∀ clause ∈ frames.storedAt (index + 1), kept frames run →
      kept (frames.discard index clause)
        (run.emit (.clauseSubsumed (index + 1) clause stronger))) :
    (ofJournal kept).Pruning bench poll index where
  subsumes frames stronger _ clause stored := by
    have invariant : Session.Invariant bench.solver (kept frames.untimed) _ :=
      journal_invariant logged warned bench.solver frames.untimed
    refine (invariant.isUnsatAlone _ _ frames).mono (fun _ holds => holds)
      (fun unsat state left => ⟨left.1, ?_⟩) fun _ _ holds => holds
    cases unsat with
    | true => exact discarded stronger clause stored left.2
    | false => exact left.2
  interrupts holds _ := holds

end Journal

/-! ## Regimes about frames -/

section Frames

variable {kept : FrameSet → Prop}

def ofFrames (ω ε : Type) (kept : FrameSet → Prop) : Regime ω ε where
  idle frames _ := kept frames
  opened frames _ := kept frames
  busy frames _ := kept frames
  failed _ frames _ := kept frames
  broken _ frames _ := kept frames

theorem ofFrames_pushing
    (promoted : ∀ frames, ∀ clause ∈ frames.storedAt (index + 1), kept frames →
      kept (frames.promote index clause)) :
    (ofFrames ω ε kept).Pushing bench poll index :=
  ofJournal_pushing (fun _ _ holds => holds) (fun _ holds => holds) (promoted _)

theorem ofFrames_pruning
    (discarded : ∀ frames, ∀ clause ∈ frames.storedAt (index + 1), kept frames →
      kept (frames.discard index clause)) :
    (ofFrames ω ε kept).Pruning bench poll index :=
  ofJournal_pruning (fun _ _ holds => holds) (fun _ holds => holds) fun _ => discarded _

theorem ofFrames_upheld
    (promoted : ∀ frames, ∀ clause ∈ frames.storedAt (index + 1), kept frames →
      kept (frames.promote index clause))
    (discarded : ∀ frames, ∀ clause ∈ frames.storedAt (index + 1), kept frames →
      kept (frames.discard index clause)) :
    (ofFrames ω ε kept).Upheld bench poll index :=
  { ofFrames_pushing promoted, ofFrames_pruning discarded with }

end Frames

end Regime
end DeltaFrames.FrameSet
