import DeltaFrames.Proofs.FrameSet.Extent
import DeltaFrames.Proofs.FrameSet.Resumption
import DeltaFrames.Proofs.Session.Record

/-!
# Which clauses are moved

The journal tells which clauses were moved up and in which order (`Run.moves`). With an exact solver
this is determined by the frames: at each level that is visited the inductive clauses are moved, in
the order in which they are stored (`propagate_moves`).
-/

namespace DeltaFrames

variable {ω ε : Type}

def Entry.move? : Entry ε → Option (Nat × Term)
  | .event (.clausePropagated level clause) => some (level, clause)
  | _ => none

def Run.moves (run : Run ω ε) : List (Nat × Term) := run.entries.filterMap Entry.move?

theorem Run.moves_log (run : Run ω ε) (exchange : Exchange ε) (world : ω) :
    (run.log exchange world).moves = run.moves := by
  rw [moves, entries_log, List.filterMap_append]
  exact List.append_nil _

theorem Run.moves_emit (run : Run ω ε) (event : Event ε) :
    (run.emit event).moves = run.moves ++ (Entry.event event).move?.toList := by
  rw [moves, entries_emit, List.filterMap_append]
  rfl

theorem Run.moves_emit_silent (run : Run ω ε) (event : Event ε)
    (silent : (Entry.event event).move? = none) : (run.emit event).moves = run.moves := by
  rw [moves_emit, silent]
  exact List.append_nil _

theorem Session.moves_invariant (solver : Solver ω ε) (kept : List (Nat × Term) → Prop) :
    Session.Invariant solver (fun run => kept run.moves) fun session => kept session.run.moves := by
  refine Session.invariant_of_log (fun run made world holds => ?_) fun run error holds =>
    (run.moves_emit_silent (.releaseFailed error) rfl).symm ▸ holds
  rwa [Run.moves_log]

namespace FrameSet

open StateAction

namespace Regime

variable {bench : Workbench ω ε} {poll : ω → Except Cancellation.Interrupted Unit} {index : Nat}
  {kept : FrameSet → List (Nat × Term) → Prop}

def ofMoves (ω ε : Type) (kept : FrameSet → List (Nat × Term) → Prop) : Regime ω ε where
  idle frames run := kept frames run.moves
  opened frames session := kept frames session.run.moves
  busy frames session := kept frames session.run.moves
  failed _ frames run := kept frames run.moves
  broken _ frames session := kept frames session.run.moves

theorem ofMoves_pushing
    (promoted : ∀ frames clause moves, kept frames moves →
      kept (frames.promote index clause) (moves ++ [(index + 1, clause)])) :
    (ofMoves ω ε kept).Pushing bench poll index := by
  refine ofJournal_pushing (fun made world holds => ?_) (fun error holds => ?_)
    fun {frames run} clause _ holds => ?_
  · rwa [Run.moves_log]
  · rwa [Run.moves_emit_silent _ _ rfl]
  · rw [Run.moves_emit]
    exact promoted frames clause run.moves holds

theorem ofMoves_pruning
    (discarded : ∀ frames clause moves, kept frames moves →
      kept (frames.discard index clause) moves) :
    (ofMoves ω ε kept).Pruning bench poll index := by
  refine ofJournal_pruning (fun made world holds => ?_) (fun error holds => ?_)
    fun {frames run} stronger clause _ holds => ?_
  · rwa [Run.moves_log]
  · rwa [Run.moves_emit_silent _ _ rfl]
  · rw [Run.moves_emit_silent _ _ rfl]
    exact discarded frames clause run.moves holds

end Regime

def Tallies (counter : Counter) (told : List (Nat × Term)) (frames : FrameSet)
    (moves : List (Nat × Term)) : Prop :=
  ∃ more, moves = told ++ more ∧
    frames.statistics.propagatedClauses = Counter.next^[more.length] counter

theorem Tallies.promote {counter : Counter} {told moves : List (Nat × Term)} {frames : FrameSet}
    {index : Nat} {clause : Term} (tallies : Tallies counter told frames moves) :
    Tallies counter told (frames.promote index clause) (moves ++ [(index + 1, clause)]) := by
  obtain ⟨more, rfl, counts⟩ := tallies
  refine ⟨more ++ [(index + 1, clause)], List.append_assoc .., ?_⟩
  rw [List.length_append, List.length_singleton, Function.iterate_succ_apply', ← counts]
  rfl

theorem tallies_upheld {bench : Workbench ω ε} {poll : ω → Except Cancellation.Interrupted Unit}
    {index : Nat} (counter : Counter) (told : List (Nat × Term)) :
    (Regime.ofMoves ω ε (Tallies counter told)).Upheld bench poll index :=
  { Regime.ofMoves_pushing fun _ _ _ tallies => Tallies.promote tallies,
    Regime.ofMoves_pruning fun _ _ _ tallies => tallies with }

theorem propagate_tallies (bench : Workbench ω ε) (poll : ω → Except Cancellation.Interrupted Unit)
    (state : FrameSet × Run ω ε) :
    Tallies state.1.statistics.propagatedClauses state.2.moves
      (finalState (propagate bench poll state)).1
      (finalState (propagate bench poll state)).2.moves := by
  have silent {frames : FrameSet} {run : Run ω ε} (event : Event ε)
      (quiet : (Entry.event event).move? = none)
      (tallies : Tallies state.1.statistics.propagatedClauses state.2.moves frames run.moves) :
      Tallies state.1.statistics.propagatedClauses state.2.moves frames (run.emit event).moves :=
    (run.moves_emit_silent event quiet).symm ▸ tallies
  have keeps : (Regime.ofMoves ω ε (Tallies state.1.statistics.propagatedClauses
      state.2.moves)).Keeps (propagate bench poll) :=
    Regime.propagate_upheld (fun _ => tallies_upheld _ _) (fun tallies => tallies)
      (fun _ tallies => silent _ rfl tallies) fun _ tallies => silent _ rfl tallies
  have preserves : Preserves (fun now : FrameSet × Run ω ε =>
      Tallies state.1.statistics.propagatedClauses state.2.moves now.1 now.2.moves)
      (propagate bench poll) := keeps
  exact preserves.finalState ⟨[], (List.append_nil _).symm, rfl⟩

noncomputable def relativelyInductive (I : Interpretation) (system : TransitionSystem) (index : Nat)
    (frames : FrameSet) (clause : Term) : Bool :=
  contradictory I system (inductionQuery system (frames.effective (index + 1)) clause)

theorem pushed_eq_swept (I : Interpretation) (system : TransitionSystem) (index : Nat)
    (frames : FrameSet) :
    pushed I system index frames =
      swept (relativelyInductive I system index frames) (promote · index)
        (frames.storedAt (index + 1)).toList frames := rfl

noncomputable def moved (I : Interpretation) (system : TransitionSystem) (index : Nat)
    (frames : FrameSet) : List (Nat × Term) :=
  ((frames.storedAt (index + 1)).toList.filter (relativelyInductive I system index frames)).map
    (index + 1, ·)

noncomputable def movesAll (I : Interpretation) (system : TransitionSystem) (subsumption : Bool) :
    List Nat → FrameSet → List (Nat × Term)
  | [], _ => []
  | index :: rest, frames =>
      let after := visited I system subsumption index frames
      moved I system index frames ++
        if (after.storedAt (index + 1)).isEmpty then []
        else movesAll I system subsumption rest after

variable {I : Interpretation} {bench : Workbench ω ε} {view : View ω}
  {base : ScopeStack} {index : Nat} {start : FrameSet} {moves : List (Nat × Term)}
  (poll : ω → Except Cancellation.Interrupted Unit)

section Pushing

variable {states : Frame} {chosen : Term → Bool} {all : List (Nat × Term)}

theorem askInduction_moves (disciplined : bench.solver.Disciplined view) (clause : Term)
    (kept : List (Nat × Term) → Prop) :
    Triple (fun state : FrameSet × Session ω ε =>
        state.2.Ready view base bench.system.declarations
          [bench.system.transition :: states.toList, []] ∧ kept state.2.run.moves)
      (timed (fun session => bench.clock session.run.world) recordSolver
        (onSecond (.adaptExcept .solver
          (Session.isUnsatWith bench.solver (bench.system.prime clause.negate)))))
      (fun unsat state =>
        (state.2.Ready view base bench.system.declarations
          [bench.system.transition :: states.toList, []] ∧ kept state.2.run.moves) ∧
        decisions bench view base (inductionQuery bench.system states clause) unsat)
      (fun _ _ => True) := by
  have silent : Triple (fun state : FrameSet × Session ω ε => kept state.2.run.moves)
      (timed (fun session => bench.clock session.run.world) recordSolver
        (onSecond (.adaptExcept .solver
          (Session.isUnsatWith bench.solver (bench.system.prime clause.negate)))) : Work ε _ Bool)
      (fun _ state => kept state.2.run.moves) (fun _ state => kept state.2.run.moves) :=
    timed_triple (Triple.onSecond fun _ => Triple.adaptExcept _
      ((Session.moves_invariant bench.solver kept).isUnsatWith _))
      (fun _ _ _ holds => holds) fun _ _ _ holds => holds
  exact ((askInduction_triple disciplined states clause (fun _ => True) fun _ _ _ => trivial).and
    silent).mono (fun _ ⟨ready, holds⟩ => ⟨⟨trivial, ready⟩, holds⟩)
    (fun _ _ ⟨⟨⟨_, ready⟩, answered⟩, holds⟩ => ⟨⟨ready, holds⟩, answered⟩) fun _ _ _ => trivial

def Moving (bench : Workbench ω ε) (view : View ω) (base : ScopeStack) (index : Nat)
    (states : Frame) (chosen : Term → Bool) (all : List (Nat × Term)) (ahead : List Term)
    (session : Session ω ε) : Prop :=
  session.Ready view base bench.system.declarations
    [bench.system.transition :: states.toList, []] ∧
  session.run.moves ++ (ahead.filter chosen).map (index + 1, ·) = all

theorem pushClause_moves (disciplined : bench.solver.Disciplined view) (clause : Term)
    (rest : List Term)
    (decided : ∀ unsat,
      decisions bench view base (inductionQuery bench.system states clause) unsat →
        chosen clause = unsat) :
    Triple (fun state : FrameSet × Session ω ε =>
        Moving bench view base index states chosen all (clause :: rest) state.2)
      (pushClause bench poll index clause)
      (fun _ state => Moving bench view base index states chosen all rest state.2)
      (fun _ _ => True) := by
  refine (askInduction_moves disciplined clause fun moves =>
    moves ++ ((clause :: rest).filter chosen).map (index + 1, ·) = all).bind fun unsat =>
      judged_triple
        (fun session : Session ω ε => session.emit (.clausePropagated (index + 1) clause))
        (·.promote index clause) (fun session => poll session.run.world) unsat ?_ ?_
        fun _ _ _ _ => trivial
  · rintro rfl frames session ⟨⟨ready, split⟩, answered⟩
    have told : (session.emit (.clausePropagated (index + 1) clause)).run.moves =
        session.run.moves ++ [(index + 1, clause)] := session.run.moves_emit _
    rw [List.filter_cons_of_pos (decided true answered), List.map_cons, List.append_cons] at split
    exact ⟨ready, by rwa [told]⟩
  · rintro rfl state ⟨⟨ready, split⟩, answered⟩
    rw [List.filter_cons_of_neg (Bool.eq_false_iff.1 (decided false answered))] at split
    exact ⟨ready, split⟩

theorem pushPremises_moves (disciplined : bench.solver.Disciplined view) (clauses : List Term) :
    Triple (fun state : FrameSet × Session ω ε =>
        state.2.Ready view base bench.system.declarations [[]] ∧ state.2.run.moves = moves)
      (onSecond (.adaptExcept .solver
        (Session.pushAll bench.solver (bench.system.transition :: states.toList))) : Work ε _ Unit)
      (fun _ state => Moving bench view base index states chosen
        (moves ++ (clauses.filter chosen).map (index + 1, ·)) clauses state.2)
      (fun _ _ => True) :=
  Triple.onSecond fun _ => Triple.adaptExcept _
    (((Session.pushAll_ready disciplined _).and
      ((Session.moves_invariant bench.solver (· = moves)).pushAll _)).mono (fun _ holds => holds)
      (fun _ _ ⟨ready, same⟩ => ⟨ready, congrArg (· ++ _) same⟩) fun _ _ _ => trivial)

end Pushing

theorem removeSubsumed_moves :
    Triple (fun state : FrameSet × Run ω ε => state.2.moves = moves)
      (removeSubsumed bench poll index) (fun _ state => state.2.moves = moves)
      (fun _ state => state.2.moves = moves) := by
  have pruning : (Regime.ofMoves ω ε fun _ told => told = moves).Pruning bench poll index :=
    Regime.ofMoves_pruning fun _ _ _ same => same
  exact pruning.removeSubsumed

variable (exactSolver : bench.solver.Exact I view) (wellSorted : bench.system.WellSorted)
  (free : base.assertions = [])

include exactSolver wellSorted free

theorem pushClauses_moves (sorted : start.ClausesSorted bench.system.declarations.signature) :
    Triple (fun state : FrameSet × Run ω ε =>
        (state.1.ledger = start ∧ view.stack state.2.world = base) ∧ state.2.moves = moves)
      (pushClauses bench poll index)
      (fun _ state => state.2.moves = moves ++ moved I bench.system index start)
      (fun _ _ => True) := by
  refine Triple.get ?_
  rintro ⟨frames, run⟩ ⟨⟨rfl, stack⟩, same⟩
  have decided (clause : Term) (stored : clause ∈ frames.storedAt (index + 1)) (unsat : Bool)
      (answered : decisions bench view base
        (inductionQuery bench.system (frames.effective (index + 1)) clause) unsat) :
      relativelyInductive I bench.system index frames clause = unsat :=
    decisions_reliable exactSolver free _ _
      (inductionQuery_sorted wellSorted (fun _ => sorted.effective (Nat.succ_pos _))
        (sorted _ clause (Nat.succ_pos _) stored)) answered
  have swept := Triple.forM_of_mem (fun ahead (state : FrameSet × Session ω ε) =>
      Moving bench view base index (frames.effective (index + 1))
        (relativelyInductive I bench.system index frames)
        (moves ++ moved I bench.system index frames) ahead state.2)
    (fun clause stored rest => pushClause_moves poll exactSolver.toDisciplined clause rest
      (decided clause stored))
  have ended := Session.moves_invariant bench.solver
    (· = moves ++ moved I bench.system index frames)
  refine (?_ : Triple (fun state : FrameSet × Run ω ε =>
    view.stack state.2.world = base ∧ state.2.moves = moves) _ _ _) (frames, run) ⟨stack, same⟩
  refine Session.within_rule ?_ (fun _ _ _ _ _ _ => trivial)
    ((pushPremises_moves exactSolver.toDisciplined _).bind fun _ => swept) ?_ fun _ _ _ _ => trivial
  · rintro _ run session ⟨stack, same⟩ opening
    exact ⟨(Session.start_ready exactSolver.toDisciplined _ stack).of_ok opening,
      ((Session.moves_invariant bench.solver (· = moves)).starts _ same).of_ok opening⟩
  · rintro _ _ session ⟨-, all⟩
    exact (ended.closes session ((List.append_nil _).symm.trans all)).mono
      (fun _ _ left => left) fun _ _ _ => trivial

theorem visitLevel_moves (sorted : start.ClausesSorted bench.system.declarations.signature) :
    Triple (fun state : FrameSet × Run ω ε =>
        (state.1.ledger = start ∧ view.stack state.2.world = base) ∧ state.2.moves = moves)
      (visitLevel bench poll index)
      (fun _ state => state.2.moves = moves ++ moved I bench.system index start)
      (fun _ _ => True) :=
  visitLevel_rule (fun state => state.2.moves = moves ++ moved I bench.system index start)
    (fun _ _ holds => holds) (pushClauses_moves poll exactSolver wellSorted free sorted)
    (fun _ _ holds => holds) (fun _ => (removeSubsumed_moves poll).mono (fun _ holds => holds)
      (fun _ _ holds => holds) fun _ _ _ => trivial) (fun _ _ _ holds => holds)
    (fun _ _ _ _ _ => trivial)
    (fun _ run holds _ => (run.moves_emit_silent _ rfl).trans holds) fun _ _ holds _ => holds

theorem visitLevels_moves (levels : List Nat)
    (sorted : start.ClausesSorted bench.system.declarations.signature) :
    Triple (fun state : FrameSet × Run ω ε =>
        (state.1.ledger = start ∧ view.stack state.2.world = base) ∧ state.2.moves = moves)
      (visitLevels bench poll levels)
      (fun _ state => state.2.moves =
        moves ++ movesAll I bench.system bench.options.subsumption levels start)
      (fun _ _ => True) := by
  induction levels generalizing start moves with
  | nil => exact fun _ ⟨_, same⟩ => same.trans (List.append_nil moves).symm
  | cons index rest ih =>
      refine (((visitLevel_course poll exactSolver.toDisciplined).and
        (visitLevel_moves poll exactSolver wellSorted free sorted)).mono
          (fun _ ⟨holds, same⟩ => ⟨holds, holds, same⟩) (fun _ _ visited => visited)
          fun _ _ _ => trivial).bind fun empty => ?_
      rintro ⟨frames, run⟩ ⟨⟨⟨visit, isEmpty⟩, stack⟩, same⟩
      have ⟨truthful, after⟩ :=
        visit.truthful (decisions_reliable exactSolver free) sorted wellSorted
      have split : movesAll I bench.system bench.options.subsumption (index :: rest) start =
          moved I bench.system index start ++ if empty then [] else
            movesAll I bench.system bench.options.subsumption rest frames.ledger := by
        rw [movesAll, ← truthful.eq_visited, ← isEmpty]
        rfl
      rw [split, ← List.append_assoc]
      cases empty with
      | true => exact same.trans (List.append_nil _).symm
      | false => exact ih after (frames, run) ⟨⟨rfl, stack⟩, same⟩

omit free in
theorem propagate_moves {frames : FrameSet} {run : Run ω ε} {after : FrameSet × Run ω ε}
    {reached : Bool} (sorted : frames.ClausesSorted bench.system.declarations.signature)
    (free : (view.stack run.world).assertions = [])
    (returned : propagate bench poll (frames, run) = .ok reached after) :
    after.2.moves = run.moves ++ movesAll I bench.system bench.options.subsumption
      (List.range (frames.frontier - 1)) frames.ledger := by
  obtain ⟨elapsed, visited, visits, rfl⟩ := of_propagate_ok returned
  have announced : (run.emit (.propagatingClauses frames.frontier)).moves = run.moves :=
    run.moves_emit_silent _ rfl
  have ledgerSorted : frames.ledger.ClausesSorted bench.system.declarations.signature := sorted
  have met := visitLevels_moves poll exactSolver wellSorted free
    (List.range (frames.frontier - 1)) ledgerSorted
    (frames, run.emit (.propagatingClauses frames.frontier)) ⟨⟨rfl, rfl⟩, announced⟩
  rwa [visits] at met

end FrameSet
end DeltaFrames
