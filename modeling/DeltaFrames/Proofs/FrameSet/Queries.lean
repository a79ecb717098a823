import DeltaFrames.Proofs.FrameSet.Chronicle
import DeltaFrames.Proofs.FrameSet.Extent
import DeltaFrames.Proofs.Session.Posing
import DeltaFrames.Proofs.Solver.Scripted
import DeltaFrames.Proofs.Term.Reading

/-!
# The solver is asked what the script shows

The query that decides whether a clause moves up is put together twice: as a script, and by the
session in which all clauses of a level are tried (`checks_pose_queries`).
-/

namespace DeltaFrames

variable {ω ε : Type}

def Entry.act : Entry ε → FrameSet → FrameSet
  | .event (.clausePropagated level clause), frames => frames.promote (level - 1) clause
  | .event (.clauseSubsumed level clause _), frames => frames.discard (level - 1) clause
  | _, frames => frames

namespace FrameSet

open StateAction

def framesAfter (frames : FrameSet) (entries : List (Entry ε)) : FrameSet :=
  entries.foldl (fun frames entry => entry.act frames) frames

theorem framesAfter_append (frames : FrameSet) (first second : List (Entry ε)) :
    framesAfter frames (first ++ second) = framesAfter (framesAfter frames first) second :=
  List.foldl_append

theorem framesAfter_prepared {frames : FrameSet} {entries : List (Entry ε)}
    (prepares : ∀ entry ∈ entries, entry.Prepares) : framesAfter frames entries = frames := by
  induction entries with
  | nil => rfl
  | cons entry rest ih =>
      obtain ⟨here, others⟩ := List.forall_mem_cons.1 prepares
      have unchanged : entry.act frames = frames := by
        cases here
        rfl
      rw [framesAfter, List.foldl_cons, unchanged]
      exact ih others

def PosesInduction (system : TransitionSystem) (frames : FrameSet) (index : Nat)
    (before : List (Entry ε)) (_ : Entry ε) : Prop :=
  ∃ clause ∈ frames.storedAt (index + 1),
    Opens [[system.prime clause.negate],
      system.transition :: (frames.effective (index + 1)).toList, []] before ∧
    declarationsOf before = system.declarations

def PosesSubsumption (frames : FrameSet) (index : Nat) (before : List (Entry ε)) (_ : Entry ε) :
    Prop :=
  ∃ stronger ∈ (framesAfter frames before).effective (index + 2),
    ∃ clause ∈ (framesAfter frames before).storedAt (index + 1),
      Opens [[.not (stronger.implies clause)], []] before

variable {bench : Workbench ω ε} {poll : ω → Except Cancellation.Interrupted Unit} {index : Nat}

/-! ## Pushing clauses -/

section Pushing

variable {system : TransitionSystem} {frames : FrameSet} {past : List (Entry ε)}

def preamble (system : TransitionSystem) (frames : FrameSet) (index : Nat) : List (Entry ε) :=
  opening system.declarations ++ .done .push () ::
    asserted (system.transition :: (frames.effective (index + 1)).toList)

theorem preamble_prepares (system : TransitionSystem) (frames : FrameSet) (index : Nat) :
    ∀ entry ∈ (preamble system frames index : List (Entry ε)), entry.Prepares :=
  List.forall_mem_append.2 ⟨opening_prepares _,
    List.forall_mem_cons.2 ⟨.done .push () nofun, asserted_prepares _⟩⟩

theorem opens_preamble (system : TransitionSystem) (frames : FrameSet) (index : Nat) :
    Opens [system.transition :: (frames.effective (index + 1)).toList, []]
      (preamble system frames index : List (Entry ε)) :=
  (opens_opening system.declarations).append (opens_premises _)

/-- Every clause that was tried has taken its own assertion back. -/
def Trying (system : TransitionSystem) (frames : FrameSet) (index : Nat) (past : List (Entry ε))
    (session : Session ω ε) : Prop :=
  ∃ earlier, session.At 2 (past ++ (preamble system frames index ++ earlier)) ∧
    AsksOnly (PosesInduction system frames index) (preamble system frames index ++ earlier) ∧
    Opens [] earlier ∧ declarationsOf earlier = []

theorem Trying.asking {session : Session ω ε} (trying : Trying system frames index past session) :
    Asking (PosesInduction system frames index) past session.run := by
  obtain ⟨earlier, written, asks, -⟩ := trying
  exact ⟨_, written.2, asks⟩

theorem Trying.emit {session : Session ω ε} (trying : Trying system frames index past session)
    (event : Event ε) : Trying system frames index past (session.emit event) := by
  obtain ⟨earlier, ⟨counted, written⟩, asks, quiet, silent⟩ := trying
  refine ⟨earlier ++ [.event event], ⟨counted, ?_⟩, ?_, quiet.quietly (opens_event event), ?_⟩
  · rw [← List.append_assoc (preamble system frames index), ← List.append_assoc past, ← written]
    exact Run.entries_emit session.run event
  · rw [← List.append_assoc]
    exact asks.append (asksOnly_of_unchecked (List.forall_mem_singleton.2 rfl))
  · rw [declarationsOf_append, silent]
    rfl

theorem posesInduction {clause : Term} (stored : clause ∈ frames.storedAt (index + 1))
    {earlier : List (Entry ε)} (quiet : Opens [] earlier) (silent : declarationsOf earlier = [])
    (check : Entry ε) :
    PosesInduction system frames index (preamble system frames index ++ earlier ++
      .done .push () :: asserted [system.prime clause.negate]) check := by
  refine ⟨clause, stored, ((opens_preamble system frames index).quietly quiet).append
    (opens_premises _), ?_⟩
  rw [declarationsOf_append, declarationsOf_append, preamble, declarationsOf_append,
    declarationsOf_opening, declarationsOf_premises, declarationsOf_premises, silent]
  simp

theorem isUnsatWith_trying {solver : Solver ω ε} {clause : Term}
    (stored : clause ∈ frames.storedAt (index + 1)) :
    Triple (Trying system frames index past)
      (Session.isUnsatWith solver (system.prime clause.negate))
      (fun _ => Trying system frames index past)
      (fun _ session => Asking (PosesInduction system frames index) past session.run) := by
  rintro session ⟨earlier, written, asks, quiet, silent⟩
  refine (Session.isUnsatWith_posed asks (posesInduction stored quiet silent) session written).mono
    ?_ fun _ _ asking => asking
  rintro unsat left ⟨leftWritten, leftAsks⟩
  rw [List.append_assoc] at leftWritten leftAsks
  refine ⟨_, leftWritten, leftAsks, quiet.quietly (opens_query _ _), ?_⟩
  rw [declarationsOf_append, silent]
  cases unsat <;> rfl

theorem pushClause_trying {clause : Term} (stored : clause ∈ frames.storedAt (index + 1)) :
    Triple (fun state : FrameSet × Session ω ε => Trying bench.system frames index past state.2)
      (pushClause bench poll index clause)
      (fun _ state => Trying bench.system frames index past state.2)
      (fun _ state => Asking (PosesInduction bench.system frames index) past state.2.run) := by
  have asked : Triple
      (fun state : FrameSet × Session ω ε => Trying bench.system frames index past state.2)
      (onSecond (.adaptExcept .solver
        (Session.isUnsatWith bench.solver (bench.system.prime clause.negate))) : Work ε _ Bool)
      (fun _ state => Trying bench.system frames index past state.2)
      (fun _ state => Asking (PosesInduction bench.system frames index) past state.2.run) :=
    Triple.onSecond fun _ => Triple.adaptExcept _ (isUnsatWith_trying stored)
  refine (timed_triple asked (fun _ _ _ trying => trying) fun _ _ _ asking => asking).bind
    fun unsat => judged_triple
      (fun session : Session ω ε => session.emit (.clausePropagated (index + 1) clause))
      (·.promote index clause) (fun session => poll session.run.world) unsat ?_ ?_ ?_
  · exact fun _ _ session trying => trying.emit _
  · exact fun _ _ trying => trying
  · exact fun _ _ trying _ => trying.asking

theorem pushPremises_trying {solver : Solver ω ε} :
    Triple (Session.At 1 (past ++ opening system.declarations))
      (Session.pushAll solver (system.transition :: (frames.effective (index + 1)).toList))
      (fun _ => Trying system frames index past)
      (fun _ session => Asking (PosesInduction system frames index) past session.run) := by
  intro session written
  have asking : Asking (PosesInduction system frames index) past session.run :=
    ⟨_, written.2, asksOnly_of_unchecked (unchecked_of_prepares (opening_prepares _))⟩
  have reached : Meets _ (fun failure (left : Session ω ε) =>
        Broke (fun _ _ => True) (past ++ opening system.declarations) failure left.run)
      (Session.pushAll solver (system.transition :: (frames.effective (index + 1)).toList)
        session) := Session.pushAll_at _ session written
  refine (reached.and (Session.pushAll_asking _ session asking)).mono ?_ fun _ _ both => both.2
  rintro _ left ⟨⟨counted, entries⟩, -⟩
  have unchecked : AsksOnly (PosesInduction system frames index)
      (preamble system frames index : List (Entry ε)) :=
    asksOnly_of_unchecked (unchecked_of_prepares (preamble_prepares system frames index))
  refine ⟨[], ⟨counted, ?_⟩, by rwa [List.append_nil], opens_nil, rfl⟩
  rw [entries, List.append_nil, List.append_assoc]
  rfl

theorem Trying.close {solver : Solver ω ε} {session : Session ω ε}
    (trying : Trying system frames index past session) :
    Meets (fun _ run => Asking (PosesInduction system frames index) past run ∧ Quiet past run)
      (fun _ run => Asking (PosesInduction system frames index) past run)
      (session.close solver) := by
  have asking := trying.asking
  obtain ⟨earlier, written, asks, quiet, -⟩ := trying
  refine ((Session.close_at written).and (Session.close_asking asking)).mono ?_
    fun _ _ both => both.2
  rintro _ left ⟨closes, -⟩
  rw [List.append_assoc] at closes
  exact ⟨⟨_, closes, asks.append (asksOnly_of_unchecked (closed_unchecked 2))⟩,
    _, closes, ((opens_preamble system frames index).quietly quiet).closed⟩

theorem pushClauses_posed (start : FrameSet × Run ω ε) :
    Triple (fun state : FrameSet × Run ω ε => state = start) (pushClauses bench poll index)
      (fun _ state => Asking (PosesInduction bench.system start.1 index) start.2.entries state.2 ∧
        Quiet start.2.entries state.2)
      (fun _ state =>
        Asking (PosesInduction bench.system start.1 index) start.2.entries state.2) := by
  refine Triple.get fun state same => ?_
  obtain rfl : state = start := same
  have premises : Triple
      (fun later : FrameSet × Session ω ε =>
        later.2.At 1 (state.2.entries ++ opening bench.system.declarations))
      (onSecond (.adaptExcept .solver (Session.pushAll bench.solver
        (bench.system.transition :: (state.1.effective (index + 1)).toList))) : Work ε _ Unit)
      (fun _ later => Trying bench.system state.1 index state.2.entries later.2)
      (fun _ later =>
        Asking (PosesInduction bench.system state.1 index) state.2.entries later.2.run) :=
    Triple.onSecond fun _ => Triple.adaptExcept _ pushPremises_trying
  have swept : Triple
      (fun later : FrameSet × Session ω ε =>
        Trying bench.system state.1 index state.2.entries later.2)
      ((state.1.storedAt (index + 1)).toList.forM (pushClause bench poll index))
      (fun _ later => Trying bench.system state.1 index state.2.entries later.2)
      (fun _ later =>
        Asking (PosesInduction bench.system state.1 index) state.2.entries later.2.run) :=
    Triple.forM_of_mem
      (fun _ (later : FrameSet × Session ω ε) =>
        Trying bench.system state.1 index state.2.entries later.2)
      fun clause member _ => pushClause_trying (OrderedSet.mem_toList.1 member)
  have nothing : AsksOnly (PosesInduction bench.system state.1 index) ([] : List (Entry ε)) :=
    asksOnly_of_unchecked nofun
  have starts {run : Run ω ε} (written : run.entries = state.2.entries) :
      Session.Starts (Session.At 1 (state.2.entries ++ opening bench.system.declarations)) _
        (Session.start bench.solver bench.system.declarations run) :=
    Session.start_posed bench.system.declarations nothing (written.trans (List.append_nil _).symm)
  refine (?_ : Triple (fun later : FrameSet × Run ω ε => later.2.entries = state.2.entries) _ _ _)
    state rfl
  exact Session.within_rule (fun _ _ _ written opened => (starts written).of_ok opened)
    (fun _ _ _ _ written refused => (starts written).of_error refused)
    (premises.bind fun _ => swept) (fun _ _ _ trying => trying.close)
    fun _ _ _ asking => Session.drop_asking asking

end Pushing

/-! ## Dropping clauses -/

section Dropping

variable {start : FrameSet} {past : List (Entry ε)}

theorem framesAfter_query (frames : FrameSet) (declarations : Declarations) (goal : Term)
    (unsat : Bool) :
    framesAfter frames (opening declarations ++ (asked goal (.decided unsat) ++ closed 2) :
      List (Entry ε)) = frames := by
  rw [framesAfter_append, framesAfter_prepared (opening_prepares declarations)]
  rfl

def thinning (ω : Type) (start : FrameSet) (past : List (Entry ε)) (index : Nat) : Regime ω ε where
  idle frames run := ∃ told, run.entries = past ++ told ∧
    AsksOnly (PosesSubsumption start index) told ∧ Opens [] told ∧
    (framesAfter start told).untimed = frames
  opened _ _ := True
  busy _ _ := True
  failed _ _ run := Asking (PosesSubsumption start index) past run
  broken _ _ _ := True

theorem posesSubsumption {told : List (Entry ε)} (declarations : Declarations)
    {stronger clause : Term} (held : stronger ∈ (framesAfter start told).effective (index + 2))
    (stored : clause ∈ (framesAfter start told).storedAt (index + 1)) (quiet : Opens [] told)
    (check : Entry ε) :
    PosesSubsumption start index (told ++ opening declarations ++
      .done .push () :: asserted [.not (stronger.implies clause)]) check := by
  have prepares : ∀ entry ∈ (.done .push () :: asserted [.not (stronger.implies clause)] :
      List (Entry ε)), entry.Prepares :=
    List.forall_mem_cons.2 ⟨.done .push () nofun, asserted_prepares _⟩
  have same : framesAfter start (told ++ opening declarations ++
      .done .push () :: asserted [.not (stronger.implies clause)]) = framesAfter start told := by
    rw [framesAfter_append, framesAfter_append,
      framesAfter_prepared (opening_prepares declarations), framesAfter_prepared prepares]
  refine ⟨stronger, same ▸ held, clause, same ▸ stored, ?_⟩
  exact (quiet.append (opens_opening declarations)).append (opens_premises _)

theorem thinning_pruning : (thinning ω start past index).Pruning bench poll index where
  subsumes frames stronger held clause stored := by
    rintro ⟨now, run⟩ ⟨rfl, told, written, asks, quiet, same⟩
    have heldNow : stronger ∈ (framesAfter start told).effective (index + 2) := by
      have agree := congrArg (·.effective (index + 2)) same
      exact agree ▸ held
    have storedNow : clause ∈ (framesAfter start told).storedAt (index + 1) := by
      have agree := congrArg (·.storedAt (index + 1)) same
      exact agree ▸ stored
    have poses (check : Entry ε) :=
      posesSubsumption bench.system.declarations heldNow storedNow quiet check
    refine (Session.isUnsatAlone_posed bench.system.declarations now asks poses (now, run)
      ⟨rfl, written⟩).mono ?_ fun _ _ left => left
    rintro unsat after ⟨kept, entries, asksAll⟩
    refine ⟨kept, ?_⟩
    have unchanged : framesAfter start (told ++ (opening bench.system.declarations ++
        (asked (.not (stronger.implies clause)) (.decided unsat) ++ closed 2))) =
          framesAfter start told := by
      rw [framesAfter_append, framesAfter_query]
    have quietly := quiet.quietly (opens_queryAlone bench.system.declarations
      (.not (stronger.implies clause)) (.decided unsat))
    cases unsat with
    | false => exact ⟨_, entries, asksAll, quietly, (congrArg untimed unchanged).trans same⟩
    | true =>
        refine ⟨_ ++ [.event (.clauseSubsumed (index + 1) clause stronger)], ?_,
          asksAll.append (asksOnly_of_unchecked (List.forall_mem_singleton.2 rfl)),
          quietly.quietly (opens_event _), ?_⟩
        · rw [Run.entries_emit, entries, List.append_assoc]
        · rw [framesAfter_append, unchanged]
          exact congrArg (·.discard index clause) same
  interrupts := by
    rintro frames run interruption ⟨told, written, asks, -⟩ _
    exact ⟨told, written, asks⟩

theorem removeSubsumed_thinning (start : FrameSet × Run ω ε) :
    Meets (fun _ state => (thinning ω start.1 start.2.entries index).idle state.1.untimed state.2)
      (fun _ state => Asking (PosesSubsumption start.1 index) start.2.entries state.2)
      (removeSubsumed bench poll index start) := by
  have kept : (thinning ω start.1 start.2.entries index).Keeps (removeSubsumed bench poll index) :=
    thinning_pruning.removeSubsumed
  exact kept start ⟨[], (List.append_nil _).symm, asksOnly_of_unchecked nofun, opens_nil, rfl⟩

theorem removeSubsumed_posed (start : FrameSet × Run ω ε) :
    Triple (fun state : FrameSet × Run ω ε => state = start) (removeSubsumed bench poll index)
      (fun _ state => Asking (PosesSubsumption start.1 index) start.2.entries state.2 ∧
        Quiet start.2.entries state.2)
      (fun _ state => Asking (PosesSubsumption start.1 index) start.2.entries state.2) := by
  rintro _ rfl
  refine (removeSubsumed_thinning _).mono ?_ fun _ _ asking => asking
  rintro _ after ⟨told, written, asks, quiet, -⟩
  exact ⟨⟨told, written, asks⟩, told, written, quiet⟩

end Dropping

section Stages

variable (bench poll index) (entered : FrameSet × Run ω ε) (journal : List (Entry ε))
  (check : Entry ε) (live : List Term)

def ChecksMove : Prop :=
  ∃ since, journal = entered.2.entries ++ since ∧
    PosesInduction bench.system entered.1 index since check ∧
    journal ++ [check] <+:
      (finalState (pushClauses bench poll index (entered.1.countLevel, entered.2))).2.entries

def ChecksDrop : Prop :=
  ∃ pushed since,
    pushClauses bench poll index (entered.1.countLevel, entered.2) = .ok () pushed ∧
    journal = pushed.2.entries ++ since ∧ PosesSubsumption pushed.1 index since check ∧
    journal ++ [check] <+: (finalState (removeSubsumed bench poll index pushed)).2.entries

def ChecksLevel : Prop :=
  ChecksMove bench poll index entered journal check ∨
    ChecksDrop bench poll index entered journal check

/-- The check is made while clauses of the level are pushed. The premises of the level are asserted
and a negated clause that was stored there, as the script shows them for the frames with which the
level was entered. -/
def AsksInduction : Prop :=
  ∃ since clause states script, journal = entered.2.entries ++ since ∧
    journal ++ [check] <+:
      (finalState (pushClauses bench poll index (entered.1.countLevel, entered.2))).2.entries ∧
    clause ∈ entered.1.storedAt (index + 1) ∧ entered.1.states (index + 1) = .ok states ∧
    live = bench.system.transition :: states.toList ++ [bench.system.prime clause.negate] ∧
    declarationsOf since = bench.system.declarations ∧
    entered.1.inductionScript bench.system (index + 1) clause = .ok script ∧
    Shows bench.system.declarations live script

/-- The check is made while clauses of the level are dropped. It is asserted that a clause which
holds at the next level does not imply one that is stored at this level, both as the frames are
then. -/
def AsksSubsumption : Prop :=
  ∃ pushed since above here, ∃ stronger ∈ above, ∃ clause ∈ here,
    pushClauses bench poll index (entered.1.countLevel, entered.2) = .ok () pushed ∧
    journal = pushed.2.entries ++ since ∧
    journal ++ [check] <+: (finalState (removeSubsumed bench poll index pushed)).2.entries ∧
    (framesAfter pushed.1 since).states (index + 2) = .ok above ∧
    (framesAfter pushed.1 since).stored (index + 1) = .ok here ∧
    live = [.not (stronger.implies clause)]

end Stages

section Asks

variable {entered : FrameSet × Run ω ε} {past before : List (Entry ε)} {check : Entry ε}

theorem AsksInduction.two_le_length {journal : List (Entry ε)} {live : List Term}
    (asks : AsksInduction bench poll index entered journal check live) : 2 ≤ live.length := by
  obtain ⟨_, _, _, _, -, -, -, -, rfl, -⟩ := asks
  simp

theorem AsksSubsumption.length_eq {journal : List (Entry ε)} {live : List Term}
    (asks : AsksSubsumption bench poll index entered journal check live) : live.length = 1 := by
  obtain ⟨_, _, _, _, _, _, _, _, -, -, -, -, -, rfl⟩ := asks
  rfl

theorem opens_since {between : Run ω ε} {scopes : List (List Term)} {since : List (Entry ε)}
    (quiet : Quiet past between) (split : past ++ before = between.entries ++ since)
    (opens : Opens scopes since) : Opens scopes before := by
  obtain ⟨told, written, silent⟩ := quiet
  rw [written, List.append_assoc] at split
  rw [List.append_cancel_left split]
  have both := silent.append opens
  rwa [List.append_nil] at both

theorem ChecksMove.asks
    (checks : ChecksMove bench poll index entered (past ++ before) check)
    (quiet : Quiet past entered.2) :
    ∃ live scopes, Opens scopes before ∧ scopes.reverse.flatten = live ∧
      AsksInduction bench poll index entered (past ++ before) check live := by
  obtain ⟨since, split, ⟨clause, stored, opens, declared⟩, early⟩ := checks
  have inside : index + 1 ≤ entered.1.frontier := le_frontier_of_stored stored
  let query := inductionQuery bench.system (entered.1.effective (index + 1)) clause
  have script : entered.1.inductionScript bench.system (index + 1) clause =
      .ok (satisfiabilityScript bench.system.declarations query) := by
    rw [inductionScript, states_of_le inside]
    rfl
  have live : [[bench.system.prime clause.negate], bench.system.transition ::
      (entered.1.effective (index + 1)).toList, []].reverse.flatten = query := by
    simp [query, inductionQuery]
  exact ⟨query, _, opens_since quiet split opens, live, since, clause, _, _, split, early, stored,
    states_of_le inside, rfl, declared, script, satisfiabilityScript_shows _ query⟩

theorem ChecksDrop.asks
    (checks : ChecksDrop bench poll index entered (past ++ before) check)
    (quiet : Quiet past entered.2) :
    ∃ live scopes, Opens scopes before ∧ scopes.reverse.flatten = live ∧
      AsksSubsumption bench poll index entered (past ++ before) check live := by
  obtain ⟨pushed, since, pushing, split, ⟨stronger, held, clause, stored, opens⟩, early⟩ := checks
  have posed : Meets _ _ (pushClauses bench poll index (entered.1.countLevel, entered.2)) :=
    pushClauses_posed (entered.1.countLevel, entered.2) _ rfl
  rw [pushing] at posed
  refine ⟨_, _, opens_since (quiet.trans posed.2) split opens, rfl, pushed, since, _, _, stronger,
    held, clause, stored, pushing, split, early,
    states_of_le (le_frontier_of_effective (Nat.succ_pos _) held),
    stored_of_le (le_frontier_of_stored stored), rfl⟩

end Asks

/-! ## Visits -/

section Visits

theorem stage_posed {action : Work ε (Run ω ε) Unit} {due : List (Entry ε) → Entry ε → Prop}
    {start : FrameSet × Run ω ε} (reason : List (Entry ε) → Entry ε → Prop)
    (posed : Meets
      (fun _ state => Asking due start.2.entries state.2 ∧ Quiet start.2.entries state.2)
      (fun _ state => Asking due start.2.entries state.2) (action start))
    (reasons : ∀ before check, due before check →
      start.2.entries ++ before ++ [check] <+: (finalState (action start)).2.entries →
        reason (start.2.entries ++ before) check) :
    Meets
      (fun _ state => action start = .ok () state ∧
        Justified reason start.2.entries state.2 ∧ Quiet start.2.entries state.2)
      (fun _ state => Justified reason start.2.entries state.2) (action start) := by
  have justified {state : FrameSet × Run ω ε} (final : finalState (action start) = state)
      (asking : Asking due start.2.entries state.2) :
      Justified reason start.2.entries state.2 := by
    obtain ⟨told, written, asks⟩ := asking
    refine ⟨told, written, asks.within.mono fun before check within => ?_⟩
    refine reasons before check within.1 ?_
    rw [final, written, List.append_assoc]
    exact (List.prefix_append_right_inj _).2 within.2
  cases result : action start with
  | ok _ state =>
      rw [result] at posed
      exact ⟨rfl, justified (by rw [result]; rfl) posed.1, posed.2⟩
  | error error state =>
      rw [result] at posed
      exact justified (by rw [result]; rfl) posed

theorem visitLevel_posed (entered : FrameSet × Run ω ε) :
    Triple (fun state : FrameSet × Run ω ε => state = entered) (visitLevel bench poll index)
      (fun _ state => Justified (ChecksLevel bench poll index entered) entered.2.entries state.2 ∧
        Quiet entered.2.entries state.2)
      (fun _ state =>
        Justified (ChecksLevel bench poll index entered) entered.2.entries state.2) := by
  have pushes : Triple
      (fun state : FrameSet × Run ω ε => state = (entered.1.countLevel, entered.2))
      (pushClauses bench poll index)
      (fun _ state =>
        pushClauses bench poll index (entered.1.countLevel, entered.2) = .ok () state ∧
        Justified (ChecksLevel bench poll index entered) entered.2.entries state.2 ∧
        Quiet entered.2.entries state.2)
      (fun _ state =>
        Justified (ChecksLevel bench poll index entered) entered.2.entries state.2) := by
    rintro _ rfl
    exact stage_posed _ (pushClauses_posed (entered.1.countLevel, entered.2) _ rfl)
      fun before check poses early => .inl ⟨before, rfl, poses, early⟩
  have prunes : Triple
      (fun state : FrameSet × Run ω ε =>
        pushClauses bench poll index (entered.1.countLevel, entered.2) = .ok () state ∧
        Justified (ChecksLevel bench poll index entered) entered.2.entries state.2 ∧
        Quiet entered.2.entries state.2)
      (removeSubsumed bench poll index)
      (fun _ state => Justified (ChecksLevel bench poll index entered) entered.2.entries state.2 ∧
        Quiet entered.2.entries state.2)
      (fun _ state =>
        Justified (ChecksLevel bench poll index entered) entered.2.entries state.2) := by
    rintro pushed ⟨pushing, justified, quiet⟩
    have met := stage_posed (ChecksLevel bench poll index entered)
      (removeSubsumed_posed pushed pushed rfl)
      fun before check poses early => .inr ⟨pushed, before, pushing, rfl, poses, early⟩
    exact met.mono (fun _ _ left => ⟨justified.trans left.2.1, quiet.trans left.2.2⟩)
      fun _ _ left => justified.trans left
  refine visitLevel_rule _ ?_ pushes (fun _ _ holds => holds.2) (fun _ => prunes)
    (fun _ _ _ left => left) (fun _ _ _ _ left => left) ?_ fun _ _ left _ => left
  · rintro _ _ rfl
    rfl
  · rintro _ _ ⟨justified, quiet⟩ _
    exact ⟨Session.asking_emit justified _, quiet.emit _⟩

theorem visitLevels_concat (levels : List Nat) (index : Nat) :
    visitLevels bench poll (levels ++ [index]) =
      (visitLevels bench poll levels >>= fun reached =>
        if reached then return true else visitLevel bench poll index) := by
  induction levels with
  | nil =>
      funext state
      simp only [List.nil_append, visitLevels, bind_apply, pure_apply, Bool.false_eq_true, if_false]
      cases visitLevel bench poll index state with
      | error error left => rfl
      | ok empty left => cases empty <;> rfl
  | cons first rest ih =>
      funext state
      simp only [List.cons_append, visitLevels, bind_apply, ih]
      cases visitLevel bench poll first state with
      | error error left => rfl
      | ok empty left => cases empty <;> rfl

def ChecksBelow (bench : Workbench ω ε) (poll : ω → Except Cancellation.Interrupted Unit)
    (count : Nat) (start : FrameSet × Run ω ε) (journal : List (Entry ε)) (check : Entry ε) :
    Prop :=
  ∃ index < count, ∃ entered,
    visitLevels bench poll (List.range index) start = .ok false entered ∧
    ChecksLevel bench poll index entered journal check

theorem visitLevels_posed (count : Nat) (start : FrameSet × Run ω ε) :
    Triple (fun state : FrameSet × Run ω ε => state = start)
      (visitLevels bench poll (List.range count))
      (fun _ state => Justified (ChecksBelow bench poll count start) start.2.entries state.2 ∧
        Quiet start.2.entries state.2)
      (fun _ state => Justified (ChecksBelow bench poll count start) start.2.entries state.2) := by
  induction count with
  | zero =>
      rintro _ rfl
      exact ⟨asking_refl _ _, quiet_refl _⟩
  | succ count ih =>
      have weaken {run : Run ω ε}
          (justified : Justified (ChecksBelow bench poll count start) start.2.entries run) :
          Justified (ChecksBelow bench poll (count + 1) start) start.2.entries run :=
        justified.mono fun _ _ ⟨index, below, visit⟩ => ⟨index, Nat.lt_succ_of_lt below, visit⟩
      rintro start rfl
      rw [List.range_succ, visitLevels_concat, bind_apply]
      have first := ih start rfl
      cases visits : visitLevels bench poll (List.range count) start with
      | error error left =>
          rw [visits] at first
          exact weaken first
      | ok reached entered =>
          rw [visits] at first
          obtain ⟨justified, quiet⟩ := first
          cases reached with
          | true => exact ⟨weaken justified, quiet⟩
          | false =>
              have here : ∀ journal check, ChecksLevel bench poll count entered journal check →
                  ChecksBelow bench poll (count + 1) start journal check :=
                fun _ _ checks => ⟨count, Nat.lt_succ_self count, entered, visits, checks⟩
              refine (visitLevel_posed entered entered rfl).mono ?_ ?_
              · rintro _ state ⟨more, silent⟩
                exact ⟨(weaken justified).trans (more.mono here), quiet.trans silent⟩
              · exact fun _ _ more => (weaken justified).trans (more.mono here)

end Visits

/-! ## Whole propagations -/

def begun (state : FrameSet × Run ω ε) : FrameSet × Run ω ε :=
  (state.1, state.2.emit (.propagatingClauses state.1.frontier))

theorem propagate_justified (state : FrameSet × Run ω ε) :
    Justified (ChecksBelow bench poll (state.1.frontier - 1) (begun state)) state.2.entries
      (finalState (propagate bench poll state)).2 := by
  unfold propagate
  rw [bind_apply]
  cases said : poll state.2.world with
  | error interruption =>
      rw [checkpoint_error said]
      exact asking_refl _ _
  | ok _ =>
      rw [checkpoint_ok said]
      have announced : Justified (ChecksBelow bench poll (state.1.frontier - 1) (begun state))
          state.2.entries (begun state).2 := Session.asking_emit (asking_refl _ _) _
      have visited : Triple (fun now : FrameSet × Run ω ε => now = begun state)
          (visitLevels bench poll (List.range (state.1.frontier - 1)))
          (fun _ now => Justified (ChecksBelow bench poll (state.1.frontier - 1) (begun state))
            state.2.entries now.2)
          (fun _ now => Justified (ChecksBelow bench poll (state.1.frontier - 1) (begun state))
            state.2.entries now.2) :=
        (visitLevels_posed _ (begun state)).mono (fun _ same => same)
          (fun _ _ left => announced.trans left.1) fun _ _ left => announced.trans left
      have timed : Triple (fun now : FrameSet × Run ω ε => now = begun state)
          (FrameSet.timed (fun run => bench.clock run.world)
            (fun elapsed => recount ∘ recordPropagation elapsed)
            (visitLevels bench poll (List.range (state.1.frontier - 1)))) _ _ :=
        timed_triple visited (fun _ _ _ left => left) fun _ _ _ left => left
      exact Meets.finalState (timed (begun state) rfl)

/-- A propagation works with a solver that keeps its scopes and in which a call that fails changes
nothing. Each check that it makes belongs to a level between 0 and the frontier. In the stage in
which clauses of the level are pushed, what is asserted on top of what was there when the
propagation began is the transition relation, then the clauses that held when the level was entered,
then the negation of one that was stored there, one step later. The script for that clause and the
frames with which the level was entered declares the variables that have been declared and asserts
these terms, a line for each. In the stage in which clauses are dropped nothing else is asserted but
that a clause which now holds at the next level does not imply a clause that is now stored at this
level. -/
theorem checks_pose_queries (bench : Workbench ω ε)
    (poll : ω → Except Cancellation.Interrupted Unit) {view : View ω}
    (keeps : bench.solver.KeepsScopes view) (state : FrameSet × Run ω ε) :
    ∃ told, (finalState (propagate bench poll state)).2.entries = state.2.entries ++ told ∧
      ∀ before answer rest, told = before ++ .exchange ⟨.check, answer⟩ :: rest →
        ∃ index entered live, index + 1 < state.1.frontier ∧
          visitLevels bench poll (List.range index) (begun state) = .ok false entered ∧
          (view.stack (bench.solver.after state.2.world (callsOf before))).assertions =
            (view.stack state.2.world).assertions ++ live ∧
          (AsksInduction bench poll index entered (state.2.entries ++ before)
              (.exchange ⟨.check, answer⟩) live ∨
            AsksSubsumption bench poll index entered (state.2.entries ++ before)
              (.exchange ⟨.check, answer⟩) live) := by
  have tracked : Tracked bench.solver view state.2 (finalState (propagate bench poll state)).2 :=
    (Regime.propagate_preserves (Session.tracked_invariant keeps state.2)
      (fun _ event tracked => tracked.emit event)
      fun _ event tracked => tracked.emit event).finalState (tracked_self bench.solver view state.2)
  obtain ⟨told, written, -, tracks⟩ := tracked
  refine ⟨told, written, ?_⟩
  rintro before answer rest rfl
  obtain ⟨index, below, entered, visits, checks⟩ := (propagate_justified state).asksOnly written
    before (.exchange ⟨.check, answer⟩) rest rfl rfl
  have stack := tracks before (List.prefix_append _ _)
  have quiet : Quiet state.2.entries entered.2 := by
    have posed : Meets _ _ (visitLevels bench poll (List.range index) (begun state)) :=
      visitLevels_posed index (begun state) _ rfl
    rw [visits] at posed
    exact ((quiet_refl _).emit _).trans posed.2
  have asserted {scopes : List (List Term)} {live : List Term} (opens : Opens scopes before)
      (same : scopes.reverse.flatten = live) :
      (view.stack (bench.solver.after state.2.world (callsOf before))).assertions =
        (view.stack state.2.world).assertions ++ live := by
    rw [stack, opens, ScopeStack.assertions_extend, same]
  rcases checks with moves | drops
  · obtain ⟨live, scopes, opens, same, asks⟩ := moves.asks quiet
    exact ⟨index, entered, live, by omega, visits, asserted opens same, .inl asks⟩
  · obtain ⟨live, scopes, opens, same, asks⟩ := drops.asks quiet
    exact ⟨index, entered, live, by omega, visits, asserted opens same, .inr asks⟩

def siftingBench : Workbench (World Scripted.State) String where
  system := latchBench.system
  options := {}
  solver := Scripted.solver { verdicts := [.unsat] }
  clock := World.clock

def excludedMiddle : Term := .nary .or [.var "p", .not (.var "p")]

def siftingStart : FrameSet × Run (World Scripted.State) String :=
  (stuckOpened.1.addClause 0 excludedMiddle, stuckOpened.2)

def siftingTold : List (Entry String) :=
  (finalState (propagate siftingBench (fun _ => .ok ()) siftingStart)).2.entries

def siftingAssertions (before : List (Entry String)) : List Term :=
  (Scripted.view.stack
    (siftingBench.solver.after siftingStart.2.world (callsOf before))).assertions

theorem exists_check_of_isCheck {entries : List (Entry ε)} {place : Nat}
    (isCheck : (entries[place]?).any Entry.isCheck = true) :
    ∃ answer rest, entries = entries.take place ++ .exchange ⟨.check, answer⟩ :: rest := by
  obtain ⟨check, located, isCheck⟩ := (Option.any_eq_true _ _).1 isCheck
  obtain ⟨inside, rfl⟩ := List.getElem?_eq_some_iff.1 located
  have split : entries = entries.take place ++ entries[place] :: entries.drop (place + 1) := by
    rw [← List.drop_eq_getElem_cons inside, List.take_append_drop]
  match entries[place], isCheck, split with
  | .exchange ⟨.check, answer⟩, _, split => exact ⟨answer, _, split⟩

/-- The second clause is tried on the frames with which the level was entered, although the first
has moved up. What has moved is then compared with what is left. -/
theorem sifting_checks_pose_queries :
    ∃ moving answer, moving ++ [.exchange ⟨.check, answer⟩] <+: siftingTold ∧
      ((framesAfter siftingStart.1 moving).storedAt 1).toList = [excludedMiddle] ∧
      siftingAssertions moving = [.var "p_next", .var "p", excludedMiddle,
        latchBench.system.prime (.not excludedMiddle)] ∧
      AsksInduction siftingBench (fun _ => .ok ()) 0 (begun siftingStart)
        (siftingStart.2.entries ++ moving) (.exchange ⟨.check, answer⟩)
        (siftingAssertions moving) ∧
      ∃ dropping last, dropping ++ [.exchange ⟨.check, last⟩] <+: siftingTold ∧
        siftingAssertions dropping = [.not ((Term.var "p").implies excludedMiddle)] ∧
        AsksSubsumption siftingBench (fun _ => .ok ()) 0 (begun siftingStart)
          (siftingStart.2.entries ++ dropping) (.exchange ⟨.check, last⟩)
          (siftingAssertions dropping) := by
  have poses {before : List (Entry String)} {answer rest}
      (split : siftingTold = before ++ .exchange ⟨.check, answer⟩ :: rest) :
      AsksInduction siftingBench (fun _ => .ok ()) 0 (begun siftingStart)
        (siftingStart.2.entries ++ before) (.exchange ⟨.check, answer⟩)
        (siftingAssertions before) ∨
      AsksSubsumption siftingBench (fun _ => .ok ()) 0 (begun siftingStart)
        (siftingStart.2.entries ++ before) (.exchange ⟨.check, answer⟩)
        (siftingAssertions before) := by
    obtain ⟨told, written, poses⟩ := checks_pose_queries siftingBench (fun _ => .ok ())
      (Scripted.keepsScopes _) siftingStart
    have unentered : siftingStart.2.entries = [] := by decide +kernel
    rw [unentered, List.nil_append] at written
    obtain ⟨index, entered, live, below, visits, asserted, asks⟩ :=
      poses before answer rest (written.symm.trans split)
    have frontier : siftingStart.1.frontier = 2 := by decide +kernel
    obtain rfl : index = 0 := by omega
    obtain rfl : begun siftingStart = entered := by injection visits
    have unasserted : (Scripted.view.stack siftingStart.2.world).assertions = [] := by
      decide +kernel
    rw [unasserted, List.nil_append] at asserted
    rwa [← asserted] at asks
  -- The first clause was tried at place 10, and has moved up before the second one is.
  have first : (siftingTold[15]?).any Entry.isCheck = true := by decide +kernel
  have second : (siftingTold[24]?).any Entry.isCheck = true := by decide +kernel
  have moves : siftingAssertions (siftingTold.take 15) = [.var "p_next", .var "p", excludedMiddle,
      latchBench.system.prime (.not excludedMiddle)] := by decide +kernel
  have drops : siftingAssertions (siftingTold.take 24) =
      [.not ((Term.var "p").implies excludedMiddle)] := by decide +kernel
  obtain ⟨answer, rest, moving⟩ := exists_check_of_isCheck first
  obtain ⟨last, others, dropping⟩ := exists_check_of_isCheck second
  refine ⟨siftingTold.take 15, answer, ⟨rest, ?_⟩, by decide +kernel, moves, ?_,
    siftingTold.take 24, last, ⟨others, ?_⟩, drops, ?_⟩
  · rw [List.append_assoc]
    exact moving.symm
  · refine (poses moving).resolve_right fun asks => ?_
    have single := asks.length_eq
    rw [moves] at single
    exact absurd single (by decide)
  · rw [List.append_assoc]
    exact dropping.symm
  · refine (poses dropping).resolve_left fun asks => ?_
    have several := asks.two_le_length
    rw [drops] at several
    exact absurd several (by decide)

end FrameSet
end DeltaFrames
