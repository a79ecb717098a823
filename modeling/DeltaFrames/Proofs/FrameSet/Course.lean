import DeltaFrames.FrameSet.Printer
import DeltaFrames.Proofs.FrameSet.Work
import DeltaFrames.Proofs.Session.Scopes

/-!
# The course of a propagation

What a propagation does to the frames follows from how its queries are answered. `Sweep` goes
through a list of clauses and acts on those whose query is refuted; `Pushes`, `Prunes`, `Visit` and
`Visits` put sweeps together as the levels are visited. Each may break off before its end. With a
solver that keeps its scopes, whatever `propagate` does is such a course (`propagate_course`), in
which every answer was given to exactly the query of its clause.
-/

namespace DeltaFrames.FrameSet

open StateAction

def ledger (frames : FrameSet) : FrameSet where
  initial := frames.initial
  deltas := frames.deltas
  statistics := {
    frames := frames.statistics.frames
    clausesAdded := frames.statistics.clausesAdded
    subsumedClauses := frames.statistics.subsumedClauses
    propagatedClauses := frames.statistics.propagatedClauses }

def subsumptionQuery (stronger clause : Term) : List Term :=
  [.not (stronger.implies clause)]

/-! ## Courses -/

section Courses

variable (answers : List Term → Bool → Prop)

/-- Goes through clauses and acts on those whose query is refuted. Only a whole sweep is known to
reach the end. -/
inductive Sweep (query : Term → List Term) (act : FrameSet → Term → FrameSet) :
    Bool → List Term → FrameSet → FrameSet → Prop where
  | finished {frames : FrameSet} : Sweep query act true [] frames frames
  | stopped {clauses : List Term} {frames : FrameSet} : Sweep query act false clauses frames frames
  | refuted {whole : Bool} {clause : Term} {rest : List Term} {before after : FrameSet}
      (answered : answers (query clause) true)
      (onward : Sweep query act whole rest (act before clause) after) :
      Sweep query act whole (clause :: rest) before after
  | satisfied {whole : Bool} {clause : Term} {rest : List Term} {before after : FrameSet}
      (answered : answers (query clause) false)
      (onward : Sweep query act whole rest before after) :
      Sweep query act whole (clause :: rest) before after

variable (system : TransitionSystem) (subsumption : Bool) (index : Nat)

def Pushes (whole : Bool) (before after : FrameSet) : Prop :=
  Sweep answers (inductionQuery system (before.effective (index + 1))) (promote · index) whole
    (before.storedAt (index + 1)).toList before after

inductive Prunes : Bool → List Term → FrameSet → FrameSet → Prop where
  | finished {frames : FrameSet} : Prunes true [] frames frames
  | stopped {clause : Term} {rest : List Term} {before after : FrameSet}
      (sweep : Sweep answers (subsumptionQuery clause) (discard · index) false
        (before.storedAt (index + 1)).toList before after) :
      Prunes false (clause :: rest) before after
  | onward {whole : Bool} {clause : Term} {rest : List Term} {before between after : FrameSet}
      (sweep : Sweep answers (subsumptionQuery clause) (discard · index) true
        (before.storedAt (index + 1)).toList before between)
      (others : Prunes whole rest between after) :
      Prunes whole (clause :: rest) before after

inductive Visit : Bool → FrameSet → FrameSet → Prop where
  | pushing {before after : FrameSet} (pushes : Pushes answers system index false before after) :
      Visit false before after
  | pushed {before after : FrameSet} (pushes : Pushes answers system index true before after)
      (off : subsumption = false) : Visit true before after
  | pruned {whole : Bool} {before between after : FrameSet}
      (pushes : Pushes answers system index true before between) (on : subsumption = true)
      (prunes : Prunes answers index whole (between.effective (index + 2)).toList between after) :
      Visit whole before after

/-- Visits levels up to one that is empty afterwards. The outcome tells whether there was one, if
the visits have come to an end. -/
inductive Visits : List Nat → FrameSet → FrameSet → Option Bool → Prop where
  | finished {frames : FrameSet} : Visits [] frames frames (some false)
  | stopped {index : Nat} {rest : List Nat} {before after : FrameSet}
      (visit : Visit answers system subsumption index false before after) :
      Visits (index :: rest) before after none
  | fixpoint {index : Nat} {rest : List Nat} {before after : FrameSet}
      (visit : Visit answers system subsumption index true before after)
      (empty : (after.storedAt (index + 1)).isEmpty = true) :
      Visits (index :: rest) before after (some true)
  | onward {index : Nat} {rest : List Nat} {before between after : FrameSet}
      {outcome : Option Bool}
      (visit : Visit answers system subsumption index true before between)
      (nonempty : (between.storedAt (index + 1)).isEmpty = false)
      (others : Visits rest between after outcome) :
      Visits (index :: rest) before after outcome

end Courses

def Underway (Course : Bool → List Term → FrameSet → FrameSet → Prop) (all : List Term)
    (start : FrameSet) (ahead : List Term) (now : FrameSet) : Prop :=
  ∀ whole after, Course whole ahead now after → Course whole all start after

/-! ## The course that is taken -/

section Taken

variable {ω ε ρ α : Type}

variable (bench : Workbench ω ε) (poll : ω → Except Cancellation.Interrupted Unit)
  (view : View ω) (base : ScopeStack)

def decisions (query : List Term) (unsat : Bool) : Prop :=
  bench.solver.Answers view bench.system.declarations (base.assertions ++ query) (.decided unsat)

variable {bench view base}

theorem askInduction_triple (disciplined : bench.solver.Disciplined view) (states : Frame)
    (clause : Term) (before : FrameSet → Prop)
    (untimed : ∀ elapsed frames, before frames → before (recordSolver elapsed frames)) :
    Triple (fun state : FrameSet × Session ω ε => before state.1 ∧
        state.2.Ready view base bench.system.declarations
          [bench.system.transition :: states.toList, []])
      (timed (fun session => bench.clock session.run.world) recordSolver
        (onSecond (.adaptExcept .solver
          (Session.isUnsatWith bench.solver (bench.system.prime clause.negate)))))
      (fun unsat state => (before state.1 ∧
        state.2.Ready view base bench.system.declarations
          [bench.system.transition :: states.toList, []]) ∧
        decisions bench view base (inductionQuery bench.system states clause) unsat)
      (fun _ state => before state.1 ∧ ∃ scopes, state.2.Stands view base scopes) := by
  have asked : (base.extend [bench.system.transition :: states.toList, []]).assertions ++
      [bench.system.prime clause.negate] =
        base.assertions ++ inductionQuery bench.system states clause := by
    simp [ScopeStack.assertions_extend, inductionQuery]
  refine timed_triple (Triple.onSecond fun frames => Triple.adaptExcept _ ?_) ?_ ?_
  · rintro session ⟨holds, ready⟩
    have answered := Session.isUnsatWith_ready disciplined (List.cons_ne_nil _ _)
      (bench.system.prime clause.negate) session ready
    rw [asked] at answered
    cases result : Session.isUnsatWith bench.solver (bench.system.prime clause.negate) session with
    | ok unsat after => rw [result] at answered; exact ⟨⟨holds, answered.1⟩, answered.2⟩
    | error failure after => rw [result] at answered; exact ⟨holds, answered⟩
  · rintro elapsed unsat state ⟨⟨holds, ready⟩, decided⟩
    exact ⟨⟨untimed elapsed _ holds, ready⟩, decided⟩
  · rintro elapsed failure state ⟨holds, stands⟩
    exact ⟨untimed elapsed _ holds, stands⟩

theorem judged_course {answers : List Term → Bool → Prop} {all rest : List Term}
    {start : FrameSet} (holds : ρ → Prop) (query : Term → List Term)
    (act : FrameSet → Term → FrameSet) (clause : Term) (record : ρ → ρ)
    (interrupt : ρ → Except Cancellation.Interrupted Unit)
    (recorded : ∀ other, holds other → holds (record other))
    (acted : ∀ frames, (act frames clause).ledger = act frames.ledger clause) (unsat : Bool) :
    Triple (fun state : FrameSet × ρ =>
        (Underway (Sweep answers query act) all start (clause :: rest) state.1.ledger ∧
          holds state.2) ∧ answers (query clause) unsat)
      (if unsat = true then do
          modifySecond record
          modifyFirst (act · clause)
          checkpoint interrupt
        else checkpoint interrupt : Work ε ρ Unit)
      (fun _ state => Underway (Sweep answers query act) all start rest state.1.ledger ∧
        holds state.2)
      (fun _ state => Sweep answers query act false all start state.1.ledger ∧ holds state.2) := by
  refine judged_triple record (act · clause) interrupt unsat ?_ ?_ ?_
  · rintro rfl frames other ⟨⟨underway, held⟩, answered⟩
    refine ⟨fun whole after onward => ?_, recorded other held⟩
    rw [acted] at onward
    exact underway whole after (.refuted answered onward)
  · rintro rfl state ⟨⟨underway, held⟩, answered⟩
    exact ⟨fun whole after onward => underway whole after (.satisfied answered onward), held⟩
  · exact fun _ _ ⟨underway, held⟩ _ => ⟨underway _ _ .stopped, held⟩

theorem pushClause_course (disciplined : bench.solver.Disciplined view) {index : Nat}
    {states : Frame} {all rest : List Term} {start : FrameSet} (clause : Term) :
    Triple (fun state : FrameSet × Session ω ε =>
        Underway (Sweep (decisions bench view base) (inductionQuery bench.system states)
          (promote · index)) all start (clause :: rest) state.1.ledger ∧
        state.2.Ready view base bench.system.declarations
          [bench.system.transition :: states.toList, []])
      (pushClause bench poll index clause)
      (fun _ state =>
        Underway (Sweep (decisions bench view base) (inductionQuery bench.system states)
          (promote · index)) all start rest state.1.ledger ∧
        state.2.Ready view base bench.system.declarations
          [bench.system.transition :: states.toList, []])
      (fun _ state =>
        Sweep (decisions bench view base) (inductionQuery bench.system states) (promote · index)
          false all start state.1.ledger ∧
        ∃ scopes, state.2.Stands view base scopes) := by
  refine Triple.bind (Triple.mono (askInduction_triple disciplined states clause
    (fun frames => Underway (Sweep (decisions bench view base) (inductionQuery bench.system states)
      (promote · index)) all start (clause :: rest) frames.ledger) fun _ _ underway => underway)
    (fun _ holds => holds) (fun _ _ answered => answered) ?_) fun unsat => ?_
  · rintro _ state ⟨underway, stands⟩
    exact ⟨underway _ _ .stopped, stands⟩
  · refine (judged_course _ _ (promote · index) clause
      (fun session : Session ω ε => session.emit (.clausePropagated (index + 1) clause))
      (fun session => poll session.run.world) (fun _ ready => ready) (fun _ => rfl) unsat).mono
      (fun _ holds => holds) (fun _ _ holds => holds) ?_
    rintro _ state ⟨sweep, ready⟩
    exact ⟨sweep, _, ready.stands⟩

theorem pushPremises_course (disciplined : bench.solver.Disciplined view) {index : Nat}
    (frames : FrameSet) :
    Triple (fun state : FrameSet × Session ω ε =>
        state.1.ledger = frames.ledger ∧ state.2.Ready view base bench.system.declarations [[]])
      (onSecond (.adaptExcept .solver (Session.pushAll bench.solver
        (bench.system.transition :: (frames.effective (index + 1)).toList))) : Work ε _ Unit)
      (fun _ state => state.1.ledger = frames.ledger ∧
        state.2.Ready view base bench.system.declarations
          [bench.system.transition :: (frames.effective (index + 1)).toList, []])
      (fun _ state =>
        Pushes (decisions bench view base) bench.system index false frames.ledger state.1.ledger ∧
        ∃ scopes, state.2.Stands view base scopes) := by
  refine Triple.onSecond fun kept => Triple.adaptExcept _ ?_
  rintro session ⟨same, ready⟩
  have met := Session.pushAll_ready disciplined
    (bench.system.transition :: (frames.effective (index + 1)).toList) session ready
  refine met.mono (fun _ _ left => ⟨same, left⟩) fun _ _ left => ⟨?_, left⟩
  show Pushes _ _ index false frames.ledger kept.ledger
  rw [same]
  exact .stopped

theorem pushClauses_course (disciplined : bench.solver.Disciplined view) {index : Nat}
    {start : FrameSet} :
    Triple (fun state : FrameSet × Run ω ε =>
        state.1.ledger = start ∧ view.stack state.2.world = base)
      (pushClauses bench poll index)
      (fun _ state =>
        Pushes (decisions bench view base) bench.system index true start state.1.ledger ∧
        view.stack state.2.world = base)
      (fun _ state =>
        Pushes (decisions bench view base) bench.system index false start state.1.ledger ∧
        view.stack state.2.world = base) := by
  refine Triple.get ?_
  rintro ⟨frames, run⟩ ⟨rfl, stack⟩
  refine Session.within_triple disciplined (fun kept => kept.ledger = frames.ledger)
    (fun _ kept =>
      Pushes (decisions bench view base) bench.system index true frames.ledger kept.ledger)
    (fun _ kept =>
      Pushes (decisions bench view base) bench.system index false frames.ledger kept.ledger)
    ?_ ?_ (frames, run) ⟨rfl, stack⟩
  · -- Queries are about the level as it was found, although clauses leave it meanwhile.
    have swept := Triple.forM (fun rest (state : FrameSet × Session ω ε) =>
        Underway (Sweep (decisions bench view base)
          (inductionQuery bench.system (frames.effective (index + 1))) (promote · index))
          (frames.storedAt (index + 1)).toList frames.ledger rest state.1.ledger ∧
        state.2.Ready view base bench.system.declarations
          [bench.system.transition :: (frames.effective (index + 1)).toList, []])
      (fun clause rest => pushClause_course poll disciplined clause)
      (frames.storedAt (index + 1)).toList
    refine (pushPremises_course disciplined frames).bind fun _ =>
      swept.mono ?_ ?_ fun _ _ stopped => stopped
    · rintro state ⟨same, ready⟩
      rw [same]
      exact ⟨fun _ _ course => course, ready⟩
    · rintro _ state ⟨underway, ready⟩
      exact ⟨underway _ _ .finished, _, ready.stands⟩
  · intro _ kept same
    rw [same]
    exact .stopped

theorem trySubsume_course (disciplined : bench.solver.Disciplined view) {index : Nat}
    {stronger : Term} {all rest : List Term} {start : FrameSet} (clause : Term) :
    Triple (fun state : FrameSet × Run ω ε =>
        Underway (Sweep (decisions bench view base) (subsumptionQuery stronger) (discard · index))
          all start (clause :: rest) state.1.ledger ∧
        view.stack state.2.world = base)
      (trySubsume bench poll index stronger clause)
      (fun _ state =>
        Underway (Sweep (decisions bench view base) (subsumptionQuery stronger) (discard · index))
          all start rest state.1.ledger ∧
        view.stack state.2.world = base)
      (fun _ state =>
        Sweep (decisions bench view base) (subsumptionQuery stronger) (discard · index) false all
          start state.1.ledger ∧
        view.stack state.2.world = base) := by
  have asked : Triple (fun state : FrameSet × Run ω ε =>
        Underway (Sweep (decisions bench view base) (subsumptionQuery stronger) (discard · index))
          all start (clause :: rest) state.1.ledger ∧ view.stack state.2.world = base)
      (EStateM.adaptExcept .solver (Session.isUnsatAlone bench.solver bench.system.declarations
        (.not (stronger.implies clause))) : Work ε _ Bool)
      (fun unsat state =>
        (Underway (Sweep (decisions bench view base) (subsumptionQuery stronger) (discard · index))
          all start (clause :: rest) state.1.ledger ∧ view.stack state.2.world = base) ∧
        decisions bench view base (subsumptionQuery stronger clause) unsat)
      (fun _ state =>
        Sweep (decisions bench view base) (subsumptionQuery stronger) (discard · index) false all
          start state.1.ledger ∧ view.stack state.2.world = base) := by
    refine Triple.adaptExcept _ ((Session.isUnsatAlone_triple disciplined
      (.not (stronger.implies clause)) fun frames : FrameSet =>
        Underway (Sweep (decisions bench view base) (subsumptionQuery stronger) (discard · index))
          all start (clause :: rest) frames.ledger).mono (fun _ holds => holds) ?_ ?_)
    · rintro unsat state ⟨⟨underway, decided⟩, stack⟩
      exact ⟨⟨underway, stack⟩, decided⟩
    · rintro _ state ⟨underway, stack⟩
      exact ⟨underway _ _ .stopped, stack⟩
  exact asked.bind fun unsat => judged_course
    (fun run : Run ω ε => view.stack run.world = base) (subsumptionQuery stronger)
    (discard · index) clause (fun run => run.emit (.clauseSubsumed (index + 1) clause stronger))
    (fun run => poll run.world) (fun _ stack => stack) (fun _ => rfl) unsat

theorem subsumeBy_course (disciplined : bench.solver.Disciplined view) {index : Nat}
    {all rest : List Term} {start : FrameSet} (stronger : Term) :
    Triple (fun state : FrameSet × Run ω ε =>
        Underway (Prunes (decisions bench view base) index) all start (stronger :: rest)
          state.1.ledger ∧
        view.stack state.2.world = base)
      (subsumeBy bench poll index stronger)
      (fun _ state =>
        Underway (Prunes (decisions bench view base) index) all start rest state.1.ledger ∧
        view.stack state.2.world = base)
      (fun _ state =>
        Prunes (decisions bench view base) index false all start state.1.ledger ∧
        view.stack state.2.world = base) := by
  refine Triple.get ?_
  rintro ⟨frames, run⟩ ⟨underway, stack⟩
  refine (Triple.forM (fun left (state : FrameSet × Run ω ε) =>
      Underway (Sweep (decisions bench view base) (subsumptionQuery stronger) (discard · index))
        (frames.storedAt (index + 1)).toList frames.ledger left state.1.ledger ∧
      view.stack state.2.world = base)
    (fun clause left => trySubsume_course poll disciplined clause)
    (frames.storedAt (index + 1)).toList).mono (fun _ holds => holds) ?_ ?_ (frames, run)
    ⟨fun _ _ course => course, stack⟩
  · rintro _ state ⟨sweep, left⟩
    exact ⟨fun whole after onward => underway _ _ (.onward (sweep _ _ .finished) onward), left⟩
  · rintro _ state ⟨sweep, left⟩
    exact ⟨underway _ _ (.stopped sweep), left⟩

theorem removeSubsumed_course (disciplined : bench.solver.Disciplined view) {index : Nat}
    {start : FrameSet} :
    Triple (fun state : FrameSet × Run ω ε =>
        state.1.ledger = start ∧ view.stack state.2.world = base)
      (removeSubsumed bench poll index)
      (fun _ state =>
        Prunes (decisions bench view base) index true (start.effective (index + 2)).toList start
          state.1.ledger ∧
        view.stack state.2.world = base)
      (fun _ state =>
        Prunes (decisions bench view base) index false (start.effective (index + 2)).toList start
          state.1.ledger ∧
        view.stack state.2.world = base) := by
  refine Triple.get ?_
  rintro ⟨frames, run⟩ ⟨rfl, stack⟩
  refine (Triple.forM (fun left (state : FrameSet × Run ω ε) =>
      Underway (Prunes (decisions bench view base) index) (frames.effective (index + 2)).toList
        frames.ledger left state.1.ledger ∧
      view.stack state.2.world = base)
    (fun stronger left => subsumeBy_course poll disciplined stronger)
    (frames.effective (index + 2)).toList).mono (fun _ holds => holds) ?_
    (fun _ _ stopped => stopped) (frames, run) ⟨fun _ _ course => course, stack⟩
  rintro _ state ⟨underway, left⟩
  exact ⟨underway _ _ .finished, left⟩

theorem visitLevel_course (disciplined : bench.solver.Disciplined view) {index : Nat}
    {start : FrameSet} :
    Triple (fun state : FrameSet × Run ω ε =>
        state.1.ledger = start ∧ view.stack state.2.world = base)
      (visitLevel bench poll index)
      (fun empty state =>
        (Visit (decisions bench view base) bench.system bench.options.subsumption index true start
          state.1.ledger ∧ (state.1.storedAt (index + 1)).isEmpty = empty) ∧
        view.stack state.2.world = base)
      (fun _ state =>
        Visit (decisions bench view base) bench.system bench.options.subsumption index false start
          state.1.ledger ∧
        view.stack state.2.world = base) := by
  refine visitLevel_rule
    (fun state : FrameSet × Run ω ε =>
      Visit (decisions bench view base) bench.system bench.options.subsumption index true start
        state.1.ledger ∧ view.stack state.2.world = base)
    (fun _ _ holds => holds) ((pushClauses_course poll disciplined).mono (fun _ holds => holds)
      (fun _ _ pushes => pushes) fun _ _ stopped => ⟨.pushing stopped.1, stopped.2⟩)
    (fun off _ pushes => ⟨.pushed pushes.1 off, pushes.2⟩) (fun on => ?_)
    (fun _ _ _ holds => holds) (fun _ _ _ _ stopped => stopped)
    (fun _ _ holds empty => ⟨⟨holds.1, empty⟩, holds.2⟩)
    fun _ _ holds nonempty => ⟨⟨holds.1, nonempty⟩, holds.2⟩
  rintro state ⟨pushes, stack⟩
  exact (removeSubsumed_course poll disciplined state ⟨rfl, stack⟩).mono
    (fun _ _ prunes => ⟨.pruned pushes on prunes.1, prunes.2⟩)
    fun _ _ stopped => ⟨.pruned pushes on stopped.1, stopped.2⟩

theorem visitLevels_course (disciplined : bench.solver.Disciplined view) (levels : List Nat)
    {start : FrameSet} :
    Triple (fun state : FrameSet × Run ω ε =>
        state.1.ledger = start ∧ view.stack state.2.world = base)
      (visitLevels bench poll levels)
      (fun reached state =>
        Visits (decisions bench view base) bench.system bench.options.subsumption levels start
          state.1.ledger (some reached) ∧
        view.stack state.2.world = base)
      (fun _ state =>
        Visits (decisions bench view base) bench.system bench.options.subsumption levels start
          state.1.ledger none ∧
        view.stack state.2.world = base) := by
  induction levels generalizing start with
  | nil => exact fun _ ⟨same, stack⟩ => ⟨same ▸ .finished, stack⟩
  | cons index rest ih =>
      refine Triple.bind ((visitLevel_course poll disciplined).mono (fun _ holds => holds)
        (fun _ _ holds => holds) fun _ _ stopped => ⟨.stopped stopped.1, stopped.2⟩) fun empty => ?_
      rintro ⟨frames, run⟩ ⟨⟨visit, isEmpty⟩, stack⟩
      cases empty with
      | true => exact ⟨.fixpoint visit isEmpty, stack⟩
      | false =>
          refine (ih.mono (fun _ holds => holds) (fun _ _ others => ?_) fun _ _ stopped => ?_)
            (frames, run) ⟨rfl, stack⟩
          · exact ⟨.onward visit isEmpty others.1, others.2⟩
          · exact ⟨.onward visit isEmpty stopped.1, stopped.2⟩

theorem propagate_course (disciplined : bench.solver.Disciplined view) (frames : FrameSet)
    (run : Run ω ε) (stack : view.stack run.world = base) :
    Meets
      (fun reached state =>
        (Visits (decisions bench view base) bench.system bench.options.subsumption
          (List.range (frames.frontier - 1)) frames.ledger state.1.ledger (some reached) ∧
        state.1.statistics.clauses = Counter.ofNat state.1.storedClauses) ∧
        view.stack state.2.world = base)
      (fun _ state =>
        (state.1 = frames ∨
          Visits (decisions bench view base) bench.system bench.options.subsumption
            (List.range (frames.frontier - 1)) frames.ledger state.1.ledger none ∧
          state.1.statistics.clauses = Counter.ofNat state.1.storedClauses) ∧
        view.stack state.2.world = base)
      (propagate bench poll (frames, run)) := by
  have visited := visitLevels_course poll disciplined (List.range (frames.frontier - 1))
    (frames, run.emit (.propagatingClauses frames.frontier)) ⟨rfl, stack⟩
  unfold propagate
  simp only [bind_apply, checkpoint]
  cases poll run.world with
  | error interruption => exact ⟨.inl rfl, stack⟩
  | ok _ =>
      simp only [get_apply, emit, modifySecond_apply, timed]
      cases result : visitLevels bench poll (List.range (frames.frontier - 1))
        (frames, run.emit (.propagatingClauses frames.frontier)) with
      | ok reached state => rw [result] at visited; exact ⟨⟨visited.1, rfl⟩, visited.2⟩
      | error failure state => rw [result] at visited; exact ⟨.inr ⟨visited.1, rfl⟩, visited.2⟩

end Taken
end DeltaFrames.FrameSet
