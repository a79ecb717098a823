import DeltaFrames.Proofs.FrameSet.Chronicle
import DeltaFrames.Proofs.FrameSet.Order
import DeltaFrames.Proofs.FrameSet.Verdict
import DeltaFrames.Proofs.Session.Foreseen

/-!
# Pruning is a filter

A level is pruned by a loop within a loop: each clause that holds above the level is tried on the
clauses that are left at it. If the answer depends on nothing but the two clauses (`Compares`) then
this comes to one pass over the level (`pruning_filters`).
-/

namespace DeltaFrames

open StateAction

variable {ω ε : Type}

def comparing (declarations : Declarations) (stronger clause : Term) (unsat : Bool) :
    List (Entry ε) :=
  opening declarations ++ (asked (.not (stronger.implies clause)) (.decided unsat) ++ closed 2)

/-- In every world in which queries may begin, the query about the two clauses has this answer. None
of its calls fails, and it leads to such a world again. -/
def Solver.Compares (solver : Solver ω ε) (declarations : Declarations) (between : ω → Prop)
    (stronger clause : Term) (unsat : Bool) : Prop :=
  ∀ world, between world → ∃ after, between after ∧
    solver.Responds world (comparing declarations stronger clause unsat) after

section Calls

variable {solver : Solver ω ε}

theorem Solver.Responds.append {world between last : ω} {first second : List (Entry ε)}
    (responds : solver.Responds world first between)
    (others : solver.Responds between second last) :
    solver.Responds world (first ++ second) last := by
  induction responds with
  | nothing => exact others
  | next response _ ih => exact .next response (ih others)

theorem Solver.compares_of_calls {stronger clause : Term} {unsat : Bool}
    (accepts : ∀ made world, ∃ answer after, solver.respond made world = .ok answer after)
    (answers : ∀ world after,
      solver.respond (.assert (.not (stronger.implies clause))) world = .ok () after →
        ∃ last, solver.respond .check after = .ok (.decided unsat) last)
    (declarations : Declarations) :
    solver.Compares declarations (fun _ => True) stronger clause unsat := by
  have declared (world : ω) : ∃ after, solver.Responds world
      (declarations.map fun entry => .done (.declare entry.1 entry.2) ()) after := by
    induction declarations generalizing world with
    | nil => exact ⟨world, .nothing⟩
    | cons entry rest ih =>
        obtain ⟨answer, between, response⟩ := accepts (.declare entry.1 entry.2) world
        obtain ⟨after, responds⟩ := ih between
        exact ⟨after, .next response responds⟩
  intro world _
  obtain ⟨_, opened, opens⟩ := accepts .push world
  obtain ⟨known, declares⟩ := declared opened
  obtain ⟨_, pushed, pushes⟩ := accepts .push known
  obtain ⟨_, posed, asserts⟩ := accepts (.assert (.not (stronger.implies clause))) pushed
  obtain ⟨checked, checks⟩ := answers pushed posed asserts
  obtain ⟨_, popped, pops⟩ := accepts .pop checked
  obtain ⟨_, after, popsBase⟩ := accepts .pop popped
  refine ⟨after, trivial, Responds.append (.next opens declares) ?_⟩
  exact .next pushes (.next asserts (.next checks (.next pops (.next popsBase .nothing))))

end Calls

namespace FrameSet

section Filter

variable (implied : Term → Term → Bool)

def spared (stronger clauses : List Term) : List Term :=
  clauses.filter fun clause => !stronger.any (implied · clause)

/-- Each clause with those that no earlier one implies. The earliest ones are given apart. -/
def posed (clauses earlier : List Term) : List Term → List (Term × Term)
  | [] => []
  | stronger :: later =>
      (spared implied earlier clauses).map (stronger, ·) ++
        posed clauses (earlier ++ [stronger]) later

def trial (declarations : Declarations) (index : Nat) (pair : Term × Term) : List (Entry ε) :=
  comparing declarations pair.1 pair.2 (implied pair.1 pair.2) ++
    if implied pair.1 pair.2 then [.event (.clauseSubsumed (index + 1) pair.2 pair.1)] else []

variable {implied} {clauses : List Term}

theorem spared_nil : spared implied [] clauses = clauses :=
  List.filter_eq_self.2 fun _ _ => rfl

theorem spared_concat (earlier : List Term) (stronger : Term) :
    spared implied (earlier ++ [stronger]) clauses =
      (spared implied earlier clauses).filter (!implied stronger ·) := by
  unfold spared
  rw [List.filter_filter]
  refine List.filter_congr fun clause _ => ?_
  rw [List.any_append, List.any_cons, List.any_nil, Bool.or_false, Bool.not_or, Bool.and_comm]

theorem fst_mem_of_mem_posed {earlier later : List Term} {pair : Term × Term}
    (member : pair ∈ posed implied clauses earlier later) : pair.1 ∈ later := by
  induction later generalizing earlier with
  | nil => cases member
  | cons stronger later ih =>
      rcases List.mem_append.1 member with here | others
      · obtain ⟨clause, -, rfl⟩ := List.mem_map.1 here
        exact List.mem_cons_self
      · exact List.mem_cons_of_mem _ (ih others)

theorem posed_nodup (distinct : clauses.Nodup) {later : List Term} (distinctLater : later.Nodup)
    (earlier : List Term) : (posed implied clauses earlier later).Nodup := by
  induction later generalizing earlier with
  | nil => exact .nil
  | cons stronger later ih =>
      obtain ⟨fresh, others⟩ := List.nodup_cons.1 distinctLater
      refine List.nodup_append.2 ⟨?_, ih others _, ?_⟩
      · exact List.Pairwise.map _ (fun _ _ apart same => apart (congrArg Prod.snd same))
          (distinct.filter _)
      · rintro pair here _ there rfl
        obtain ⟨clause, -, rfl⟩ := List.mem_map.1 here
        exact fresh (fst_mem_of_mem_posed there)

end Filter

section Frames

variable {implied : Term → Term → Bool} {index : Nat} {frames : FrameSet}

theorem toList_storedAt_foldl_thinnedBy {clauses earlier : List Term}
    (left : (frames.storedAt (index + 1)).toList = spared implied earlier clauses)
    (later : List Term) :
    ((later.foldl (thinnedBy implied index) frames).storedAt (index + 1)).toList =
      spared implied (earlier ++ later) clauses := by
  induction later generalizing frames earlier with
  | nil => rw [List.append_nil]; exact left
  | cons stronger later ih =>
      rw [List.foldl_cons, ← List.singleton_append, ← List.append_assoc]
      refine ih ?_
      rw [toList_storedAt_thinnedBy, left, spared_concat]

structure ThinnedAt (index : Nat) (before after : FrameSet) : Prop where
  frontier : after.frontier = before.frontier
  storedAt : ∀ level, level ≠ index + 1 → after.storedAt level = before.storedAt level
  statistics : after.statistics =
    { before.statistics with subsumedClauses := after.statistics.subsumedClauses }

theorem ThinnedAt.discard {start : FrameSet} (thinned : ThinnedAt index start frames)
    (clause : Term) : ThinnedAt index start (frames.discard index clause) where
  frontier := (frontier_discard frames index clause).trans thinned.frontier
  storedAt level apart := by
    rw [storedAt_discard, if_neg apart]
    exact thinned.storedAt level apart
  statistics := by
    unfold FrameSet.discard count
    rw [thinned.statistics]

theorem thinnedAt_foldl_thinnedBy {start : FrameSet} (thinned : ThinnedAt index start frames)
    (later : List Term) :
    ThinnedAt index start (later.foldl (thinnedBy implied index) frames) := by
  induction later generalizing frames with
  | nil => exact thinned
  | cons stronger later ih =>
      exact ih (swept_keeps (ThinnedAt index start)
        (fun clause _ _ _ held => held.discard clause) thinned)

end Frames

def Between (between : ω → Prop) (frames : FrameSet) (past : List (Entry ε))
    (state : FrameSet × Run ω ε) : Prop :=
  state.1 = frames ∧ state.2.entries = past ∧ between state.2.world

section Loops

variable {bench : Workbench ω ε} {poll : ω → Except Cancellation.Interrupted Unit} {index : Nat}
  {between : ω → Prop} {implied : Term → Term → Bool} {frames : FrameSet} {past : List (Entry ε)}
  (patient : ∀ world, between world → poll world = .ok ())

include patient

theorem trySubsume_compared {stronger clause : Term}
    (compares : bench.solver.Compares bench.system.declarations between stronger clause
      (implied stronger clause)) :
    Triple (Between between frames past) (trySubsume bench poll index stronger clause)
      (fun _ => Between between
        (if implied stronger clause then frames.discard index clause else frames)
        (past ++ trial implied bench.system.declarations index (stronger, clause)))
      (fun _ _ => False) := by
  have asks : Triple (Between between frames past)
      (EStateM.adaptExcept .solver (Session.isUnsatAlone bench.solver bench.system.declarations
        (.not (stronger.implies clause))) : Work ε _ Bool)
      (fun unsat state => unsat = implied stronger clause ∧ Between between frames
        (past ++ comparing bench.system.declarations stronger clause unsat) state)
      (fun _ _ => False) := by
    refine Triple.adaptExcept _ ?_
    rintro ⟨kept, run⟩ ⟨rfl, rfl, idle⟩
    obtain ⟨after, idleAfter, responds⟩ := compares run.world idle
    have foreseen := Session.isUnsatAlone_foreseen kept _ _ (kept, run) ⟨rfl, responds⟩
    have query : Queried bench.system (.not (stronger.implies clause)) 2 :=
      ⟨.drop index stronger clause, rfl, rfl⟩
    refine (foreseen.and (Session.isUnsatAlone_at _ kept query (kept, run) ⟨rfl, rfl⟩)).mono ?_
      fun _ _ failed => failed.1.2
    rintro unsat ⟨_, left⟩ ⟨⟨rfl, same, rfl⟩, -, entries⟩
    exact ⟨same, rfl, entries, idleAfter⟩
  refine asks.bind fun unsat => judged_triple
    (fun run : Run ω ε => run.emit (.clauseSubsumed (index + 1) clause stronger))
    (·.discard index clause) (fun run => poll run.world) unsat ?_ ?_ ?_
  · rintro rfl _ run ⟨same, rfl, written, idle⟩
    refine ⟨(if_pos same.symm).symm, ?_, idle⟩
    unfold trial
    rw [Run.entries_emit, written, ← same, if_pos rfl, List.append_assoc]
  · rintro rfl state ⟨same, rfl, written, idle⟩
    refine ⟨(if_neg (Bool.eq_false_iff.1 same.symm)).symm, ?_, idle⟩
    unfold trial
    rw [written, ← same, if_neg Bool.false_ne_true, List.append_nil]
  · rintro interruption state ⟨-, -, idle⟩ interrupted
    exact nomatch (patient _ idle).symm.trans interrupted

theorem forM_trySubsume_compared {stronger : Term} {clauses : List Term}
    (compares : ∀ clause ∈ clauses, bench.solver.Compares bench.system.declarations between
      stronger clause (implied stronger clause)) :
    Triple (Between between frames past) (clauses.forM (trySubsume bench poll index stronger))
      (fun _ => Between between (swept (implied stronger) (discard · index) clauses frames)
        (past ++ (clauses.map (stronger, ·)).flatMap
          (trial implied bench.system.declarations index)))
      (fun _ _ => False) := by
  induction clauses generalizing frames past with
  | nil =>
      rw [List.map_nil, List.flatMap_nil, List.append_nil]
      exact fun state here => here
  | cons clause rest ih =>
      have ⟨here, others⟩ := List.forall_mem_cons.1 compares
      rw [List.map_cons, List.flatMap_cons, ← List.append_assoc, swept_cons]
      exact (trySubsume_compared patient here).bind fun _ => ih others

theorem forM_subsumeBy_compared {clauses earlier later : List Term}
    (compares : ∀ stronger ∈ later, ∀ clause ∈ clauses,
      bench.solver.Compares bench.system.declarations between stronger clause
        (implied stronger clause))
    (left : (frames.storedAt (index + 1)).toList = spared implied earlier clauses) :
    Triple (Between between frames past) (later.forM (subsumeBy bench poll index))
      (fun _ => Between between (later.foldl (thinnedBy implied index) frames)
        (past ++ (posed implied clauses earlier later).flatMap
          (trial implied bench.system.declarations index)))
      (fun _ _ => False) := by
  induction later generalizing frames past earlier with
  | nil =>
      rw [posed, List.flatMap_nil, List.append_nil]
      exact fun state here => here
  | cons stronger later ih =>
      have ⟨here, others⟩ := List.forall_mem_cons.1 compares
      have swept : Triple (Between between frames past) (subsumeBy bench poll index stronger)
          (fun _ => Between between (thinnedBy implied index frames stronger)
            (past ++ ((spared implied earlier clauses).map (stronger, ·)).flatMap
              (trial implied bench.system.declarations index)))
          (fun _ _ => False) := by
        rw [thinnedBy, left]
        refine Triple.get fun state started => ?_
        rw [started.1, left]
        exact forM_trySubsume_compared patient
          (fun clause member => here clause (List.mem_filter.1 member).1) state started
      rw [posed, List.flatMap_append, ← List.append_assoc]
      refine swept.bind fun _ => ih others ?_
      rw [toList_storedAt_thinnedBy, left, spared_concat]

theorem removeSubsumed_compared
    (compares : ∀ stronger ∈ frames.effective (index + 2), ∀ clause ∈ frames.storedAt (index + 1),
      bench.solver.Compares bench.system.declarations between stronger clause
        (implied stronger clause)) :
    Triple (Between between frames past) (removeSubsumed bench poll index)
      (fun _ => Between between
        ((frames.effective (index + 2)).toList.foldl (thinnedBy implied index) frames)
        (past ++ (posed implied (frames.storedAt (index + 1)).toList []
          (frames.effective (index + 2)).toList).flatMap
            (trial implied bench.system.declarations index)))
      (fun _ _ => False) := by
  refine Triple.get fun state here => ?_
  rw [here.1]
  exact forM_subsumeBy_compared patient compares spared_nil.symm state here

end Loops

variable {bench : Workbench ω ε} {poll : ω → Except Cancellation.Interrupted Unit} {index : Nat}
  {between : ω → Prop} {implied : Term → Term → Bool}

/-- Pruning a level below the frontier comes to an end. It keeps the clauses that no clause above
implies, in their order, and changes no other level. What it has dropped is counted, and it has asked
about the clauses above in turn, each with the clauses that no earlier one implies. -/
theorem pruning_filters {frames : FrameSet} {run : Run ω ε}
    (compares : ∀ stronger ∈ frames.effective (index + 2), ∀ clause ∈ frames.storedAt (index + 1),
      bench.solver.Compares bench.system.declarations between stronger clause
        (implied stronger clause))
    (patient : ∀ world, between world → poll world = .ok ()) (idle : between run.world)
    (below : index + 1 < frames.frontier) :
    ∃ above here kept after,
      frames.states (index + 2) = .ok above ∧ frames.stored (index + 1) = .ok here ∧
      removeSubsumed bench poll index (frames, run) = .ok () after ∧
      after.1.stored (index + 1) = .ok kept ∧
      kept.toList = spared implied above.toList here.toList ∧
      (∀ level, level ≠ index + 1 → after.1.stored level = frames.stored level) ∧
      after.1.statistics.subsumedClauses.toNat =
        min (frames.statistics.subsumedClauses.toNat + (here.size - kept.size)) Counter.largest ∧
      after.1.statistics =
        { frames.statistics with subsumedClauses := after.1.statistics.subsumedClauses } ∧
      after.2.entries = run.entries ++ (posed implied here.toList [] above.toList).flatMap
        (trial implied bench.system.declarations index) ∧
      (posed implied here.toList [] above.toList).Nodup := by
  let above := frames.effective (index + 2)
  let here := frames.storedAt (index + 1)
  let thinned := above.toList.foldl (thinnedBy implied index) frames
  have only : ThinnedAt index frames thinned :=
    thinnedAt_foldl_thinnedBy ⟨rfl, fun _ _ => rfl, rfl⟩ above.toList
  obtain ⟨dropped, size, counts⟩ : ∃ dropped,
      (thinned.storedAt (index + 1)).size + dropped = here.size ∧ Counts 0 dropped frames thinned :=
    counts_foldl_thinnedBy above.toList frames
  have pruned := removeSubsumed_compared patient compares (frames, run) ⟨rfl, rfl, idle⟩
  cases result : removeSubsumed bench poll index (frames, run) with
  | error _ _ => rw [result] at pruned; exact pruned.elim
  | ok _ after =>
      rw [result] at pruned
      obtain ⟨left, written, -⟩ := pruned
      refine ⟨above, here, thinned.storedAt (index + 1), after, states_of_le below,
        stored_of_le (Nat.le_of_lt below), rfl, ?stored, ?filtered, ?others, ?counted, ?kept,
        written, posed_nodup here.nodup above.nodup []⟩
      case filtered => exact toList_storedAt_foldl_thinnedBy spared_nil.symm above.toList
      all_goals rw [left]
      case stored => exact stored_of_le (only.frontier ▸ Nat.le_of_lt below)
      case others =>
        exact fun level apart => stored_congr only.frontier (only.storedAt level apart)
      case counted =>
        have removed : here.size - (thinned.storedAt (index + 1)).size = dropped := by
          rw [← size]
          exact Nat.add_sub_cancel_left ..
        rw [removed, counts.dropped, toNat_iterate_next]
      case kept => exact only.statistics

def recallingSolver (implied : Term → Term → Bool) : Solver Term String where
  respond
    | .assert term => fun _ => .ok () term
    | .check => fun recalled => match recalled with
        | .not (.binary .implies stronger clause) =>
            .ok (.decided (implied stronger clause)) recalled
        | _ => .ok .sat recalled
    | .push | .pop | .declare _ _ | .reset => fun recalled => .ok () recalled

theorem recallingSolver_compares (implied : Term → Term → Bool) (declarations : Declarations)
    (stronger clause : Term) :
    (recallingSolver implied).Compares declarations (fun _ => True) stronger clause
      (implied stronger clause) := by
  refine Solver.compares_of_calls ?_ ?_ declarations
  · intro made world
    cases made with
    | check =>
        unfold recallingSolver
        dsimp only
        split <;> exact ⟨_, _, rfl⟩
    | _ => exact ⟨_, _, rfl⟩
  · rintro world _ ⟨⟩
    exact ⟨_, rfl⟩

def impliesConjunct : Term → Term → Bool
  | .nary .and conjuncts, clause => conjuncts.any (clause.beq ·)
  | _, _ => false

theorem conjunction_filters_conjuncts :
    let bench : Workbench Term String :=
      { system := SymbolicSystem.latch.toTransitionSystem, options := {}, clock := fun _ => 0,
        solver := recallingSolver impliesConjunct }
    let frames : FrameSet :=
      { initial := ∅,
        deltas := [.ofList [.var "p", .var "r", .var "q"],
          .ofList [.nary .and [.var "p", .var "q"]]] }
    1 < frames.frontier ∧ ∃ kept after,
      removeSubsumed bench (fun _ => .ok ()) 0 (frames, { world := .bool true }) = .ok () after ∧
        after.1.stored 1 = .ok kept ∧ kept.toList = [.var "r"] ∧
        after.1.statistics.subsumedClauses.toNat = 2 := by
  intro bench frames
  have below : 1 < frames.frontier := by decide
  obtain ⟨above, here, kept, after, isAbove, isHere, pruned, stored, filtered, -, counted, -⟩ :=
    @pruning_filters _ _ bench (fun _ => .ok ()) 0 (fun _ => True) impliesConjunct
      frames { world := .bool true }
      (fun stronger _ clause _ => recallingSolver_compares _ _ stronger clause)
      (fun _ _ => rfl) trivial below
  cases isAbove
  cases isHere
  have left : kept.toList = [.var "r"] := filtered.trans (by decide)
  refine ⟨below, kept, after, pruned, stored, left, counted.trans ?_⟩
  rw [OrderedSet.size, OrderedSet.size, left]
  decide

end FrameSet
end DeltaFrames
