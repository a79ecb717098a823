import DeltaFrames.Proofs.FrameSet.Resumption
import DeltaFrames.Proofs.Session.Decisions

/-!
# Propagations that come to a decision

Every query of a propagation is about Boolean terms, as long as the clauses are. So a decisive
solver that holds no assertion decides all of them, and a propagation that nobody cancels succeeds
(`propagate_decided`).
-/

namespace DeltaFrames.FrameSet

open StateAction

variable {ω ε : Type} {I : Interpretation} {bench : Workbench ω ε} {view : View ω}
  {poll : ω → Except Cancellation.Interrupted Unit} {base : ScopeStack} {index : Nat}

def deciding (ε : Type) (view : View ω) (base : ScopeStack) (declarations : Declarations) :
    Regime ω ε where
  idle frames run := frames.ClausesSorted declarations.signature ∧ view.stack run.world = base
  opened frames session := frames.ClausesSorted declarations.signature ∧
    session.Ready view base declarations [[]]
  busy frames session := frames.ClausesSorted declarations.signature ∧
    ∃ premises, (∀ term ∈ premises, term.HasSort declarations.signature .bool) ∧
      session.Ready view base declarations [premises, []]
  failed error _ _ := error.IsInterruption
  broken error _ _ := error.IsInterruption

theorem deciding_upheld (decisive : bench.solver.Decisive I view)
    (wellSorted : bench.system.WellSorted) (free : base.assertions = []) :
    (deciding ε view base bench.system.declarations).Upheld bench poll index where
  opens idle opening :=
    ⟨idle.1, (Session.start_ready decisive.toDisciplined _ idle.2).of_ok opening⟩
  refuses {_ run _ _} _ opening := ((Session.start_accepted decisive _ run).of_error opening).elim
  premises frames := by
    rintro session ⟨sorted, ready⟩
    refine (Session.pushAll_decided decisive _ session ready).mono
      (fun _ _ left => ⟨sorted, _, ?_, left⟩) fun _ _ impossible => impossible.elim
    exact List.forall_mem_cons.2 ⟨wellSorted.transition, fun other held =>
      sorted.effective (Nat.succ_pos _) (OrderedSet.mem_toList.1 held)⟩
  moves frames clause stored := by
    rintro session ⟨sorted, premises, premisesSorted, ready⟩
    have clauseSorted := sorted _ clause (Nat.succ_pos _) stored
    have asked : (base.extend [premises, []]).assertions = premises := by
      simp [ScopeStack.assertions_extend, free]
    have querySorted : ∀ term ∈ (base.extend [premises, []]).assertions ++
        [bench.system.prime clause.negate],
        term.HasSort bench.system.declarations.signature .bool := by
      rw [asked]
      exact List.forall_mem_append.2 ⟨premisesSorted, List.forall_mem_singleton.2
        (wellSorted.prime _ clauseSorted.negate)⟩
    refine (Session.isUnsatWith_decided decisive (List.cons_ne_nil _ _) _ querySorted session
      ready).mono (fun unsat _ left => ?_) fun _ _ impossible => impossible.elim
    cases unsat with
    | true => exact ⟨sorted.promote clauseSorted, premises, premisesSorted, left⟩
    | false => exact ⟨sorted, premises, premisesSorted, left⟩
  closes := by
    rintro frames session ⟨sorted, premises, -, ready⟩
    obtain ⟨run, closed, stack⟩ := Session.close_stack decisive.scopes decisive.pops ready.stands
    rw [closed]
    exact ⟨sorted, stack⟩
  drops broken := broken
  subsumes frames stronger held clause stored := by
    rintro state ⟨same, sorted, stack⟩
    have querySorted : ∀ term ∈ base.assertions ++ subsumptionQuery stronger clause,
        term.HasSort bench.system.declarations.signature .bool := by
      rw [free]
      exact subsumptionQuery_sorted (sorted.effective (Nat.succ_pos _) held)
        (sorted _ clause (Nat.succ_pos _) stored)
    refine (Session.isUnsatAlone_decided decisive _ frames querySorted state ⟨same, stack⟩).mono
      (fun unsat _ left => ⟨left.1, ?_⟩) fun _ _ impossible => impossible.2.elim
    cases unsat with
    | true => exact ⟨sorted.discard, left.2⟩
    | false => exact ⟨sorted, left.2⟩
  interrupts _ _ := trivial
  interruptsBusy _ _ := trivial

theorem propagate_decided (decisive : bench.solver.Decisive I view)
    (wellSorted : bench.system.WellSorted) {state : FrameSet × Run ω ε}
    (sorted : state.1.ClausesSorted bench.system.declarations.signature)
    (free : (view.stack state.2.world).assertions = [])
    (patient : Patient bench.solver poll state.2.world) :
    ∃ reached after, propagate bench poll state = .ok reached after := by
  have met : Meets (fun _ _ => True) (fun error _ => error.IsInterruption)
      (propagate bench poll state) :=
    (Regime.propagate_upheld (fun _ => deciding_upheld decisive wellSorted free)
      (fun idle => idle) (fun _ idle => idle) (fun _ idle => idle) state ⟨sorted, rfl⟩).mono
      (fun _ _ _ => trivial) fun _ _ left => left
  cases result : propagate bench poll state with
  | ok reached after => exact ⟨reached, after, rfl⟩
  | error error after =>
      rw [result] at met
      exact absurd met (patient.uninterrupted result)

end DeltaFrames.FrameSet
