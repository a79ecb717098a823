import DeltaFrames.FrameSet.Propagation
import DeltaFrames.Proofs.Triple

namespace DeltaFrames.FrameSet

open StateAction

variable {ε ρ α : Type} {before : FrameSet × ρ → Prop}

theorem timed_triple {clock : ρ → Nat} {record : Duration → FrameSet → FrameSet}
    {action : Work ε ρ α} {after : α → FrameSet × ρ → Prop}
    {failed : FrameSetError ε → FrameSet × ρ → Prop} (promise : Triple before action after failed)
    (recorded : ∀ elapsed value state, after value state →
      after value (record elapsed state.1, state.2))
    (failedRecorded : ∀ elapsed error state, failed error state →
      failed error (record elapsed state.1, state.2)) :
    Triple before (timed clock record action) after failed := by
  intro state holds
  have met := promise state holds
  unfold timed
  cases result : action state with
  | ok value left => rw [result] at met; exact recorded _ value left met
  | error error left => rw [result] at met; exact failedRecorded _ error left met

variable {after : Unit → FrameSet × ρ → Prop} {failed : FrameSetError ε → FrameSet × ρ → Prop}

section Checkpoint

variable {poll : ρ → Except Cancellation.Interrupted Unit} {state : FrameSet × ρ}

theorem checkpoint_ok {allowed : Unit} (said : poll state.2 = .ok allowed) :
    (checkpoint poll : Work ε ρ Unit) state = .ok () state := by
  simp only [checkpoint, said]

theorem checkpoint_error {interruption : Cancellation.Interrupted}
    (said : poll state.2 = .error interruption) :
    (checkpoint poll : Work ε ρ Unit) state = .error (.interrupted interruption) state := by
  simp only [checkpoint, said]

theorem checkpoint_triple (passed : ∀ state, before state → after () state)
    (interrupted : ∀ interruption state, before state → poll state.2 = .error interruption →
      failed (.interrupted interruption) state) :
    Triple before (checkpoint poll) after failed := by
  intro state holds
  cases said : poll state.2 with
  | ok _ => rw [checkpoint_ok said]; exact passed state holds
  | error interruption =>
      rw [checkpoint_error said]
      exact interrupted interruption state holds said

def Heeds (said : Except Cancellation.Interrupted Unit) (goesOn : Prop)
    (stops : FrameSetError ε → Prop) : Prop :=
  match said with
  | .ok _ => goesOn
  | .error interruption => stops (.interrupted interruption)

section Heeds

variable {said : Except Cancellation.Interrupted Unit} {goesOn : Prop}
  {stops : FrameSetError ε → Prop}

theorem heeds_of (passed : said = .ok () → goesOn)
    (stopped : ∀ interruption, said = .error interruption → stops (.interrupted interruption)) :
    Heeds said goesOn stops := by
  cases said with
  | ok _ => exact passed rfl
  | error interruption => exact stopped interruption rfl

theorem Heeds.imp {goesOn' : Prop} {stops' : FrameSetError ε → Prop}
    (heeds : Heeds said goesOn stops) (passed : goesOn → goesOn')
    (stopped : ∀ error, stops error → stops' error) : Heeds said goesOn' stops' := by
  cases said with
  | ok _ => exact passed heeds
  | error interruption => exact stopped _ heeds

theorem Heeds.checkpoint (heeds : Heeds (poll state.2) goesOn stops)
    (passed : goesOn → after () state) (stopped : ∀ error, stops error → failed error state) :
    Meets after failed (checkpoint poll state) := by
  cases said : poll state.2 with
  | ok _ =>
      rw [said] at heeds
      rw [checkpoint_ok said]
      exact passed heeds
  | error interruption =>
      rw [said] at heeds
      rw [checkpoint_error said]
      exact stopped _ heeds

end Heeds

end Checkpoint

theorem polled_triple (record : ρ → ρ) (change : FrameSet → FrameSet)
    (poll : ρ → Except Cancellation.Interrupted Unit) (unsat : Bool)
    (acted : unsat = true → ∀ frames other, before (frames, other) →
      Meets after failed (checkpoint poll (change frames, record other)))
    (spared : unsat = false → ∀ state, before state → Meets after failed (checkpoint poll state)) :
    Triple before
      (if unsat = true then do
          modifySecond record
          modifyFirst change
          checkpoint poll
        else checkpoint poll)
      after failed := by
  rintro ⟨frames, other⟩ holds
  cases unsat with
  | true => exact acted rfl frames other holds
  | false => exact spared rfl (frames, other) holds

theorem judged_triple (record : ρ → ρ) (change : FrameSet → FrameSet)
    (poll : ρ → Except Cancellation.Interrupted Unit) (unsat : Bool)
    (acted : unsat = true → ∀ frames other, before (frames, other) →
      after () (change frames, record other))
    (spared : unsat = false → ∀ state, before state → after () state)
    (interrupted : ∀ interruption state, after () state → poll state.2 = .error interruption →
      failed (.interrupted interruption) state) :
    Triple before
      (if unsat = true then do
          modifySecond record
          modifyFirst change
          checkpoint poll
        else checkpoint poll)
      after failed := by
  have stopping : Triple (after ()) (checkpoint poll) after failed :=
    checkpoint_triple (fun _ holds => holds) interrupted
  exact polled_triple record change poll unsat
    (fun isUnsat frames other holds => stopping _ (acted isUnsat frames other holds))
    fun isSat state holds => stopping _ (spared isSat state holds)

section Visit

variable {ω ε : Type} {bench : Workbench ω ε} {poll : ω → Except Cancellation.Interrupted Unit}
  {index : Nat} {before started pushed : FrameSet × Run ω ε → Prop}
  {after : Bool → FrameSet × Run ω ε → Prop} {failed : FrameSetError ε → FrameSet × Run ω ε → Prop}

theorem announce_rule {visited : FrameSet × Run ω ε → Prop}
    (announced : ∀ frames run, visited (frames, run) →
      (frames.storedAt (index + 1)).isEmpty = true →
        after true (frames, run.emit (.fixpointReached (index + 1))))
    (silent : ∀ frames run, visited (frames, run) →
      (frames.storedAt (index + 1)).isEmpty = false → after false (frames, run)) :
    Triple visited
      (do
        if ((← get).1.storedAt (index + 1)).isEmpty then
          emit (.fixpointReached (index + 1))
          return true
        else return false : Work ε (Run ω ε) Bool)
      after failed := by
  refine Triple.get fun state holds => ?_
  cases empty : (state.1.storedAt (index + 1)).isEmpty with
  | true => exact announced state.1 state.2 holds empty
  | false => exact silent state.1 state.2 holds empty

theorem visitLevel_rule (visited : FrameSet × Run ω ε → Prop)
    (counted : ∀ frames run, before (frames, run) → started (frames.countLevel, run))
    (pushes : Triple started (pushClauses bench poll index) (fun _ => pushed) failed)
    (skipped : bench.options.subsumption = false → ∀ state, pushed state → visited state)
    (prunes : bench.options.subsumption = true →
      Triple pushed (removeSubsumed bench poll index) (fun _ => visited) failed)
    (recorded : ∀ elapsed frames run, visited (frames, run) →
      visited (frames.recordSubsumption elapsed, run))
    (failedRecorded : ∀ elapsed error frames run, failed error (frames, run) →
      failed error (frames.recordSubsumption elapsed, run))
    (announced : ∀ frames run, visited (frames, run) →
      (frames.storedAt (index + 1)).isEmpty = true →
        after true (frames, run.emit (.fixpointReached (index + 1))))
    (silent : ∀ frames run, visited (frames, run) →
      (frames.storedAt (index + 1)).isEmpty = false → after false (frames, run)) :
    Triple before (visitLevel bench poll index) after failed := by
  have starting : Triple before (modifyFirst countLevel : Work ε (Run ω ε) Unit)
      (fun _ => started) failed :=
    Triple.modify _ fun state holds => counted state.1 state.2 holds
  refine starting.bind fun _ => pushes.bind fun _ => ?_
  cases setting : bench.options.subsumption with
  | false =>
      exact (announce_rule announced silent).mono (skipped setting) (fun _ _ told => told)
        fun _ _ stopped => stopped
  | true =>
      refine (timed_triple (prunes setting) ?_ ?_).bind fun _ => announce_rule announced silent
      · exact fun elapsed _ state holds => recorded elapsed state.1 state.2 holds
      · exact fun elapsed error state stopped =>
          failedRecorded elapsed error state.1 state.2 stopped

end Visit

end DeltaFrames.FrameSet
