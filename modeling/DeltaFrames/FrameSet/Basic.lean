import DeltaFrames.Cancellation.Basic
import DeltaFrames.FrameSet.Options
import DeltaFrames.OrderedSet
import DeltaFrames.Session.Error
import DeltaFrames.Statistics.Basic
import DeltaFrames.System.Basic

/-!
# Frame sets

A frame set over-approximates the states that a transition system reaches in few steps. Level 0
holds the initial condition. Every higher level stores only the clauses that are not known to hold
further up, so the clauses that hold at a level above 0 are those stored there or at any higher
level (`mem_effective_iff`).
-/

namespace DeltaFrames

abbrev Frame := OrderedSet Term

inductive FrameLevel where
  | initial
  /-- The level above 0 that has so many such levels below it. -/
  | delta (index : Nat)
  deriving DecidableEq, Repr

def FrameLevel.of : Nat → FrameLevel
  | 0 => .initial
  | index + 1 => .delta index

inductive LevelError where
  | outOfRange (level frontier : Nat)
  | initialFrameImmutable
  deriving DecidableEq, Repr

def LevelError.message : LevelError → String
  | .outOfRange level frontier =>
      "frame level " ++ Nat.repr level ++ " out of range (frontier level is " ++
        Nat.repr frontier ++ ")"
  | .initialFrameImmutable =>
      "frame 0 holds the initial condition and cannot receive blocking clauses"

inductive FrameSetError (ε : Type) where
  | level (error : LevelError)
  | solver (error : SessionError ε)
  | interrupted (interruption : Cancellation.Interrupted)

def FrameSetError.message {ε : Type} [ToString ε] : FrameSetError ε → String
  | .level error => error.message
  | .solver error => "Solver error: " ++ error.message
  | .interrupted interruption => interruption.message

structure FrameSet where
  initial : Frame
  /-- The stored frames of the levels 1, 2, … -/
  deltas : List Frame := []
  statistics : Statistics := {}
  deriving Inhabited

namespace FrameSet

def ofSystem (system : TransitionSystem) : FrameSet where
  initial := (∅ : Frame).insert (system.unprime system.initial)
  statistics := { frames := 1 }

def frontier (frames : FrameSet) : Nat := frames.deltas.length

def storedAt (frames : FrameSet) (level : Nat) : Frame :=
  match FrameLevel.of level with
  | .initial => frames.initial
  | .delta index => frames.deltas[index]?.getD ∅

/-- The clauses that hold at this level, those of lower levels first. -/
def effective (frames : FrameSet) (level : Nat) : Frame :=
  match FrameLevel.of level with
  | .initial => frames.initial
  | .delta index => .union (frames.deltas.drop index)

def checkLevel (frames : FrameSet) (level : Nat) : Except LevelError Unit :=
  if level ≤ frames.frontier then .ok () else .error (.outOfRange level frames.frontier)

def stored (frames : FrameSet) (level : Nat) : Except LevelError Frame := do
  frames.checkLevel level
  return frames.storedAt level

def states (frames : FrameSet) (level : Nat) : Except LevelError Frame := do
  frames.checkLevel level
  return frames.effective level

def deltaIndex (frames : FrameSet) (level : Nat) : Except LevelError Nat := do
  frames.checkLevel level
  match FrameLevel.of level with
  | .initial => throw .initialFrameImmutable
  | .delta index => return index

def count (frames : FrameSet) (change : Statistics → Statistics) : FrameSet :=
  { frames with statistics := change frames.statistics }

def storedClauses (frames : FrameSet) : Nat :=
  (frames.deltas.flatMap OrderedSet.toList).length

def recount (frames : FrameSet) : FrameSet :=
  frames.count ({ · with clauses := Counter.ofNat frames.storedClauses })

def openNext (system : TransitionSystem) (frames : FrameSet) : FrameSet :=
  let seed := (∅ : Frame).insert (system.unprime system.property)
  let opened := { frames with deltas := frames.deltas ++ [seed] }
  recount <| opened.count fun statistics =>
    { statistics with
      frames := Counter.next statistics.frames
      clausesAdded := Counter.next statistics.clausesAdded }

def addClause (frames : FrameSet) (index : Nat) (clause : Term) : FrameSet :=
  if clause ∈ frames.deltas[index]?.getD ∅ then frames
  else
    recount <| { frames with deltas := frames.deltas.modify index (·.insert clause) }.count
      fun statistics => { statistics with clausesAdded := Counter.next statistics.clausesAdded }

def promote (frames : FrameSet) (index : Nat) (clause : Term) : FrameSet :=
  let deltas := (frames.deltas.modify index (·.erase clause)).modify (index + 1) (·.insert clause)
  { frames with deltas }.count fun statistics =>
    { statistics with propagatedClauses := Counter.next statistics.propagatedClauses }

def discard (frames : FrameSet) (index : Nat) (clause : Term) : FrameSet :=
  { frames with deltas := frames.deltas.modify index (·.erase clause) }.count fun statistics =>
    { statistics with subsumedClauses := Counter.next statistics.subsumedClauses }

def countLevel (frames : FrameSet) : FrameSet :=
  frames.count fun statistics =>
    { statistics with levelsPropagated := Counter.next statistics.levelsPropagated }

def recordPropagation (elapsed : Duration) (frames : FrameSet) : FrameSet :=
  frames.count fun statistics =>
    { statistics with propagation := statistics.propagation.record elapsed }

def recordSolver (elapsed : Duration) (frames : FrameSet) : FrameSet :=
  frames.count fun statistics =>
    { statistics with propagationSolver := statistics.propagationSolver.record elapsed }

def recordSubsumption (elapsed : Duration) (frames : FrameSet) : FrameSet :=
  frames.count fun statistics =>
    { statistics with subsumption := statistics.subsumption.record elapsed }

theorem mem_effective_iff {frames : FrameSet} {level : Nat} {clause : Term} (positive : 0 < level) :
    clause ∈ frames.effective level ↔ ∃ above, level ≤ above ∧ clause ∈ frames.storedAt above := by
  obtain ⟨index, rfl⟩ := Nat.exists_eq_add_one.2 positive
  simp only [effective, FrameLevel.of, OrderedSet.mem_union]
  constructor
  · rintro ⟨frame, member, held⟩
    obtain ⟨offset, located⟩ := List.mem_iff_getElem?.1 member
    rw [List.getElem?_drop] at located
    exact ⟨index + offset + 1, by omega, by simpa [storedAt, FrameLevel.of, located] using held⟩
  · rintro ⟨above, le, held⟩
    obtain ⟨offset, rfl⟩ : ∃ offset, above = index + offset + 1 := ⟨above - index - 1, by omega⟩
    cases located : frames.deltas[index + offset]? with
    | none => simp [storedAt, FrameLevel.of, located] at held
    | some frame =>
        refine ⟨frame, ?_, by simpa [storedAt, FrameLevel.of, located] using held⟩
        exact List.mem_iff_getElem?.2 ⟨offset, by rw [List.getElem?_drop]; exact located⟩

@[simp] theorem frontier_openNext (system : TransitionSystem) (frames : FrameSet) :
    (frames.openNext system).frontier = frames.frontier + 1 := by
  simp [frontier, openNext, recount, count]

@[simp] theorem frontier_promote (frames : FrameSet) (index : Nat) (clause : Term) :
    (frames.promote index clause).frontier = frames.frontier := by
  simp [frontier, promote, count]

@[simp] theorem frontier_discard (frames : FrameSet) (index : Nat) (clause : Term) :
    (frames.discard index clause).frontier = frames.frontier := by
  simp [frontier, discard, count]

end FrameSet
end DeltaFrames
