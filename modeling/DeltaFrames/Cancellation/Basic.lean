import DeltaFrames.Duration

/-!
# Cancellation tokens

A token is a handle on a cell that its holders share. Whoever holds one may cancel the work it
stands for, and the work polls it between two steps. The first reason given stays, and a cell may
carry a deadline, after which it counts as cancelled without anybody's doing. An explicit
cancellation is reported before a deadline that has passed as well (`Cell.check`).

Times are nanoseconds on a clock that starts at zero and counts whole seconds in a signed 64-bit
word.
-/

namespace DeltaFrames.Cancellation

/-- The clock fails to show this many seconds and more. -/
def secondsOnClock : Nat := 9223372036854775808

structure Interrupted where
  reason : String
  deriving DecidableEq, Repr

def Interrupted.message (interruption : Interrupted) : String :=
  "analysis interrupted: " ++ interruption.reason

structure Cell where
  cancelled : Bool := false
  reason : Option String := none
  deadline : Option Nat := none
  deriving DecidableEq, Repr, Inhabited

namespace Cell

def cancel (cell : Cell) (reason : String) : Cell :=
  { cell with cancelled := true, reason := cell.reason <|> some reason }

def expired (cell : Cell) (now : Nat) : Bool :=
  cell.deadline.any (· ≤ now)

def isCancelled (cell : Cell) (now : Nat) : Bool :=
  cell.cancelled || cell.expired now

def check (cell : Cell) (now : Nat) : Except Interrupted Unit :=
  if cell.cancelled then .error ⟨cell.reason.getD "cancellation requested"⟩
  else if cell.expired now then .error ⟨"deadline exceeded"⟩
  else .ok ()

end Cell

structure Token where
  cell : Nat
  deriving DecidableEq, Repr, Inhabited

structure Store where
  cells : Array Cell := #[]
  now : Nat := 0
  deriving Inhabited

namespace Store

def allocate (store : Store) (deadline : Option Nat) : Token × Store :=
  (⟨store.cells.size⟩, { store with cells := store.cells.push { deadline } })

def secondsFromNow (store : Store) (seconds : UInt64) : Option Nat :=
  let moment := store.now + seconds.toNat * nanosPerSecond
  if moment / nanosPerSecond < secondsOnClock then some moment else none

def timeoutDeadline (store : Store) (seconds : UInt64) : Option Nat :=
  if seconds = 0 then none else store.secondsFromNow seconds

def cell (store : Store) (token : Token) : Cell :=
  store.cells.getD token.cell {}

def cancel (store : Store) (token : Token) (reason : String) : Store :=
  { store with cells := store.cells.modify token.cell (·.cancel reason) }

def isCancelled (store : Store) (token : Token) : Bool :=
  (store.cell token).isCancelled store.now

def deadline (store : Store) (token : Token) : Option Nat :=
  (store.cell token).deadline

def check (store : Store) (token : Token) : Except Interrupted Unit :=
  (store.cell token).check store.now

end Store
end DeltaFrames.Cancellation
