import DeltaFrames.Rounding

/-!
# Durations

A span of time in whole nanoseconds, shorter than 2⁶⁴ seconds. Sums stop at the longest span.
-/

namespace DeltaFrames

def nanosPerSecond : Nat := 1000000000

structure Duration where
  nanoseconds : Nat
  bound : nanoseconds < UInt64.size * nanosPerSecond
  deriving DecidableEq

namespace Duration

@[ext] theorem ext {a b : Duration} (h : a.nanoseconds = b.nanoseconds) : a = b := by
  cases a; cases b; simp_all

def zero : Duration := ⟨0, by decide⟩

def longest : Duration := ⟨UInt64.size * nanosPerSecond - 1, by decide⟩

instance : Inhabited Duration := ⟨zero⟩

def ofNanoseconds (nanoseconds : Nat) : Duration :=
  ⟨min nanoseconds longest.nanoseconds, Nat.lt_of_le_of_lt (Nat.min_le_right ..) longest.bound⟩

def seconds (duration : Duration) : Nat := duration.nanoseconds / nanosPerSecond

def subsecond (duration : Duration) : Nat := duration.nanoseconds % nanosPerSecond

def add (a b : Duration) : Duration := ofNanoseconds (a.nanoseconds + b.nanoseconds)

def max (a b : Duration) : Duration := if a.nanoseconds ≤ b.nanoseconds then b else a

def divide (duration : Duration) (count : Nat) : Duration :=
  ⟨duration.nanoseconds / count, Nat.lt_of_le_of_lt (Nat.div_le_self ..) duration.bound⟩

open Rounding

def toBinary64 (duration : Duration) : Rat :=
  binary64 (binary64 duration.seconds + binary64 (duration.subsecond / (nanosPerSecond : Rat)))

def ofSeconds (seconds : Rat) : Duration :=
  ofNanoseconds (halfEven (seconds * nanosPerSecond)).toNat

/-- The seconds to three decimals, as in `1.500s`. -/
def print (duration : Duration) : String :=
  let thousandths := (halfEven (duration.toBinary64 * 1000)).toNat
  let decimals := Nat.repr (1000 + thousandths % 1000)
  Nat.repr (thousandths / 1000) ++ "." ++ String.ofList (decimals.toList.drop 1) ++ "s"

@[simp] theorem nanoseconds_ofNanoseconds (n : Nat) :
    (ofNanoseconds n).nanoseconds = min n longest.nanoseconds := rfl

@[simp] theorem nanoseconds_add (a b : Duration) :
    (a.add b).nanoseconds = min (a.nanoseconds + b.nanoseconds) longest.nanoseconds := rfl

@[simp] theorem nanoseconds_max (a b : Duration) :
    (a.max b).nanoseconds = Nat.max a.nanoseconds b.nanoseconds := by
  unfold max
  split
  · next le => exact (Nat.max_eq_right le).symm
  · next gt => exact (Nat.max_eq_left (Nat.le_of_not_le gt)).symm

theorem nanoseconds_le_longest (duration : Duration) :
    duration.nanoseconds ≤ longest.nanoseconds :=
  Nat.le_sub_one_of_lt duration.bound

end Duration
end DeltaFrames
