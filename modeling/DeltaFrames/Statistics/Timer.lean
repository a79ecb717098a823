import DeltaFrames.Statistics.Counter
import DeltaFrames.Duration

namespace DeltaFrames

structure Timer where
  intervals : Counter := 0
  total : Duration := .zero
  max : Duration := .zero
  deriving Inhabited

namespace Timer

def record (timer : Timer) (elapsed : Duration) : Timer where
  intervals := Counter.next timer.intervals
  total := timer.total.add elapsed
  max := timer.max.max elapsed

def hasIntervals (timer : Timer) : Bool := 0 < timer.intervals

/-- The mean interval, rounded down to the nanosecond. More than 2³² - 1 intervals divide the sum
in floating point instead, with the quotient rounded to the nearest nanosecond. -/
def average (timer : Timer) : Duration :=
  let count := timer.intervals.toNat
  if count < UInt32.size then timer.total.divide count
  else .ofSeconds (Rounding.binary64 (timer.total.toBinary64 / Rounding.binary64 count))

theorem average_of_no_intervals {timer : Timer} (none : timer.intervals = 0) :
    timer.average = .zero := by
  simp [average, none, Duration.divide, Duration.zero]

end Timer
end DeltaFrames
