import FilterDispatch.Text.Numeral

/-! What a stress run comes to: counts, latencies and how they are condensed. -/

namespace FilterDispatch.Stress

/-- Seconds and nanoseconds, fewer than a second of them. -/
structure Elapsed where
  seconds : Nat
  nanoseconds : Nat
  deriving DecidableEq, Repr

def Elapsed.ofParts (seconds nanoseconds : Nat) : Elapsed :=
  ⟨seconds + nanoseconds / 1000000000, nanoseconds % 1000000000⟩

def countFloat (n : Nat) : Float :=
  (UInt64.ofNat n).toFloat

def Elapsed.inSeconds (e : Elapsed) : Float :=
  countFloat e.seconds + countFloat e.nanoseconds / 1.0e9

/-- Requests in a second; none if no time has passed. -/
def throughput (requests : Nat) (e : Elapsed) : Float :=
  let seconds := e.inSeconds
  if seconds == 0.0 then 0.0 else countFloat requests / seconds

/-- Place of a fraction among so many values: that part of them, rounded up, ends there. -/
def percentilePlace (count : Nat) (p : Float) : Nat :=
  min ((countFloat count * p).ceil.toUInt64.toNat - 1) (count - 1)

/-- The value below which the given part of the sorted ones lies; zero if there are none. -/
def percentile (sorted : List Float) (p : Float) : Float :=
  sorted.getD (percentilePlace sorted.length p) 0.0

structure Summary where
  requests : Nat
  blocked : Nat
  /-- In milliseconds, ascending. -/
  latencies : List Float

end FilterDispatch.Stress
