import NodeFleet.Duration

/-!
# Bounded exponential backoff

The delay after a failure doubles with every failure in a row, from `base` up to
`cap`, and starts again at `base` after a success.  The doubling factor stops
growing at `2 ^ 31` and the failure count at the largest 32-bit word, so delays
are defined for failure runs of any length.
-/

namespace NodeFleet

/-- A retry schedule and the number of failures since the last success. -/
structure Backoff where
  /-- The delay after the first failure. -/
  base : Duration
  /-- The longest delay, at least `base`. -/
  cap : Duration
  /-- Failures since the last success. -/
  failures : Nat
  deriving DecidableEq

namespace Backoff

/-- The largest failure count that is kept. -/
def maxFailures : Nat := 2 ^ 32 - 1

/-- The largest power of two that a base delay is multiplied by. -/
def maxDoublings : Nat := 31

/-- A fresh schedule; a `longest` delay below `base` is raised to it. -/
def start (base longest : Duration) : Backoff :=
  { base, cap := max longest base, failures := 0 }

/-- The delay after the failure that follows `failures` others. -/
def delay (b : Backoff) : Duration :=
  match Duration.scale? b.base (2 ^ min b.failures maxDoublings) with
  | some d => min d b.cap
  | none => b.cap

/-- Counts a failure. -/
def fail (b : Backoff) : Backoff :=
  { b with failures := min (b.failures + 1) maxFailures }

/-- Forgets the failures. -/
def reset (b : Backoff) : Backoff :=
  { b with failures := 0 }

end Backoff

end NodeFleet
