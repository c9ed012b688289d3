import NodeFleet.ControlPlane.Error

/-!
# Calls in flight

A call is answered once its latency has passed and given up once its time limit has.
An answer that comes at the very end of the limit still counts.  A call that is given
up, or dropped before it is answered, has no effect on the control plane.
-/

namespace NodeFleet

/-- A call that was begun and not finished. -/
structure Call where
  begun : Instant
  /-- The time that the control plane takes. -/
  latency : Duration
  /-- The time that the caller waits. -/
  limit : Duration
  deriving DecidableEq

namespace Call

/-- When the control plane answers. -/
def answeredAt (c : Call) : Instant := c.begun + c.latency

/-- When the caller gives up. -/
def givenUpAt (c : Call) : Instant := c.begun + c.limit

/-- When the call is over. -/
def endsAt (c : Call) : Instant := min c.answeredAt c.givenUpAt

/-- Whether the call ends with an answer. -/
def isAnswered (c : Call) : Bool := c.latency ≤ c.limit

theorem endsAt_of_isAnswered {c : Call} (h : c.isAnswered = true) : c.endsAt = c.answeredAt := by
  have : c.latency ≤ c.limit := by simpa [isAnswered] using h
  simp only [endsAt, answeredAt, givenUpAt]
  lia

theorem begun_le_endsAt (c : Call) : c.begun ≤ c.endsAt := by
  simp only [endsAt, answeredAt, givenUpAt]
  lia

end Call

end NodeFleet
