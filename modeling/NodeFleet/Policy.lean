import NodeFleet.Duration

/-!
# Policies of an agent

How often an agent renews its lease and reports its status, when a dimension counts as
being under pressure, and how failed calls are treated.
-/

namespace NodeFleet

/-- How status is reported. -/
structure StatusPolicy where
  /-- The time between evaluations. -/
  minInterval : Duration
  /-- The longest time between publications. -/
  maxInterval : Duration
  /-- The utilization at which a dimension is under pressure. -/
  pressureThreshold : Float

/-- How failed calls are treated. -/
structure RetryPolicy where
  /-- The failures in a row at which an agent is degraded. -/
  failureThreshold : Nat
  /-- The wait after the first failure. -/
  backoffBase : Duration
  /-- The longest wait. -/
  backoffMax : Duration
  /-- The time after which a call is given up. -/
  callTimeout : Duration
  deriving DecidableEq

end NodeFleet
