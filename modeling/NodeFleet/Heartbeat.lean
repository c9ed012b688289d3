import NodeFleet.Backoff
import NodeFleet.Policy
import NodeFleet.Site

/-!
# The heartbeat loop

The heartbeat renews an agent's lease once in every period.  The next attempt is
scheduled one period after the instant for which the last one was scheduled, however
long the call took.  After a failure the backoff may put it later, never earlier.

`Heartbeat.reschedule` is the schedule and `Heartbeat.report` what a renewal shows;
`Heartbeat.act` is one step of the loop.
-/

namespace NodeFleet

/-- The state of a heartbeat loop. -/
structure Heartbeat where
  /-- The identity whose lease is renewed. -/
  identity : Identity
  /-- The lease version that the loop knows. -/
  version : Nat
  /-- The time between attempts. -/
  period : Duration
  /-- The time after which a call is given up. -/
  callLimit : Duration
  /-- The wait after failures. -/
  backoff : Backoff
  /-- The instant for which the next attempt is scheduled, or the one in flight was. -/
  scheduled : Instant
  /-- The attempt in flight. -/
  call : Option Call
  deriving DecidableEq

namespace Heartbeat

/-- The loop of an identity registered at `anchor`: the first attempt is one period later. -/
def start (identity : Identity) (version : Nat) (period : Duration) (retry : RetryPolicy)
    (anchor : Instant) : Heartbeat :=
  { identity, version, period
    callLimit := retry.callTimeout
    backoff := .start retry.backoffBase retry.backoffMax
    scheduled := anchor + period
    call := none }

/-- When the loop has something to do next. -/
def wakesAt (h : Heartbeat) : Instant :=
  match h.call with
  | none => h.scheduled
  | some call => call.endsAt

/-- Schedules the next attempt after one that ended at `now` and did not lose the identity. -/
def reschedule (h : Heartbeat) (result : Except CallError Nat) (now : Instant) : Heartbeat :=
  match result with
  | .ok version =>
      { h with
        version
        backoff := h.backoff.reset
        scheduled := h.scheduled + h.period
        call := none }
  | .error _ =>
      { h with
        backoff := h.backoff.fail
        scheduled := max (h.scheduled + h.period) (now + h.backoff.delay)
        call := none }

/-- Shows the result of an attempt in the tracker and the telemetry. -/
def report (result : Except CallError Nat) (tracker : Tracker) (site : Site) : Tracker × Site :=
  let site := site.increment (.callLatency .renewLease)
  match result with
  | .ok version =>
      let site := site.increment (.leaseRenewals .success)
      site.recordSuccess (tracker.recordRenewal version site.wall) .heartbeat
  | .error error =>
      if error.isIdentityLost then (tracker, site.increment (.leaseRenewals .superseded))
      else (site.increment (.leaseRenewals .failure)).recordFailure tracker .heartbeat

/-- What becomes of the loop after an attempt that ended at `now`. -/
def afterAttempt (h : Heartbeat) (result : Except CallError Nat) (now : Instant) :
    Except LoopExit Heartbeat :=
  match result with
  | .ok _ => .ok (h.reschedule result now)
  | .error error =>
      if error.isIdentityLost then .error (.superseded error) else .ok (h.reschedule result now)

/-- One step: begins the attempt that is due, or settles the one in flight. -/
def act (h : Heartbeat) (tracker : Tracker) (site : Site) :
    Except LoopExit Heartbeat × Tracker × Site :=
  match h.call with
  | none => (.ok { h with call := some (site.beginCall h.callLimit) }, tracker, site)
  | some call =>
      let (result, site) := site.settleRenew call h.identity h.version
      (h.afterAttempt result site.now, report result tracker site)

end Heartbeat

end NodeFleet
