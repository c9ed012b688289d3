import NodeFleet.Policy
import NodeFleet.Site

/-!
# The status loop

The status loop evaluates the conditions of its node on a grid of ticks, one minimal
interval apart.  It publishes when a status changed or when the last successful
publication began a maximal interval ago, and skips the tick otherwise.  Between two
ticks it also wakes when the last publication becomes stale.

`StatusSync.catchUp` finds the next tick after an instant, `StatusSync.nextWake` the next
instant to wake at, and `StatusSync.act` is one step of the loop.
-/

namespace NodeFleet

/-- A publication in flight. -/
structure Publication where
  call : Call
  snapshot : StatusSnapshot
  deriving DecidableEq

/-- The state of a status loop. -/
structure StatusSync where
  identity : Identity
  /-- The intervals and the threshold. -/
  policy : StatusPolicy
  /-- The time after which a call is given up. -/
  callLimit : Duration
  /-- The conditions as last evaluated. -/
  conditions : List NodeCondition
  /-- The conditions as last published with success. -/
  lastPublished : Option (List NodeCondition)
  /-- When the last successful publication began. -/
  lastSuccess : Option Instant
  /-- The next tick of the grid. -/
  nextTick : Instant
  wake : Instant
  flight : Option Publication

namespace StatusSync

/-! ## When to wake -/

/-- The first tick after `now`, going on from `tick` in steps of a positive period.  There is none
without a period. -/
def catchUp (period : Duration) (tick now : Instant) : Instant :=
  if period = 0 then tick
  else if tick ≤ now then catchUp period (tick + period) now
  else tick
termination_by now + 1 - tick
decreasing_by lia

/-- When to wake next: at the next tick, or when the last publication becomes stale if that is
still to come and earlier. -/
def nextWake (maxInterval : Duration) (lastSuccess : Option Instant) (nextTick now : Instant) :
    Instant :=
  match lastSuccess with
  | some last =>
      if now < last + maxInterval ∧ last + maxInterval < nextTick then last + maxInterval
      else nextTick
  | none => nextTick

/-- The loop of an identity, started at `now`, with its first tick at `anchor`. -/
def start (identity : Identity) (policy : StatusPolicy) (retry : RetryPolicy)
    (anchor : Instant) : StatusSync :=
  { identity, policy
    callLimit := retry.callTimeout
    conditions := []
    lastPublished := none
    lastSuccess := none
    nextTick := anchor
    wake := anchor
    flight := none }

/-- When the loop has something to do next. -/
def wakesAt (s : StatusSync) : Instant :=
  match s.flight with
  | none => s.wake
  | some flight => flight.call.endsAt

/-- The loop going to sleep at `now`. -/
def sleepFrom (s : StatusSync) (now : Instant) : StatusSync :=
  { s with
    wake := nextWake s.policy.maxInterval s.lastSuccess s.nextTick now
    flight := none }

/-! ## What to publish -/

/-- The status of a node with the given usage, the conditions carried on from `previous`. -/
def snapshotOf (policy : StatusPolicy) (profile : Profile) (usage : LedgerSnapshot)
    (previous : List NodeCondition) (now : Timestamp) : StatusSnapshot :=
  { conditions := buildConditions previous (usage.isPressed policy.pressureThreshold) now
    capacity := profile.capacity
    allocatable := profile.allocatable
    observedGeneration := usage.generation
    podCidr := profile.podRange.text
    generatedAt := now }

/-- Whether conditions evaluated at `now` are to be published: always before the first success,
and later if a status changed or the last success is stale. -/
def shouldPublish (s : StatusSync) (conditions : List NodeCondition) (now : Instant) : Bool :=
  match s.lastSuccess with
  | none => true
  | some last =>
      (match s.lastPublished with
        | some previous => conditionsDiffer conditions previous
        | none => true) ||
      s.policy.maxInterval ≤ now - last

/-! ## Steps -/

/-- Wakes: evaluates the conditions, and begins a publication or skips the tick. -/
def tick (s : StatusSync) (profile : Profile) (ledger : Ledger) (site : Site) :
    StatusSync × Site :=
  let nextTick := catchUp s.policy.minInterval s.nextTick site.now
  let snapshot := snapshotOf s.policy profile ledger.snapshot s.conditions site.wall
  let isWanted := s.shouldPublish snapshot.conditions site.now
  let s := { s with nextTick, conditions := snapshot.conditions }
  if isWanted then
    ({ s with flight := some { call := site.beginCall s.callLimit, snapshot } }, site)
  else (s.sleepFrom site.now, site.increment (.statusPublishes .skipped))

/-- Shows the result of a publication in the tracker and the telemetry. -/
def report (result : Except CallError Unit) (snapshot : StatusSnapshot) (tracker : Tracker)
    (site : Site) : Tracker × Site :=
  let site := site.increment (.callLatency .publishStatus)
  match result with
  | .ok () =>
      let site := site.increment (.statusPublishes .published)
      site.recordSuccess (tracker.recordPublish snapshot.generatedAt) .statusSync
  | .error error =>
      if error.isIdentityLost then (tracker, site.increment (.statusPublishes .superseded))
      else (site.increment (.statusPublishes .failed)).recordFailure tracker .statusSync

/-- What becomes of the loop after a publication that ended at `now`. -/
def afterPublication (s : StatusSync) (flight : Publication) (result : Except CallError Unit)
    (now : Instant) : Except LoopExit StatusSync :=
  match result with
  | .ok () =>
      .ok ({ s with
        lastSuccess := some flight.call.begun
        lastPublished := some flight.snapshot.conditions }.sleepFrom now)
  | .error error =>
      if error.isIdentityLost then .error (.superseded error) else .ok (s.sleepFrom now)

/-- One step: wakes, or settles the publication in flight. -/
def act (s : StatusSync) (profile : Profile) (ledger : Ledger) (tracker : Tracker)
    (site : Site) : Except LoopExit StatusSync × Tracker × Site :=
  match s.flight with
  | none =>
      let (s, site) := s.tick profile ledger site
      (.ok s, tracker, site)
  | some flight =>
      let (result, site) := site.settlePublish flight.call s.identity flight.snapshot
      (s.afterPublication flight result site.now, report result flight.snapshot tracker site)

end StatusSync

end NodeFleet
