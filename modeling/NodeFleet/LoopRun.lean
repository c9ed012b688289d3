import NodeFleet.Agent

/-!
# One loop at work

A loop can be run without the rest of its agent, which shows its schedule undisturbed.
The run holds what the loop works on: a site, a tracker, a profile and a ledger.  It
stops when the loop is told to end or when its identity is lost.
-/

namespace NodeFleet

/-- A loop of either kind. -/
inductive AgentLoop where
  | heartbeat (loop : Heartbeat)
  | statusSync (loop : StatusSync)

namespace AgentLoop

/-- When the loop has something to do next. -/
def wakesAt : AgentLoop → Instant
  | .heartbeat loop => loop.wakesAt
  | .statusSync loop => loop.wakesAt

/-- One step of the loop. -/
def act (loop : AgentLoop) (profile : Profile) (ledger : Ledger) (tracker : Tracker)
    (site : Site) : Except LoopExit AgentLoop × Tracker × Site :=
  match loop with
  | .heartbeat loop =>
      let (next, tracker, site) := loop.act tracker site
      (next.map .heartbeat, tracker, site)
  | .statusSync loop =>
      let (next, tracker, site) := loop.act profile ledger tracker site
      (next.map .statusSync, tracker, site)

end AgentLoop

/-- A loop at work on its own. -/
structure LoopRun where
  site : Site
  /-- The tracker of the loop's agent. -/
  tracker : Tracker
  profile : Profile
  /-- The workloads of the node. -/
  ledger : Ledger
  /-- Whether the loop was told to end. -/
  isCancelled : Bool
  /-- The loop, once it was started, or how it ended. -/
  loop : Option (Except LoopExit AgentLoop)

namespace LoopRun

/-- A run in which no loop was started: the identity is registered and its agent is active. -/
def create (identity : Identity) (profile : Profile) (retry : RetryPolicy) (site : Site) :
    LoopRun :=
  let tracker := Tracker.create identity.name retry.failureThreshold
  let site := { site with telemetry := tracker.announce site.telemetry site.wall }
  let (tracker, site) := site.move tracker .registering
  let (tracker, site) := site.move tracker .active
  let (_, site) := site.settleRegister (site.beginCall 0) identity profile
  { site, tracker, profile, ledger := .empty profile.allocatable, isCancelled := false
    loop := none }

/-- When the loop has something to do. -/
def due? (r : LoopRun) : Option Instant :=
  match r.loop with
  | some (.ok loop) => some (max (if r.isCancelled then 0 else loop.wakesAt) r.site.now)
  | _ => none

/-- What the loop does when it is due. -/
def act (r : LoopRun) : LoopRun :=
  match r.loop with
  | some (.ok loop) =>
      if r.isCancelled then { r with loop := some (.error .cancelled) }
      else
        let (next, tracker, site) := loop.act r.profile r.ledger r.tracker r.site
        { r with loop := some next, tracker, site }
  | _ => r

/-- Moves the clock forward. -/
def advanceTo (r : LoopRun) (instant : Instant) : LoopRun :=
  { r with site := r.site.advanceTo instant }

/-- Takes at most `fuel` steps up to an instant. -/
def runFor : Nat → Instant → LoopRun → LoopRun
  | 0, target, r => r.advanceTo target
  | fuel + 1, target, r =>
      match r.due? with
      | some time =>
          if time ≤ target then runFor fuel target (r.advanceTo time).act else r.advanceTo target
      | none => r.advanceTo target

/-- A bound on the number of steps in the given time. -/
def fuelFor (r : LoopRun) (time : Duration) : Nat :=
  64 * (time + 2) * (r.site.plane.faults.length + 1)

/-- Lets the given time pass. -/
def elapse (r : LoopRun) (time : Duration) : LoopRun :=
  runFor (r.fuelFor time) (r.site.now + time) r

/-- How the loop ended, if it did. -/
def exit? (r : LoopRun) : Option LoopExit :=
  match r.loop with
  | some (.error exit) => some exit
  | _ => none

/-- Takes at most `fuel` steps until the loop ends. -/
def runToExit : Nat → LoopRun → LoopRun
  | 0, r => r
  | fuel + 1, r =>
      match r.due? with
      | some time => runToExit fuel (r.advanceTo time).act
      | none => r

/-- The time after which waiting for the end of a loop is pointless: ten years. -/
def patience : Duration := Duration.ofSeconds (10 * 366 * 86400)

/-- Waits for the loop to end. -/
def await (r : LoopRun) : LoopRun :=
  runToExit (r.fuelFor patience) r

end LoopRun

end NodeFleet
