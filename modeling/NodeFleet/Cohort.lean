import NodeFleet.Launch

/-!
# The agents of a fleet at work

A cohort is the agents that were launched, the launcher, and the site that they share.
It works by events: an event is one step of the launcher or of one actor of one agent,
and it happens when that is due.  `Cohort.nextEvent?` selects the earliest event and
`Cohort.perform` carries it out; the clock moves to the time of each event.

Runs are bounded by fuel.  The bound grows with the time to go and is generous: with
positive intervals no answer depends on it.
-/

namespace NodeFleet

/-- The task that launches agents. -/
structure Launcher where
  began : Instant
  /-- The agents to launch, with their offsets and numbers. -/
  pending : List (Duration × Nat × AgentSetup)
  /-- Whether the task has ended. -/
  isDone : Bool

/-- A launched agent. -/
structure Member where
  index : Nat
  agent : Agent

/-- The agents of a fleet at work. -/
structure Cohort where
  /-- What the agents share. -/
  site : Site
  /-- The launched agents, in the order of their launch. -/
  members : List Member
  /-- The launcher, if the launch has begun. -/
  launcher : Option Launcher
  /-- Whether no more agents are to be launched. -/
  launchCancelled : Bool

namespace Cohort

/-- What can happen next. -/
inductive Event where
  | launch
  | agent (position : Nat) (actor : Actor)
  deriving DecidableEq

/-- A cohort without agents. -/
def create (site : Site) : Cohort :=
  { site, members := [], launcher := none, launchCancelled := false }

/-! ## The launcher -/

/-- When the launcher has something to do. -/
def launchDue? (c : Cohort) : Option Instant :=
  match c.launcher with
  | none => none
  | some launcher =>
      if launcher.isDone then none
      else
        match launcher.pending with
        | [] => some 0
        | (offset, _) :: _ => some (if c.launchCancelled then 0 else launcher.began + offset)

/-- Launches an agent. -/
def enlist (c : Cohort) (index : Nat) (setup : AgentSetup) : Cohort :=
  { c with members := c.members ++ [{ index, agent := .create setup }] }

/-- Declares the fleet ready. -/
def declareReady (c : Cohort) : Cohort :=
  { c with site := { c.site with telemetry := c.site.telemetry.setReady true } }

/-- What the launcher does when it is due: it launches the next agent, and after the last one the
fleet is ready; once launching is cancelled it ends. -/
def actLauncher (c : Cohort) (launcher : Launcher) : Cohort :=
  match launcher.pending with
  | [] => { c with launcher := some { launcher with isDone := true } }.declareReady
  | (_, index, setup) :: pending =>
      if c.launchCancelled then { c with launcher := some { launcher with isDone := true } }
      else
        let c := c.enlist index setup
        if pending = [] then
          { c with launcher := some { launcher with pending, isDone := true } }.declareReady
        else { c with launcher := some { launcher with pending } }

/-! ## Events -/

/-- Replaces the agent at a position. -/
def setAgent (c : Cohort) (position : Nat) (agent : Agent) (site : Site) : Cohort :=
  { c with site, members := c.members.modify position fun m => { m with agent } }

/-- Carries out an event. -/
def perform (c : Cohort) : Event → Cohort
  | .launch =>
      match c.launcher with
      | some launcher => c.actLauncher launcher
      | none => c
  | .agent position actor =>
      match c.members[position]? with
      | some member =>
          let (agent, site) := member.agent.act actor c.site
          c.setAgent position agent site
      | none => c

def due? (c : Cohort) : Event → Option Instant
  | .launch => c.launchDue?
  | .agent position actor => (c.members[position]?).bind fun member => member.agent.due? actor

/-- The events of one agent that are due at some time. -/
def eventsOf (now : Instant) (member : Member) (position : Nat) : List (Instant × Event) :=
  Actor.all.filterMap fun actor =>
    (member.agent.due? actor).map fun due => (max due now, .agent position actor)

/-- All events that are due at some time; what is overdue happens now. -/
def events (c : Cohort) : List (Instant × Event) :=
  (c.launchDue?.toList.map fun due => (max due c.site.now, .launch)) ++
    (c.members.zipIdx.flatMap fun entry => eventsOf c.site.now entry.1 entry.2)

/-- The earlier of two events, the first of two at the same time. -/
def earlier (a b : Instant × Event) : Instant × Event :=
  if b.1 < a.1 then b else a

/-- The next event and its time. -/
def nextEvent? (c : Cohort) : Option (Instant × Event) :=
  match c.events with
  | [] => none
  | first :: rest => some (rest.foldl earlier first)

/-- Moves the clock forward. -/
def advanceTo (c : Cohort) (instant : Instant) : Cohort :=
  { c with site := c.site.advanceTo instant }

/-- Moves the clock to the time of an event and carries it out. -/
def performAt (c : Cohort) (time : Instant) (event : Event) : Cohort :=
  (c.advanceTo time).perform event

/-! ## Runs -/

/-- Carries out at most `fuel` events up to an instant. -/
def runFor : Nat → Instant → Cohort → Cohort
  | 0, target, c => c.advanceTo target
  | fuel + 1, target, c =>
      match c.nextEvent? with
      | some (time, event) =>
          if time ≤ target then runFor fuel target (c.performAt time event) else c.advanceTo target
      | none => c.advanceTo target

/-- Carries out at most `fuel` events while `isBusy` holds. -/
def runWhile (isBusy : Cohort → Bool) : Nat → Cohort → Cohort
  | 0, c => c
  | fuel + 1, c =>
      if isBusy c then
        match c.nextEvent? with
        | some (time, event) => runWhile isBusy fuel (c.performAt time event)
        | none => c
      else c

/-- A bound on the number of events in the given time. -/
def fuelFor (c : Cohort) (time : Duration) : Nat :=
  let pending := c.launcher.elim 0 fun launcher => launcher.pending.length
  64 * (time + 2) * (c.members.length + pending + 1) * (c.site.plane.faults.length + 1)

/-- Lets the given time pass. -/
def elapse (c : Cohort) (time : Duration) : Cohort :=
  runFor (c.fuelFor time) (c.site.now + time) c

/-! ## Stopping agents -/

/-- Whether a stop call waits for an agent. -/
def isAwaited (member : Member) : Bool :=
  match member.agent.handle with
  | .awaited _ => true
  | _ => false

/-- Whether a stop call waits for any agent. -/
def isStopping (c : Cohort) : Bool := c.members.any isAwaited

/-- The time until every stop call that waits has given up. -/
def stopTime (c : Cohort) : Duration :=
  c.members.foldl (fun time member => max time member.agent.setup.shutdownTimeout) 0

/-- Runs until no stop call waits. -/
def awaitStops (c : Cohort) : Cohort :=
  runWhile isStopping (c.fuelFor c.stopTime) c

/-- The outcome of a stop call, once it does not wait any more. -/
def outcomeOf (agent : Agent) : Agent.StopCall → Agent.StopOutcome
  | .answered outcome => outcome
  | .pending =>
      agent.outcome?.getD { name := agent.name, clean := false, finalState := agent.state }

/-- Tells the agent at a position to end. -/
def beginStop (c : Cohort) (position : Nat) (agent : Agent) : Agent.StopCall × Cohort :=
  let (call, agent, site) := agent.stop c.site
  (call, c.setAgent position agent site)

/-- Stops the agent at a position and waits for it. -/
def stopAgent (c : Cohort) (position : Nat) : Option Agent.StopOutcome × Cohort :=
  match c.members[position]? with
  | none => (none, c)
  | some member =>
      let (call, c) := c.beginStop position member.agent
      let c := if call = .pending then c.awaitStops else c
      ((c.members[position]?).map fun member => outcomeOf member.agent call, c)

/-- Tells every agent to end. -/
def beginStops (c : Cohort) : List (Nat × Agent.StopCall) × Cohort :=
  (List.range c.members.length).foldl (fun (calls, c) position =>
    match c.members[position]? with
    | some member =>
        let (call, c) := c.beginStop position member.agent
        (calls ++ [(position, call)], c)
    | none => (calls, c)) ([], c)

/-- Stops every agent and waits for all of them. -/
def stopAll (c : Cohort) : List Agent.StopOutcome × Cohort :=
  let (calls, c) := c.beginStops
  let c := c.awaitStops
  (calls.filterMap fun (position, call) =>
    (c.members[position]?).map fun member => outcomeOf member.agent call, c)

/-! ## The end of the launch -/

/-- Whether the launcher is at work. -/
def isLaunching (c : Cohort) : Bool :=
  c.launcher.elim false fun launcher => !launcher.isDone

/-- Allows no more launches and waits for the launcher to end. -/
def endLaunch (c : Cohort) : Cohort :=
  let c := { c with launchCancelled := true }
  runWhile isLaunching (c.fuelFor 0) c

end Cohort

end NodeFleet
