import NodeFleet.Heartbeat
import NodeFleet.StatusSync

/-!
# Agents

An agent registers its node, keeps both loops going, registers anew under a fresh
identity when the identity is lost, and deregisters when it is stopped.  Three actors
work on it at the same time: the task that goes through the stages of its life, and the
two loops that run in the stage `running`.  Between two waits an actor is not disturbed,
so an agent is a state machine with one step for every wait that ends:

* `Agent.due?` says when an actor has something to do;
* `Agent.act` is what the actor then does.

From outside an agent is told to stop (`Agent.stop`), and placements are submitted to
and released from its ledger.
-/

namespace NodeFleet

/-- What an agent is set up with. -/
structure AgentSetup where
  name : String
  /-- The description of the node. -/
  profile : Profile
  /-- The time between lease renewals. -/
  renewInterval : Duration
  status : StatusPolicy
  /-- How failed calls are treated. -/
  retry : RetryPolicy
  /-- The time that stopping may take. -/
  shutdownTimeout : Duration

/-- An attempt to register, which may take several calls. -/
structure RegistrationAttempt where
  identity : Identity
  /-- The wait after failures. -/
  backoff : Backoff
  deriving DecidableEq

/-- A loop as its agent sees it. -/
inductive LoopSlot (α : Type) where
  | running (loop : α)
  | returned (exit : LoopExit)
  /-- The agent has taken note of the return. -/
  | joined

/-- Whether a loop has returned and this was not noted. -/
def LoopSlot.isReturned {α : Type} : LoopSlot α → Bool
  | .returned _ => true
  | _ => false

/-- Whether the return of a loop was noted. -/
def LoopSlot.isJoined {α : Type} : LoopSlot α → Bool
  | .joined => true
  | _ => false

/-- The loops of a registered identity. -/
structure Loops where
  identity : Identity
  anchor : Instant
  heartbeat : LoopSlot Heartbeat
  statusSync : LoopSlot StatusSync
  /-- The loss of the identity that was noted first; from then on the loops are told to end. -/
  lost : Option CallError

/-- Takes note of a loop's return. -/
def Loops.note (loops : Loops) (exit : LoopExit) : Loops :=
  match exit with
  | .cancelled => loops
  | .superseded error => { loops with lost := loops.lost.or (some error) }

/-- Takes note of the loops that have returned. -/
def Loops.join (loops : Loops) : Loops :=
  let loops := match loops.heartbeat with
    | .returned exit => { loops.note exit with heartbeat := .joined }
    | _ => loops
  match loops.statusSync with
  | .returned exit => { loops.note exit with statusSync := .joined }
  | _ => loops

/-- The stages of an agent's life, as its task goes through them. -/
inductive Stage where
  /-- The task has not run yet. -/
  | created
  /-- Waiting before registering with the given generation. -/
  | waiting (generation : Nat) (wake : Instant)
  | registering (attempt : RegistrationAttempt) (call : Call)
  /-- Waiting before another call of the same attempt. -/
  | retrying (attempt : RegistrationAttempt) (wake : Instant)
  /-- Registered, and the loops run or end. -/
  | running (loops : Loops)
  /-- A deregistration is in flight. -/
  | deregistering (identity : Identity) (call : Call)
  /-- The task has ended. -/
  | finished
  /-- The task was given up. -/
  | aborted

/-- Who waits for the end of an agent's task. -/
inductive TaskHandle where
  /-- Nobody yet. -/
  | held
  /-- A stop call, up to a deadline. -/
  | awaited (deadline : Instant)
  /-- Nobody any more: the stop call that waited saw the task end in time, or gave it up. -/
  | released (clean : Bool)
  deriving DecidableEq

structure Agent where
  /-- What it was set up with. -/
  setup : AgentSetup
  /-- What its parts share. -/
  tracker : Tracker
  /-- The workloads placed on it. -/
  ledger : Ledger
  /-- Whether it was told to end. -/
  isCancelled : Bool
  stage : Stage
  /-- The wait before registering anew. -/
  reregistration : Backoff
  /-- Who waits for its end. -/
  handle : TaskHandle

/-- The parts of an agent that work at the same time. -/
inductive Actor where
  /-- The task that goes through the stages. -/
  | task
  | heartbeat
  | statusSync
  /-- The stop call that waits for the task. -/
  | stopper
  deriving DecidableEq

/-- The actors in the order in which they act at one instant. -/
def Actor.all : List Actor := [.heartbeat, .statusSync, .task, .stopper]

namespace Agent

/-- A new agent. -/
def create (setup : AgentSetup) : Agent :=
  { setup
    tracker := .create setup.name setup.retry.failureThreshold
    ledger := .empty setup.profile.allocatable
    isCancelled := false
    stage := .created
    reregistration := .start setup.retry.backoffBase setup.retry.backoffMax
    handle := .held }

def name (a : Agent) : String := a.setup.name

def state (a : Agent) : AgentState := a.tracker.state

/-! ## When an actor has something to do -/

/-- Whether the loops are told to end. -/
def isHalting (a : Agent) (loops : Loops) : Bool :=
  a.isCancelled || loops.lost.isSome

/-- When a wait of the task ends: at once if the agent was told to end. -/
def unlessCancelled (a : Agent) (wake : Instant) : Instant :=
  if a.isCancelled then 0 else wake

/-- When the task has something to do. -/
def taskDue? (a : Agent) : Option Instant :=
  match a.stage with
  | .created => some 0
  | .waiting _ wake => some (a.unlessCancelled wake)
  | .registering _ call => some (a.unlessCancelled call.endsAt)
  | .retrying _ wake => some (a.unlessCancelled wake)
  | .running loops =>
      if loops.heartbeat.isReturned || loops.statusSync.isReturned ||
          (loops.heartbeat.isJoined && loops.statusSync.isJoined) then some 0
      else none
  | .deregistering _ call => some call.endsAt
  | .finished => none
  | .aborted => none

/-- Whether the task has ended. -/
def isFinished (a : Agent) : Bool :=
  match a.stage with
  | .finished => true
  | _ => false

/-- When an actor has something to do; an instant in the past stands for "at once". -/
def due? (a : Agent) : Actor → Option Instant
  | .task => a.taskDue?
  | .heartbeat =>
      match a.stage with
      | .running { heartbeat := .running h, lost, .. } =>
          some (if a.isCancelled || lost.isSome then 0 else h.wakesAt)
      | _ => none
  | .statusSync =>
      match a.stage with
      | .running { statusSync := .running s, lost, .. } =>
          some (if a.isCancelled || lost.isSome then 0 else s.wakesAt)
      | _ => none
  | .stopper =>
      match a.handle with
      | .awaited deadline => some (if a.isFinished then 0 else deadline)
      | _ => none

/-! ## What the task does -/

/-- Moves the agent to a state, if that is allowed. -/
def move (a : Agent) (target : AgentState) (site : Site) : Agent × Site :=
  let (tracker, site) := site.move a.tracker target
  ({ a with tracker }, site)

/-- Ends the life of the agent, deregistering the identity that it holds. -/
def windUp (a : Agent) (held : Option Identity) (site : Site) : Agent × Site :=
  let (a, site) := a.move .terminating site
  match held with
  | some identity =>
      ({ a with stage := .deregistering identity (site.beginCall a.setup.retry.callTimeout) }, site)
  | none =>
      let (a, site) := a.move .stopped site
      ({ a with stage := .finished }, site)

/-- Begins a call of a registration attempt. -/
def callRegister (a : Agent) (attempt : RegistrationAttempt) (site : Site) : Agent × Site :=
  ({ a with stage := .registering attempt (site.beginCall a.setup.retry.callTimeout) }, site)

/-- Begins a registration under a fresh identity. -/
def beginRegistration (a : Agent) (generation : Nat) (site : Site) : Agent × Site :=
  let (identity, site) := site.freshIdentity a.name generation
  a.callRegister
    { identity, backoff := .start a.setup.retry.backoffBase a.setup.retry.backoffMax } site

/-- Takes up the work of a registered identity. -/
def beginLoops (a : Agent) (identity : Identity) (version : Nat) (site : Site) : Agent × Site :=
  let lease : Lease :=
    { holder := identity.uid
      renewInterval := a.setup.renewInterval
      renewedAt := some site.wall
      version }
  let a := { a with tracker := (a.tracker.setRegistered identity lease).resetFailures }
  let site := site.note (.registered identity a.setup.profile.podRange.text version)
  let (a, site) := a.move .active site
  let loops : Loops :=
    { identity
      anchor := site.now
      heartbeat := .running
        (.start identity version a.setup.renewInterval a.setup.retry site.now)
      statusSync := .running (.start identity a.setup.status a.setup.retry site.now)
      lost := none }
  ({ a with stage := .running loops }, site)

/-- The attempt after a call of it failed: a conflict asks for a fresh identity. -/
def nextAttempt (attempt : RegistrationAttempt) (error : CallError) (site : Site) :
    RegistrationAttempt × Site :=
  match error with
  | .conflict _ =>
      let (identity, site) :=
        site.freshIdentity attempt.identity.name (attempt.identity.generation + 1)
      ({ identity, backoff := attempt.backoff.fail }, site)
  | _ => ({ attempt with backoff := attempt.backoff.fail }, site)

/-- Takes the result of a registration. -/
def afterRegister (a : Agent) (attempt : RegistrationAttempt) (result : Except CallError Nat)
    (site : Site) : Agent × Site :=
  let site := site.increment (.callLatency .register)
  match result with
  | .ok version =>
      a.beginLoops attempt.identity version (site.increment (.registrations none))
  | .error error =>
      let wake := site.now + attempt.backoff.delay
      let site := site.increment (.registrations (some error.kind))
      let (attempt, site) := nextAttempt attempt error site
      ({ a with stage := .retrying attempt wake }, site)

/-- The backoff before registering anew: an identity that lasted for a renewal interval starts it
afresh. -/
def reregistrationBackoff (a : Agent) (anchor now : Instant) : Backoff :=
  if a.setup.renewInterval ≤ now - anchor then a.reregistration.reset else a.reregistration

/-- Prepares for registering anew after the loss of an identity. -/
def afterLoss (a : Agent) (loops : Loops) (error : CallError) (site : Site) : Agent × Site :=
  let backoff := a.reregistrationBackoff loops.anchor site.now
  let site := site.note (.superseded loops.identity error.message)
  let site := site.increment .reregistrations
  let (a, site) := a.move .registering site
  ({ a with
      reregistration := backoff.fail
      stage := .waiting (loops.identity.generation + 1) (site.now + backoff.delay) }, site)

/-- Goes on once both loops have returned. -/
def afterLoops (a : Agent) (loops : Loops) (site : Site) : Agent × Site :=
  if a.isCancelled then a.windUp (some loops.identity) site
  else
    match loops.lost with
    | some error => a.afterLoss loops error site
    | none => a.windUp (some loops.identity) site

/-- What the task does when it is due. -/
def actTask (a : Agent) (site : Site) : Agent × Site :=
  match a.stage with
  | .created =>
      let site := { site with telemetry := a.tracker.announce site.telemetry site.wall }
      if a.isCancelled then a.windUp none site
      else
        let (a, site) := a.move .registering site
        a.beginRegistration 0 site
  | .waiting generation _ =>
      if a.isCancelled then a.windUp none site else a.beginRegistration generation site
  | .registering attempt call =>
      if a.isCancelled then a.windUp none site
      else
        let (result, site) := site.settleRegister call attempt.identity a.setup.profile
        a.afterRegister attempt result site
  | .retrying attempt _ =>
      if a.isCancelled then a.windUp none site else a.callRegister attempt site
  | .running loops =>
      let joined := loops.join
      if joined.heartbeat.isJoined && joined.statusSync.isJoined then
        a.afterLoops joined site
      else ({ a with stage := .running joined }, site)
  | .deregistering identity call =>
      let (_, site) := site.settleDeregister call identity
      let (a, site) := a.move .stopped (site.increment (.callLatency .deregister))
      ({ a with stage := .finished }, site)
  | .finished => (a, site)
  | .aborted => (a, site)

/-! ## What the loops do -/

/-- The slot of a loop after a step. -/
def slotOf {α : Type} : Except LoopExit α → LoopSlot α
  | .ok loop => .running loop
  | .error exit => .returned exit

/-- What the heartbeat does when it is due. -/
def actHeartbeat (a : Agent) (site : Site) : Agent × Site :=
  match a.stage with
  | .running loops =>
      match loops.heartbeat with
      | .running h =>
          if a.isHalting loops then
            ({ a with stage := .running { loops with heartbeat := .returned .cancelled } }, site)
          else
            let (next, tracker, site) := h.act a.tracker site
            ({ a with tracker, stage := .running { loops with heartbeat := slotOf next } }, site)
      | _ => (a, site)
  | _ => (a, site)

/-- What the status loop does when it is due. -/
def actStatusSync (a : Agent) (site : Site) : Agent × Site :=
  match a.stage with
  | .running loops =>
      match loops.statusSync with
      | .running s =>
          if a.isHalting loops then
            ({ a with stage := .running { loops with statusSync := .returned .cancelled } }, site)
          else
            let (next, tracker, site) := s.act a.setup.profile a.ledger a.tracker site
            ({ a with tracker, stage := .running { loops with statusSync := slotOf next } }, site)
      | _ => (a, site)
  | _ => (a, site)

/-! ## Stopping -/

/-- What a stop call comes to. -/
structure StopOutcome where
  name : String
  /-- Whether the agent stopped in time. -/
  clean : Bool
  finalState : AgentState
  deriving DecidableEq

/-- A stop call: answered, or waiting for the agent's task. -/
inductive StopCall where
  | answered (outcome : StopOutcome)
  /-- The call waits for the task. -/
  | pending
  deriving DecidableEq

/-- Tells the agent to end.  The first call waits for the task; a later one is answered at
once. -/
def stop (a : Agent) (site : Site) : StopCall × Agent × Site :=
  let (a, site) := a.move .terminating site
  let a := { a with isCancelled := true }
  match a.handle with
  | .held =>
      (.pending, { a with handle := .awaited (site.now + a.setup.shutdownTimeout) }, site)
  | _ =>
      (.answered { name := a.name, clean := a.state = .stopped, finalState := a.state }, a, site)

/-- What the waiting stop call does when it is due: it sees that the task has ended, or gives it
up. -/
def actStopper (a : Agent) : Agent :=
  if a.isFinished then { a with handle := .released true }
  else { a with handle := .released false, stage := .aborted }

/-- The outcome for the stop call that waited, once it has ended. -/
def outcome? (a : Agent) : Option StopOutcome :=
  match a.handle with
  | .released clean => some { name := a.name, clean, finalState := a.state }
  | _ => none

/-! ## A step of any actor -/

/-- What an actor does when it is due. -/
def act (a : Agent) (actor : Actor) (site : Site) : Agent × Site :=
  match actor with
  | .task => a.actTask site
  | .heartbeat => a.actHeartbeat site
  | .statusSync => a.actStatusSync site
  | .stopper => (a.actStopper, site)

/-! ## Placements -/

/-- Submits a workload; only a registered agent takes one. -/
def submit (a : Agent) (workload : String) (request : ResourceRequest) (site : Site) :
    AdmissionDecision × Agent × Site :=
  let (decision, ledger) :=
    if a.state.isRunning then a.ledger.tryAdmit workload request site.wall
    else (.rejected (.agentUnavailable a.state.name), a.ledger)
  let site := site.increment (.placements (if decision.isAdmitted then .admitted else .rejected))
  (decision, { a with ledger }, site.note (.placement a.name workload decision))

/-- Releases a workload; tells whether it was live. -/
def release (a : Agent) (workload : String) (site : Site) : Bool × Agent × Site :=
  let (removed, ledger) := a.ledger.release workload
  let site := if removed then site.increment (.placements .released) else site
  (removed, { a with ledger }, site)

/-! ## The view of an agent -/

/-- What an agent shows of itself. -/
structure Summary where
  name : String
  state : AgentState
  /-- The uid of the registered identity. -/
  uid : Option String
  generation : Option Nat
  leaseVersion : Option Nat
  /-- When the lease was last renewed. -/
  renewedAt : Option Timestamp
  /-- When the status was last published. -/
  publishedAt : Option Timestamp
  heartbeatFailures : Nat
  /-- Failures in a row of the status loop. -/
  statusFailures : Nat
  /-- The pod address range. -/
  podCidr : String
  /-- What workloads can take, by name. -/
  allocatable : Table Nat
  used : ResourceUsage
  /-- The number of live workloads. -/
  livePlacements : Nat
  observedGeneration : Nat
  deriving DecidableEq

/-- The view of an agent. -/
def summary (a : Agent) : Summary :=
  let registration := a.tracker.registration
  let usage := a.ledger.snapshot
  { name := a.name
    state := a.state
    uid := registration.identity.map Identity.uid
    generation := registration.identity.map Identity.generation
    leaseVersion := registration.lease.map Lease.version
    renewedAt := registration.lease.bind Lease.renewedAt
    publishedAt := registration.publishedAt
    heartbeatFailures := a.tracker.heartbeatFailures
    statusFailures := a.tracker.statusFailures
    podCidr := a.setup.profile.podRange.text
    allocatable := usage.allocatable.toTable
    used := usage.used
    livePlacements := usage.live
    observedGeneration := usage.generation }

end Agent

end NodeFleet
