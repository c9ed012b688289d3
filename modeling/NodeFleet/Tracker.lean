import NodeFleet.Health
import NodeFleet.Journal
import NodeFleet.Metrics

/-!
# The tracker of an agent

A tracker holds what all parts of one agent share: its state, the failures in a row of
its two loops and the details of its registration.  Every change of state is an allowed
move, and it shows in the metrics, in the health and in the journal at once.

Counting a failure or a success takes several steps between which the other loop can
come in.  The steps are functions of their own (`countFailure`, `clearFailures`, `move`),
and `recordFailure` and `recordSuccess` are their compositions.
-/

namespace NodeFleet

/-- The two loops of an agent. -/
inductive LoopKind where
  /-- Renews the lease. -/
  | heartbeat
  | statusSync
  deriving DecidableEq

def LoopKind.other : LoopKind → LoopKind
  | .heartbeat => .statusSync
  | .statusSync => .heartbeat

/-- Where the changes of all agents show. -/
structure Telemetry where
  metrics : Metrics
  health : HealthRegistry
  /-- What happened, the last first. -/
  events : List Journal.Event

namespace Telemetry

/-- Nothing has happened. -/
def empty : Telemetry := { metrics := .zero, health := .empty, events := [] }

/-- Counts one more of a series. -/
def increment (t : Telemetry) (series : Series) : Telemetry :=
  { t with metrics := t.metrics.increment series }

/-- Writes an event into the journal. -/
def note (t : Telemetry) (event : Journal.Event) : Telemetry :=
  { t with events := event :: t.events }

/-- Declares the fleet ready or takes that back. -/
def setReady (t : Telemetry) (ready : Bool) : Telemetry :=
  { t with health := t.health.setReady ready }

end Telemetry

/-- What changes with every registration. -/
structure Registration where
  identity : Option Identity
  lease : Option Lease
  /-- When its status was last published. -/
  publishedAt : Option Timestamp
  deriving DecidableEq

/-- What the parts of one agent share. -/
structure Tracker where
  /-- The agent's name. -/
  name : String
  /-- The failures in a row at which the agent is degraded, at least one. -/
  threshold : Nat
  state : AgentState
  heartbeatFailures : Nat
  /-- Failures in a row of the status loop. -/
  statusFailures : Nat
  registration : Registration
  deriving DecidableEq

namespace Tracker

/-- The tracker of a new agent. -/
def create (name : String) (threshold : Nat) : Tracker :=
  { name
    threshold := max threshold 1
    state := .unregistered
    heartbeatFailures := 0
    statusFailures := 0
    registration := { identity := none, lease := none, publishedAt := none } }

/-- Failures in a row of a loop. -/
def failures (t : Tracker) : LoopKind → Nat
  | .heartbeat => t.heartbeatFailures
  | .statusSync => t.statusFailures

/-- The larger number of failures in a row. -/
def consecutiveFailures (t : Tracker) : Nat :=
  max t.heartbeatFailures t.statusFailures

/-- Sets the failures in a row of a loop. -/
def setFailures (t : Tracker) (kind : LoopKind) (count : Nat) : Tracker :=
  match kind with
  | .heartbeat => { t with heartbeatFailures := count }
  | .statusSync => { t with statusFailures := count }

theorem failures_setFailures (t : Tracker) (kind other : LoopKind) (count : Nat) :
    (t.setFailures kind count).failures other =
      if other = kind then count else t.failures other := by
  cases kind <;> cases other <;> rfl

theorem setFailures_state (t : Tracker) (kind : LoopKind) (count : Nat) :
    (t.setFailures kind count).state = t.state := by
  cases kind <;> rfl

theorem setFailures_threshold (t : Tracker) (kind : LoopKind) (count : Nat) :
    (t.setFailures kind count).threshold = t.threshold := by
  cases kind <;> rfl

/-! ## Changes of state -/

/-- Shows the current state in metrics and health. -/
def announce (t : Tracker) (shown : Telemetry) (now : Timestamp) : Telemetry :=
  { shown with
    metrics := shown.metrics.moveAgent none t.state
    health := shown.health.observe t.name t.state now }

/-- Whether a guarded move can be made. -/
def canMove (t : Tracker) (guard : AgentState → Bool) (target : AgentState) : Bool :=
  t.state ≠ target && guard t.state && t.state.canMoveTo target

def showMove (t : Tracker) (target : AgentState) (shown : Telemetry) (now : Timestamp) :
    Telemetry :=
  { metrics := shown.metrics.moveAgent (some t.state) target
    health := shown.health.observe t.name target now
    events := .stateChanged t.name t.state target t.consecutiveFailures :: shown.events }

/-- Moves to a state if the guard accepts the current one and the move is allowed; tells whether
the state changed. -/
def moveWhen (t : Tracker) (guard : AgentState → Bool) (target : AgentState) (shown : Telemetry)
    (now : Timestamp) : Bool × Tracker × Telemetry :=
  if t.canMove guard target then
    (true, { t with state := target }, t.showMove target shown now)
  else (false, t, shown)

/-- Moves to a state if that is allowed. -/
def move (t : Tracker) (target : AgentState) (shown : Telemetry) (now : Timestamp) :
    Bool × Tracker × Telemetry :=
  t.moveWhen (fun _ => true) target shown now

/-- Moves from one state to another, if the agent is in the first. -/
def moveFrom (t : Tracker) (source target : AgentState) (shown : Telemetry) (now : Timestamp) :
    Bool × Tracker × Telemetry :=
  t.moveWhen (fun state => state = source) target shown now

/-! ## Failures and successes -/

/-- The number of failures in a row at which a count starts again at zero. -/
def countSpan : Nat := 2 ^ 32

def countFailure (t : Tracker) (kind : LoopKind) : Tracker :=
  t.setFailures kind ((t.failures kind + 1) % countSpan)

/-- Forgets the failures of a loop. -/
def clearFailures (t : Tracker) (kind : LoopKind) : Tracker :=
  t.setFailures kind 0

/-- Degrades an active agent, if the count that a loop has reached is at the threshold. -/
def degradeAt (t : Tracker) (count : Nat) (shown : Telemetry) (now : Timestamp) :
    Tracker × Telemetry :=
  if t.threshold ≤ count then (t.moveFrom .active .degraded shown now).2 else (t, shown)

/-- Lets a degraded agent recover, if the count of the other loop is below the threshold. -/
def recoverBelow (t : Tracker) (count : Nat) (shown : Telemetry) (now : Timestamp) :
    Tracker × Telemetry :=
  if count < t.threshold then (t.moveFrom .degraded .active shown now).2 else (t, shown)

theorem degradeAt_fst (t : Tracker) (count : Nat) (shown : Telemetry) (now : Timestamp) :
    (t.degradeAt count shown now).1 =
      if t.threshold ≤ count ∧ t.state = .active then { t with state := .degraded } else t := by
  unfold degradeAt moveFrom moveWhen canMove
  by_cases hcount : t.threshold ≤ count
  · by_cases hstate : t.state = .active
    · simp [hcount, hstate, AgentState.canMoveTo]
    · simp [hcount, hstate]
  · simp [hcount]

theorem recoverBelow_fst (t : Tracker) (count : Nat) (shown : Telemetry) (now : Timestamp) :
    (t.recoverBelow count shown now).1 =
      if count < t.threshold ∧ t.state = .degraded then { t with state := .active } else t := by
  unfold recoverBelow moveFrom moveWhen canMove
  by_cases hcount : count < t.threshold
  · by_cases hstate : t.state = .degraded
    · simp [hcount, hstate, AgentState.canMoveTo]
    · simp [hcount, hstate]
  · simp [hcount]

section StateOnly

variable (t : Tracker) (count : Nat) (shown : Telemetry) (now : Timestamp)

theorem failures_degradeAt (kind : LoopKind) :
    (t.degradeAt count shown now).1.failures kind = t.failures kind := by
  rw [degradeAt_fst]
  split <;> rfl

theorem failures_recoverBelow (kind : LoopKind) :
    (t.recoverBelow count shown now).1.failures kind = t.failures kind := by
  rw [recoverBelow_fst]
  split <;> rfl

theorem threshold_degradeAt : (t.degradeAt count shown now).1.threshold = t.threshold := by
  rw [degradeAt_fst]
  split <;> rfl

theorem threshold_recoverBelow : (t.recoverBelow count shown now).1.threshold = t.threshold := by
  rw [recoverBelow_fst]
  split <;> rfl

end StateOnly

/-- Records a failure of a loop; returns its failures in a row. -/
def recordFailure (t : Tracker) (kind : LoopKind) (shown : Telemetry) (now : Timestamp) :
    Nat × Tracker × Telemetry :=
  let t := t.countFailure kind
  (t.failures kind, t.degradeAt (t.failures kind) shown now)

def recordSuccess (t : Tracker) (kind : LoopKind) (shown : Telemetry) (now : Timestamp) :
    Tracker × Telemetry :=
  let t := t.clearFailures kind
  t.recoverBelow (t.failures kind.other) shown now

/-- Forgets the failures of both loops. -/
def resetFailures (t : Tracker) : Tracker :=
  { t with heartbeatFailures := 0, statusFailures := 0 }

/-! ## The registration -/

/-- Takes over a new identity and its lease. -/
def setRegistered (t : Tracker) (identity : Identity) (lease : Lease) : Tracker :=
  { t with registration := { identity := some identity, lease := some lease, publishedAt := none } }

/-- Notes a renewal of the lease, if there is one. -/
def recordRenewal (t : Tracker) (version : Nat) (now : Timestamp) : Tracker :=
  let renewed (lease : Lease) : Lease := { lease with version, renewedAt := some now }
  { t with registration := { t.registration with lease := t.registration.lease.map renewed } }

/-- Notes a publication. -/
def recordPublish (t : Tracker) (now : Timestamp) : Tracker :=
  { t with registration := { t.registration with publishedAt := some now } }

end Tracker

end NodeFleet
