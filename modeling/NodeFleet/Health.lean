import NodeFleet.Lifecycle
import NodeFleet.Table
import NodeFleet.Timestamp

/-!
# Health and readiness

Every agent is one component of the fleet's health.  The overall status is the worst of
the components' statuses.  A fleet is ready once it was declared so, until that is taken
back, as long as no component is unhealthy.
-/

namespace NodeFleet

/-- The health of a component, best first. -/
inductive HealthStatus where
  | healthy
  /-- It works with trouble, or does not work yet. -/
  | degraded
  /-- It does not work. -/
  | unhealthy
  deriving DecidableEq

namespace HealthStatus

/-- The three statuses. -/
def all : List HealthStatus := [.healthy, .degraded, .unhealthy]

def name : HealthStatus → String
  | .healthy => "healthy"
  | .degraded => "degraded"
  | .unhealthy => "unhealthy"

/-- The worse of two statuses. -/
def worse : HealthStatus → HealthStatus → HealthStatus
  | .unhealthy, _ => .unhealthy
  | _, .unhealthy => .unhealthy
  | .degraded, _ => .degraded
  | _, .degraded => .degraded
  | .healthy, .healthy => .healthy

/-- The worst status of a list; an empty list is healthy. -/
def worst (statuses : List HealthStatus) : HealthStatus :=
  statuses.foldl worse .healthy

/-- The health of an agent in a given state. -/
def ofState : AgentState → HealthStatus
  | .active => .healthy
  | .unregistered | .registering | .degraded => .degraded
  | .terminating | .stopped => .unhealthy

end HealthStatus

structure ComponentHealth where
  status : HealthStatus
  message : Option String
  /-- When the component was looked at, in seconds since the start of 1970. -/
  checkedAt : Int
  deriving DecidableEq

/-- The health of an agent in a given state. -/
def ComponentHealth.ofState (state : AgentState) (now : Timestamp) : ComponentHealth :=
  { status := .ofState state
    message := if HealthStatus.ofState state = .healthy then none else some ("agent " ++ state.name)
    checkedAt := now.second }

/-- The health of all components. -/
structure HealthReport where
  status : HealthStatus
  components : Table ComponentHealth
  deriving DecidableEq

/-- Whether the fleet is ready, and why it is not. -/
structure Readiness where
  ready : Bool
  reason : Option String
  deriving DecidableEq

/-- The components of a fleet and whether it was declared ready. -/
structure HealthRegistry where
  components : Table ComponentHealth
  /-- Whether the fleet was declared ready. -/
  declaredReady : Bool
  deriving DecidableEq

namespace HealthRegistry

/-- No components, not ready. -/
def empty : HealthRegistry := { components := [], declaredReady := false }

/-- Sets the health of a component. -/
def update (h : HealthRegistry) (name : String) (health : ComponentHealth) : HealthRegistry :=
  { h with components := h.components.insert name health }

/-- Sets the health of an agent from its state. -/
def observe (h : HealthRegistry) (name : String) (state : AgentState) (now : Timestamp) :
    HealthRegistry :=
  h.update name (.ofState state now)

/-- Declares the fleet ready or takes that back. -/
def setReady (h : HealthRegistry) (ready : Bool) : HealthRegistry :=
  { h with declaredReady := ready }

def overall (components : Table ComponentHealth) : HealthStatus :=
  .worst (components.values.map ComponentHealth.status)

/-- The health of all components. -/
def report (h : HealthRegistry) : HealthReport :=
  { status := overall h.components, components := h.components }

/-- Whether the fleet is ready. -/
def readiness (h : HealthRegistry) : Readiness :=
  if !h.declaredReady then
    { ready := false, reason := some "Fleet launch not complete" }
  else if overall h.components = .unhealthy then
    { ready := false, reason := some "One or more agents unhealthy" }
  else { ready := true, reason := none }

end HealthRegistry

end NodeFleet
