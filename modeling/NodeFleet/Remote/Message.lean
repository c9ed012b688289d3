import NodeFleet.Condition
import NodeFleet.ControlPlane.Error
import NodeFleet.Identity
import NodeFleet.Profile

/-!
# Messages to a remote control plane

What an agent tells a remote control plane with each of its calls.  Quantities travel as
maps from resource names to numbers, conditions by the names of their type and status, and
times as seconds since the start of 1970 with the nanoseconds of the second.
-/

namespace NodeFleet.Remote

/-! ## Parts of messages -/

/-- Who a message is about. -/
structure AgentRef where
  name : String
  uid : String
  generation : Nat
  deriving DecidableEq

/-- A point of time: whole seconds since the start of 1970, and the nanoseconds of the second. -/
structure Moment where
  /-- Whole seconds; negative before 1970. -/
  seconds : Int
  nanos : Nat
  deriving DecidableEq

/-- A condition in a message. -/
structure ConditionEntry where
  type : String
  status : String
  reason : String
  message : String
  /-- When the status last changed. -/
  transitionAt : Moment
  deriving DecidableEq

/-- The reference to an identity. -/
def AgentRef.ofIdentity (i : Identity) : AgentRef :=
  { name := i.name, uid := i.uid, generation := i.generation }

def Moment.ofTimestamp (t : Timestamp) : Moment :=
  { seconds := t.second, nanos := t.nano }

def ConditionEntry.ofCondition (c : NodeCondition) : ConditionEntry :=
  { type := c.type.name
    status := c.status.name
    reason := c.reason
    message := c.message
    transitionAt := .ofTimestamp c.transitionAt }

/-! ## Messages -/

/-- Asks for a lease. -/
structure RegisterMessage where
  agent : AgentRef
  capacity : Table Nat
  /-- What workloads can take. -/
  allocatable : Table Nat
  /-- The pod address range. -/
  podCidr : String
  deriving DecidableEq

/-- Asks for a longer lease. -/
structure RenewMessage where
  agent : AgentRef
  /-- The version that the agent holds. -/
  lastKnownVersion : Nat
  renewedAt : Moment
  deriving DecidableEq

/-- Reports the status of a node. -/
structure PublishMessage where
  agent : AgentRef
  /-- The conditions in the order of the report. -/
  conditions : List ConditionEntry
  capacity : Table Nat
  /-- What workloads can take. -/
  allocatable : Table Nat
  /-- The generation of the ledger that the report is about. -/
  observedGeneration : Nat
  /-- The pod address range. -/
  podCidr : String
  /-- When the report was made. -/
  generatedAt : Moment
  deriving DecidableEq

/-- Gives an identity up. -/
structure DeregisterMessage where
  /-- Who gives it up. -/
  agent : AgentRef
  deriving DecidableEq

/-- The message that registers an identity with the resources of a profile. -/
def RegisterMessage.of (i : Identity) (p : Profile) : RegisterMessage :=
  { agent := .ofIdentity i
    capacity := p.capacity.toTable
    allocatable := p.allocatable.toTable
    podCidr := p.podRange.text }

/-- The message that renews the lease of an identity. -/
def RenewMessage.of (i : Identity) (version : Nat) (now : Timestamp) : RenewMessage :=
  { agent := .ofIdentity i, lastKnownVersion := version, renewedAt := .ofTimestamp now }

def PublishMessage.of (i : Identity) (s : StatusSnapshot) : PublishMessage :=
  { agent := .ofIdentity i
    conditions := s.conditions.map .ofCondition
    capacity := s.capacity.toTable
    allocatable := s.allocatable.toTable
    observedGeneration := s.observedGeneration
    podCidr := s.podCidr
    generatedAt := .ofTimestamp s.generatedAt }

/-- The message that removes an identity. -/
def DeregisterMessage.of (i : Identity) : DeregisterMessage :=
  { agent := .ofIdentity i }

/-- A message of any kind. -/
inductive Message where
  /-- Asks for a lease. -/
  | register (m : RegisterMessage)
  /-- Asks for a longer lease. -/
  | renew (m : RenewMessage)
  /-- Reports the status of a node. -/
  | publish (m : PublishMessage)
  /-- Gives an identity up. -/
  | deregister (m : DeregisterMessage)
  deriving DecidableEq

namespace Message

/-- The operation that a message calls. -/
def operation : Message → Operation
  | .register _ => .register
  | .renew _ => .renewLease
  | .publish _ => .publishStatus
  | .deregister _ => .deregister

/-- Who a message is about. -/
def agent : Message → AgentRef
  | .register m => m.agent
  | .renew m => m.agent
  | .publish m => m.agent
  | .deregister m => m.agent

/-- The method that a message goes to. -/
def method : Message → String
  | .register _ => "RegisterAgent"
  | .renew _ => "RenewLease"
  | .publish _ => "PublishStatus"
  | .deregister _ => "Deregister"

/-- The path that a message is sent to. -/
def path (m : Message) : String :=
  "/simulator.v1.ControlPlaneService/" ++ m.method

end Message

end NodeFleet.Remote
