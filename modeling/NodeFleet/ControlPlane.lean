import NodeFleet.Condition
import NodeFleet.ControlPlane.Error
import NodeFleet.Identity
import NodeFleet.Profile

/-!
# The control plane in memory

The control plane keeps one node per agent name.  Registering takes a node over for a
new uid and raises its lease version; renewing, publishing and deregistering are for the
holder alone, and renewing also needs the current lease version.

Faults can be queued for each operation.  A completed call takes the first fault of its
operation, if there is one, and fails with it; otherwise it has its effect, which is a
function of the table of nodes.  The log keeps the last completed calls, up to its
capacity.
-/

namespace NodeFleet

/-- What the control plane has on record for one name. -/
structure Node where
  uid : String
  generation : Nat
  leaseVersion : Nat
  /-- When the lease was last renewed or granted. -/
  renewedAt : Option Timestamp
  /-- The last published status. -/
  status : Option StatusSnapshot
  /-- The number of published statuses. -/
  publishCount : Nat
  /-- The registered quantities. -/
  capacity : NodeResources
  /-- The registered pod address range. -/
  podCidr : String
  deriving DecidableEq

/-- A completed call. -/
structure CallRecord where
  operation : Operation
  agent : String
  uid : String
  endedAt : Instant
  /-- The error, if the call failed. -/
  error : Option CallError
  deriving DecidableEq

/-- The state of the control plane. -/
structure ControlPlane where
  nodes : Table Node
  /-- The faults to come, in order, each for one operation. -/
  faults : List (Operation × CallError)
  /-- The time that a call takes. -/
  latency : Duration
  /-- The last completed calls, oldest first. -/
  log : Array CallRecord
  /-- The number of calls that the log keeps. -/
  logCapacity : Nat

namespace ControlPlane

/-- The number of calls that the log keeps unless told otherwise. -/
def defaultLogCapacity : Nat := 10000

/-- A control plane without nodes, faults, latency or calls. -/
def empty (logCapacity : Nat) : ControlPlane :=
  { nodes := [], faults := [], latency := 0, log := #[], logCapacity }

/-! ## Control from outside -/

/-- Makes every call that begins from now on take the given time. -/
def setLatency (p : ControlPlane) (latency : Duration) : ControlPlane :=
  { p with latency }

/-- Makes the next calls of an operation, after those that fail already, fail. -/
def failNext (p : ControlPlane) (operation : Operation) (count : Nat) (error : CallError) :
    ControlPlane :=
  { p with faults := p.faults ++ List.replicate count (operation, error) }

/-- Lets somebody else take over the lease of a node; tells whether there is one. -/
def supersede (p : ControlPlane) (name : String) : Bool × ControlPlane :=
  (p.nodes.contains name,
    { p with nodes := p.nodes.modify name fun n => { n with leaseVersion := n.leaseVersion + 1 } })

/-- Removes a node; tells whether there was one. -/
def removeNode (p : ControlPlane) (name : String) : Bool × ControlPlane :=
  (p.nodes.contains name, { p with nodes := p.nodes.erase name })

/-! ## Completing a call -/

/-- The first fault of an operation, and the faults without it. -/
def takeFault (operation : Operation) :
    List (Operation × CallError) → Option CallError × List (Operation × CallError)
  | [] => (none, [])
  | (op, error) :: rest =>
      if op = operation then (some error, rest)
      else
        let (found, remaining) := takeFault operation rest
        (found, (op, error) :: remaining)

/-- Appends a call to a log of bounded size. -/
def appendBounded (capacity : Nat) (log : Array CallRecord) (call : CallRecord) :
    Array CallRecord :=
  if capacity = 0 then log
  else if capacity ≤ log.size then (log.extract 1 log.size).push call
  else log.push call

/-- Logs a completed call. -/
def record (p : ControlPlane) (operation : Operation) (caller : Identity) (now : Instant)
    (error : Option CallError) : ControlPlane :=
  { p with
    log := appendBounded p.logCapacity p.log
      { operation, agent := caller.name, uid := caller.uid, endedAt := now, error } }

/-- What a call does to the nodes: an error, or a result and the new nodes. -/
abbrev Effect (α : Type) := Table Node → Except CallError (α × Table Node)

/-- Completes a call: it fails with the next fault of its operation or has its effect, and it is
logged. -/
def complete {α : Type} (p : ControlPlane) (operation : Operation) (caller : Identity)
    (now : Instant) (effect : Effect α) : Except CallError α × ControlPlane :=
  let (fault, faults) := takeFault operation p.faults
  let p := { p with faults }
  match fault with
  | some error => (.error error, p.record operation caller now (some error))
  | none =>
      match effect p.nodes with
      | .error error => (.error error, p.record operation caller now (some error))
      | .ok (result, nodes) =>
          (.ok result, { p with nodes }.record operation caller now none)

/-! ## The effects of the four operations -/

/-- The node of a caller that holds it. -/
def held (caller : Identity) (nodes : Table Node) : Except CallError Node :=
  match nodes.find? caller.name with
  | none => .error (.notFound caller.name)
  | some node =>
      if node.uid = caller.uid then .ok node
      else .error (.conflict (caller.name ++ " is registered under another identity"))

/-- Registering: the caller takes the node over, and the lease version rises. -/
def registering (caller : Identity) (profile : Profile) (now : Timestamp) : Effect Nat :=
  fun nodes =>
    let version : Nat := (nodes.find? caller.name).elim 0 Node.leaseVersion + 1
    let node : Node :=
      { uid := caller.uid
        generation := caller.generation
        leaseVersion := version
        renewedAt := some now
        status := (nodes.find? caller.name).bind Node.status
        publishCount := (nodes.find? caller.name).elim 0 Node.publishCount
        capacity := profile.capacity
        podCidr := profile.podRange.text }
    .ok (version, nodes.insert caller.name node)

/-- Renewing: the holder with the current lease version raises it. -/
def renewing (caller : Identity) (version : Nat) (now : Timestamp) : Effect Nat :=
  fun nodes => do
    let node ← held caller nodes
    if node.leaseVersion ≠ version then
      throw (.conflict ("lease version " ++ Text.Numeral.text version ++ " does not match " ++
        Text.Numeral.text node.leaseVersion))
    let next := node.leaseVersion + 1
    return (next,
      nodes.insert caller.name { node with leaseVersion := next, renewedAt := some now })

/-- Publishing: the holder's status is kept. -/
def publishing (caller : Identity) (snapshot : StatusSnapshot) : Effect Unit :=
  fun nodes => do
    let node ← held caller nodes
    return ((), nodes.insert caller.name
      { node with status := some snapshot, publishCount := node.publishCount + 1 })

/-- Deregistering: the holder's node is removed. -/
def deregistering (caller : Identity) : Effect Unit :=
  fun nodes => do
    let _ ← held caller nodes
    return ((), nodes.erase caller.name)

/-! ## The four operations -/

/-- Completes a registration; the result is the lease version. -/
def register (p : ControlPlane) (caller : Identity) (profile : Profile) (now : Instant)
    (wall : Timestamp) : Except CallError Nat × ControlPlane :=
  p.complete .register caller now (registering caller profile wall)

/-- Completes a renewal; the result is the new lease version. -/
def renew (p : ControlPlane) (caller : Identity) (version : Nat) (now : Instant)
    (wall : Timestamp) : Except CallError Nat × ControlPlane :=
  p.complete .renewLease caller now (renewing caller version wall)

/-- Completes a publication. -/
def publish (p : ControlPlane) (caller : Identity) (snapshot : StatusSnapshot) (now : Instant) :
    Except CallError Unit × ControlPlane :=
  p.complete .publishStatus caller now (publishing caller snapshot)

/-- Completes a deregistration. -/
def deregister (p : ControlPlane) (caller : Identity) (now : Instant) :
    Except CallError Unit × ControlPlane :=
  p.complete .deregister caller now (deregistering caller)

/-! ## Reading the log -/

/-- Whether a call is listed before another: by time, agent and operation. -/
def listedBefore (a b : CallRecord) : Bool :=
  let rank (call : CallRecord) : Nat := Operation.all.idxOf call.operation
  if a.endedAt ≠ b.endedAt then a.endedAt < b.endedAt
  else if a.agent ≠ b.agent then a.agent < b.agent
  else rank a ≤ rank b

/-- The calls in the order of listings; calls that are listed alike keep their order. -/
def listing (calls : List CallRecord) : List CallRecord := calls.mergeSort listedBefore

/-- The calls of one operation by one agent, oldest first. -/
def callsFor (p : ControlPlane) (operation : Operation) (agent : String) : List CallRecord :=
  p.log.toList.filter fun call => call.operation = operation ∧ call.agent = agent

/-- When calls of one operation by one agent succeeded, oldest first. -/
def successes (p : ControlPlane) (operation : Operation) (agent : String) : List Instant :=
  ((p.callsFor operation agent).filter fun call => call.error.isNone).map CallRecord.endedAt

end ControlPlane

end NodeFleet
