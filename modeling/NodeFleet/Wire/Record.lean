import NodeFleet.Fleet
import NodeFleet.Wire.Node

/-!
# JSON forms: the control plane's records

How profiles, nodes, calls and metrics are shown as JSON.  Nothing reads these forms
back.
-/

namespace NodeFleet

/-- The form of a node's quantities as a resource list. -/
def NodeResources.listJson (n : NodeResources) : Json := .table .nat n.toTable

def Profile.toJson (p : Profile) : Json :=
  .object [("cpu", .nat p.cpuMillis), ("memory", .nat p.memoryBytes), ("gpu", .nat p.gpuCount),
    ("ephemeral", .nat p.ephemeralBytes), ("pods", .nat p.maxPods),
    ("range", .string p.podRange.text), ("capacity", p.capacity.listJson),
    ("allocatable", p.allocatable.listJson)]

def AddressRange.toJson (r : AddressRange) : Json :=
  .object [("network", .string r.networkText), ("prefix", .nat r.prefixLength.toNat),
    ("text", .string r.text)]

/-- The form of an error: its kind and its wording. -/
def Wire.ofError (kind message : String) : Json :=
  .object [("error", .string kind), ("message", .string message)]

/-- The form of a refused subnet. -/
def SubnetFault.toJson (f : SubnetFault) : Json := Wire.ofError f.kind f.message

/-- The form of a refused profile. -/
def ProfileError.toJson (e : ProfileError) : Json := Wire.ofError e.kind e.message

/-- The form of a refused configuration. -/
def ConfigError.toJson (e : ConfigError) : Json := Wire.ofError e.kind e.message

/-- The form of a request that a fleet refuses. -/
def FleetError.toJson (e : FleetError) : Json := Wire.ofError e.kind e.message

/-- The form of a failed call. -/
def CallError.toJson (e : CallError) : Json := Wire.ofError e.kind e.message

/-- The form of a condition without its time. -/
def NodeCondition.shortJson (c : NodeCondition) : Json :=
  .array [.string c.type.name, .string c.status.name, .string c.reason, .string c.message]

/-- The form of a status without times. -/
def StatusSnapshot.shortJson (s : StatusSnapshot) : Json :=
  .object [("conditions", .list NodeCondition.shortJson s.conditions),
    ("capacity", s.capacity.listJson), ("allocatable", s.allocatable.listJson),
    ("observed_generation", .nat s.observedGeneration), ("pod_cidr", .string s.podCidr)]

def Node.toJson (n : Node) : Json :=
  .object [("uid", .string n.uid), ("generation", .nat n.generation),
    ("lease_version", .nat n.leaseVersion), ("renewed", .bool n.renewedAt.isSome),
    ("publish_count", .nat n.publishCount), ("capacity", n.capacity.listJson),
    ("pod_cidr", .string n.podCidr), ("status", .option StatusSnapshot.shortJson n.status)]

/-- The form of an instant: milliseconds since the clock was started. -/
def Wire.ofInstant (i : Instant) : Json := .nat (Duration.millis i)

/-- The form of a call: when it was completed, by whom, what, under which uid, and its error. -/
def CallRecord.toJson (c : CallRecord) : Json :=
  .array [Wire.ofInstant c.endedAt, .string c.agent, .string c.operation.name, .string c.uid,
    .option CallError.toJson c.error]

/-- The form of metrics: the series that do not stand at zero. -/
def Metrics.toJson (m : Metrics) : Json :=
  .object ((m.entries.filter fun entry => entry.2 ≠ 0).map fun entry =>
    (entry.1.name, .int entry.2))

/-- The form of a stop call's outcome. -/
def Agent.StopOutcome.toJson (o : Agent.StopOutcome) : Json :=
  .object [("name", .string o.name), ("clean", .bool o.clean),
    ("final_state", .string o.finalState.name)]

/-- The form of the health of all components without times. -/
def HealthReport.shortJson (h : HealthReport) : Json :=
  let component (c : ComponentHealth) : Json :=
    .object [("status", .string c.status.name), ("message", .option .string c.message)]
  .object [("status", .string h.status.name), ("components", .table component h.components)]

end NodeFleet
