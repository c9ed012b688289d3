import NodeFleet.Identity
import NodeFleet.Json
import NodeFleet.Ledger
import NodeFleet.Text.Quoted

/-!
# The journal

The journal tells what happens to a fleet: registrations, changes of state, losses of
an identity, placements and the end.  An event says what happened; its entry is what is
written, with a level, a message and named fields.
-/

namespace NodeFleet.Journal

/-- The importance of an entry. -/
inductive Level where
  /-- As expected. -/
  | info
  /-- Worth a look. -/
  | warn
  deriving DecidableEq

def Level.name : Level → String
  | .info => "INFO"
  | .warn => "WARN"

/-- Something that happened. -/
inductive Event where
  | fleetStarted (version : String) (fleetSize : Nat)
  | registered (identity : Identity) (podCidr : String) (leaseVersion : Nat)
  /-- An agent changed its state, having that many failures in a row. -/
  | stateChanged (agent : String) (source target : AgentState) (failures : Nat)
  | superseded (identity : Identity) (reason : String)
  | placement (agent workload : String) (decision : AdmissionDecision)
  /-- All agents were told to stop; these did not in time. -/
  | fleetStopped (stopped : Nat) (failed : List String)
  | stopRequested (reason : String)
  deriving DecidableEq

/-- What is written about an event. -/
structure Entry where
  level : Level
  message : String
  fields : List (String × Json)

namespace Event

/-- The word that names the kind of an event. -/
def word : Event → String
  | .fleetStarted .. => "fleet_started"
  | .registered .. => "agent_registered"
  | .stateChanged .. => "agent_state_changed"
  | .superseded .. => "lease_superseded"
  | .placement _ _ (.admitted _) => "placement_admitted"
  | .placement _ _ (.rejected _) => "placement_rejected"
  | .fleetStopped .. => "fleet_shutdown"
  | .stopRequested _ => "fleet_shutdown_requested"

/-- The importance of an event. -/
def level : Event → Level
  | .stateChanged _ _ .degraded _ => .warn
  | .superseded .. => .warn
  | .fleetStopped _ (_ :: _) => .warn
  | _ => .info

def message : Event → String
  | .fleetStarted .. => "Hollow fleet started"
  | .registered .. => "Agent registered with control plane"
  | .stateChanged _ _ .degraded _ => "Agent degraded"
  | .stateChanged .. => "Agent state changed"
  | .superseded .. => "Agent identity superseded, re-registering"
  | .placement _ _ (.admitted _) => "Placement admitted"
  | .placement _ _ (.rejected _) => "Placement rejected"
  | .fleetStopped _ [] => "All agents stopped cleanly"
  | .fleetStopped _ (_ :: _) => "Some agents did not stop before the deadline"
  | .stopRequested _ => "Hollow fleet shutting down"

/-- The fields that only this kind of event has. -/
def details : Event → List (String × Json)
  | .fleetStarted version fleetSize =>
      [("version", .string version), ("fleet_size", .nat fleetSize)]
  | .registered identity podCidr leaseVersion =>
      [("agent", .string identity.name), ("uid", .string identity.uid),
        ("generation", .nat identity.generation), ("pod_cidr", .string podCidr),
        ("lease_version", .nat leaseVersion)]
  | .stateChanged agent source target failures =>
      [("agent", .string agent), ("from", .string source.name), ("to", .string target.name),
        ("consecutive_failures", .nat failures)]
  | .superseded identity reason =>
      [("agent", .string identity.name), ("uid", .string identity.uid),
        ("generation", .nat identity.generation), ("reason", .string reason)]
  | .placement agent workload (.admitted record) =>
      [("agent", .string agent), ("workload_id", .string workload),
        ("cpu_millis", .nat record.requested.cpuMillis),
        ("memory_bytes", .nat record.requested.memoryBytes),
        ("gpu_count", .nat record.requested.gpuCount)]
  | .placement agent workload (.rejected reason) =>
      [("agent", .string agent), ("workload_id", .string workload),
        ("reason", .string reason.message)]
  | .fleetStopped stopped [] => [("stopped", .nat stopped)]
  | .fleetStopped stopped failed =>
      [("stopped", .nat stopped), ("failed", .string (Text.Quoted.quoteList failed))]
  | .stopRequested reason => [("reason", .string reason)]

/-- The entry of an event in the journal of a fleet. -/
def entry (fleet : String) (event : Event) : Entry :=
  { level := event.level
    message := event.message
    fields := ("event", .string event.word) :: ("fleet", .string fleet) :: event.details }

end Event

def Entry.toJson (e : Entry) : Json :=
  .object (("level", .string e.level.name) :: ("message", .string e.message) :: e.fields)

end NodeFleet.Journal
