import NodeFleet.Json.Parser
import NodeFleet.Wire.Fleet

/-!
# What the client reads and sends

The client declares for itself what it reads, and keeps apart from the daemon what it does
not need to understand: a state and a dimension are texts to it, and the amount of memory in a
request is sent as the text that was given on the command line.
-/

namespace NodeFleet.Cli

open Json

/-! ## Amounts -/

/-- What is in use, as the client sees it. -/
structure UsageView where
  /-- Thousandths of a processor core. -/
  cpuMillis : Nat
  memoryBytes : Nat
  /-- Graphics processors. -/
  gpuCount : Nat
  pods : Nat
  deriving DecidableEq

namespace UsageView

def toJson (u : UsageView) : Json :=
  .object [("cpu_millis", .nat u.cpuMillis), ("memory_bytes", .nat u.memoryBytes),
    ("gpu_count", .nat u.gpuCount), ("pods", .nat u.pods)]

def record : Record UsageView :=
  ((((Record.const UsageView.mk).field "cpu_millis" Decoder.word).field "memory_bytes"
    Decoder.word).field "gpu_count" Decoder.word).field "pods" Decoder.word

def ofJson : Decoder UsageView := record.decode

end UsageView

/-- What a placement takes, as the client sees it. -/
structure RequestView where
  /-- Thousandths of a processor core. -/
  cpuMillis : Nat
  memoryBytes : Nat
  /-- Graphics processors. -/
  gpuCount : Nat
  deriving DecidableEq

namespace RequestView

def toJson (r : RequestView) : Json :=
  .object [("cpu_millis", .nat r.cpuMillis), ("memory_bytes", .nat r.memoryBytes),
    ("gpu_count", .nat r.gpuCount)]

/-- The fields of what a placement takes; each is zero where it is absent. -/
def record : Record RequestView :=
  (((Record.const RequestView.mk).withDefault "cpu_millis" Decoder.word 0).withDefault
    "memory_bytes" Decoder.word 0).withDefault "gpu_count" Decoder.word 0

def ofJson : Decoder RequestView := record.decode

end RequestView

/-! ## Agents -/

/-- An agent as the client sees it. -/
structure AgentView where
  name : String
  state : String
  /-- The uid of the registered identity. -/
  uid : Option String
  generation : Option Nat
  leaseVersion : Option Nat
  /-- When the lease was last renewed. -/
  renewedAt : Option Timestamp
  /-- When the status was last published. -/
  publishedAt : Option Timestamp
  heartbeatFailures : Nat
  /-- Failures in a row of the status loop. -/
  statusFailures : Nat
  /-- The pod address range. -/
  podCidr : String
  /-- What workloads can take, by name. -/
  allocatable : Table Nat
  used : UsageView
  /-- The number of live workloads. -/
  livePlacements : Nat
  observedGeneration : Nat
  deriving DecidableEq

namespace AgentView

def toJson (v : AgentView) : Json :=
  .object [("name", .string v.name), ("state", .string v.state), ("uid", .option .string v.uid),
    ("generation", .option .nat v.generation), ("lease_version", .option .nat v.leaseVersion),
    ("last_lease_renewal", .option Wire.ofTimestamp v.renewedAt),
    ("last_status_publish", .option Wire.ofTimestamp v.publishedAt),
    ("heartbeat_failures", .nat v.heartbeatFailures), ("status_failures", .nat v.statusFailures),
    ("pod_cidr", .string v.podCidr), ("allocatable", .table .nat v.allocatable),
    ("used", v.used.toJson), ("live_placements", .nat v.livePlacements),
    ("observed_generation", .nat v.observedGeneration)]

def record : Record AgentView :=
  ((((((((((((((Record.const AgentView.mk).field "name" Decoder.string).field "state"
    Decoder.string).optional "uid" Decoder.string).optional "generation" Decoder.word).optional
    "lease_version" Decoder.word).optional "last_lease_renewal" Wire.timestamp).optional
    "last_status_publish" Wire.timestamp).field "heartbeat_failures" Decoder.word32).field
    "status_failures" Decoder.word32).field "pod_cidr" Decoder.string).field "allocatable"
    (Decoder.table Decoder.word)).field "used" UsageView.ofJson).field "live_placements"
    Decoder.word).field "observed_generation" Decoder.word

def ofJson : Decoder AgentView := record.decode

/-- What workloads can take of a resource; zero where nothing is said. -/
def amount (v : AgentView) (resource : String) : Nat :=
  (v.allocatable.find? resource).getD 0

/-- Whether the agent serves workloads. -/
def isServing (v : AgentView) : Bool :=
  v.state = "active" || v.state = "degraded"

end AgentView

/-! ## Placements -/

/-- A live placement as the client sees it. -/
structure PlacementView where
  workload : String
  requested : RequestView
  admittedAt : Timestamp
  deriving DecidableEq

namespace PlacementView

def toJson (v : PlacementView) : Json :=
  .object [("workload_id", .string v.workload), ("requested", v.requested.toJson),
    ("admitted_at", Wire.ofTimestamp v.admittedAt)]

def record : Record PlacementView :=
  (((Record.const PlacementView.mk).field "workload_id" Decoder.string).field "requested"
    RequestView.ofJson).field "admitted_at" Wire.timestamp

def ofJson : Decoder PlacementView := record.decode

end PlacementView

/-! ## Decisions -/

/-- Why a workload was rejected, as the client sees it. -/
inductive Refusal where
  /-- A resource does not suffice. -/
  | insufficient (resource : String) (requested used allocatable : Nat)
  /-- The agent takes no workloads. -/
  | agentUnavailable (state : String)
  deriving DecidableEq

namespace Refusal

/-- The form of a reason. -/
def toJson : Refusal → Json
  | .insufficient resource requested used allocatable =>
      .object [("kind", .string "insufficient"), ("resource", .string resource),
        ("requested", .nat requested), ("used", .nat used), ("allocatable", .nat allocatable)]
  | .agentUnavailable state =>
      .object [("kind", .string "agent_unavailable"), ("state", .string state)]

/-- The fields of each kind of reason. -/
def forms : Forms Refusal :=
  [("insufficient", ((((Record.const Refusal.insufficient).field "resource" Decoder.string).field
      "requested" Decoder.word).field "used" Decoder.word).field "allocatable" Decoder.word),
    ("agent_unavailable", (Record.const Refusal.agentUnavailable).field "state" Decoder.string)]

/-- Reads a reason that is part of a verdict. -/
def ofJsonPart : Decoder Refusal := decodeTagged "kind" true forms

/-- The wording of a reason. -/
def text : Refusal → String
  | .insufficient resource requested used allocatable =>
      "insufficient " ++ resource ++ ": requested " ++ Text.Numeral.text requested ++ ", used " ++
        Text.Numeral.text used ++ " of " ++ Text.Numeral.text allocatable
  | .agentUnavailable state => "agent unavailable (state " ++ state ++ ")"

end Refusal

/-- What came of a request, as the client sees it. -/
inductive Verdict where
  /-- The workload is live. -/
  | admitted (record : PlacementView)
  | rejected (reason : Refusal)
  deriving DecidableEq

namespace Verdict

def toJson : Verdict → Json
  | .admitted record => .object [("decision", .string "admitted"), ("record", record.toJson)]
  | .rejected reason => .object [("decision", .string "rejected"), ("reason", reason.toJson)]

/-- The fields of each verdict. -/
def forms : Forms Verdict :=
  [("admitted", (Record.const Verdict.admitted).field "record" PlacementView.ofJson),
    ("rejected", (Record.const Verdict.rejected).field "reason" Refusal.ofJsonPart)]

def ofJson : Decoder Verdict := decodeTagged "decision" false forms

end Verdict

/-! ## Requests -/

/-- A request to place a workload. -/
structure Order where
  workload : String
  /-- Thousandths of a processor core. -/
  cpuMillis : Nat
  /-- The amount of memory as it was given. -/
  memory : String
  /-- Graphics processors. -/
  gpuCount : Nat
  deriving DecidableEq

/-- The form of a request. -/
def Order.toJson (o : Order) : Json :=
  .object [("workload_id", .string o.workload), ("cpu_millis", .nat o.cpuMillis),
    ("memory_bytes", .string o.memory), ("gpu_count", .nat o.gpuCount)]

/-- The wording that a failed request's response gives, if it gives one. -/
def errorText? (body : String) : Option String :=
  (decodeWhole Wire.errorBody (parseWhole body)).toOption

end NodeFleet.Cli
