import NodeFleet.Fleet
import NodeFleet.Wire.Agent

/-!
# JSON forms: fleets

How health, readiness, shutdown reports, fleet configurations, placement requests and error
responses are written as JSON, and read from it.
-/

namespace NodeFleet

open Json

/-! ## Health -/

/-- Reads the name of a health status. -/
def HealthStatus.ofJson : Decoder HealthStatus :=
  Decoder.named HealthStatus.name HealthStatus.all

/-- The entry of an optional text, which is left out where it is absent. -/
def Wire.optionalEntry (key : String) : Option String → List (String × Json)
  | some text => [(key, .string text)]
  | none => []

namespace ComponentHealth

/-- The form of a component's health. -/
def toJson (h : ComponentHealth) : Json :=
  .object (("status", .string h.status.name) :: Wire.optionalEntry "message" h.message ++
    [("last_check_timestamp", .int h.checkedAt)])

/-- The fields of a component's health. -/
def record : Record ComponentHealth :=
  (((Record.const ComponentHealth.mk).field "status" HealthStatus.ofJson).optional "message"
    Decoder.string).field "last_check_timestamp" Decoder.integer

/-- Reads a component's health. -/
def ofJson : Decoder ComponentHealth := record.decode

end ComponentHealth

namespace HealthReport

/-- The form of the health of all components. -/
def toJson (h : HealthReport) : Json :=
  .object [("status", .string h.status.name),
    ("components", .table ComponentHealth.toJson h.components)]

/-- The fields of the health of all components. -/
def record : Record HealthReport :=
  ((Record.const HealthReport.mk).field "status" HealthStatus.ofJson).field "components"
    (Decoder.table ComponentHealth.ofJson)

/-- Reads the health of all components. -/
def ofJson : Decoder HealthReport := record.decode

end HealthReport

namespace Readiness

def toJson (r : Readiness) : Json :=
  .object (("ready", .bool r.ready) :: Wire.optionalEntry "reason" r.reason)

def record : Record Readiness :=
  ((Record.const Readiness.mk).field "ready" Decoder.bool).optional "reason" Decoder.string

def ofJson : Decoder Readiness := record.decode

end Readiness

/-! ## Shutdown reports -/

namespace ShutdownReport

def toJson (r : ShutdownReport) : Json :=
  .object [("stopped", .list .string r.stopped), ("failed", .list .string r.failed)]

def record : Record ShutdownReport :=
  ((Record.const ShutdownReport.mk).field "stopped" (Decoder.list Decoder.string)).field "failed"
    (Decoder.list Decoder.string)

def ofJson : Decoder ShutdownReport := record.decode

end ShutdownReport

/-! ## Configurations -/

namespace FleetConfig

def toJson (c : FleetConfig) : Json :=
  .object [("fleet_size", .nat c.fleetSize), ("name_prefix", .string c.namePrefix),
    ("cpu_millis_per_agent", .nat c.cpuMillis), ("memory_bytes_per_agent", .nat c.memoryBytes),
    ("gpu_count_per_agent", .nat c.gpuCount),
    ("ephemeral_storage_bytes_per_agent", .nat c.ephemeralBytes),
    ("max_pods_per_agent", .nat c.maxPods),
    ("lease_renew_interval_seconds", .nat c.leaseRenewSeconds),
    ("status_min_interval_seconds", .nat c.statusMinSeconds),
    ("status_max_interval_seconds", .nat c.statusMaxSeconds),
    ("pod_address_range_base", .string c.addressBase),
    ("pod_address_prefix_length", .nat c.addressPrefixLength.toNat),
    ("failure_threshold", .nat c.failureThreshold),
    ("backoff_base_millis", .nat c.backoffBaseMillis),
    ("backoff_max_millis", .nat c.backoffMaxMillis),
    ("call_timeout_seconds", .nat c.callTimeoutSeconds),
    ("pressure_threshold", .number (.double c.pressureThreshold)),
    ("start_stagger_millis", .nat c.startStaggerMillis),
    ("start_jitter_millis", .nat c.startJitterMillis),
    ("shutdown_timeout_seconds", .nat c.shutdownTimeoutSeconds)]

/-- Reads a prefix length. -/
def byte (value : Json) : Except Refusal UInt8 :=
  (Decoder.natBelow 256 value).map UInt8.ofNat

/-- The default of every option. -/
def default : FleetConfig := {}

/-- The options about the size, the names and the resources. -/
def resourceRecord {β : Type} (make : Nat → String → Nat → Nat → Nat → Nat → Nat → β) : Record β :=
  (((((((Record.const make).withDefault "fleet_size" Decoder.word default.fleetSize).withDefault
    "name_prefix" Decoder.string default.namePrefix).withDefault "cpu_millis_per_agent"
    Decoder.word default.cpuMillis).withDefault "memory_bytes_per_agent" Wire.bytes
    default.memoryBytes).withDefault "gpu_count_per_agent" Decoder.word
    default.gpuCount).withDefault "ephemeral_storage_bytes_per_agent" Wire.bytes
    default.ephemeralBytes).withDefault "max_pods_per_agent" Decoder.word default.maxPods

/-- The options of a configuration, each with its default. -/
def record : Record FleetConfig :=
  (((((((((((((resourceRecord FleetConfig.mk).withDefault "lease_renew_interval_seconds"
    Decoder.word default.leaseRenewSeconds).withDefault "status_min_interval_seconds" Decoder.word
    default.statusMinSeconds).withDefault "status_max_interval_seconds" Decoder.word
    default.statusMaxSeconds).withDefault "pod_address_range_base" Decoder.string
    default.addressBase).withDefault "pod_address_prefix_length" byte
    default.addressPrefixLength).withDefault "failure_threshold" Decoder.word32
    default.failureThreshold).withDefault "backoff_base_millis" Decoder.word
    default.backoffBaseMillis).withDefault "backoff_max_millis" Decoder.word
    default.backoffMaxMillis).withDefault "call_timeout_seconds" Decoder.word
    default.callTimeoutSeconds).withDefault "pressure_threshold" Decoder.double
    default.pressureThreshold).withDefault "start_stagger_millis" Decoder.word
    default.startStaggerMillis).withDefault "start_jitter_millis" Decoder.word
    default.startJitterMillis).withDefault "shutdown_timeout_seconds" Decoder.word
    default.shutdownTimeoutSeconds

def ofJson : Decoder FleetConfig := record.decode

end FleetConfig

/-! ## Placement requests -/

/-- The body of a placement request. -/
structure PlacementRequest where
  workload : String
  /-- Thousandths of a processor core. -/
  cpuMillis : Nat
  memoryBytes : Nat
  /-- Graphics processors. -/
  gpuCount : Nat
  deriving DecidableEq

namespace PlacementRequest

/-- What is asked for. -/
def request (p : PlacementRequest) : ResourceRequest :=
  { cpuMillis := p.cpuMillis, memoryBytes := p.memoryBytes, gpuCount := p.gpuCount }

def toJson (p : PlacementRequest) : Json :=
  .object [("workload_id", .string p.workload), ("cpu_millis", .nat p.cpuMillis),
    ("memory_bytes", .nat p.memoryBytes), ("gpu_count", .nat p.gpuCount)]

/-- The fields of a placement request; only the workload must be there. -/
def record : Record PlacementRequest :=
  ((((Record.const PlacementRequest.mk).field "workload_id" Decoder.string).withDefault
    "cpu_millis" Decoder.word 0).withDefault "memory_bytes" Wire.bytes 0).withDefault "gpu_count"
    Decoder.word 0

def ofJson : Decoder PlacementRequest := record.decode

end PlacementRequest

/-! ## Error responses -/

namespace Wire

/-- The form of the body of an error response. -/
def ofErrorBody (message : String) : Json :=
  .object [("error", .string message)]

/-- Reads the wording of an error from the body of a response. -/
def errorBody : Decoder String :=
  ((Record.const id).field "error" Decoder.string).decode

end Wire

end NodeFleet
