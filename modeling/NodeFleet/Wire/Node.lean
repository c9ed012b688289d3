import NodeFleet.Condition
import NodeFleet.Identity
import NodeFleet.Json.Decode
import NodeFleet.Quantity

/-!
# JSON forms: nodes

How times, durations, byte quantities, resources, identities, leases, conditions and
status snapshots are written as JSON, and read from it.
-/

namespace NodeFleet

open Json

/-! ## Scalars -/

namespace Wire

/-- A number of bytes: a natural number, or a text with an optional suffix. -/
def bytes : Decoder Nat
  | .number (.natural n) => .ok n
  | .number (.negative _) => .error (.invalid "quantity must not be negative")
  | .string text =>
      match Quantity.read text with
      | .ok n => .ok n
      | .error refusal => .error (.invalid refusal.message)
  | value => Decoder.refuse value

/-- The form of a timestamp. -/
def ofTimestamp (t : Timestamp) : Json := .string t.text

/-- Reads a timestamp. -/
def timestamp : Decoder Timestamp
  | .string text =>
      match Timestamp.read? text with
      | some t => .ok t
      | none => .error .mismatch
  | value => Decoder.refuse value

/-- The form of a duration. -/
def ofDuration (d : Duration) : Json :=
  .object [("secs", .nat (Duration.seconds d)), ("nanos", .nat (Duration.subsecond d))]

/-- The keys of a duration are refused unless they are these. -/
def durationKeys : List String := ["secs", "nanos"]

/-- Reads a duration: seconds and nanoseconds, whose whole seconds are carried over. -/
def duration (value : Json) : Except Refusal Duration := do
  let strict : Json → Except Refusal Unit
    | .object entries =>
        if entries.all fun entry => durationKeys.contains entry.1 then .ok () else .error .mismatch
    | _ => .ok ()
  strict value
  let make (secs nanos : Nat) : Nat × Nat := (secs, nanos)
  let (secs, nanos) ← (((Record.const make).field "secs" Decoder.word).field "nanos"
    Decoder.word32).decode value
  let d := Duration.ofParts secs nanos
  if d ≤ Duration.max then return d else throw .mismatch

end Wire

/-! ## Resources -/

/-- Reads a dimension. -/
def Resource.ofJson : Decoder Resource :=
  Decoder.named Resource.wireName Resource.tracked

/-- Reads a dimension that is part of a tagged value. -/
def Resource.ofJsonPart : Decoder Resource :=
  Decoder.namedPart Resource.wireName Resource.tracked

/-- The form of a dimension. -/
def Resource.toJson (r : Resource) : Json := .string r.wireName

namespace NodeResources

/-- The form of a node's quantities. -/
def toJson (n : NodeResources) : Json :=
  .object [("cpu_millis", .nat n.cpuMillis), ("memory_bytes", .nat n.memoryBytes),
    ("gpu_count", .nat n.gpuCount), ("ephemeral_storage_bytes", .nat n.ephemeralBytes),
    ("pods", .nat n.pods)]

/-- The fields of a node's quantities. -/
def record : Record NodeResources :=
  (((((Record.const NodeResources.mk).field "cpu_millis" Decoder.word).field "memory_bytes"
    Decoder.word).field "gpu_count" Decoder.word).field "ephemeral_storage_bytes"
    Decoder.word).field "pods" Decoder.word

/-- Reads a node's quantities. -/
def ofJson : Decoder NodeResources := record.decode

end NodeResources

namespace ResourceRequest

def toJson (r : ResourceRequest) : Json :=
  .object [("cpu_millis", .nat r.cpuMillis), ("memory_bytes", .nat r.memoryBytes),
    ("gpu_count", .nat r.gpuCount)]

/-- The fields of a request; each is zero where it is absent. -/
def record : Record ResourceRequest :=
  (((Record.const ResourceRequest.mk).withDefault "cpu_millis" Decoder.word 0).withDefault
    "memory_bytes" Decoder.word 0).withDefault "gpu_count" Decoder.word 0

def ofJson : Decoder ResourceRequest := record.decode

end ResourceRequest

namespace ResourceUsage

def toJson (u : ResourceUsage) : Json :=
  .object [("cpu_millis", .nat u.cpuMillis), ("memory_bytes", .nat u.memoryBytes),
    ("gpu_count", .nat u.gpuCount), ("pods", .nat u.pods)]

def record : Record ResourceUsage :=
  ((((Record.const ResourceUsage.mk).field "cpu_millis" Decoder.word).field "memory_bytes"
    Decoder.word).field "gpu_count" Decoder.word).field "pods" Decoder.word

def ofJson : Decoder ResourceUsage := record.decode

end ResourceUsage

/-! ## Identities and leases -/

namespace Identity

def toJson (i : Identity) : Json :=
  .object [("name", .string i.name), ("uid", .string i.uid), ("generation", .nat i.generation)]

def record : Record Identity :=
  (((Record.const Identity.mk).field "name" Decoder.string).field "uid" Decoder.string).field
    "generation" Decoder.word

def ofJson : Decoder Identity := record.decode

end Identity

namespace Lease

def toJson (l : Lease) : Json :=
  .object [("holder_id", .string l.holder), ("renew_interval", Wire.ofDuration l.renewInterval),
    ("last_renewal_time", .option Wire.ofTimestamp l.renewedAt), ("version", .nat l.version)]

def record : Record Lease :=
  ((((Record.const Lease.mk).field "holder_id" Decoder.string).field "renew_interval"
    Wire.duration).optional "last_renewal_time" Wire.timestamp).field "version" Decoder.word

def ofJson : Decoder Lease := record.decode

end Lease

/-! ## Conditions and snapshots -/

/-- Reads the name of a condition. -/
def ConditionType.ofJson : Decoder ConditionType :=
  Decoder.named ConditionType.name ConditionType.all

/-- Reads the name of a status. -/
def ConditionStatus.ofJson : Decoder ConditionStatus :=
  Decoder.named ConditionStatus.name ConditionStatus.all

namespace NodeCondition

def toJson (c : NodeCondition) : Json :=
  .object [("condition_type", .string c.type.name), ("status", .string c.status.name),
    ("reason", .string c.reason), ("message", .string c.message),
    ("last_transition_time", Wire.ofTimestamp c.transitionAt)]

def record : Record NodeCondition :=
  (((((Record.const NodeCondition.mk).field "condition_type" ConditionType.ofJson).field "status"
    ConditionStatus.ofJson).field "reason" Decoder.string).field "message" Decoder.string).field
    "last_transition_time" Wire.timestamp

def ofJson : Decoder NodeCondition := record.decode

end NodeCondition

namespace StatusSnapshot

def toJson (s : StatusSnapshot) : Json :=
  .object [("conditions", .list NodeCondition.toJson s.conditions), ("capacity", s.capacity.toJson),
    ("allocatable", s.allocatable.toJson), ("observed_generation", .nat s.observedGeneration),
    ("pod_cidr", .string s.podCidr), ("generated_at", Wire.ofTimestamp s.generatedAt)]

def record : Record StatusSnapshot :=
  ((((((Record.const StatusSnapshot.mk).field "conditions"
    (Decoder.list NodeCondition.ofJson)).field "capacity" NodeResources.ofJson).field "allocatable"
    NodeResources.ofJson).field "observed_generation" Decoder.word).field "pod_cidr"
    Decoder.string).field "generated_at" Wire.timestamp

def ofJson : Decoder StatusSnapshot := record.decode

end StatusSnapshot

end NodeFleet
