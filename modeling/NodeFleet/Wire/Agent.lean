import NodeFleet.Agent
import NodeFleet.Wire.Node

/-!
# JSON forms: agents and placements

How states, admission records, decisions, ledger snapshots and the views of agents are
written as JSON, and read from it.
-/

namespace NodeFleet

open Json

/-- Reads the name of a state. -/
def AgentState.ofJson : Decoder AgentState :=
  Decoder.named AgentState.name AgentState.all

def AgentState.toJson (s : AgentState) : Json := .string s.name

namespace AdmissionRecord

def toJson (r : AdmissionRecord) : Json :=
  .object [("workload_id", .string r.workload), ("requested", r.requested.toJson),
    ("admitted_at", Wire.ofTimestamp r.admittedAt)]

def record : Record AdmissionRecord :=
  (((Record.const AdmissionRecord.mk).field "workload_id" Decoder.string).field "requested"
    ResourceRequest.ofJson).field "admitted_at" Wire.timestamp

def ofJson : Decoder AdmissionRecord := record.decode

end AdmissionRecord

namespace RejectionReason

/-- The form of a reason: its kind beside what belongs to it. -/
def toJson : RejectionReason → Json
  | .insufficient resource requested used allocatable =>
      .object [("kind", .string "insufficient"), ("resource", resource.toJson),
        ("requested", .nat requested), ("used", .nat used), ("allocatable", .nat allocatable)]
  | .agentUnavailable state =>
      .object [("kind", .string "agent_unavailable"), ("state", .string state)]

/-- The fields of each kind of reason. -/
def forms : Forms RejectionReason :=
  [("insufficient", ((((Record.const RejectionReason.insufficient).field "resource"
      Resource.ofJsonPart).field "requested" Decoder.word).field "used" Decoder.word).field
      "allocatable" Decoder.word),
    ("agent_unavailable", (Record.const RejectionReason.agentUnavailable).field "state"
      Decoder.string)]

def ofJson : Decoder RejectionReason := decodeTagged "kind" false forms

/-- Reads a reason that is part of a decision. -/
def ofJsonPart : Decoder RejectionReason := decodeTagged "kind" true forms

end RejectionReason

namespace AdmissionDecision

/-- The form of a decision: its outcome beside the record or the reason. -/
def toJson : AdmissionDecision → Json
  | .admitted record => .object [("decision", .string "admitted"), ("record", record.toJson)]
  | .rejected reason => .object [("decision", .string "rejected"), ("reason", reason.toJson)]

/-- The fields of each outcome. -/
def forms : Forms AdmissionDecision :=
  [("admitted", (Record.const AdmissionDecision.admitted).field "record" AdmissionRecord.ofJson),
    ("rejected", (Record.const AdmissionDecision.rejected).field "reason"
      RejectionReason.ofJsonPart)]

def ofJson : Decoder AdmissionDecision := decodeTagged "decision" false forms

end AdmissionDecision

namespace LedgerSnapshot

/-- The form of a ledger's state. -/
def toJson (s : LedgerSnapshot) : Json :=
  .object [("used", s.used.toJson), ("allocatable", s.allocatable.toJson),
    ("live_records", .nat s.live), ("generation", .nat s.generation)]

/-- The fields of a ledger's state. -/
def record : Record LedgerSnapshot :=
  ((((Record.const LedgerSnapshot.mk).field "used" ResourceUsage.ofJson).field "allocatable"
    NodeResources.ofJson).field "live_records" Decoder.word).field "generation" Decoder.word

/-- Reads a ledger's state. -/
def ofJson : Decoder LedgerSnapshot := record.decode

end LedgerSnapshot

namespace Agent.Summary

/-- The form of an agent's view. -/
def toJson (s : Agent.Summary) : Json :=
  .object [("name", .string s.name), ("state", s.state.toJson), ("uid", .option .string s.uid),
    ("generation", .option .nat s.generation), ("lease_version", .option .nat s.leaseVersion),
    ("last_lease_renewal", .option Wire.ofTimestamp s.renewedAt),
    ("last_status_publish", .option Wire.ofTimestamp s.publishedAt),
    ("heartbeat_failures", .nat s.heartbeatFailures), ("status_failures", .nat s.statusFailures),
    ("pod_cidr", .string s.podCidr), ("allocatable", .table .nat s.allocatable),
    ("used", s.used.toJson), ("live_placements", .nat s.livePlacements),
    ("observed_generation", .nat s.observedGeneration)]

/-- The fields of an agent's view. -/
def record : Record Agent.Summary :=
  ((((((((((((((Record.const Agent.Summary.mk).field "name" Decoder.string).field "state"
    AgentState.ofJson).optional "uid" Decoder.string).optional "generation"
    Decoder.word).optional "lease_version" Decoder.word).optional "last_lease_renewal"
    Wire.timestamp).optional "last_status_publish" Wire.timestamp).field "heartbeat_failures"
    Decoder.word32).field "status_failures" Decoder.word32).field "pod_cidr"
    Decoder.string).field "allocatable" (Decoder.table Decoder.word)).field "used"
    ResourceUsage.ofJson).field "live_placements" Decoder.word).field "observed_generation"
    Decoder.word

/-- Reads an agent's view. -/
def ofJson : Decoder Agent.Summary := record.decode

end Agent.Summary

end NodeFleet
