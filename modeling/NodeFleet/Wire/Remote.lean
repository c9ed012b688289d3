import NodeFleet.Remote
import NodeFleet.Remote.Connect
import NodeFleet.Wire.Record

/-!
# JSON forms: messages to a remote control plane

How a message is shown as JSON: where it goes, who it is about and what it holds.  Nothing
reads these forms back.
-/

namespace NodeFleet.Remote

def Moment.toJson (m : Moment) : Json :=
  .array [.int m.seconds, .nat m.nanos]

/-- The form of a reference to an identity. -/
def AgentRef.toJson (a : AgentRef) : Json :=
  .array [.string a.name, .string a.uid, .nat a.generation]

def ConditionEntry.toJson (c : ConditionEntry) : Json :=
  .array [.string c.type, .string c.status, .string c.reason, .string c.message,
    c.transitionAt.toJson]

/-- The entries that belong to one kind of message. -/
def Message.entries : Message → List (String × Json)
  | .register m =>
      [("capacity", .table .nat m.capacity), ("allocatable", .table .nat m.allocatable),
        ("pod_cidr", .string m.podCidr)]
  | .renew m => [("last_known_version", .nat m.lastKnownVersion), ("renew_time", .bool true)]
  | .publish m =>
      [("conditions", .list ConditionEntry.toJson m.conditions),
        ("capacity", .table .nat m.capacity), ("allocatable", .table .nat m.allocatable),
        ("observed_generation", .nat m.observedGeneration), ("pod_cidr", .string m.podCidr),
        ("generated_at", m.generatedAt.toJson)]
  | .deregister _ => []

def Message.toJson (m : Message) : Json :=
  .object ([("path", .string m.path), ("agent", m.agent.toJson)] ++ m.entries)

/-- The form of what comes of a message: a lease's version for the calls that grant one, and a word
for the others. -/
def Message.resultJson (m : Message) : Except CallError Nat → Json
  | .error e => e.toJson
  | .ok version =>
      match m with
      | .register _ | .renew _ => .nat version
      | .publish _ | .deregister _ => .string "ok"

/-- The form of a call over a network: the message that arrived, if any, and what comes of it. -/
def Network.callJson (n : Network) (m : Message) : Json :=
  .object [("sent", .option Message.toJson (n.arrives m)), ("r", m.resultJson (n.send m))]

/-- The form of a failure to set up a connection. -/
def ConnectError.toJson (e : ConnectError) : Json :=
  Wire.ofError "connect" e.message

end NodeFleet.Remote
