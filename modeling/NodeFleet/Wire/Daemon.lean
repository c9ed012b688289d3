import NodeFleet.DaemonConfig
import NodeFleet.Wire.Record

/-!
# JSON forms: the configuration of the daemon

How a loaded configuration and the failure to load one are written as JSON.
-/

namespace NodeFleet

open Json

/-- A duration as the list of its seconds and nanoseconds. -/
def Wire.pairOfDuration (d : Duration) : Json :=
  .array [.nat (Duration.seconds d), .nat (Duration.subsecond d)]

/-- The entries of how a control plane is reached. -/
def LinkConfig.entries (c : LinkConfig) : List (String × Json) :=
  [("endpoint", .string c.endpoint), ("ca_cert_path", .option .string c.caPath),
    ("client_cert_path", .option .string c.certPath),
    ("client_key_path", .option .string c.keyPath),
    ("connect_timeout", Wire.pairOfDuration c.connectTimeout),
    ("request_timeout", Wire.pairOfDuration c.requestTimeout),
    ("keepalive_interval", Wire.pairOfDuration c.keepaliveInterval),
    ("keepalive_timeout", Wire.pairOfDuration c.keepaliveTimeout)]

def DaemonConfig.toJson (c : DaemonConfig) : Json :=
  .object [("api_port", .nat c.apiPort.toNat), ("fleet", c.fleet.toJson),
    ("control_plane", .object (("kind", .string c.plane.kind.name) :: c.plane.link.entries))]

/-- The form of a failure to load a configuration. -/
def DaemonConfig.LoadError.toJson (e : DaemonConfig.LoadError) : Json :=
  .object ([("error", .string "config"), ("message", .string e.message)] ++
    match e.cause? with
    | some cause => [("cause", cause.toJson)]
    | none => [])

end NodeFleet
