import NodeFleet.Setting.Source
import NodeFleet.Wire.Fleet

/-!
# Configuration of the daemon

The daemon is set up with the port of its interface, a fleet, and the control plane that the
fleet's agents report to.  `DaemonConfig.load` takes the settings of a file and of the
environment, fits each to the kind of its option, puts defaults where there is none and
checks the fleet.
-/

namespace NodeFleet

open Json

/-! ## The options -/

/-- The control planes that a daemon can run against. -/
inductive PlaneKind where
  | remote
  /-- One in the memory of the daemon, for dry runs. -/
  | memory
  deriving DecidableEq

def PlaneKind.name : PlaneKind → String
  | .remote => "grpc"
  | .memory => "memory"

/-- Every kind. -/
def PlaneKind.all : List PlaneKind := [.remote, .memory]

/-- How a remote control plane is reached. -/
structure LinkConfig where
  endpoint : String := "http://control-plane:9090"
  /-- The file with the certificates that the server's is checked against. -/
  caPath : Option String := none
  /-- The file with the client's certificate. -/
  certPath : Option String := none
  /-- The file with the client's key. -/
  keyPath : Option String := none
  connectTimeout : Duration := .ofSeconds 10
  requestTimeout : Duration := .ofSeconds 30
  /-- The time between signs of life. -/
  keepaliveInterval : Duration := .ofSeconds 30
  /-- The time to wait for an answer to a sign of life. -/
  keepaliveTimeout : Duration := .ofSeconds 10

/-- The options about the control plane. -/
structure PlaneConfig where
  /-- Which control plane is used. -/
  kind : PlaneKind := .remote
  /-- The address of a remote one. -/
  endpoint : String := "http://control-plane:9090"
  /-- The file with the certificates that the server's is checked against. -/
  caPath : Option String := none
  /-- The file with the client's certificate. -/
  certPath : Option String := none
  /-- The file with the client's key. -/
  keyPath : Option String := none
  connectSeconds : Nat := 10
  requestSeconds : Nat := 30

/-- How the configured control plane is reached. -/
def PlaneConfig.link (c : PlaneConfig) : LinkConfig :=
  { endpoint := c.endpoint
    caPath := c.caPath
    certPath := c.certPath
    keyPath := c.keyPath
    connectTimeout := .ofSeconds c.connectSeconds
    requestTimeout := .ofSeconds c.requestSeconds }

/-- The options of the daemon. -/
structure DaemonConfig where
  apiPort : UInt16 := 8080
  fleet : FleetConfig := {}
  plane : PlaneConfig := {}

/-! ## Fitting settings to options -/

/-- What an option takes. -/
inductive OptionKind where
  | natural
  | double
  | text
  | optionalText
  /-- A number of bytes or the text of a quantity. -/
  | bytes
  /-- One of some names, in letters of either case. -/
  | choice (names : List String)

/-- The name that a text chooses. -/
def OptionKind.choose? (names : List String) (s : String) : Option Json :=
  (names.find? fun name => name = Setting.lowerCase s).map .string

/-- The JSON form of a setting that serves for an option. -/
def OptionKind.fit? : OptionKind → Setting → Option Json
  | .natural, s => s.natural?.map .nat
  | .double, s => s.double?.map fun x => .number (.double x)
  | .text, s => s.text?.map .string
  | .optionalText, .nothing => some .null
  | .optionalText, s => s.text?.map .string
  | .bytes, .integer n => if n < 0 then none else some (.nat n.natAbs)
  | .bytes, .text s => some (.string s)
  | .bytes, _ => none
  | .choice names, .text s => choose? names s
  | .choice names, .table [(name, _)] => choose? names name
  | .choice _, _ => none

/-- Options by key, in order. -/
abbrev OptionList := List (String × OptionKind)

/-- Fits the settings of a list to the options in order; what is left over is ignored. -/
def OptionList.fitItems? : OptionList → List Setting → Option (List Json)
  | option :: options, s :: rest => do
      return (← option.2.fit? s) :: (← fitItems? options rest)
  | _, _ => some []

/-- Fits the settings of a table to the options of the same names; others are ignored. -/
def OptionList.fitEntries? (settings : List (String × Setting)) :
    OptionList → Option (List (String × Json))
  | [] => some []
  | (key, kind) :: options => do
      let rest ← fitEntries? settings options
      match Table.find? key settings with
      | some s => return (key, ← kind.fit? s) :: rest
      | none => return rest

/-- The JSON form of the settings for a group of options: a table by name or a list in order. -/
def OptionList.fit? (options : OptionList) : Setting → Option Json
  | .table settings => (options.fitEntries? settings).map .object
  | .list items => (options.fitItems? items).map .array
  | _ => none

/-! ## Reading the options -/

/-- The kinds of a fleet's options. -/
def FleetConfig.options : OptionList :=
  [("fleet_size", .natural), ("name_prefix", .text), ("cpu_millis_per_agent", .natural),
    ("memory_bytes_per_agent", .bytes), ("gpu_count_per_agent", .natural),
    ("ephemeral_storage_bytes_per_agent", .bytes), ("max_pods_per_agent", .natural),
    ("lease_renew_interval_seconds", .natural), ("status_min_interval_seconds", .natural),
    ("status_max_interval_seconds", .natural), ("pod_address_range_base", .text),
    ("pod_address_prefix_length", .natural), ("failure_threshold", .natural),
    ("backoff_base_millis", .natural), ("backoff_max_millis", .natural),
    ("call_timeout_seconds", .natural), ("pressure_threshold", .double),
    ("start_stagger_millis", .natural), ("start_jitter_millis", .natural),
    ("shutdown_timeout_seconds", .natural)]

namespace PlaneConfig

/-- The kinds of the options about the control plane. -/
def options : OptionList :=
  [("kind", .choice (PlaneKind.all.map PlaneKind.name)), ("endpoint", .text),
    ("ca_cert_path", .optionalText), ("client_cert_path", .optionalText),
    ("client_key_path", .optionalText), ("connect_timeout_seconds", .natural),
    ("request_timeout_seconds", .natural)]

/-- The default of every option. -/
def default : PlaneConfig := {}

/-- The options about the control plane, with their defaults. -/
def record : Record PlaneConfig :=
  (((((((Record.const PlaneConfig.mk).withDefault "kind"
    (Decoder.named PlaneKind.name PlaneKind.all) default.kind).withDefault "endpoint"
    Decoder.string default.endpoint).optional "ca_cert_path" Decoder.string).optional
    "client_cert_path" Decoder.string).optional "client_key_path" Decoder.string).withDefault
    "connect_timeout_seconds" Decoder.word default.connectSeconds).withDefault
    "request_timeout_seconds" Decoder.word default.requestSeconds

end PlaneConfig

namespace DaemonConfig

/-- Reads the settings of a group of options, if they are there. -/
def group? {α : Type} (key : String) (options : OptionList) (record : Record α) (default : α)
    (s : Setting) : Option α :=
  match s.find? key with
  | none => some default
  | some settings => do (record.decode (← options.fit? settings)).toOption

/-- Reads the port of the interface, if it is there. -/
def apiPort? (s : Setting) : Option UInt16 :=
  match s.find? "api_port" with
  | none => some 8080
  | some port => (port.natural?.filter (· < 2 ^ 16)).map UInt16.ofNat

/-- The configuration of gathered settings, its fleet not yet checked. -/
def ofSetting? (s : Setting) : Option DaemonConfig := do
  let apiPort ← apiPort? s
  let fleet ← group? "fleet" FleetConfig.options FleetConfig.record {} s
  let plane ← group? "control_plane" PlaneConfig.options PlaneConfig.record {} s
  return { apiPort, fleet, plane }

/-- Why no configuration is loaded. -/
inductive LoadError where
  | sources (fault : Setting.SourceFault)
  /-- A setting does not fit its option. -/
  | malformed
  | invalidFleet (cause : ConfigError)

/-- The wording of a failure; the cause of a refused fleet is not part of it. -/
def LoadError.message : LoadError → String
  | .sources _ => "Failed to read configuration sources"
  | .malformed => "Failed to parse configuration"
  | .invalidFleet _ => "Invalid fleet configuration"

/-- The cause of a refused fleet. -/
def LoadError.cause? : LoadError → Option ConfigError
  | .invalidFleet cause => some cause
  | _ => none

/-- Loads the configuration from a file, if there is one, and the environment over it. -/
def load (file : Option Setting.File) (environment : List (String × String)) :
    Except LoadError DaemonConfig :=
  match Setting.gather file environment with
  | .error fault => .error (.sources fault)
  | .ok settings =>
      match ofSetting? settings with
      | none => .error .malformed
      | some config =>
          match config.fleet.validate with
          | .ok () => .ok config
          | .error cause => .error (.invalidFleet cause)

end DaemonConfig

end NodeFleet
